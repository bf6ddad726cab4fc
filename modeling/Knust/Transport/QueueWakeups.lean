import Knust.Transport.Queue

namespace Knust.Transport.Queue

open Foundation Foundation.Task Protocol

/-- Where a call is: it has changed the queue and not notified yet, it has found
nothing and not created its wait yet, or it has created its wait. -/
inductive Phase
  | free
  | notifying
  | checked (direction : Direction)
  | waiting (direction : Direction) (wait : ℕ)

def phase : History Command Command.Response → Phase
  | ⟨.push _ _, .ok ()⟩ :: _ => .notifying
  | ⟨.close, ()⟩ :: _ => .notifying
  | ⟨.pop direction, .empty⟩ :: _ => .checked direction
  | ⟨.createWait direction, wait⟩ :: _ => .waiting direction wait
  | _ => .free

def Phase.Allows : Phase → Command → Prop
  | .free, .push .. | .free, .pop .. | .free, .close => True
  | .free, _ => False
  | .notifying, c => c = .notifyWaiters
  | .checked direction, c => c = .createWait direction
  | .waiting direction wait, c => c = .await direction wait

theorem Phase.eq_checked {p : Phase} {direction : Direction}
    (h : p.Allows (.createWait direction)) : p = .checked direction := by
  cases p with
  | free => exact h.elim
  | notifying => cases h
  | checked d =>
    cases h
    rfl
  | waiting d wait => cases h

theorem Phase.eq_waiting {p : Phase} {direction : Direction} {wait : ℕ}
    (h : p.Allows (.await direction wait)) : p = .waiting direction wait := by
  cases p with
  | free => exact h.elim
  | notifying => cases h
  | checked d => cases h
  | waiting d w =>
    cases h
    rfl

def callRule (h : History Command Command.Response) (c : Command) : Prop := (phase h).Allows c

def Ended {α : Type} (h : History Command Command.Response) (_ : Outcome KnxError α) : Prop :=
  phase h = .free

theorem obeys_enqueue (direction : Direction) (telegram : Telegram) {h : Past}
    (hh : phase h = .free) : (enqueue direction telegram).Obeys callRule Ended h := by
  refine ⟨by rw [callRule, hh]; trivial, fun r ↦ ?_⟩
  cases r with
  | ok u => exact ⟨rfl, fun _ ↦ rfl⟩
  | err e => rfl
  | panic => rfl

theorem obeys_dequeue (direction : Direction) (rounds : ℕ) {h : Past} (hh : phase h = .free) :
    (dequeue direction rounds).Obeys callRule Ended h := by
  induction rounds generalizing h with
  | zero => exact hh
  | succ rounds ih =>
    refine ⟨by rw [callRule, hh]; trivial, fun popped ↦ ?_⟩
    cases popped with
    | telegram telegram => rfl
    | closed => rfl
    | empty => exact ⟨rfl, fun wait ↦ ⟨rfl, fun _ ↦ ih rfl⟩⟩

theorem obeys_program (activity : Activity) : (program activity).Obeys callRule Ended [] := by
  have hdequeue (direction : Direction) (rounds : ℕ) :
      (do let _ ← dequeue direction rounds : Handler Unit).Obeys callRule Ended [] :=
    (obeys_dequeue direction rounds rfl).bind (fun _ _ hh ↦ hh) (fun _ _ hh ↦ hh) (fun _ hh ↦ hh)
  cases activity with
  | enqueueOutgoing telegram => exact obeys_enqueue .outgoing telegram rfl
  | enqueueIncoming telegram => exact obeys_enqueue .incoming telegram rfl
  | dequeueOutgoing rounds => exact hdequeue .outgoing rounds
  | dequeueIncoming rounds => exact hdequeue .incoming rounds
  | close => exact ⟨trivial, fun _ ↦ ⟨rfl, fun _ ↦ rfl⟩⟩

def QueueState.Idle : Direction → QueueState → Prop
  | .outgoing, s => s.outgoing = [] ∧ s.closed = false
  | .incoming, s => s.incoming = [] ∧ s.closed = false

abbrev QueueConfiguration := Config Command Command.Response State KnxError

def Parked (x : QueueConfiguration) (k : ℕ) (direction : Direction) : Prop :=
  ∃ wait, x.Issues k (.await direction wait) ∧ x.state.notified ≤ wait

def NotifyPending (x : QueueConfiguration) : Prop :=
  ∃ j, x.Issues j .notifyWaiters

/-- No notification is sent past a call that is about to create its wait and would
find something if it looked again. -/
def NotMissed (x : QueueConfiguration) : Move Activity Unit → Prop
  | .spawn _ => True
  | .resume j _ => x.Issues j .notifyWaiters → ∀ k direction,
      x.Issues k (.createWait direction) → QueueState.Idle direction x.state.queue

section

variable (x : QueueConfiguration)

def Exposed (k : ℕ) (direction : Direction) : Prop :=
  phase (history k x.trace) = .checked direction ∨
    ∃ wait, phase (history k x.trace) = .waiting direction wait ∧ x.state.notified ≤ wait

structure WakesUp : Prop where
  tracked : ∃ activities, x.Tracks (fun _ : Activity ↦ callRule) (fun _ ↦ Ended) activities
  created : ∀ k direction wait, phase (history k x.trace) = .waiting direction wait →
    wait < x.state.nextWait
  covered : ∀ k direction, Exposed x k direction →
    QueueState.Idle direction x.state.queue ∨ ∃ j, phase (history j x.trace) = .notifying

variable {x}

theorem WakesUp.allows (hx : WakesUp x) {k : ℕ} {c : Command} (hk : x.Issues k c) :
    (phase (history k x.trace)).Allows c := by
  obtain ⟨activities, ht⟩ := hx.tracked
  obtain ⟨next, hk⟩ := hk
  have hlt : k < activities.length := by
    rw [ht.length]
    exact (List.getElem?_eq_some_iff.mp hk).1
  exact (ht.obeys k _ _ (List.getElem?_eq_getElem hlt) hk).1

theorem WakesUp.exists_issues (hx : WakesUp x) {k : ℕ} (hk : phase (history k x.trace) ≠ .free) :
    ∃ c, x.Issues k c ∧ (phase (history k x.trace)).Allows c := by
  obtain ⟨activities, ht⟩ := hx.tracked
  have hlt : k < x.pool.length := by
    by_contra hge
    have hnil : history k x.trace = [] := history_eq_nil fun r hr ↦ by
      have := ht.spawned r hr
      omega
    rw [hnil] at hk
    exact hk rfl
  have hlt' : k < activities.length := by
    rw [ht.length]
    exact hlt
  cases hp : x.pool[k] with
  | done r =>
    have hended : Ended (history k x.trace) r :=
      ht.obeys k _ (.done r) (List.getElem?_eq_getElem hlt') (by rw [← hp]; exact List.getElem?_eq_getElem hlt)
    exact absurd hended hk
  | call c next =>
    have hissues : x.Issues k c := ⟨next, by rw [← hp]; exact List.getElem?_eq_getElem hlt⟩
    exact ⟨c, hissues, hx.allows hissues⟩

end

abbrev Step := Record Command Command.Response State

section

variable {heap : HeapPop PriorityTelegram PriorityTelegram.cmp} {config : QueueConfig}

namespace QueueState

theorem push_cases (config : QueueConfig) (direction : Direction) (telegram : Telegram)
    (s : QueueState) : (s.push config direction telegram).1 = .ok () ∨
    ∃ e, s.push config direction telegram = (.err e, s) ∨
      s.push config direction telegram = (.err e, s.dropTelegram) := by
  cases direction with
  | outgoing =>
    rcases pushOutgoing_cases config telegram s with ⟨-, h⟩ | ⟨-, -, h⟩ | ⟨-, -, h⟩
    · exact .inr ⟨_, .inl h⟩
    · exact .inr ⟨_, .inr h⟩
    · exact .inl (congrArg Prod.fst h)
  | incoming =>
    rcases pushIncoming_cases config telegram s with ⟨-, h⟩ | ⟨-, -, h⟩ | ⟨-, -, h⟩
    · exact .inr ⟨_, .inl h⟩
    · exact .inr ⟨_, .inr h⟩
    · exact .inl (congrArg Prod.fst h)

theorem idle_dropTelegram {s : QueueState} {d : Direction} (h : Idle d s) : Idle d s.dropTelegram := by
  cases d <;> exact h

theorem pop_cases (heap : HeapPop PriorityTelegram PriorityTelegram.cmp) (direction : Direction)
    (s : QueueState) : (∃ t, (s.pop heap direction).1 = .telegram t ∧
      ∀ d, Idle d s → Idle d (s.pop heap direction).2) ∨
    s.pop heap direction = (.closed, s) ∨
    Idle direction s ∧ s.pop heap direction = (.empty, s) := by
  cases direction with
  | outgoing =>
    rcases popOutgoing_cases heap s with ⟨p, rest, hp, h⟩ | ⟨-, -, h⟩ | ⟨ho, hc, h⟩
    · refine .inl ⟨p.telegram, congrArg Prod.fst h, fun d hd ↦ ?_⟩
      show Idle d (s.popOutgoing heap).2
      rw [h]
      cases d with
      | incoming => exact hd
      | outgoing =>
        rw [hd.1, heap.pop_nil] at hp
        cases hp
    · exact .inr (.inl h)
    · exact .inr (.inr ⟨⟨ho, hc⟩, h⟩)
  | incoming =>
    rcases popIncoming_cases s with ⟨t, rest, hp, h⟩ | ⟨-, -, h⟩ | ⟨hi, hc, h⟩
    · refine .inl ⟨t, congrArg Prod.fst h, fun d hd ↦ ?_⟩
      show Idle d s.popIncoming.2
      rw [h]
      cases d with
      | outgoing => exact hd
      | incoming =>
        rw [hd.1] at hp
        cases hp
    · exact .inr (.inl h)
    · exact .inr (.inr ⟨⟨hi, hc⟩, h⟩)

end QueueState

abbrev Covered (x : QueueConfiguration) (direction : Direction) : Prop :=
  QueueState.Idle direction x.state.queue ∨ ∃ j, phase (history j x.trace) = .notifying

variable {x : QueueConfiguration} {r : Step} {k : ℕ} {d : Direction}

theorem WakesUp.covered_of_quiet (hx : WakesUp x)
    (hfrom : phase (history r.task x.trace) ≠ .notifying)
    (hidle : ∀ d, QueueState.Idle d x.state.queue → QueueState.Idle d r.after.queue)
    (hnotified : r.after.notified = x.state.notified)
    (hself : ∀ d, Exposed ⟨r.after, x.pool, r :: x.trace⟩ r.task d →
      QueueState.Idle d r.after.queue ∨ Exposed x r.task d)
    (hk : Exposed ⟨r.after, x.pool, r :: x.trace⟩ k d) :
    Covered ⟨r.after, x.pool, r :: x.trace⟩ d := by
  have hcovered (hk : Exposed x k d) : Covered ⟨r.after, x.pool, r :: x.trace⟩ d := by
    rcases hx.covered k d hk with h | ⟨j, hj⟩
    · exact .inl (hidle d h)
    · have hne : r.task ≠ j := fun he ↦ hfrom (he ▸ hj)
      exact .inr ⟨j, by rw [history_cons_of_ne hne]; exact hj⟩
  by_cases hne : r.task = k
  · subst hne
    rcases hself d hk with h | h
    · exact .inl h
    · exact hcovered h
  · refine hcovered ?_
    unfold Exposed at hk ⊢
    rw [history_cons_of_ne hne, hnotified] at hk
    exact hk

theorem phase_cons (e : (c : Command) × c.Response) (h : Past) : phase (e :: h) = phase [e] := by
  obtain ⟨c, r⟩ := e
  cases c with
  | push direction telegram => cases r <;> rfl
  | pop direction => cases r <;> rfl
  | close => rfl
  | notifyWaiters => rfl
  | createWait direction => rfl
  | await direction wait => rfl

theorem phase_history_self (r : Step) (trace : List Step) :
    phase (history r.task (r :: trace)) = phase [r.event] := by
  rw [history_cons_self, phase_cons]

theorem not_exposed_of_free {y : QueueConfiguration} (hk : phase (history k y.trace) = .free) :
    ¬ Exposed y k d := by
  rintro (h | ⟨wait, h, -⟩)
  · rw [hk] at h
    cases h
  · rw [hk] at h
    cases h

theorem nextWait_le {c : Command} {i : Unit} {s s' : State} {r : c.Response}
    (he : exec heap config c i s = some (r, s')) : s.nextWait ≤ s'.nextWait := by
  cases c with
  | push direction telegram => cases he; exact le_rfl
  | pop direction => cases he; exact le_rfl
  | close => cases he; exact le_rfl
  | notifyWaiters => cases he; exact le_rfl
  | createWait direction => cases he; exact Nat.le_succ _
  | await direction wait =>
    simp only [exec] at he
    split at he
    · cases he; exact le_rfl
    · cases he

theorem waiting_event {c : Command} {i : Unit} {s s' : State} {r : c.Response}
    (he : exec heap config c i s = some (r, s')) {wait : ℕ}
    (hphase : phase [⟨c, r⟩] = .waiting d wait) : wait < s'.nextWait := by
  cases c with
  | push direction telegram => cases r <;> cases hphase
  | pop direction => cases r <;> cases hphase
  | close => cases hphase
  | notifyWaiters => cases hphase
  | createWait direction =>
    cases he
    cases hphase
    exact Nat.lt_succ_self _
  | await direction wait => cases hphase

theorem WakesUp.created_resume (hx : WakesUp x)
    (he : exec heap config r.command () x.state = some (r.response, r.after)) {wait : ℕ}
    (hk : phase (history k (r :: x.trace)) = .waiting d wait) : wait < r.after.nextWait := by
  by_cases hne : r.task = k
  · subst hne
    rw [phase_history_self] at hk
    exact waiting_event he hk
  · rw [history_cons_of_ne hne] at hk
    exact (hx.created k d wait hk).trans_le (nextWait_le he)

theorem WakesUp.covered_notify (hx : WakesUp x) (hissues : x.Issues r.task .notifyWaiters)
    (hm : NotMissed x (.resume r.task ())) (hc : r.event = ⟨.notifyWaiters, ()⟩)
    (hqueue : r.after.queue = x.state.queue) (hnotified : r.after.notified = x.state.nextWait)
    (hk : Exposed ⟨r.after, x.pool, r :: x.trace⟩ k d) : QueueState.Idle d r.after.queue := by
  have hne : r.task ≠ k := by
    rintro rfl
    exact not_exposed_of_free (by rw [phase_history_self, hc]; rfl) hk
  unfold Exposed at hk
  rw [history_cons_of_ne hne, hnotified] at hk
  rcases hk with hk | ⟨wait, hk, hle⟩
  · obtain ⟨c, hc, hallows⟩ := hx.exists_issues (k := k) (by rw [hk]; simp)
    rw [hk] at hallows
    cases hallows
    rw [hqueue]
    exact hm hissues k d hc
  · have := hx.created k d wait hk
    omega

theorem WakesUp.covered_push (hx : WakesUp x)
    (hfrom : phase (history r.task x.trace) ≠ .notifying) {direction : Direction}
    {telegram : Telegram}
    (hr : r.event = ⟨.push direction telegram, (x.state.queue.push config direction telegram).1⟩)
    (hafter : r.after = { x.state with queue := (x.state.queue.push config direction telegram).2 })
    (hk : Exposed ⟨r.after, x.pool, r :: x.trace⟩ k d) :
    Covered ⟨r.after, x.pool, r :: x.trace⟩ d := by
  rcases QueueState.push_cases config direction telegram x.state.queue with hok | ⟨e, hpush⟩
  · refine .inr ⟨r.task, ?_⟩
    rw [phase_history_self, hr, hok]
    rfl
  · have hidle : ∀ d, QueueState.Idle d x.state.queue → QueueState.Idle d r.after.queue := by
      intro d hd
      rcases hpush with hpush | hpush
      · rwa [hafter, hpush]
      · rw [hafter, hpush]
        exact QueueState.idle_dropTelegram hd
    have herr : (x.state.queue.push config direction telegram).1 = .err e := by
      rcases hpush with hpush | hpush <;> rw [hpush]
    refine hx.covered_of_quiet hfrom hidle (by rw [hafter]) (fun d hself ↦ ?_) hk
    exact absurd hself (not_exposed_of_free (by rw [phase_history_self, hr, herr]; rfl))

theorem WakesUp.covered_pop (hx : WakesUp x) (hfrom : phase (history r.task x.trace) ≠ .notifying)
    {direction : Direction}
    (hr : r.event = ⟨.pop direction, (x.state.queue.pop heap direction).1⟩)
    (hafter : r.after = { x.state with queue := (x.state.queue.pop heap direction).2 })
    (hk : Exposed ⟨r.after, x.pool, r :: x.trace⟩ k d) :
    Covered ⟨r.after, x.pool, r :: x.trace⟩ d := by
  rcases QueueState.pop_cases heap direction x.state.queue with
    ⟨t, ht, hidle⟩ | hclosed | ⟨hidle, hempty⟩
  · refine hx.covered_of_quiet hfrom (by rw [hafter]; exact hidle) (by rw [hafter])
      (fun d hself ↦ ?_) hk
    exact absurd hself (not_exposed_of_free (by rw [phase_history_self, hr, ht]; rfl))
  · refine hx.covered_of_quiet hfrom (by rw [hafter, hclosed]; exact fun _ hd ↦ hd)
      (by rw [hafter]) (fun d hself ↦ ?_) hk
    exact absurd hself (not_exposed_of_free (by rw [phase_history_self, hr, hclosed]; rfl))
  · refine hx.covered_of_quiet hfrom (by rw [hafter, hempty]; exact fun _ hd ↦ hd)
      (by rw [hafter]) (fun d hself ↦ .inl ?_) hk
    have hphase : phase (history r.task (r :: x.trace)) = .checked direction := by
      rw [phase_history_self, hr, hempty]
      rfl
    rcases hself with h | ⟨wait, h, -⟩
    · rw [show phase (history r.task (r :: x.trace)) = .checked d from h] at hphase
      cases hphase
      rwa [hafter, hempty]
    · rw [show phase (history r.task (r :: x.trace)) = .waiting d wait from h] at hphase
      cases hphase

theorem WakesUp.covered_createWait (hx : WakesUp x)
    (hfrom : phase (history r.task x.trace) ≠ .notifying) {direction : Direction}
    (hchecked : phase (history r.task x.trace) = .checked direction)
    (hr : r.event = ⟨.createWait direction, x.state.nextWait⟩)
    (hafter : r.after = { x.state with nextWait := x.state.nextWait + 1 })
    (hk : Exposed ⟨r.after, x.pool, r :: x.trace⟩ k d) :
    Covered ⟨r.after, x.pool, r :: x.trace⟩ d := by
  refine hx.covered_of_quiet hfrom (by rw [hafter]; exact fun _ hd ↦ hd) (by rw [hafter])
    (fun d hself ↦ .inr (.inl ?_)) hk
  have hphase : phase (history r.task (r :: x.trace)) = .waiting direction x.state.nextWait := by
    rw [phase_history_self, hr]
    rfl
  rcases hself with h | ⟨wait, h, -⟩
  · rw [show phase (history r.task (r :: x.trace)) = .checked d from h] at hphase
    cases hphase
  · rw [show phase (history r.task (r :: x.trace)) = .waiting d wait from h] at hphase
    cases hphase
    exact hchecked

theorem WakesUp.covered_resume (hx : WakesUp x) (hissues : x.Issues r.task r.command)
    (hm : NotMissed x (.resume r.task ()))
    (he : exec heap config r.command () x.state = some (r.response, r.after))
    (hk : Exposed ⟨r.after, x.pool, r :: x.trace⟩ k d) :
    Covered ⟨r.after, x.pool, r :: x.trace⟩ d := by
  have hallows := hx.allows hissues
  -- Whoever carries out another command than the notification has none to perform.
  have hfrom (hc : r.command ≠ .notifyWaiters) : phase (history r.task x.trace) ≠ .notifying := by
    intro hphase
    rw [hphase] at hallows
    exact hc hallows
  obtain ⟨j, c, response, before, after⟩ := r
  cases c with
  | notifyWaiters =>
    cases he
    exact .inl (hx.covered_notify hissues hm rfl rfl rfl hk)
  | close => exact .inr ⟨j, phase_history_self ⟨j, .close, response, before, after⟩ x.trace⟩
  | push direction telegram =>
    cases he
    exact hx.covered_push (hfrom (by simp)) rfl rfl hk
  | pop direction =>
    cases he
    exact hx.covered_pop (hfrom (by simp)) rfl rfl hk
  | createWait direction =>
    cases he
    exact hx.covered_createWait (hfrom (by simp)) (Phase.eq_checked hallows) rfl rfl hk
  | await direction wait =>
    simp only [exec] at he
    split at he
    · cases he
      refine hx.covered_of_quiet (hfrom (by simp)) (fun _ hd ↦ hd) rfl (fun d hself ↦ ?_) hk
      exact absurd hself (not_exposed_of_free
        (phase_history_self ⟨j, .await direction wait, (), before, x.state⟩ x.trace))
    · cases he

theorem WakesUp.resume (hx : WakesUp x) {j : ℕ} {i : Unit} (hm : NotMissed x (.resume j i)) :
    WakesUp (x.resume (exec heap config) j i) := by
  obtain ⟨activities, ht⟩ := hx.tracked
  have ht' : (x.resume (exec heap config) j i).Tracks (fun _ ↦ callRule) (fun _ ↦ Ended) activities :=
    ht.resume j i
  obtain h | ⟨c, next, response, s, hp, he, h⟩ := Config.resume_cases (exec heap config) x j i
  · rw [h]
    exact hx
  rw [h] at ht' ⊢
  exact ⟨⟨activities, ht'⟩,
    fun _ _ _ hk ↦ hx.created_resume (r := ⟨j, c, response, x.state, s⟩) he hk,
    fun _ _ hk ↦ hx.covered_resume (r := ⟨j, c, response, x.state, s⟩) ⟨next, hp⟩ hm he hk⟩

theorem WakesUp.step (hx : WakesUp x) {m : Move Activity Unit} (hm : NotMissed x m) :
    WakesUp (x.step (exec heap config) program m) := by
  cases m with
  | resume j i => exact hx.resume hm
  | spawn activity =>
    obtain ⟨activities, ht⟩ := hx.tracked
    exact ⟨⟨_, ht.spawn (t := activity) (obeys_program activity)⟩, hx.created, hx.covered⟩

theorem wakesUp_start : WakesUp start := by
  refine ⟨⟨[], ⟨rfl, by simp [start], by simp⟩⟩, ?_, ?_⟩
  · intro k direction wait h
    cases h
  · intro k direction h
    exact absurd h (not_exposed_of_free rfl)

end

/-- As long as no notification is sent past a call that is about to wait, no call
sleeps over something that it could return. -/
theorem no_call_sleeps_over_work (heap : HeapPop PriorityTelegram PriorityTelegram.cmp)
    (config : QueueConfig) (moves : List (Move Activity Unit))
    (hmoves : Config.Along (exec heap config) program NotMissed start moves) (k : ℕ)
    (direction : Direction) (hk : Parked (run heap config moves) k direction) :
    QueueState.Idle direction (run heap config moves).state.queue ∨
      NotifyPending (run heap config moves) := by
  have hx : WakesUp (run heap config moves) :=
    Config.run_along (fun _ _ hx hm ↦ hx.step hm) wakesUp_start hmoves
  obtain ⟨wait, hissues, hle⟩ := hk
  have hphase := Phase.eq_waiting (hx.allows hissues)
  rcases hx.covered k direction (.inr ⟨wait, hphase, hle⟩) with h | ⟨j, hj⟩
  · exact .inl h
  · obtain ⟨c, hc, hallows⟩ := hx.exists_issues (k := j) (by rw [hj]; simp)
    rw [hj] at hallows
    cases hallows
    exact .inr ⟨j, hc⟩

/-- A consumer that waits before a telegram arrives is parked when its queue is still
idle, and woken by the notification. -/
def arrivalWhileWaiting (telegram : Telegram) : List (Move Activity Unit) :=
  [.spawn (.dequeueIncoming 2), .spawn (.enqueueIncoming telegram), .resume 0 (), .resume 0 (),
    .resume 1 ()]

theorem no_call_sleeps_while_notify_pending :
    Parked (run PriorityTelegram.scanningHeap ⟨1, true⟩
        (arrivalWhileWaiting (.groupRead 0 .temperature))) 0 .incoming ∧
      (QueueState.Idle .incoming (run PriorityTelegram.scanningHeap ⟨1, true⟩
        (arrivalWhileWaiting (.groupRead 0 .temperature))).state.queue ∨
      NotifyPending (run PriorityTelegram.scanningHeap ⟨1, true⟩
        (arrivalWhileWaiting (.groupRead 0 .temperature)))) := by
  have hparked : Parked (run PriorityTelegram.scanningHeap ⟨1, true⟩
      (arrivalWhileWaiting (.groupRead 0 .temperature))) 0 .incoming :=
    ⟨0, ⟨_, rfl⟩, by decide⟩
  have hmoves : Config.Along (exec PriorityTelegram.scanningHeap ⟨1, true⟩) program NotMissed start
      (arrivalWhileWaiting (.groupRead 0 .temperature)) := by
    refine ⟨trivial, trivial, ?_, ?_, ?_, trivial⟩
    -- None of the three steps is a notification.
    all_goals
      rintro ⟨next, h⟩
      cases h
  exact ⟨hparked, no_call_sleeps_over_work _ _ _ hmoves 0 .incoming hparked⟩

/-- The telegram is enqueued and its arrival notified while the consumer has found
nothing and has not created its wait yet. -/
def notifiedInTheGap (telegram : Telegram) : List (Move Activity Unit) :=
  [.spawn (.dequeueIncoming 2), .spawn (.enqueueIncoming telegram), .resume 0 (), .resume 1 (),
    .resume 1 (), .resume 0 ()]

theorem call_sleeps_over_telegram :
    Parked (run PriorityTelegram.scanningHeap ⟨1000, true⟩
        (notifiedInTheGap (.groupRead 0 .temperature))) 0 .incoming ∧
      (run PriorityTelegram.scanningHeap ⟨1000, true⟩
        (notifiedInTheGap (.groupRead 0 .temperature))).state.queue.incoming =
        [.groupRead 0 .temperature] ∧
      ¬ NotifyPending (run PriorityTelegram.scanningHeap ⟨1000, true⟩
        (notifiedInTheGap (.groupRead 0 .temperature))) := by
  refine ⟨⟨0, ⟨_, rfl⟩, by decide⟩, by decide, ?_⟩
  rintro ⟨j, next, hj⟩
  match j with
  | 0 => cases hj
  | 1 => cases hj
  | j + 2 => cases hj

end Knust.Transport.Queue
