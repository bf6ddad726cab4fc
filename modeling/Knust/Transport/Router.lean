import Knust.Foundation.Reactive
import Knust.Protocol.KnxIp

namespace Knust.Transport

open Foundation Protocol

inductive Receiver
  | waiting
  | received (frame : KnxIpFrame)
  | dropped
  deriving DecidableEq

structure FrameRouter where
  waiters : UInt16 → Option (List ℕ)

namespace FrameRouter

def new : FrameRouter := ⟨fun _ ↦ none⟩

def setQueue (router : FrameRouter) (key : UInt16) (queue : Option (List ℕ)) : FrameRouter :=
  ⟨Function.update router.waiters key queue⟩

def push (router : FrameRouter) (key : UInt16) (tx : ℕ) : FrameRouter :=
  router.setQueue key (some ((router.waiters key).getD [] ++ [tx]))

@[simp] theorem setQueue_self (router : FrameRouter) (key : UInt16) (queue : Option (List ℕ)) :
    (router.setQueue key queue).waiters key = queue := by
  simp [setQueue]

theorem setQueue_of_ne (router : FrameRouter) {key other : UInt16} (h : other ≠ key)
    (queue : Option (List ℕ)) :
    (router.setQueue key queue).waiters other = router.waiters other := by
  simp [setQueue, h]

/-- The router, the receivers of its channels in the order of registration, and the frame of the
dispatch that holds the lock. -/
structure State where
  router : FrameRouter
  receivers : List Receiver
  dispatching : Option KnxIpFrame

def State.start : State := ⟨.new, [], none⟩

/-- A receiver can be dropped while a dispatch goes through the queue. -/
inductive Action
  | register (serviceType : ServiceType)
  | drop (waiter : ℕ)
  | dispatch (frame : KnxIpFrame)
  | proceed
  deriving DecidableEq

inductive Event
  | registered (waiter : ℕ) (serviceType : ServiceType)
  | dropped (waiter : ℕ)
  | dispatched (frame : KnxIpFrame)
  | skipped (waiter : ℕ)
  | delivered (frame : KnxIpFrame) (waiter : ℕ)
  | returned (frame : KnxIpFrame)
  deriving DecidableEq

def send (receivers : List Receiver) (tx : ℕ) (frame : KnxIpFrame) :
    Except KnxIpFrame (List Receiver) :=
  match receivers[tx]? with
  | some .waiting => .ok (receivers.set tx (.received frame))
  | _ => .error frame

theorem send_eq (receivers : List Receiver) (tx : ℕ) (frame : KnxIpFrame) :
    send receivers tx frame =
      if receivers[tx]? = some .waiting then .ok (receivers.set tx (.received frame))
      else .error frame := by
  unfold send
  split
  · next h => rw [if_pos h]
  · next h => rw [if_neg h]

def key (frame : KnxIpFrame) : UInt16 := frame.header.serviceType.toU16

def tryNext (s : State) (frame : KnxIpFrame) : State × Event :=
  match s.router.waiters (key frame) with
  | some (tx :: queue) =>
    match send s.receivers tx frame with
    | .ok receivers =>
      let rest := if queue.isEmpty then none else some queue
      (⟨s.router.setQueue (key frame) rest, receivers, none⟩, .delivered frame tx)
    | .error returned =>
      (⟨s.router.setQueue (key frame) (some queue), s.receivers, some returned⟩, .skipped tx)
  | some [] => (⟨s.router.setQueue (key frame) none, s.receivers, none⟩, .returned frame)
  | none => ({ s with dispatching := none }, .returned frame)

def react : Reactor Action Event State
  | .register serviceType, s =>
    match s.dispatching with
    | none =>
      let tx := s.receivers.length
      some (⟨s.router.push serviceType.toU16 tx, s.receivers ++ [.waiting], none⟩,
        .registered tx serviceType)
    | some _ => none
  -- What happens to a receiver after its frame has arrived is of no consequence.
  | .drop waiter, s =>
    match s.receivers[waiter]? with
    | some .waiting =>
      some ({ s with receivers := s.receivers.set waiter .dropped }, .dropped waiter)
    | _ => none
  | .dispatch frame, s =>
    match s.dispatching with
    | none => some ({ s with dispatching := some frame }, .dispatched frame)
    | some _ => none
  | .proceed, s => s.dispatching.map (tryNext s)

def run (actions : List Action) : Journal State Event :=
  Journal.run react ⟨.start, []⟩ actions

structure Waiting (log : List Event) (serviceType : ServiceType) (waiter : ℕ) : Prop where
  registered : .registered waiter serviceType ∈ log
  not_dropped : .dropped waiter ∉ log
  not_delivered : ∀ frame, .delivered frame waiter ∉ log

def pending : List Event → Option KnxIpFrame
  | [] => none
  | .dispatched frame :: _ => some frame
  | .delivered _ _ :: _ => none
  | .returned _ :: _ => none
  | .registered _ _ :: log => pending log
  | .dropped _ :: log => pending log
  | .skipped _ :: log => pending log

def registrations (log : List Event) : ℕ :=
  log.countP fun e ↦ match e with
    | .registered _ _ => true
    | _ => false

def Served : Event → List Event → Prop
  | .registered waiter _, earlier => waiter = registrations earlier
  | .dispatched _, earlier => pending earlier = none
  | .delivered frame waiter, earlier =>
    pending earlier = some frame ∧ Waiting earlier frame.header.serviceType waiter ∧
      ∀ other, Waiting earlier frame.header.serviceType other → waiter ≤ other
  | .returned frame, earlier =>
    pending earlier = some frame ∧ ∀ other, ¬ Waiting earlier frame.header.serviceType other
  | .dropped _, _ => True
  | .skipped _, _ => True

theorem key_inj {s t : ServiceType} : s.toU16 = t.toU16 ↔ s = t := by
  constructor
  · intro h
    have hs := ServiceType.fromU16_toU16 s
    rw [h, ServiceType.fromU16_toU16] at hs
    exact (Option.some.inj hs).symm
  · exact congrArg _

theorem react_cases {a : Action} {s s' : State} {e : Event} (h : react a s = some (s', e)) :
    (∃ serviceType, a = .register serviceType ∧ s.dispatching = none ∧
      e = .registered s.receivers.length serviceType ∧
      s' = ⟨s.router.push serviceType.toU16 s.receivers.length, s.receivers ++ [.waiting], none⟩) ∨
    (∃ waiter, a = .drop waiter ∧ s.receivers[waiter]? = some .waiting ∧ e = .dropped waiter ∧
      s' = { s with receivers := s.receivers.set waiter .dropped }) ∨
    (∃ frame, a = .dispatch frame ∧ s.dispatching = none ∧ e = .dispatched frame ∧
      s' = { s with dispatching := some frame }) ∨
    (∃ frame tx queue, a = .proceed ∧ s.dispatching = some frame ∧
      s.router.waiters (key frame) = some (tx :: queue) ∧
      s.receivers[tx]? ≠ some .waiting ∧ e = .skipped tx ∧
      s' = { s with router := s.router.setQueue (key frame) (some queue) }) ∨
    (∃ frame tx queue, a = .proceed ∧ s.dispatching = some frame ∧
      s.router.waiters (key frame) = some (tx :: queue) ∧
      s.receivers[tx]? = some .waiting ∧ e = .delivered frame tx ∧
      s' = ⟨s.router.setQueue (key frame) (if queue.isEmpty then none else some queue),
        s.receivers.set tx (.received frame), none⟩) ∨
    (∃ frame, a = .proceed ∧ s.dispatching = some frame ∧
      (s.router.waiters (key frame)).getD [] = [] ∧ e = .returned frame ∧
      (s' = ⟨s.router.setQueue (key frame) none, s.receivers, none⟩ ∨
        s' = { s with dispatching := none })) := by
  cases a with
  | register serviceType =>
    left
    cases hd : s.dispatching with
    | none =>
      simp only [react, hd, Option.some.injEq, Prod.mk.injEq] at h
      exact ⟨serviceType, rfl, rfl, h.2.symm, h.1.symm⟩
    | some frame => simp [react, hd] at h
  | drop waiter =>
    right; left
    simp only [react] at h
    split at h
    · next hw =>
      simp only [Option.some.injEq, Prod.mk.injEq] at h
      exact ⟨waiter, rfl, hw, h.2.symm, h.1.symm⟩
    · cases h
  | dispatch frame =>
    right; right; left
    cases hd : s.dispatching with
    | none =>
      simp only [react, hd, Option.some.injEq, Prod.mk.injEq] at h
      exact ⟨frame, rfl, rfl, h.2.symm, h.1.symm⟩
    | some frame => simp [react, hd] at h
  | proceed =>
    right; right; right
    obtain ⟨frame, hd, h⟩ := Option.map_eq_some_iff.mp h
    unfold tryNext at h
    split at h
    · next tx queue hqueue =>
      by_cases hw : s.receivers[tx]? = some .waiting
      · rw [send_eq, if_pos hw] at h
        cases h
        exact .inr (.inl ⟨frame, tx, queue, rfl, hd, hqueue, hw, rfl, rfl⟩)
      · rw [send_eq, if_neg hw] at h
        cases h
        exact .inl ⟨frame, tx, queue, rfl, hd, hqueue, hw, rfl, by rw [hd]⟩
    · next hqueue =>
      cases h
      exact .inr (.inr ⟨frame, rfl, hd, by rw [hqueue]; rfl, rfl, .inl rfl⟩)
    · next hqueue =>
      cases h
      exact .inr (.inr ⟨frame, rfl, hd, by rw [hqueue]; rfl, rfl, .inr rfl⟩)

def queue (router : FrameRouter) (serviceType : ServiceType) : List ℕ :=
  (router.waiters serviceType.toU16).getD []

theorem queue_setQueue (router : FrameRouter) (s t : ServiceType) (q : Option (List ℕ)) :
    (router.setQueue s.toU16 q).queue t = if t = s then q.getD [] else router.queue t := by
  unfold queue
  by_cases h : t = s
  · rw [h, setQueue_self, if_pos rfl]
  · rw [setQueue_of_ne _ (mt key_inj.1 h), if_neg h]

theorem queue_push (router : FrameRouter) (s t : ServiceType) (tx : ℕ) :
    (router.push s.toU16 tx).queue t =
      if t = s then router.queue t ++ [tx] else router.queue t := by
  rw [push, queue_setQueue]
  by_cases h : t = s
  · rw [if_pos h, if_pos h, h]
    rfl
  · rw [if_neg h, if_neg h]

theorem getD_if_isEmpty (q : List ℕ) : (if q.isEmpty then none else some q).getD [] = q := by
  cases q with
  | nil => rfl
  | cons v q => rfl

theorem mem_queue_of_react {a : Action} {s s' : State} {e : Event} (h : react a s = some (s', e))
    {t : ServiceType} {v : ℕ} (hv : v ∈ s'.router.queue t) :
    v ∈ s.router.queue t ∨ (a = .register t ∧ v = s.receivers.length) := by
  have hset : ∀ {frame : KnxIpFrame} {q : Option (List ℕ)},
      q.getD [] ⊆ s.router.queue frame.header.serviceType →
      v ∈ (s.router.setQueue (key frame) q).queue t → v ∈ s.router.queue t := by
    intro frame q hq hmem
    rw [key, queue_setQueue] at hmem
    split at hmem
    · next ht =>
      rw [ht]
      exact hq hmem
    · exact hmem
  have htail : ∀ {frame : KnxIpFrame} {tx : ℕ} {q : List ℕ},
      s.router.waiters (key frame) = some (tx :: q) →
      q ⊆ s.router.queue frame.header.serviceType := by
    intro frame tx q hq
    rw [queue, ← key, hq]
    exact List.subset_cons_self _ _
  obtain ⟨t', rfl, -, -, rfl⟩ | ⟨w, -, -, -, rfl⟩ | ⟨frame, -, -, -, rfl⟩ |
    ⟨frame, tx, q, -, -, hq, -, -, rfl⟩ | ⟨frame, tx, q, -, -, hq, -, -, rfl⟩ |
    ⟨frame, -, -, -, -, hs⟩ := react_cases h
  · rw [queue_push] at hv
    split at hv
    · next ht =>
      rcases List.mem_append.1 hv with hv | hv
      · exact .inl hv
      · exact .inr ⟨by rw [ht], List.mem_singleton.1 hv⟩
    · exact .inl hv
  · exact .inl hv
  · exact .inl hv
  · exact .inl (hset (htail hq) hv)
  · exact .inl (hset (by rw [getD_if_isEmpty]; exact htail hq) hv)
  · rcases hs with rfl | rfl
    · exact .inl (hset (List.nil_subset _) hv)
    · exact .inl hv

theorem length_react {a : Action} {s s' : State} {e : Event} (h : react a s = some (s', e)) :
    s.receivers.length ≤ s'.receivers.length ∧
      ∀ t, a = .register t → s'.receivers.length = s.receivers.length + 1 := by
  obtain ⟨_, rfl, -, -, rfl⟩ | ⟨_, rfl, -, -, rfl⟩ | ⟨_, rfl, -, -, rfl⟩ |
    ⟨_, _, _, rfl, -, -, -, -, rfl⟩ | ⟨_, _, _, rfl, -, -, -, -, rfl⟩ |
    ⟨_, rfl, -, -, -, rfl | rfl⟩ := react_cases h
  all_goals simp

/-- The queues and the receivers say the same as the events. A queue may have waiters that are
gone. -/
structure Follows (s : State) (log : List Event) : Prop where
  count : s.receivers.length = registrations log
  registered : ∀ w, w < s.receivers.length ↔ ∃ t, .registered w t ∈ log
  typed : ∀ w t t', .registered w t ∈ log → .registered w t' ∈ log → t = t'
  dropped : ∀ w, s.receivers[w]? = some .dropped ↔ .dropped w ∈ log
  received : ∀ w frame, s.receivers[w]? = some (.received frame) ↔ .delivered frame w ∈ log
  queued : ∀ t w, .registered w t ∈ log → s.receivers[w]? = some .waiting → w ∈ s.router.queue t
  queue_typed : ∀ t, ∀ w ∈ s.router.queue t, .registered w t ∈ log
  sorted : ∀ t, (s.router.queue t).Pairwise (· < ·)
  dispatching : s.dispatching = pending log

namespace Follows

variable {s : State} {log : List Event} {w : ℕ} {t : ServiceType} {frame : KnxIpFrame}

theorem start : Follows .start [] where
  count := rfl
  registered := by simp [State.start]
  typed := by simp
  dropped := by simp [State.start]
  received := by simp [State.start]
  queued := by simp
  queue_typed := by simp [State.start, queue, new]
  sorted := by simp [State.start, queue, new]
  dispatching := rfl

theorem waiting_iff (h : Follows s log) :
    Waiting log t w ↔ .registered w t ∈ log ∧ s.receivers[w]? = some .waiting := by
  constructor
  · intro hw
    have hlt : w < s.receivers.length := (h.registered w).2 ⟨t, hw.registered⟩
    refine ⟨hw.registered, ?_⟩
    have hsome := List.getElem?_eq_getElem hlt
    cases hr : s.receivers[w] with
    | waiting => rw [hsome, hr]
    | received frame =>
      exact absurd ((h.received w frame).1 (by rw [hsome, hr])) (hw.not_delivered frame)
    | dropped => exact absurd ((h.dropped w).1 (by rw [hsome, hr])) hw.not_dropped
  · intro hw
    refine ⟨hw.1, ?_, ?_⟩
    · intro hd
      have hr := (h.dropped w).2 hd
      rw [hw.2] at hr
      cases hr
    · intro frame hd
      have hr := (h.received w frame).2 hd
      rw [hw.2] at hr
      cases hr

theorem register (h : Follows s log) (hd : s.dispatching = none) (t : ServiceType) :
    Follows ⟨s.router.push t.toU16 s.receivers.length, s.receivers ++ [.waiting], none⟩
      (.registered s.receivers.length t :: log) := by
  have hnew : ∀ t', .registered s.receivers.length t' ∉ log := by
    intro t' ht'
    exact absurd ((h.registered _).2 ⟨t', ht'⟩) (lt_irrefl _)
  have hlt : ∀ t', ∀ v ∈ s.router.queue t', v < s.receivers.length := fun t' v hv ↦
    (h.registered v).2 ⟨t', h.queue_typed t' v hv⟩
  have hold : ∀ (w : ℕ) (r : Receiver), r ≠ .waiting →
      ((s.receivers ++ [.waiting])[w]? = some r ↔ s.receivers[w]? = some r) := by
    intro w r hr
    rcases Nat.lt_trichotomy w s.receivers.length with hw | hw | hw
    · rw [List.getElem?_append_left hw]
    · subst hw
      simp [Ne.symm hr]
    · rw [List.getElem?_eq_none (by simp; omega), List.getElem?_eq_none (by omega)]
  constructor
  case count => simp [registrations, h.count]
  case registered =>
    intro w
    simp only [List.length_append, List.length_singleton, List.mem_cons, Event.registered.injEq,
      exists_or, ← h.registered w]
    simp
    omega
  case typed =>
    intro w t₁ t₂ h₁ h₂
    simp only [List.mem_cons, Event.registered.injEq] at h₁ h₂
    rcases h₁ with ⟨rfl, rfl⟩ | h₁
    · rcases h₂ with ⟨-, rfl⟩ | h₂
      · rfl
      · exact absurd h₂ (hnew _)
    · rcases h₂ with ⟨rfl, rfl⟩ | h₂
      · exact absurd h₁ (hnew _)
      · exact h.typed w t₁ t₂ h₁ h₂
  case dropped =>
    intro w
    rw [hold _ _ (by simp)]
    simpa using h.dropped w
  case received =>
    intro w frame
    rw [hold _ _ (by simp)]
    simpa using h.received w frame
  case queued =>
    intro t' w hw hr
    rw [queue_push]
    simp only [List.mem_cons, Event.registered.injEq] at hw
    rcases hw with ⟨rfl, rfl⟩ | hw
    · simp
    · have hw' : w < s.receivers.length := (h.registered w).2 ⟨t', hw⟩
      rw [List.getElem?_append_left hw'] at hr
      have hmem := h.queued t' w hw hr
      split
      · exact List.mem_append_left _ hmem
      · exact hmem
  case queue_typed =>
    intro t' w hw
    rw [queue_push] at hw
    split at hw
    · next ht =>
      rcases List.mem_append.1 hw with hw | hw
      · exact .tail _ (h.queue_typed t' w hw)
      · rw [List.mem_singleton.1 hw, ht]
        exact .head _
    · exact .tail _ (h.queue_typed t' w hw)
  case sorted =>
    intro t'
    rw [queue_push]
    split
    · refine List.pairwise_append.2 ⟨h.sorted t', List.pairwise_singleton _ _, ?_⟩
      intro v hv w hw
      rw [List.mem_singleton.1 hw]
      exact hlt t' v hv
    · exact h.sorted t'
  case dispatching => exact hd.symm.trans h.dispatching

theorem shrink (h : Follows s log) {s' : State} {e : Event} (he : ∀ w t, .registered w t ≠ e)
    (hlength : s'.receivers.length = s.receivers.length)
    (hdropped : ∀ w, s'.receivers[w]? = some .dropped ↔ .dropped w ∈ e :: log)
    (hreceived : ∀ w frame, s'.receivers[w]? = some (.received frame) ↔
      .delivered frame w ∈ e :: log)
    (hwaiting : ∀ w : ℕ, s'.receivers[w]? = some .waiting → s.receivers[w]? = some .waiting)
    (hsub : ∀ t, (s'.router.queue t).Sublist (s.router.queue t))
    (hkept : ∀ t, ∀ w ∈ s.router.queue t, s'.receivers[w]? = some .waiting →
      w ∈ s'.router.queue t)
    (hcall : s'.dispatching = pending (e :: log)) : Follows s' (e :: log) := by
  have hmem : ∀ w t, .registered w t ∈ e :: log ↔ .registered w t ∈ log := fun w t ↦ by
    simp [he w t]
  constructor
  case count =>
    rw [hlength, h.count, registrations, registrations, List.countP_cons_of_neg]
    cases e with
    | registered w t => exact absurd rfl (he w t)
    | _ => simp
  case registered => simpa only [hlength, hmem] using h.registered
  case typed => simpa only [hmem] using h.typed
  case dropped => exact hdropped
  case received => exact hreceived
  case queued =>
    intro t w hw hr
    exact hkept t w (h.queued t w ((hmem w t).1 hw) (hwaiting w hr)) hr
  case queue_typed =>
    intro t w hw
    exact .tail _ (h.queue_typed t w ((hsub t).subset hw))
  case sorted => exact fun t ↦ (h.sorted t).sublist (hsub t)
  case dispatching => exact hcall

theorem drop (h : Follows s log) (hw : s.receivers[w]? = some .waiting) :
    Follows { s with receivers := s.receivers.set w .dropped } (.dropped w :: log) := by
  have hlt : w < s.receivers.length := (List.getElem?_eq_some_iff.1 hw).1
  refine h.shrink (by simp) (by simp) ?_ ?_ ?_ (fun _ ↦ .refl _) (fun _ _ h _ ↦ h) h.dispatching
  · intro v
    by_cases hv : v = w
    · simp [hv, hlt]
    · rw [List.getElem?_set_ne (Ne.symm hv), h.dropped v]
      simp [hv]
  · intro v frame
    by_cases hv : v = w
    · have hnot := mt (h.received w frame).2 (by simp [hw])
      simp [hv, hlt, hnot]
    · rw [List.getElem?_set_ne (Ne.symm hv), h.received v]
      simp
  · intro v hr
    by_cases hv : v = w
    · rw [hv]
      exact hw
    · rwa [List.getElem?_set_ne (Ne.symm hv)] at hr

theorem dispatch (h : Follows s log) (frame : KnxIpFrame) :
    Follows { s with dispatching := some frame } (.dispatched frame :: log) :=
  h.shrink (by simp) rfl (by simpa using h.dropped) (by simpa using h.received) (fun _ h ↦ h)
    (fun _ ↦ .refl _) (fun _ _ h _ ↦ h) rfl

theorem sublist_setQueue {front back : List ℕ} {q : Option (List ℕ)}
    (hqueue : s.router.queue frame.header.serviceType = front ++ back) (hq : q.getD [] = back)
    (t : ServiceType) :
    ((s.router.setQueue (key frame) q).queue t).Sublist (s.router.queue t) := by
  rw [key, queue_setQueue]
  split
  · next ht =>
    rw [ht, hqueue, hq]
    exact List.sublist_append_right _ _
  · exact .refl _

theorem mem_setQueue {front back : List ℕ} {q : Option (List ℕ)}
    (hqueue : s.router.queue frame.header.serviceType = front ++ back) (hq : q.getD [] = back)
    (hmem : w ∈ s.router.queue t) (hw : w ∉ front) :
    w ∈ (s.router.setQueue (key frame) q).queue t := by
  rw [key, queue_setQueue]
  split
  · next ht =>
    rw [ht, hqueue] at hmem
    rw [hq]
    exact (List.mem_append.1 hmem).resolve_left hw
  · exact hmem

theorem skip (h : Follows s log) {queue : List ℕ}
    (hqueue : s.router.queue frame.header.serviceType = [w] ++ queue)
    (hw : s.receivers[w]? ≠ some .waiting) :
    Follows { s with router := s.router.setQueue (key frame) (some queue) }
      (.skipped w :: log) := by
  refine h.shrink (by simp) rfl (by simpa using h.dropped) (by simpa using h.received)
    (fun _ h ↦ h) (sublist_setQueue hqueue rfl) ?_ h.dispatching
  intro t v hv hr
  refine mem_setQueue hqueue rfl hv ?_
  intro hvw
  exact hw (List.mem_singleton.1 hvw ▸ hr)

theorem deliver (h : Follows s log) {queue : List ℕ} {q : Option (List ℕ)}
    (hqueue : s.router.queue frame.header.serviceType = [w] ++ queue) (hq : q.getD [] = queue)
    (hw : s.receivers[w]? = some .waiting) :
    Follows ⟨s.router.setQueue (key frame) q, s.receivers.set w (.received frame), none⟩
      (.delivered frame w :: log) := by
  have hlt : w < s.receivers.length := (List.getElem?_eq_some_iff.1 hw).1
  refine h.shrink (by simp) (by simp) ?_ ?_ ?_ (sublist_setQueue hqueue hq) ?_ rfl
  · intro v
    by_cases hv : v = w
    · have hnot := mt (h.dropped w).2 (by simp [hw])
      simp [hv, hlt, hnot]
    · rw [List.getElem?_set_ne (Ne.symm hv), h.dropped v]
      simp
  · intro v frame'
    by_cases hv : v = w
    · have hnot := mt (h.received w frame').2 (by simp [hw])
      simp [hv, hlt, hnot, eq_comm]
    · rw [List.getElem?_set_ne (Ne.symm hv), h.received v]
      simp [hv]
  · intro v hr
    by_cases hv : v = w
    · rw [hv]
      exact hw
    · rwa [List.getElem?_set_ne (Ne.symm hv)] at hr
  · intro t v hv hr
    refine mem_setQueue hqueue hq hv ?_
    intro hvw
    rw [List.mem_singleton.1 hvw, List.getElem?_set_self hlt] at hr
    cases hr

theorem return_ (h : Follows s log) {router : FrameRouter}
    (hrouter : ∀ t, router.queue t = s.router.queue t) :
    Follows ⟨router, s.receivers, none⟩ (.returned frame :: log) :=
  h.shrink (by simp) rfl (by simpa using h.dropped) (by simpa using h.received) (fun _ h ↦ h)
    (fun t ↦ by rw [hrouter t]) (fun t w hw _ ↦ by rwa [hrouter t]) rfl

theorem react (h : Follows s log) {a : Action} {s' : State} {e : Event}
    (hreact : react a s = some (s', e)) : Follows s' (e :: log) ∧ Served e log := by
  have hcons : ∀ {frame tx queue}, s.router.waiters (key frame) = some (tx :: queue) →
      s.router.queue frame.header.serviceType = [tx] ++ queue := by
    intro frame tx queue hqueue
    rw [FrameRouter.queue, ← key, hqueue]
    rfl
  obtain ⟨t, -, hd, rfl, rfl⟩ | ⟨w, -, hw, rfl, rfl⟩ | ⟨frame, -, hd, rfl, rfl⟩ |
    ⟨frame, tx, queue, -, hd, hqueue, hw, rfl, rfl⟩ |
    ⟨frame, tx, queue, -, hd, hqueue, hw, rfl, rfl⟩ | ⟨frame, -, hd, hqueue, rfl, hs⟩ :=
    react_cases hreact
  · exact ⟨h.register hd t, h.count⟩
  · exact ⟨h.drop hw, trivial⟩
  · exact ⟨h.dispatch frame, h.dispatching.symm.trans hd⟩
  · exact ⟨h.skip (hcons hqueue) hw, trivial⟩
  · refine ⟨h.deliver (hcons hqueue) (getD_if_isEmpty queue) hw, h.dispatching.symm.trans hd,
      ?_, ?_⟩
    · have hmem : tx ∈ s.router.queue frame.header.serviceType := by
        rw [hcons hqueue]
        exact .head _
      exact h.waiting_iff.2 ⟨h.queue_typed _ tx hmem, hw⟩
    -- The queue has all who wait, in the order of their registration.
    · intro other hother
      obtain ⟨hreg, hr⟩ := h.waiting_iff.1 hother
      have hmem := h.queued _ other hreg hr
      have hsorted := h.sorted frame.header.serviceType
      rw [hcons hqueue] at hmem hsorted
      rcases List.mem_cons.1 hmem with hother | hmem
      · exact hother.ge
      · exact ((List.pairwise_cons.1 hsorted).1 other hmem).le
  · refine ⟨?_, h.dispatching.symm.trans hd, ?_⟩
    · rcases hs with rfl | rfl
      · refine h.return_ fun t ↦ ?_
        rw [key, queue_setQueue]
        split
        · next ht =>
          rw [ht]
          exact hqueue.symm
        · rfl
      · exact h.return_ fun _ ↦ rfl
    · intro other hother
      obtain ⟨hreg, hr⟩ := h.waiting_iff.1 hother
      have hmem := h.queued _ other hreg hr
      rw [FrameRouter.queue, ← key, hqueue] at hmem
      cases hmem

theorem run (actions : List Action) : Follows (run actions).state (run actions).log :=
  Journal.run_invariant (fun _ _ _ _ _ h hreact ↦ (h.react hreact).1) start actions

end Follows

def Answered (frame : KnxIpFrame) (before after : List Event) : Prop :=
  ∃ e earlier, e :: earlier <:+ after ∧ before <:+ earlier ∧
    (e = .returned frame ∨ ∃ w, e = .delivered frame w)

theorem Answered.trans {frame : KnxIpFrame} {before middle after : List Event}
    (h : Answered frame middle after) (hbefore : before <:+ middle) :
    Answered frame before after := by
  obtain ⟨e, earlier, he, hmiddle, hanswer⟩ := h
  exact ⟨e, earlier, he, hbefore.trans hmiddle, hanswer⟩

end FrameRouter

end Knust.Transport
