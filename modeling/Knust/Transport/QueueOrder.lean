import Knust.Transport.Queue

namespace Knust.Transport.Queue

open Foundation Foundation.Task Protocol

def accepted (direction : Direction) : History Command Command.Response → List Telegram
  | ⟨.push d telegram, .ok ()⟩ :: h =>
    if d = direction then accepted direction h ++ [telegram] else accepted direction h
  | _ :: h => accepted direction h
  | [] => []

def returned (direction : Direction) : History Command Command.Response → List Telegram
  | ⟨.pop d, .telegram telegram⟩ :: h =>
    if d = direction then returned direction h ++ [telegram] else returned direction h
  | _ :: h => returned direction h
  | [] => []

def IsNext (earlier : List Telegram) (telegram : Telegram) (later : List Telegram) :
    Direction → Prop
  | .outgoing => (∀ t ∈ earlier, telegram.priority.rank < t.priority.rank) ∧
      ∀ t ∈ later, telegram.priority.rank ≤ t.priority.rank
  | .incoming => earlier = []

/-- The events that leave what is queued as it is: refusals, calls that find nothing,
and the notifier. -/
def Unchanging (queued : Direction → List Telegram) (closed : Bool) :
    (c : Command) × c.Response → Prop
  | ⟨.push _ _, r⟩ => closed = true ∧ r = .err (.transport .queueClosed)
  | ⟨.pop direction, .closed⟩ => closed = true ∧ queued direction = []
  | ⟨.pop direction, .empty⟩ => closed = false ∧ queued direction = []
  | ⟨.notifyWaiters, _⟩ | ⟨.createWait _, _⟩ | ⟨.await _ _, _⟩ => True
  | _ => False

/-- What a queue with two directions has to do, as the histories, the latest event
first, that leave the given telegrams queued, in the order of their arrival, and the
queue closed or not. -/
inductive Serves (maxSize : ℕ) :
    History Command Command.Response → (Direction → List Telegram) → Bool → Prop
  | opened : Serves maxSize [] (fun _ ↦ []) false
  | accept {h queued} (direction : Direction) (telegram : Telegram)
    (hs : Serves maxSize h queued false) (hroom : (queued direction).length < maxSize) :
    Serves maxSize (⟨.push direction telegram, .ok ()⟩ :: h)
      (Function.update queued direction (queued direction ++ [telegram])) false
  | refuse {h queued} (direction : Direction) (telegram : Telegram)
    (hs : Serves maxSize h queued false) (hfull : maxSize ≤ (queued direction).length) :
    Serves maxSize (⟨.push direction telegram, .err (.transport .queueFull)⟩ :: h) queued false
  | take {h queued closed earlier later} (direction : Direction) (telegram : Telegram)
    (hs : Serves maxSize h queued closed) (hq : queued direction = earlier ++ telegram :: later)
    (hnext : IsNext earlier telegram later direction) :
    Serves maxSize (⟨.pop direction, .telegram telegram⟩ :: h)
      (Function.update queued direction (earlier ++ later)) closed
  | close {h queued closed} (hs : Serves maxSize h queued closed) :
    Serves maxSize (⟨.close, ()⟩ :: h) queued true
  | unchanged {h queued closed e} (hs : Serves maxSize h queued closed)
    (he : Unchanging queued closed e) : Serves maxSize (e :: h) queued closed

theorem accepted_of_unchanging {queued : Direction → List Telegram} {closed : Bool}
    {e : (c : Command) × c.Response} (he : Unchanging queued closed e) (direction : Direction)
    (h : Past) :
    accepted direction (e :: h) = accepted direction h ∧
      returned direction (e :: h) = returned direction h := by
  obtain ⟨c, r⟩ := e
  cases c with
  | push d telegram =>
    obtain ⟨-, rfl⟩ := he
    exact ⟨rfl, rfl⟩
  | pop d =>
    cases r with
    | telegram t => exact he.elim
    | closed => exact ⟨rfl, rfl⟩
    | empty => exact ⟨rfl, rfl⟩
  | close => exact he.elim
  | notifyWaiters => exact ⟨rfl, rfl⟩
  | createWait d => exact ⟨rfl, rfl⟩
  | await d wait => exact ⟨rfl, rfl⟩

namespace Serves

variable {maxSize : ℕ} {h : Past} {queued : Direction → List Telegram} {closed : Bool}

/-- A property of what was accepted and returned in a direction and of what is queued there holds
if it is kept by the acceptance of a telegram for which there is room, and by the return of the
next one. -/
theorem tally (direction : Direction) {B : List Telegram → List Telegram → List Telegram → Prop}
    (hnil : B [] [] [])
    (haccept : ∀ a r q t, q.length < maxSize → B a r q → B (a ++ [t]) r (q ++ [t]))
    (htake : ∀ a r earlier t later, IsNext earlier t later direction →
      B a r (earlier ++ t :: later) → B a (r ++ [t]) (earlier ++ later))
    (hs : Serves maxSize h queued closed) :
    B (accepted direction h) (returned direction h) (queued direction) := by
  induction hs with
  | opened => exact hnil
  | refuse d telegram hs hfull ih => exact ih
  | close hs ih => exact ih
  | unchanged hs he ih =>
    obtain ⟨ha, hr⟩ := accepted_of_unchanging he direction _
    rwa [ha, hr]
  | accept d telegram hs hroom ih =>
    rename_i h queued
    have hr : returned direction (⟨.push d telegram, .ok ()⟩ :: h) = returned direction h := rfl
    rw [accepted, hr]
    by_cases hd : direction = d
    · subst hd
      rw [if_pos rfl, Function.update_self]
      exact haccept _ _ _ telegram hroom ih
    · rwa [if_neg (Ne.symm hd), Function.update_of_ne hd]
  | take d telegram hs hq hnext ih =>
    rename_i h queued closed earlier later
    have ha : accepted direction (⟨.pop d, .telegram telegram⟩ :: h) = accepted direction h := rfl
    rw [returned, ha]
    by_cases hd : direction = d
    · subst hd
      rw [if_pos rfl, Function.update_self]
      exact htake _ _ _ telegram _ hnext (hq ▸ ih)
    · rwa [if_neg (Ne.symm hd), Function.update_of_ne hd]

theorem length_le (hs : Serves maxSize h queued closed) (direction : Direction) :
    (queued direction).length ≤ maxSize := by
  refine hs.tally direction (B := fun _ _ q ↦ q.length ≤ maxSize) (Nat.zero_le _) ?_ ?_
  · intro a r q t hroom hq
    rw [List.length_append, List.length_singleton]
    omega
  · intro a r earlier t later hnext hq
    rw [List.length_append, List.length_cons] at hq
    rw [List.length_append]
    omega

end Serves

/-- The state of the source stands for the queued telegrams: the heap has them in any
order, with numbers that follow their arrival. -/
structure Represents (s : QueueState) (queued : Direction → List Telegram) : Prop where
  outgoing : ∃ q : List PriorityTelegram, s.outgoing.Perm q ∧
    q.Pairwise (fun p p' ↦ p.sequence < p'.sequence) ∧
    (∀ p ∈ q, p.sequence < s.stats.sequenceCounter) ∧
    q.map PriorityTelegram.telegram = queued .outgoing
  incoming : s.incoming = queued .incoming
  counted : s.stats.totalEnqueued = s.stats.totalDequeued + s.size
  current : s.stats.currentSize = s.size

variable {heap : HeapPop PriorityTelegram PriorityTelegram.cmp} {config : QueueConfig}
  {s : QueueState} {queued : Direction → List Telegram} {telegram : Telegram}

theorem Represents.length_outgoing (hr : Represents s queued) :
    s.outgoing.length = (queued .outgoing).length := by
  obtain ⟨q, hperm, -, -, hq⟩ := hr.outgoing
  rw [hperm.length_eq, ← hq, List.length_map]

theorem Represents.dropTelegram (hr : Represents s queued) : Represents s.dropTelegram queued :=
  ⟨hr.outgoing, hr.incoming, hr.counted, hr.current⟩

theorem Represents.acceptOutgoing (hr : Represents s queued) :
    Represents { s with
      outgoing := ⟨telegram, s.stats.sequenceCounter⟩ :: s.outgoing
      stats := { s.stats with sequenceCounter := s.stats.sequenceCounter + 1 } }.countEnqueued
      (Function.update queued .outgoing (queued .outgoing ++ [telegram])) := by
  obtain ⟨q, hperm, hsorted, hbelow, hq⟩ := hr.outgoing
  refine ⟨⟨q ++ [⟨telegram, s.stats.sequenceCounter⟩], ?_, ?_, ?_, ?_⟩, ?_, ?_, rfl⟩
  · exact (hperm.cons _).trans (List.perm_append_singleton _ _).symm
  · rw [List.pairwise_append]
    exact ⟨hsorted, List.pairwise_singleton _ _, by simpa using hbelow⟩
  · intro p hp
    rcases List.mem_append.mp hp with hp | hp
    · exact (hbelow p hp).trans (Nat.lt_succ_self _)
    · rw [List.mem_singleton.mp hp]
      exact Nat.lt_succ_self _
  · rw [Function.update_self, List.map_append, hq]
    rfl
  · rw [Function.update_of_ne (by simp)]
    exact hr.incoming
  · have := hr.counted
    simp only [QueueState.countEnqueued, QueueState.size, List.length_cons] at this ⊢
    omega

theorem Represents.acceptIncoming (hr : Represents s queued) :
    Represents { s with incoming := s.incoming ++ [telegram] }.countEnqueued
      (Function.update queued .incoming (queued .incoming ++ [telegram])) := by
  refine ⟨?_, ?_, ?_, rfl⟩
  · rw [Function.update_of_ne (by simp)]
    exact hr.outgoing
  · rw [Function.update_self, ← hr.incoming]
    rfl
  · have := hr.counted
    simp only [QueueState.countEnqueued, QueueState.size, List.length_append,
      List.length_singleton] at this ⊢
    omega

theorem Represents.takeOutgoing (hr : Represents s queued) {p : PriorityTelegram}
    {rest : List PriorityTelegram} (hpop : heap.pop s.outgoing = some (p, rest)) :
    ∃ earlier later, queued .outgoing = earlier ++ p.telegram :: later ∧
      IsNext earlier p.telegram later .outgoing ∧
      Represents { s with outgoing := rest }.countDequeued
        (Function.update queued .outgoing (earlier ++ later)) := by
  obtain ⟨q, hperm, hsorted, hbelow, hq⟩ := hr.outgoing
  have hperm' : q.Perm (p :: rest) := hperm.symm.trans (heap.perm hpop)
  obtain ⟨before, after, rfl⟩ := List.append_of_mem (hperm'.symm.subset List.mem_cons_self)
  have hrest : rest.Perm (before ++ after) :=
    (List.perm_cons p).mp (hperm'.symm.trans List.perm_middle)
  have hgreatest : ∀ p' ∈ before ++ after,
      p.rank < p'.rank ∨ p.rank = p'.rank ∧ p.sequence ≤ p'.sequence := fun p' hp' ↦
    PriorityTelegram.cmp_ne_lt_iff.mp (heap.greatest hpop p' (hrest.symm.subset hp'))
  refine ⟨before.map PriorityTelegram.telegram, after.map PriorityTelegram.telegram, ?_, ⟨?_, ?_⟩,
    ⟨⟨before ++ after, hrest, ?_, ?_, ?_⟩, ?_, ?_, rfl⟩⟩
  · rw [← hq, List.map_append, List.map_cons]
  · intro t ht
    obtain ⟨p', hp', rfl⟩ := List.mem_map.mp ht
    have hseq : p'.sequence < p.sequence :=
      (List.pairwise_append.mp hsorted).2.2 p' hp' p List.mem_cons_self
    have hg := hgreatest p' (List.mem_append_left _ hp')
    show p.rank < p'.rank
    omega
  · intro t ht
    obtain ⟨p', hp', rfl⟩ := List.mem_map.mp ht
    have hg := hgreatest p' (List.mem_append_right _ hp')
    show p.rank ≤ p'.rank
    omega
  · exact hsorted.sublist ((List.sublist_cons_self p after).append_left before)
  · intro p' hp'
    refine hbelow p' ?_
    rcases List.mem_append.mp hp' with h | h
    · exact List.mem_append_left _ h
    · exact List.mem_append_right _ (List.mem_cons_of_mem _ h)
  · rw [Function.update_self, List.map_append]
  · rw [Function.update_of_ne (by simp)]
    exact hr.incoming
  · have hcounted := hr.counted
    have hlen := (heap.perm hpop).length_eq
    simp only [QueueState.countDequeued, QueueState.size, List.length_cons] at hcounted hlen ⊢
    omega

theorem Represents.takeIncoming (hr : Represents s queued) {rest : List Telegram}
    (hs : s.incoming = telegram :: rest) :
    Represents { s with incoming := rest }.countDequeued (Function.update queued .incoming rest) := by
  refine ⟨?_, ?_, ?_, rfl⟩
  · rw [Function.update_of_ne (by simp)]
    exact hr.outgoing
  · rw [Function.update_self]
    rfl
  · have hcounted := hr.counted
    simp only [QueueState.countDequeued, QueueState.size, hs, List.length_cons] at hcounted ⊢
    omega

section

variable {h : Past}

theorem Serves.push (hs : Serves config.maxSize h queued s.closed) (hr : Represents s queued)
    (direction : Direction) (telegram : Telegram) :
    ∃ queued', Serves config.maxSize
        (⟨.push direction telegram, (s.push config direction telegram).1⟩ :: h) queued'
        (s.push config direction telegram).2.closed ∧
      Represents (s.push config direction telegram).2 queued' := by
  cases direction with
  | outgoing =>
    show ∃ queued', Serves config.maxSize
        (⟨.push .outgoing telegram, (s.pushOutgoing config telegram).1⟩ :: h) queued'
        (s.pushOutgoing config telegram).2.closed ∧
      Represents (s.pushOutgoing config telegram).2 queued'
    rcases QueueState.pushOutgoing_cases config telegram s with
      ⟨hc, he⟩ | ⟨hc, hm, he⟩ | ⟨hc, hm, he⟩
    · rw [he]
      exact ⟨queued, hs.unchanged ⟨hc, rfl⟩, hr⟩
    · rw [he]
      rw [hc] at hs
      rw [hr.length_outgoing] at hm
      refine ⟨queued, ?_, hr.dropTelegram⟩
      rw [show s.dropTelegram.closed = false from hc]
      exact hs.refuse .outgoing telegram hm
    · rw [he]
      rw [hc] at hs
      rw [hr.length_outgoing] at hm
      refine ⟨_, ?_, hr.acceptOutgoing⟩
      show Serves config.maxSize _ _ s.closed
      rw [hc]
      exact hs.accept .outgoing telegram hm
  | incoming =>
    show ∃ queued', Serves config.maxSize
        (⟨.push .incoming telegram, (s.pushIncoming config telegram).1⟩ :: h) queued'
        (s.pushIncoming config telegram).2.closed ∧
      Represents (s.pushIncoming config telegram).2 queued'
    rcases QueueState.pushIncoming_cases config telegram s with
      ⟨hc, he⟩ | ⟨hc, hm, he⟩ | ⟨hc, hm, he⟩
    · rw [he]
      exact ⟨queued, hs.unchanged ⟨hc, rfl⟩, hr⟩
    · rw [he]
      rw [hc] at hs
      rw [hr.incoming] at hm
      refine ⟨queued, ?_, hr.dropTelegram⟩
      rw [show s.dropTelegram.closed = false from hc]
      exact hs.refuse .incoming telegram hm
    · rw [he]
      rw [hc] at hs
      rw [hr.incoming] at hm
      refine ⟨_, ?_, hr.acceptIncoming⟩
      show Serves config.maxSize _ _ s.closed
      rw [hc]
      exact hs.accept .incoming telegram hm

theorem Represents.queued_eq_nil (hr : Represents s queued) (hs : s.outgoing = []) :
    queued .outgoing = [] := by
  rw [← List.length_eq_zero_iff, ← hr.length_outgoing, hs, List.length_nil]

theorem Serves.pop (hs : Serves config.maxSize h queued s.closed) (hr : Represents s queued)
    (direction : Direction) :
    ∃ queued', Serves config.maxSize (⟨.pop direction, (s.pop heap direction).1⟩ :: h) queued'
        (s.pop heap direction).2.closed ∧
      Represents (s.pop heap direction).2 queued' := by
  cases direction with
  | outgoing =>
    show ∃ queued', Serves config.maxSize (⟨.pop .outgoing, (s.popOutgoing heap).1⟩ :: h) queued'
        (s.popOutgoing heap).2.closed ∧ Represents (s.popOutgoing heap).2 queued'
    rcases QueueState.popOutgoing_cases heap s with
      ⟨p, rest, hpop, he⟩ | ⟨ho, hc, he⟩ | ⟨ho, hc, he⟩
    · obtain ⟨earlier, later, hq, hnext, hr'⟩ := hr.takeOutgoing hpop
      rw [he]
      exact ⟨_, hs.take .outgoing p.telegram hq hnext, hr'⟩
    · rw [he]
      exact ⟨queued, hs.unchanged ⟨hc, hr.queued_eq_nil ho⟩, hr⟩
    · rw [he]
      exact ⟨queued, hs.unchanged ⟨hc, hr.queued_eq_nil ho⟩, hr⟩
  | incoming =>
    show ∃ queued', Serves config.maxSize (⟨.pop .incoming, s.popIncoming.1⟩ :: h) queued'
        s.popIncoming.2.closed ∧ Represents s.popIncoming.2 queued'
    rcases QueueState.popIncoming_cases s with ⟨t, rest, hi, he⟩ | ⟨hi, hc, he⟩ | ⟨hi, hc, he⟩
    · rw [he]
      have hq : queued .incoming = [] ++ t :: rest := hr.incoming.symm.trans hi
      exact ⟨_, hs.take .incoming t hq rfl, hr.takeIncoming hi⟩
    · rw [he]
      exact ⟨queued, hs.unchanged ⟨hc, by rw [← hr.incoming]; exact hi⟩, hr⟩
    · rw [he]
      exact ⟨queued, hs.unchanged ⟨hc, by rw [← hr.incoming]; exact hi⟩, hr⟩

end

structure Correct (maxSize : ℕ) (h : History Command Command.Response) (s : QueueState) :
    Prop where
  serves : ∃ queued, Serves maxSize h queued s.closed
  outgoing : (accepted .outgoing h).Perm
    (returned .outgoing h ++ s.outgoing.map PriorityTelegram.telegram)
  incoming : accepted .incoming h = returned .incoming h ++ s.incoming
  drained : ∀ direction, ⟨.pop direction, .closed⟩ ∈ h →
    (accepted direction h).Perm (returned direction h)
  outgoing_le : s.outgoing.length ≤ maxSize
  incoming_le : s.incoming.length ≤ maxSize
  counted : s.stats.totalEnqueued = s.stats.totalDequeued + s.stats.currentSize

end Knust.Transport.Queue
