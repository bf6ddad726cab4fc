import Knust.Foundation.Concurrent
import Knust.Foundation.Heap
import Knust.Protocol.Telegram

namespace Knust.Protocol

/-- The position of a priority in the order that the source gives it: lower goes
first, and urgent telegrams go before normal ones. -/
def TelegramPriority.rank : TelegramPriority → ℕ
  | .system => 0
  | .urgent => 1
  | .normal => 2
  | .low => 3

def TelegramPriority.cmp (a b : TelegramPriority) : Ordering := compare a.rank b.rank

end Knust.Protocol

namespace Knust.Transport.Queue

open Foundation Protocol

/-- The time of arrival only enters an average that nothing reads. -/
structure PriorityTelegram where
  telegram : Telegram
  sequence : ℕ
  deriving DecidableEq

namespace PriorityTelegram

def rank (p : PriorityTelegram) : ℕ := p.telegram.priority.rank

def cmp (p q : PriorityTelegram) : Ordering :=
  match q.telegram.priority.cmp p.telegram.priority with
  | .eq => compare q.sequence p.sequence
  | otherOrder => otherOrder

theorem cmp_ne_lt_iff {p q : PriorityTelegram} :
    p.cmp q ≠ .lt ↔ p.rank < q.rank ∨ p.rank = q.rank ∧ p.sequence ≤ q.sequence := by
  have hrank : q.telegram.priority.cmp p.telegram.priority = compare q.rank p.rank := rfl
  simp only [cmp, hrank]
  rcases Nat.lt_trichotomy q.rank p.rank with h | h | h
  · rw [Nat.compare_eq_lt.mpr h]
    simp
    omega
  · rw [Nat.compare_eq_eq.mpr h]
    simp only [ne_eq, Nat.compare_eq_lt]
    omega
  · rw [Nat.compare_eq_gt.mpr h]
    simp
    omega

def scanningHeap : HeapPop PriorityTelegram cmp :=
  .ofScan
    (by
      intro p q hlt
      rw [cmp_ne_lt_iff]
      by_contra hqp
      have hpq : p.cmp q ≠ .lt := cmp_ne_lt_iff.mpr (by omega)
      exact hpq hlt)
    (by
      intro p q r hpq hqr
      rw [cmp_ne_lt_iff] at *
      omega)

end PriorityTelegram

structure QueueConfig where
  maxSize : ℕ
  priorityProcessing : Bool := true

structure QueueStats where
  totalEnqueued : ℕ
  totalDequeued : ℕ
  currentSize : ℕ
  peakSize : ℕ
  droppedCount : ℕ
  sequenceCounter : ℕ
  deriving DecidableEq

structure QueueState where
  outgoing : List PriorityTelegram
  incoming : List Telegram
  stats : QueueStats
  closed : Bool
  deriving DecidableEq

inductive Popped
  | telegram (telegram : Telegram)
  | closed
  | empty
  deriving DecidableEq

namespace QueueState

def new : QueueState := ⟨[], [], ⟨0, 0, 0, 0, 0, 0⟩, false⟩

def size (s : QueueState) : ℕ := s.outgoing.length + s.incoming.length

def dropTelegram (s : QueueState) : QueueState :=
  { s with stats := { s.stats with droppedCount := s.stats.droppedCount + 1 } }

def countEnqueued (s : QueueState) : QueueState :=
  { s with stats := { s.stats with
      totalEnqueued := s.stats.totalEnqueued + 1
      currentSize := s.size
      peakSize := max s.stats.peakSize s.size } }

def countDequeued (s : QueueState) : QueueState :=
  { s with stats := { s.stats with
      totalDequeued := s.stats.totalDequeued + 1
      currentSize := s.size } }

def pushOutgoing (config : QueueConfig) (telegram : Telegram) (s : QueueState) :
    Result Unit × QueueState :=
  if s.closed then (.err (.transport .queueClosed), s)
  else if s.outgoing.length ≥ config.maxSize then (.err (.transport .queueFull), s.dropTelegram)
  else
    let priorityTelegram : PriorityTelegram := ⟨telegram, s.stats.sequenceCounter⟩
    let stats := { s.stats with sequenceCounter := s.stats.sequenceCounter + 1 }
    -- Both settings of the configuration push into the same heap.
    let outgoing :=
      if config.priorityProcessing then priorityTelegram :: s.outgoing
      else priorityTelegram :: s.outgoing
    (.ok (), { s with outgoing, stats }.countEnqueued)

def pushIncoming (config : QueueConfig) (telegram : Telegram) (s : QueueState) :
    Result Unit × QueueState :=
  if s.closed then (.err (.transport .queueClosed), s)
  else if s.incoming.length ≥ config.maxSize then (.err (.transport .queueFull), s.dropTelegram)
  else (.ok (), { s with incoming := s.incoming ++ [telegram] }.countEnqueued)

variable (heap : HeapPop PriorityTelegram PriorityTelegram.cmp)

def popOutgoing (s : QueueState) : Popped × QueueState :=
  match heap.pop s.outgoing with
  | some (priorityTelegram, outgoing) =>
    (.telegram priorityTelegram.telegram, { s with outgoing }.countDequeued)
  | none => (if s.closed then .closed else .empty, s)

def popIncoming (s : QueueState) : Popped × QueueState :=
  match s.incoming with
  | telegram :: incoming => (.telegram telegram, { s with incoming }.countDequeued)
  | [] => (if s.closed then .closed else .empty, s)

def push (config : QueueConfig) : Direction → Telegram → QueueState → Result Unit × QueueState
  | .outgoing => pushOutgoing config
  | .incoming => pushIncoming config

def pop : Direction → QueueState → Popped × QueueState
  | .outgoing => popOutgoing heap
  | .incoming => popIncoming

theorem pushOutgoing_cases (config : QueueConfig) (telegram : Telegram) (s : QueueState) :
    (s.closed = true ∧ s.pushOutgoing config telegram = (.err (.transport .queueClosed), s)) ∨
    (s.closed = false ∧ config.maxSize ≤ s.outgoing.length ∧
      s.pushOutgoing config telegram = (.err (.transport .queueFull), s.dropTelegram)) ∨
    (s.closed = false ∧ s.outgoing.length < config.maxSize ∧
      s.pushOutgoing config telegram = (.ok (), { s with
        outgoing := ⟨telegram, s.stats.sequenceCounter⟩ :: s.outgoing
        stats := { s.stats with sequenceCounter := s.stats.sequenceCounter + 1 } }.countEnqueued)) := by
  unfold pushOutgoing
  cases hc : s.closed with
  | true => exact .inl ⟨rfl, by simp⟩
  | false =>
    by_cases hm : config.maxSize ≤ s.outgoing.length
    · exact .inr (.inl ⟨rfl, hm, by simp [hm]⟩)
    · exact .inr (.inr ⟨rfl, by omega, by simp [hm]⟩)

theorem pushIncoming_cases (config : QueueConfig) (telegram : Telegram) (s : QueueState) :
    (s.closed = true ∧ s.pushIncoming config telegram = (.err (.transport .queueClosed), s)) ∨
    (s.closed = false ∧ config.maxSize ≤ s.incoming.length ∧
      s.pushIncoming config telegram = (.err (.transport .queueFull), s.dropTelegram)) ∨
    (s.closed = false ∧ s.incoming.length < config.maxSize ∧
      s.pushIncoming config telegram =
        (.ok (), { s with incoming := s.incoming ++ [telegram] }.countEnqueued)) := by
  unfold pushIncoming
  cases hc : s.closed with
  | true => exact .inl ⟨rfl, by simp⟩
  | false =>
    by_cases hm : config.maxSize ≤ s.incoming.length
    · exact .inr (.inl ⟨rfl, hm, by simp [hm]⟩)
    · exact .inr (.inr ⟨rfl, by omega, by simp [hm]⟩)

theorem popOutgoing_cases (s : QueueState) :
    (∃ p outgoing, heap.pop s.outgoing = some (p, outgoing) ∧
      s.popOutgoing heap = (.telegram p.telegram, { s with outgoing }.countDequeued)) ∨
    (s.outgoing = [] ∧ s.closed = true ∧ s.popOutgoing heap = (.closed, s)) ∨
    (s.outgoing = [] ∧ s.closed = false ∧ s.popOutgoing heap = (.empty, s)) := by
  unfold popOutgoing
  cases hpop : heap.pop s.outgoing with
  | some popped => exact .inl ⟨popped.1, popped.2, rfl, rfl⟩
  | none =>
    have hnil := heap.eq_nil_of_pop_eq_none hpop
    cases hc : s.closed with
    | true => exact .inr (.inl ⟨hnil, rfl, by simp⟩)
    | false => exact .inr (.inr ⟨hnil, rfl, by simp⟩)

theorem popIncoming_cases (s : QueueState) :
    (∃ t incoming, s.incoming = t :: incoming ∧
      s.popIncoming = (.telegram t, { s with incoming }.countDequeued)) ∨
    (s.incoming = [] ∧ s.closed = true ∧ s.popIncoming = (.closed, s)) ∨
    (s.incoming = [] ∧ s.closed = false ∧ s.popIncoming = (.empty, s)) := by
  unfold popIncoming
  cases hi : s.incoming with
  | cons t incoming => exact .inl ⟨t, incoming, rfl, rfl⟩
  | nil =>
    cases hc : s.closed with
    | true => exact .inr (.inl ⟨rfl, rfl, by simp⟩)
    | false => exact .inr (.inr ⟨rfl, rfl, by simp⟩)

end QueueState

/-- The queue behind its lock and the waits that have been created on its notifier.
A notification wakes the waits below `notified`. -/
structure State where
  queue : QueueState
  nextWait : ℕ
  notified : ℕ

def State.new : State := ⟨.new, 0, 0⟩

/-- The sections that run under the lock, and the operations on the notifier. -/
inductive Command
  | push (direction : Direction) (telegram : Telegram)
  | pop (direction : Direction)
  | close
  | notifyWaiters
  | createWait (direction : Direction)
  | await (direction : Direction) (wait : ℕ)

abbrev Command.Response : Command → Type
  | .push .. => Result Unit
  | .pop .. => Popped
  | .createWait .. => ℕ
  | .close | .notifyWaiters | .await .. => Unit

variable (heap : HeapPop PriorityTelegram PriorityTelegram.cmp) (config : QueueConfig)

def exec : Machine Command Command.Response State Unit
  | .push direction telegram, _, s =>
    let (r, queue) := s.queue.push config direction telegram
    some (r, { s with queue })
  | .pop direction, _, s =>
    let (r, queue) := s.queue.pop heap direction
    some (r, { s with queue })
  | .close, _, s => some ((), { s with queue := { s.queue with closed := true } })
  | .notifyWaiters, _, s => some ((), { s with notified := s.nextWait })
  | .createWait _, _, s => some (s.nextWait, { s with nextWait := s.nextWait + 1 })
  | .await _ wait, _, s => if wait < s.notified then some ((), s) else none

abbrev Handler (α : Type) := Task Command Command.Response KnxError α

abbrev Past := Task.History Command Command.Response

abbrev perform (c : Command) : Handler c.Response := Task.perform c

def enqueue (direction : Direction) (telegram : Telegram) : Handler Unit := do
  .done (← Queue.perform (.push direction telegram))
  Queue.perform .notifyWaiters

def enqueueOutgoing (telegram : Telegram) : Handler Unit := enqueue .outgoing telegram

def enqueueIncoming (telegram : Telegram) : Handler Unit := enqueue .incoming telegram

/-- The loop of a dequeue, for a number of rounds. A call that is still going on
after them has no result yet. -/
def dequeue (direction : Direction) : ℕ → Handler (Option (Option Telegram))
  | 0 => pure none
  | rounds + 1 => do
    match ← Queue.perform (.pop direction) with
    | .telegram telegram => pure (some (some telegram))
    | .closed => pure (some none)
    | .empty => do
      -- The lock has been released and the wait does not exist yet.
      let wait ← Queue.perform (.createWait direction)
      Queue.perform (.await direction wait)
      dequeue direction rounds

def dequeueOutgoing (rounds : ℕ) : Handler (Option (Option Telegram)) := dequeue .outgoing rounds

def dequeueIncoming (rounds : ℕ) : Handler (Option (Option Telegram)) := dequeue .incoming rounds

def close : Handler Unit := do
  Queue.perform .close
  Queue.perform .notifyWaiters

inductive Activity
  | enqueueOutgoing (telegram : Telegram)
  | enqueueIncoming (telegram : Telegram)
  | dequeueOutgoing (rounds : ℕ)
  | dequeueIncoming (rounds : ℕ)
  | close

def program : Activity → Handler Unit
  | .enqueueOutgoing telegram => Queue.enqueueOutgoing telegram
  | .enqueueIncoming telegram => Queue.enqueueIncoming telegram
  | .dequeueOutgoing rounds => do
    let _ ← Queue.dequeueOutgoing rounds
  | .dequeueIncoming rounds => do
    let _ ← Queue.dequeueIncoming rounds
  | .close => Queue.close

def start : Config Command Command.Response State KnxError := ⟨.new, [], []⟩

def run (moves : List (Move Activity Unit)) : Config Command Command.Response State KnxError :=
  start.run (exec heap config) program moves

end Knust.Transport.Queue
