import Knust.Application.Bus
import Knust.Foundation.Roster

namespace Knust.Application.Callbacks

open Foundation Protocol

abbrev CallbackHandle := UInt64

structure TelegramCallbackEntry (C : Type) where
  id : CallbackHandle
  callback : C
  filter : Bus.TelegramFilter
  includeOutgoing : Bool

structure ConnectionCallbackEntry (D : Type) where
  id : CallbackHandle
  callback : D

structure EventHandler (C D : Type) where
  telegramCallbacks : List (TelegramCallbackEntry C)
  connectionCallbacks : List (ConnectionCallbackEntry D)
  nextId : UInt64

inductive Ending
  | returned
  | timedOut
  | panicked
  deriving DecidableEq

structure Notification (C : Type) where
  called : List (TelegramCallbackEntry C)
  returned : Bool

variable {C D : Type}

/-- The loop over the callbacks, given how the invocation of each of them would end. A panic
leaves the loop. -/
def callEach (telegram : Telegram) (ending : ℕ → Ending) :
    List (TelegramCallbackEntry C) → Notification C
  | [] => ⟨[], true⟩
  | entry :: entries =>
    if !entry.includeOutgoing ∧ telegram.direction = .outgoing then
      callEach telegram (fun n ↦ ending (n + 1)) entries
    else if !entry.filter.matches telegram then callEach telegram (fun n ↦ ending (n + 1)) entries
    else match ending 0 with
      | .returned | .timedOut =>
        let rest := callEach telegram (fun n ↦ ending (n + 1)) entries
        ⟨entry :: rest.called, rest.returned⟩
      | .panicked => ⟨[entry], false⟩

namespace EventHandler

def new : EventHandler C D := ⟨[], [], 1⟩

def generateHandle (handler : EventHandler C D) : CallbackHandle × EventHandler C D :=
  (handler.nextId, { handler with nextId := handler.nextId + 1 })

def registerTelegramCallbackFiltered (handler : EventHandler C D) (callback : C)
    (filter : Bus.TelegramFilter) (includeOutgoing : Bool) : CallbackHandle × EventHandler C D :=
  let generated := handler.generateHandle
  (generated.1, { generated.2 with
    telegramCallbacks :=
      generated.2.telegramCallbacks ++ [⟨generated.1, callback, filter, includeOutgoing⟩] })

def registerTelegramCallback (handler : EventHandler C D) (callback : C) :
    CallbackHandle × EventHandler C D :=
  handler.registerTelegramCallbackFiltered callback .all false

def registerConnectionCallback (handler : EventHandler C D) (callback : D) :
    CallbackHandle × EventHandler C D :=
  let generated := handler.generateHandle
  (generated.1, { generated.2 with
    connectionCallbacks := generated.2.connectionCallbacks ++ [⟨generated.1, callback⟩] })

def unregisterTelegramCallback (handler : EventHandler C D) (handle : CallbackHandle) :
    Bool × EventHandler C D :=
  match handler.telegramCallbacks.findIdx? (·.id = handle) with
  | some pos =>
    (true, { handler with telegramCallbacks := handler.telegramCallbacks.eraseIdx pos })
  | none => (false, handler)

def unregisterConnectionCallback (handler : EventHandler C D) (handle : CallbackHandle) :
    Bool × EventHandler C D :=
  match handler.connectionCallbacks.findIdx? (·.id = handle) with
  | some pos =>
    (true, { handler with connectionCallbacks := handler.connectionCallbacks.eraseIdx pos })
  | none => (false, handler)

def unregisterCallback (handler : EventHandler C D) (handle : CallbackHandle) :
    Bool × EventHandler C D :=
  let telegram := handler.unregisterTelegramCallback handle
  let connection := telegram.2.unregisterConnectionCallback handle
  (telegram.1 || connection.1, connection.2)

def clearAllCallbacks (handler : EventHandler C D) : EventHandler C D :=
  { handler with telegramCallbacks := [], connectionCallbacks := [] }

def notifyTelegramReceived (handler : EventHandler C D) (telegram : Telegram)
    (ending : ℕ → Ending) : Notification C := callEach telegram ending handler.telegramCallbacks

end EventHandler

/-- The calls of a handler, with what happens in a notification. -/
inductive Op (C D : Type)
  | registerTelegramCallback (callback : C) (filter : Bus.TelegramFilter) (includeOutgoing : Bool)
  | registerConnectionCallback (callback : D)
  | unregisterTelegramCallback (handle : CallbackHandle)
  | unregisterConnectionCallback (handle : CallbackHandle)
  | unregisterCallback (handle : CallbackHandle)
  | clearAllCallbacks
  | notifyTelegramReceived (telegram : Telegram) (ending : ℕ → Ending)

namespace Op

def apply (handler : EventHandler C D) : Op C D → EventHandler C D
  | .registerTelegramCallback callback filter includeOutgoing =>
    (handler.registerTelegramCallbackFiltered callback filter includeOutgoing).2
  | .registerConnectionCallback callback => (handler.registerConnectionCallback callback).2
  | .unregisterTelegramCallback handle => (handler.unregisterTelegramCallback handle).2
  | .unregisterConnectionCallback handle => (handler.unregisterConnectionCallback handle).2
  | .unregisterCallback handle => (handler.unregisterCallback handle).2
  | .clearAllCallbacks => handler.clearAllCallbacks
  | .notifyTelegramReceived _ _ => handler

def handle? (handler : EventHandler C D) : Op C D → Option CallbackHandle
  | .registerTelegramCallback callback filter includeOutgoing =>
    some (handler.registerTelegramCallbackFiltered callback filter includeOutgoing).1
  | .registerConnectionCallback callback => some (handler.registerConnectionCallback callback).1
  | .unregisterTelegramCallback _ => none
  | .unregisterConnectionCallback _ => none
  | .unregisterCallback _ => none
  | .clearAllCallbacks => none
  | .notifyTelegramReceived _ _ => none

def isRegistration : Op C D → Bool
  | .registerTelegramCallback _ _ _ => true
  | .registerConnectionCallback _ => true
  | .unregisterTelegramCallback _ => false
  | .unregisterConnectionCallback _ => false
  | .unregisterCallback _ => false
  | .clearAllCallbacks => false
  | .notifyTelegramReceived _ _ => false

def telegramChange? (handle : CallbackHandle) :
    Op C D → Option (Change (TelegramCallbackEntry C) CallbackHandle)
  | .registerTelegramCallback callback filter includeOutgoing =>
    some (.add ⟨handle, callback, filter, includeOutgoing⟩)
  | .registerConnectionCallback _ => none
  | .unregisterTelegramCallback handle => some (.remove handle)
  | .unregisterConnectionCallback _ => none
  | .unregisterCallback handle => some (.remove handle)
  | .clearAllCallbacks => some .clear
  | .notifyTelegramReceived _ _ => none

def connectionChange? (handle : CallbackHandle) :
    Op C D → Option (Change (ConnectionCallbackEntry D) CallbackHandle)
  | .registerTelegramCallback _ _ _ => none
  | .registerConnectionCallback callback => some (.add ⟨handle, callback⟩)
  | .unregisterTelegramCallback _ => none
  | .unregisterConnectionCallback handle => some (.remove handle)
  | .unregisterCallback handle => some (.remove handle)
  | .clearAllCallbacks => some .clear
  | .notifyTelegramReceived _ _ => none

end Op

def run (ops : List (Op C D)) : EventHandler C D := ops.foldl Op.apply .new

def handles : EventHandler C D → List (Op C D) → List CallbackHandle
  | _, [] => []
  | handler, op :: ops => (op.handle? handler).toList ++ handles (op.apply handler) ops

/-- What the calls say about one kind of callbacks, under the handles that are handed out. -/
def changes {α : Type} (change? : CallbackHandle → Op C D → Option (Change α CallbackHandle)) :
    EventHandler C D → List (Op C D) → List (Change α CallbackHandle)
  | _, [] => []
  | handler, op :: ops =>
    (change? handler.nextId op).toList ++ changes change? (op.apply handler) ops

def registered (ops : List (Op C D)) : List (TelegramCallbackEntry C) :=
  remaining TelegramCallbackEntry.id (changes Op.telegramChange? .new ops)

def wants (telegram : Telegram) (entry : TelegramCallbackEntry C) : Bool :=
  (entry.includeOutgoing || telegram.direction ≠ .outgoing) && entry.filter.matches telegram

/-- No callback that is to be called panics if there is another one after it. -/
def Isolated (telegram : Telegram) (ending : ℕ → Ending)
    (entries : List (TelegramCallbackEntry C)) : Prop :=
  ∀ pos later entry entry', pos < later → entries[pos]? = some entry →
    entries[later]? = some entry' → wants telegram entry → wants telegram entry' →
    ending pos ≠ .panicked

structure Correct (ops : List (Op C D)) : Prop where
  distinct : (handles .new ops).Nodup
  notified : ∀ before telegram ending after,
    ops = before ++ .notifyTelegramReceived telegram ending :: after →
    ((run before).notifyTelegramReceived telegram ending).called =
      (registered before).filter (wants telegram)
  removed : ∀ before handle after, ops = before ++ .unregisterCallback handle :: after →
    ((run before).unregisterCallback handle).2.telegramCallbacks =
        (run before).telegramCallbacks.filter (·.id ≠ handle) ∧
      ((run before).unregisterCallback handle).2.connectionCallbacks =
        (run before).connectionCallbacks.filter (·.id ≠ handle)
  removedTelegram : ∀ before handle after,
    ops = before ++ .unregisterTelegramCallback handle :: after →
    (run before).unregisterTelegramCallback handle =
      ((run before).telegramCallbacks.any (·.id = handle), { run before with
        telegramCallbacks := (run before).telegramCallbacks.filter (·.id ≠ handle) })
  removedConnection : ∀ before handle after,
    ops = before ++ .unregisterConnectionCallback handle :: after →
    (run before).unregisterConnectionCallback handle =
      ((run before).connectionCallbacks.any (·.id = handle), { run before with
        connectionCallbacks := (run before).connectionCallbacks.filter (·.id ≠ handle) })

section

variable {telegram : Telegram} {ending : ℕ → Ending} {entry : TelegramCallbackEntry C}
  {entries : List (TelegramCallbackEntry C)} {handler : EventHandler C D} {op : Op C D}
  {ops : List (Op C D)}

theorem isolated_cons_iff : Isolated telegram ending (entry :: entries) ↔
    (wants telegram entry → ending 0 = .panicked → entries.filter (wants telegram) = []) ∧
      Isolated telegram (fun n ↦ ending (n + 1)) entries := by
  constructor
  · intro h
    constructor
    · intro hentry hpanic
      rw [List.filter_eq_nil_iff]
      intro entry' hmem hentry'
      obtain ⟨later, hlater⟩ := List.mem_iff_getElem?.mp hmem
      exact h 0 (later + 1) entry entry' (Nat.succ_pos later) rfl hlater hentry hentry' hpanic
    · intro pos later e e' hlt hpos hlater
      exact h (pos + 1) (later + 1) e e' (Nat.succ_lt_succ hlt) hpos hlater
  · intro h pos later e e' hlt hpos hlater hwants hwants' hpanic
    obtain ⟨hhead, htail⟩ := h
    obtain ⟨later, rfl⟩ := Nat.exists_eq_succ_of_ne_zero (Nat.ne_zero_of_lt hlt)
    cases pos with
    | zero =>
      obtain rfl := Option.some.inj hpos
      have hnone := List.filter_eq_nil_iff.mp (hhead hwants hpanic)
      exact hnone e' (List.mem_of_getElem? hlater) hwants'
    | succ pos =>
      exact htail pos later e e' (Nat.lt_of_succ_lt_succ hlt) hpos hlater hwants hwants' hpanic

theorem callEach_of_not_wants (h : wants telegram entry = false) :
    callEach telegram ending (entry :: entries) =
      callEach telegram (fun n ↦ ending (n + 1)) entries := by
  rw [callEach]
  split
  · rfl
  next hdirection =>
    have hfilter : entry.filter.matches telegram = false := by
      cases hincoming : entry.includeOutgoing <;> simp_all [wants]
    rw [if_pos (by simp [hfilter])]

theorem callEach_of_wants (h : wants telegram entry) :
    (callEach telegram ending (entry :: entries)).called =
      entry :: if ending 0 = .panicked then []
        else (callEach telegram (fun n ↦ ending (n + 1)) entries).called := by
  rw [wants, Bool.and_eq_true, Bool.or_eq_true, decide_eq_true_iff] at h
  obtain ⟨hdirection, hfilter⟩ := h
  have hincluded : ¬ ((!entry.includeOutgoing) = true ∧ telegram.direction = .outgoing) := by
    intro hskipped
    rcases hdirection with hincluded | hincoming
    · simp [hincluded] at hskipped
    · exact hincoming hskipped.2
  rw [callEach, if_neg hincluded, if_neg (by simp [hfilter])]
  cases ending 0 <;> rfl

theorem called_callEach_iff : (callEach telegram ending entries).called =
    entries.filter (wants telegram) ↔ Isolated telegram ending entries := by
  induction entries generalizing ending with
  | nil => exact iff_of_true rfl (by simp [Isolated])
  | cons entry entries ih =>
    rw [isolated_cons_iff]
    cases hwants : wants telegram entry with
    | false =>
      rw [callEach_of_not_wants hwants, List.filter_cons_of_neg (by simp [hwants]), ih]
      simp
    | true =>
      rw [callEach_of_wants hwants, List.filter_cons_of_pos hwants, List.cons_inj_right]
      by_cases hpanic : ending 0 = .panicked
      · rw [if_pos hpanic]
        constructor
        · intro hnone
          refine ⟨fun _ _ ↦ hnone.symm, fun pos later e e' _ hpos _ hwants _ ↦ ?_⟩
          exact absurd hwants (List.filter_eq_nil_iff.mp hnone.symm e (List.mem_of_getElem? hpos))
        · intro h
          exact (h.1 rfl hpanic).symm
      · rw [if_neg hpanic, ih]
        simp [hpanic]

theorem telegramCallbacks_unregister (handle : CallbackHandle) :
    (handler.unregisterTelegramCallback handle).2 = { handler with
      telegramCallbacks :=
        removeFirst TelegramCallbackEntry.id handle handler.telegramCallbacks } := by
  rw [EventHandler.unregisterTelegramCallback, removeFirst]
  cases handler.telegramCallbacks.findIdx? (·.id = handle) <;> rfl

theorem connectionCallbacks_unregister (handle : CallbackHandle) :
    (handler.unregisterConnectionCallback handle).2 = { handler with
      connectionCallbacks :=
        removeFirst ConnectionCallbackEntry.id handle handler.connectionCallbacks } := by
  rw [EventHandler.unregisterConnectionCallback, removeFirst]
  cases handler.connectionCallbacks.findIdx? (·.id = handle) <;> rfl

theorem apply_eq : op.apply handler =
    { telegramCallbacks := (op.telegramChange? handler.nextId).toList.foldl
        (Change.apply TelegramCallbackEntry.id) handler.telegramCallbacks
      connectionCallbacks := (op.connectionChange? handler.nextId).toList.foldl
        (Change.apply ConnectionCallbackEntry.id) handler.connectionCallbacks
      nextId := if op.isRegistration then handler.nextId + 1 else handler.nextId } := by
  cases op with
  | registerTelegramCallback => rfl
  | registerConnectionCallback => rfl
  | unregisterTelegramCallback handle =>
    rw [Op.apply, telegramCallbacks_unregister]
    rfl
  | unregisterConnectionCallback handle =>
    rw [Op.apply, connectionCallbacks_unregister]
    rfl
  | unregisterCallback handle =>
    rw [Op.apply, EventHandler.unregisterCallback, connectionCallbacks_unregister,
      telegramCallbacks_unregister]
    rfl
  | clearAllCallbacks => rfl
  | notifyTelegramReceived => rfl

theorem handle?_eq :
    op.handle? handler = if op.isRegistration then some handler.nextId else none := by
  cases op <;> rfl

theorem handles_eq (handler : EventHandler C D) (ops : List (Op C D)) :
    handles handler ops =
      (List.range (ops.countP Op.isRegistration)).map fun n ↦ handler.nextId + UInt64.ofNat n := by
  induction ops generalizing handler with
  | nil => rfl
  | cons op ops ih =>
    rw [handles, ih, handle?_eq, apply_eq, List.countP_cons]
    by_cases hop : op.isRegistration
    · simp [hop, List.range_succ_eq_map, UInt64.add_assoc, UInt64.add_comm]
    · simp [hop]

theorem nodup_handles_iff :
    (handles handler ops).Nodup ↔ ops.countP Op.isRegistration ≤ 2 ^ 64 := by
  rw [handles_eq, List.nodup_map_iff_inj_on List.nodup_range]
  simp only [List.mem_range, UInt64.add_right_inj]
  constructor
  · intro h
    by_contra hlarge
    have hwrapped : UInt64.ofNat 0 = UInt64.ofNat (2 ^ 64) := by decide
    exact absurd (h 0 (by omega) (2 ^ 64) (by omega) hwrapped) (by decide)
  · intro hsmall n hn m hm heq
    have hnat := congrArg UInt64.toNat heq
    rwa [UInt64.toNat_ofNat_of_lt' (hn.trans_le hsmall),
      UInt64.toNat_ofNat_of_lt' (hm.trans_le hsmall)] at hnat

section

variable {α : Type} (change? : CallbackHandle → Op C D → Option (Change α CallbackHandle))
  (key : α → CallbackHandle)

theorem foldl_changes (list : EventHandler C D → List α)
    (happly : ∀ (handler : EventHandler C D) (op : Op C D), list (op.apply handler) =
      (change? handler.nextId op).toList.foldl (Change.apply key) (list handler))
    (handler : EventHandler C D) (ops : List (Op C D)) :
    list (ops.foldl Op.apply handler) =
      (changes change? handler ops).foldl (Change.apply key) (list handler) := by
  induction ops generalizing handler with
  | nil => rfl
  | cons op ops ih => rw [List.foldl_cons, ih, happly, changes, List.foldl_append]

theorem map_key_sublist_handles
    (hadd : ∀ handle op, ((change? handle op).bind Change.entry?).map key =
        (if op.isRegistration then some handle else none) ∨
      (change? handle op).bind Change.entry? = none)
    (handler : EventHandler C D) (ops : List (Op C D)) :
    (((changes change? handler ops).filterMap Change.entry?).map key).Sublist
      (handles handler ops) := by
  induction ops generalizing handler with
  | nil => exact .slnil
  | cons op ops ih =>
    rw [changes, handles, List.filterMap_append, List.map_append, handle?_eq]
    refine List.Sublist.append ?_ (ih _)
    have hone : (change? handler.nextId op).toList.filterMap Change.entry? =
        ((change? handler.nextId op).bind Change.entry?).toList := by
      cases change? handler.nextId op with
      | none => rfl
      | some change => cases change <;> rfl
    rw [hone]
    rcases hadd handler.nextId op with h | h
    · rw [← Option.toList_map, h]
    · rw [h]
      exact List.nil_sublist _

end

theorem telegramChange?_adds (handle : CallbackHandle) (op : Op C D) :
    ((op.telegramChange? handle).bind Change.entry?).map TelegramCallbackEntry.id =
        (if op.isRegistration then some handle else none) ∨
      (op.telegramChange? handle).bind Change.entry? = none := by
  cases op with
  | registerTelegramCallback => exact .inl rfl
  | _ => exact .inr rfl

theorem connectionChange?_adds (handle : CallbackHandle) (op : Op C D) :
    ((op.connectionChange? handle).bind Change.entry?).map ConnectionCallbackEntry.id =
        (if op.isRegistration then some handle else none) ∨
      (op.connectionChange? handle).bind Change.entry? = none := by
  cases op with
  | registerConnectionCallback => exact .inl rfl
  | _ => exact .inr rfl

theorem callbacks_run (h : (handles .new ops).Nodup) :
    (run ops).telegramCallbacks = registered ops ∧
      ((run ops).telegramCallbacks.map TelegramCallbackEntry.id).Nodup ∧
      ((run ops).connectionCallbacks.map ConnectionCallbackEntry.id).Nodup := by
  have htelegram := h.sublist (map_key_sublist_handles Op.telegramChange?
    TelegramCallbackEntry.id telegramChange?_adds .new ops)
  have hconnection := h.sublist (map_key_sublist_handles Op.connectionChange?
    ConnectionCallbackEntry.id connectionChange?_adds .new ops)
  have hrun : (run ops).telegramCallbacks = registered ops :=
    (foldl_changes Op.telegramChange? _ EventHandler.telegramCallbacks
      (fun _ _ ↦ congrArg _ apply_eq) .new ops).trans (foldl_apply htelegram)
  have hrun' : (run ops).connectionCallbacks =
      remaining ConnectionCallbackEntry.id (changes Op.connectionChange? .new ops) :=
    (foldl_changes Op.connectionChange? _ EventHandler.connectionCallbacks
      (fun _ _ ↦ congrArg _ apply_eq) .new ops).trans (foldl_apply hconnection)
  rw [hrun, hrun']
  exact ⟨rfl, htelegram.sublist ((remaining_sublist _).map _),
    hconnection.sublist ((remaining_sublist _).map _)⟩

theorem unregisterTelegramCallback_eq
    (h : (handler.telegramCallbacks.map TelegramCallbackEntry.id).Nodup)
    (handle : CallbackHandle) : handler.unregisterTelegramCallback handle =
      (handler.telegramCallbacks.any (·.id = handle), { handler with
        telegramCallbacks := handler.telegramCallbacks.filter (·.id ≠ handle) }) := by
  refine Prod.ext ?_ ?_
  · rw [← List.findIdx?_isSome, EventHandler.unregisterTelegramCallback]
    cases handler.telegramCallbacks.findIdx? (·.id = handle) <;> rfl
  · rw [telegramCallbacks_unregister, removeFirst_eq_filter h]

theorem unregisterConnectionCallback_eq
    (h : (handler.connectionCallbacks.map ConnectionCallbackEntry.id).Nodup)
    (handle : CallbackHandle) : handler.unregisterConnectionCallback handle =
      (handler.connectionCallbacks.any (·.id = handle), { handler with
        connectionCallbacks := handler.connectionCallbacks.filter (·.id ≠ handle) }) := by
  refine Prod.ext ?_ ?_
  · rw [← List.findIdx?_isSome, EventHandler.unregisterConnectionCallback]
    cases handler.connectionCallbacks.findIdx? (·.id = handle) <;> rfl
  · rw [connectionCallbacks_unregister, removeFirst_eq_filter h]

end

/-- Every sequence of calls is handled as it should be, if and only if there are at most `2 ^ 64`
registrations and no callback panics before another one that is to be called. -/
theorem correct_iff (ops : List (Op C D)) : Correct ops ↔
    ops.countP Op.isRegistration ≤ 2 ^ 64 ∧ ∀ before telegram ending after,
      ops = before ++ .notifyTelegramReceived telegram ending :: after →
      Isolated telegram ending (run before).telegramCallbacks := by
  have hbefore {before : List (Op C D)} {op : Op C D} {after : List (Op C D)}
      (hops : ops = before ++ op :: after) (hcount : ops.countP Op.isRegistration ≤ 2 ^ 64) :
      (handles (.new : EventHandler C D) before).Nodup := by
    rw [hops, List.countP_append] at hcount
    exact nodup_handles_iff.mpr (by omega)
  constructor
  · intro hcorrect
    have hcount := nodup_handles_iff.mp hcorrect.distinct
    refine ⟨hcount, fun before telegram ending after hops ↦ ?_⟩
    rw [← called_callEach_iff, (callbacks_run (hbefore hops hcount)).1]
    have hnotified := hcorrect.notified before telegram ending after hops
    rwa [EventHandler.notifyTelegramReceived, (callbacks_run (hbefore hops hcount)).1] at hnotified
  · intro h
    obtain ⟨hcount, hisolated⟩ := h
    refine ⟨nodup_handles_iff.mpr hcount, fun before telegram ending after hops ↦ ?_,
      fun before handle after hops ↦ ?_, fun before handle after hops ↦ ?_,
      fun before handle after hops ↦ ?_⟩
    · rw [← (callbacks_run (hbefore hops hcount)).1]
      exact called_callEach_iff.mpr (hisolated before telegram ending after hops)
    · obtain ⟨-, htelegram, hconnection⟩ := callbacks_run (hbefore hops hcount)
      rw [EventHandler.unregisterCallback, telegramCallbacks_unregister,
        connectionCallbacks_unregister]
      exact ⟨removeFirst_eq_filter htelegram, removeFirst_eq_filter hconnection⟩
    · exact unregisterTelegramCallback_eq (callbacks_run (hbefore hops hcount)).2.1 handle
    · exact unregisterConnectionCallback_eq (callbacks_run (hbefore hops hcount)).2.2 handle

def twoCallbacks : List (Op ℕ ℕ) :=
  [.registerTelegramCallback 10 .all false, .registerTelegramCallback 20 .all false]

def receivedRead : Telegram := { Telegram.groupRead 0 .temperature with direction := .incoming }

def firstPanics (n : ℕ) : Ending := if n = 0 then .panicked else .returned

theorem panic_skips_later_callback :
    ((run twoCallbacks).notifyTelegramReceived receivedRead firstPanics).called =
      [⟨1, 10, .all, false⟩] ∧
    (registered twoCallbacks).filter (wants receivedRead) =
      [⟨1, 10, .all, false⟩, ⟨2, 20, .all, false⟩] ∧
    ¬ Correct (twoCallbacks ++ [.notifyTelegramReceived receivedRead firstPanics]) := by
  refine ⟨rfl, rfl, fun hcorrect ↦ ?_⟩
  have hcalled := hcorrect.notified twoCallbacks receivedRead firstPanics [] rfl
  exact absurd (congrArg List.length hcalled) (by decide)

end Knust.Application.Callbacks
