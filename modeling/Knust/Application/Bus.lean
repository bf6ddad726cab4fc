import Knust.Foundation.Concurrent
import Knust.Protocol.GroupValues

namespace Knust.Application.Bus

open Foundation Protocol

/-- What the registry keeps of the traffic for a registered address. Its data point
type and its refresh settings play no part in it. -/
structure Binding where
  lastSeen : Option ℕ
  lastSeenValue : Option (List UInt8)
  deriving DecidableEq

def GroupAddressRegistry := GroupAddress → Option Binding

def GroupAddressRegistry.recordSeen (registry : GroupAddressRegistry) (now : ℕ)
    (address : GroupAddress) (value : List UInt8) : GroupAddressRegistry :=
  match registry address with
  | some _ => Function.update registry address (some ⟨some now, some value⟩)
  | none => registry

inductive TelegramFilter
  | groupAddresses (addresses : List GroupAddress)
  | addressRange (first last : GroupAddress)
  | custom (filterFn : Telegram → Bool)
  | all

def TelegramFilter.matches (telegram : Telegram) : TelegramFilter → Bool
  | .groupAddresses addresses =>
    match telegram.destination with
    | .group groupAddr => addresses.contains groupAddr
    | .individual _ => false
  | .addressRange first last =>
    match telegram.destination with
    | .group groupAddr => groupAddr.raw ≥ first.raw && groupAddr.raw ≤ last.raw
    | .individual _ => false
  | .custom filterFn => filterFn telegram
  | .all => true

/-- What a callback of the application does stays outside. -/
inductive TelegramCallback
  | groupValueRead (address : GroupAddress)
  | other
  deriving DecidableEq

structure TelegramCallbackEntry where
  id : ℕ
  callback : TelegramCallback
  filter : TelegramFilter
  includeOutgoing : Bool

/-- The channels of the reads, each with room for one payload. A channel is named by
the handle of the callback that sends into it. -/
abbrev Channels := ℕ → Option (List UInt8)

def Channels.trySend (channels : Channels) (id : ℕ) (payload : List UInt8) : Channels :=
  match channels id with
  | none => Function.update channels id (some payload)
  | some _ => channels

def TelegramCallbackEntry.call (entry : TelegramCallbackEntry) (telegram : Telegram)
    (channels : Channels) : Channels :=
  match entry.callback with
  | .groupValueRead address =>
    if telegram.destination = .group address ∧ telegram.payload ≠ [] then
      channels.trySend entry.id telegram.payload
    else channels
  | .other => channels

def TelegramCallbackEntry.notify (telegram : Telegram) (channels : Channels)
    (entry : TelegramCallbackEntry) : Channels :=
  if !entry.includeOutgoing ∧ telegram.direction = .outgoing then channels
  else if !entry.filter.matches telegram then channels
  else entry.call telegram channels

/-- The telegram callbacks in the order of their registration, under handles that are
handed out once. -/
structure EventHandler where
  telegramCallbacks : List TelegramCallbackEntry
  nextId : ℕ
  fresh : ∀ entry ∈ telegramCallbacks, entry.id < nextId

namespace EventHandler

def new : EventHandler := ⟨[], 1, by simp⟩

def registerTelegramCallbackFiltered (handler : EventHandler) (callback : TelegramCallback)
    (filter : TelegramFilter) (includeOutgoing : Bool) : ℕ × EventHandler :=
  (handler.nextId,
    { telegramCallbacks :=
        handler.telegramCallbacks ++ [⟨handler.nextId, callback, filter, includeOutgoing⟩]
      nextId := handler.nextId + 1
      fresh := by
        intro entry hentry
        rcases List.mem_append.mp hentry with h | h
        · exact (handler.fresh entry h).trans (Nat.lt_succ_self _)
        · rw [List.mem_singleton.mp h]
          exact Nat.lt_succ_self _ })

def unregisterCallback (handler : EventHandler) (handle : ℕ) : EventHandler where
  telegramCallbacks := handler.telegramCallbacks.eraseP (·.id = handle)
  nextId := handler.nextId
  fresh entry hentry := handler.fresh entry (List.mem_of_mem_eraseP hentry)

end EventHandler

structure State where
  registry : GroupAddressRegistry
  handler : EventHandler
  channels : Channels
  incoming : List Telegram

def State.opened (registry : GroupAddressRegistry) : State where
  registry := registry
  handler := .new
  channels _ := none
  incoming := []

structure Env where
  now : ℕ := 0
  queueAccepts : Bool := true
  queueClosed : Bool := false
  queueFull : Bool := false
  shutdown : Bool := false
  elapsed : Bool := false

inductive Command
  | now
  | enqueueIncoming (telegram : Telegram)
  | isDrained
  | dequeueIncoming
  | recordSeen (address : GroupAddress) (value : List UInt8)
  | notifyTelegramReceived (telegram : Telegram)
  | registerTelegramCallback (callback : TelegramCallback) (filter : TelegramFilter)
      (includeOutgoing : Bool)
  | unregisterCallback (handle : ℕ)
  | enqueueOutgoing (telegram : Telegram)
  | recvWithin (handle timeoutMs : ℕ)
  | deliver (address : GroupAddress) (payload : List UInt8)

abbrev Command.Response : Command → Type
  | .now | .registerTelegramCallback .. => ℕ
  | .isDrained => Bool
  | .dequeueIncoming => Option Telegram
  | .enqueueOutgoing .. => Result Unit
  | .recvWithin .. => Option (List UInt8)
  | .enqueueIncoming .. | .recordSeen .. | .notifyTelegramReceived .. | .unregisterCallback ..
  | .deliver .. => Unit

/-- The incoming telegrams pass through the receive limiter and the queue in order, and
either of them may drop one. The callbacks stay locked while a telegram is handed to
them. -/
def exec : Machine Command Command.Response State Env
  | .now, i, s => some (i.now, s)
  | .enqueueIncoming telegram, i, s =>
    some ((), if i.queueAccepts then { s with incoming := s.incoming ++ [telegram] } else s)
  | .isDrained, i, s => some (i.shutdown, s)
  | .dequeueIncoming, i, s =>
    match s.incoming with
    | telegram :: incoming => some (some telegram, { s with incoming })
    | [] => if i.queueClosed then some (none, s) else none
  | .recordSeen address value, i, s =>
    some ((), { s with registry := s.registry.recordSeen i.now address value })
  | .notifyTelegramReceived telegram, _, s =>
    some ((), { s with
      channels :=
        s.handler.telegramCallbacks.foldl (TelegramCallbackEntry.notify telegram) s.channels })
  | .registerTelegramCallback callback filter includeOutgoing, _, s =>
    let (handle, handler) :=
      s.handler.registerTelegramCallbackFiltered callback filter includeOutgoing
    some (handle, { s with handler, channels := Function.update s.channels handle none })
  | .unregisterCallback handle, _, s =>
    some ((), { s with handler := s.handler.unregisterCallback handle })
  | .enqueueOutgoing _, i, s =>
    some (if i.queueClosed then .err (.transport .queueClosed)
      else if i.queueFull then .err (.transport .queueFull) else .ok (), s)
  | .recvWithin handle _, i, s =>
    match s.channels handle with
    | some payload =>
      some (some payload, { s with channels := Function.update s.channels handle none })
    | none => if i.elapsed then some (none, s) else none
  | .deliver _ _, _, s => some ((), s)

abbrev Handler (α : Type) := Task Command Command.Response KnxError α

abbrev Past := Task.History Command Command.Response

abbrev perform (c : Command) : Handler c.Response := Task.perform c

def enqueueCemi (cemiData : List UInt8) : Handler Unit := do
  let timestamp ← Bus.perform .now
  let telegram ← .done (parseCemiToTelegram timestamp cemiData)
  Bus.perform (.enqueueIncoming telegram)

/-- The receiving task, as far as it concerns the cEMI frames that get to it. -/
def receivingTask : List (List UInt8) → Handler Unit
  | [] => pure ()
  | cemiData :: arriving => do
    let _ ← Task.attempt (enqueueCemi cemiData)
    receivingTask arriving

def recordGroupValueIfPresent (telegram : Telegram) : Handler Unit :=
  match telegram.destination with
  | .group addr =>
    if telegram.telegramType = .groupValueWrite ∨ telegram.telegramType = .groupValueResponse then
      Bus.perform (.recordSeen addr telegram.payload)
    else pure ()
  | .individual _ => pure ()

def processTelegram (telegram : Telegram) : Handler Unit := do
  recordGroupValueIfPresent telegram
  Bus.perform (.notifyTelegramReceived telegram)

def processingTask : ℕ → Handler Unit
  | 0 => pure ()
  | telegrams + 1 => do
    if ← Bus.perform .isDrained then pure ()
    else match ← Bus.perform .dequeueIncoming with
      | none => pure ()
      | some telegram => do
        processTelegram telegram
        processingTask telegrams

variable (individualAddress : IndividualAddress)

def sendTelegram (telegram : Telegram) : Handler Unit := do
  .done (← Bus.perform (.enqueueOutgoing { telegram with source := individualAddress }))

def communicationTimeout (address : GroupAddress) (timeoutMs : ℕ) : KnxError :=
  .device (.communicationTimeout s!"group address {address.toString}" timeoutMs)

def readGroupValue (address : GroupAddress) (timeoutMs : ℕ) : Handler (List UInt8) := do
  let handle ← Bus.perform (.registerTelegramCallback (.groupValueRead address) .all false)
  let readTelegram := Telegram.groupRead (← Bus.perform .now) address
  match ← Task.attempt (sendTelegram individualAddress readTelegram) with
  | .error e => do
    Bus.perform (.unregisterCallback handle)
    .done (.err e)
  | .ok () => do
    let result ← Bus.perform (.recvWithin handle timeoutMs)
    Bus.perform (.unregisterCallback handle)
    match result with
    | some payload => pure payload
    | none => .done (.err (communicationTimeout address timeoutMs))

/-- What the application does with the bus while frames arrive. The payload of a read
is handed to its caller. -/
inductive Activity
  | read (address : GroupAddress) (timeoutMs : ℕ)
  | register (filter : TelegramFilter) (includeOutgoing : Bool)
  | unregister (handle : ℕ)

def program : Activity → Handler Unit
  | .read address timeoutMs => do
    let payload ← readGroupValue individualAddress address timeoutMs
    Bus.perform (.deliver address payload)
  | .register filter includeOutgoing => do
    let _ ← Bus.perform (.registerTelegramCallback .other filter includeOutgoing)
  | .unregister handle => Bus.perform (.unregisterCallback handle)

/-- The bus as it is opened, with the given frames on the way to it. The number bounds
the telegrams that are processed. -/
def start (registry : GroupAddressRegistry) (arriving : List (List UInt8)) (telegrams : ℕ) :
    Config Command Command.Response State KnxError :=
  ⟨.opened registry, [receivingTask arriving, processingTask telegrams], []⟩

def run (registry : GroupAddressRegistry) (arriving : List (List UInt8)) (telegrams : ℕ)
    (moves : List (Move Activity Env)) : Config Command Command.Response State KnxError :=
  (start registry arriving telegrams).run exec (program individualAddress) moves

end Knust.Application.Bus
