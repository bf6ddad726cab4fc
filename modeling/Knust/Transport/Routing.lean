import Knust.Transport.TunnelState

namespace Knust.Transport.Routing

open Foundation Protocol

/-- The mutable fields of a routing connection, with what the application keeps for
it. -/
structure State where
  state : ConnectionState
  stats : ConnectionStats
  routingBusyCount : UInt32
  lostMessageCount : UInt32
  incoming : List Telegram
  queueOpen : Bool
  control : List ConnectionControlEvent
  knxChannelId : Option UInt8

def State.new : State where
  state := .connected
  stats := .default
  routingBusyCount := 0
  lostMessageCount := 0
  incoming := []
  queueOpen := true
  control := []
  knxChannelId := none

/-- What the runtime, the operating system and the network contribute to one step. -/
structure Env where
  now : ℕ := 0
  ioError : Option IoError := none
  datagram : Except IoError (List UInt8) := .ok []
  elapsed : Bool := false
  queueAccepts : Bool := true
  shutdown : Bool := false
  allocates : Bool := true
  outgoing : Option Telegram := none

inductive Command
  | isConnected
  | sendTo (datagram : List UInt8)
  | recvFromWithin (timeoutMs : ℕ)
  | sleepWithin (timeoutMs durationMs : ℕ)
  | recordSent
  | recordReceived
  | recordSendError (message : String)
  | recordReceiveError (message : String)
  | countLostMessage
  | countRoutingBusy
  | now
  | enqueueIncoming (telegram : Telegram)
  | closeQueue
  | control (event : ConnectionControlEvent)
  | isShutdown
  | isDrained
  | allocate (size : ℕ)
  | dequeueOutgoing
  | knxChannelId

abbrev Command.Response : Command → Type
  | .isConnected | .sleepWithin .. | .isShutdown | .isDrained | .allocate .. => Bool
  | .sendTo .. => Except IoError Unit
  | .recvFromWithin .. => Option (Except IoError (List UInt8))
  | .now => ℕ
  | .dequeueOutgoing => Option Telegram
  | .knxChannelId => Option UInt8
  | .recordSent | .recordReceived | .recordSendError .. | .recordReceiveError ..
  | .countLostMessage | .countRoutingBusy | .enqueueIncoming .. | .closeQueue | .control .. => Unit

def bufferSize : ℕ := 1024

def respond : (c : Command) → Env → State → c.Response × State
  | .isConnected, _, s => (s.state = .connected, s)
  | .sendTo _, i, s => (match i.ioError with
    | none => .ok ()
    | some e => .error e, s)
  | .recvFromWithin _, i, s =>
    (if i.elapsed then none else some (i.datagram.map (List.take bufferSize)), s)
  | .sleepWithin _ _, i, s => (!i.elapsed, s)
  | .recordSent, _, s =>
    ((), { s with stats := { s.stats with framesSent := s.stats.framesSent + 1 } })
  | .recordReceived, _, s =>
    ((), { s with stats := { s.stats with framesReceived := s.stats.framesReceived + 1 } })
  | .recordSendError message, i, s =>
    ((), { s with stats := { s.stats with
      sendErrors := s.stats.sendErrors + 1, lastError := some message
      lastErrorAt := some i.now } })
  | .recordReceiveError message, i, s =>
    ((), { s with stats := { s.stats with
      recvErrors := s.stats.recvErrors + 1, lastError := some message
      lastErrorAt := some i.now } })
  | .countLostMessage, _, s => ((), { s with lostMessageCount := s.lostMessageCount + 1 })
  | .countRoutingBusy, _, s => ((), { s with routingBusyCount := s.routingBusyCount + 1 })
  | .now, i, s => (i.now, s)
  | .enqueueIncoming telegram, i, s =>
    ((), if i.queueAccepts then { s with incoming := telegram :: s.incoming } else s)
  | .closeQueue, _, s => ((), { s with queueOpen := false })
  | .control event, i, s =>
    ((), if i.queueAccepts then { s with control := event :: s.control } else s)
  | .isShutdown, i, s | .isDrained, i, s => (i.shutdown, s)
  | .allocate _, i, s => (i.allocates, s)
  | .dequeueOutgoing, i, s => (i.outgoing, s)
  | .knxChannelId, _, s => (s.knxChannelId, s)

def exec : Machine Command Command.Response State Env := fun c i s ↦ some (respond c i s)

abbrev Handler (α : Type) := Task Command Command.Response KnxError α

abbrev Past := Task.History Command Command.Response

abbrev perform (c : Command) : Handler c.Response := Task.perform c

def connectionClosed : KnxError := .transport .connectionClosed

def sendRoutingIndication (cemiData : List UInt8) : Handler Unit := do
  match ← perform (.sendTo (KnxIpFrame.new .routingIndication cemiData).serialize) with
  | .ok () => perform .recordSent
  | .error e => do
    perform (.recordSendError e.message)
    .done (.err (.transport (.socketError "send_routing_indication" e)))

def send (frame : List UInt8) : Handler Unit := do
  if ← perform .isConnected then sendRoutingIndication frame
  else .done (.err connectionClosed)

def handleRoutingLostMessage : Handler Unit := do
  perform .countLostMessage
  perform (.recordReceiveError "Routing lost message received")

def busyParameters (body : List UInt8) : Result (UInt16 × UInt16) := do
  let deviceState ←
    if body.length ≥ 2 then do .ok (u16OfBytes (← index body 0) (← index body 1)) else .ok 0
  let waitTime ←
    if body.length ≥ 4 then do .ok (u16OfBytes (← index body 2) (← index body 3)) else .ok 100
  .ok (deviceState, waitTime)

variable (timeoutMs : ℕ)

/-- Whether the wait came to its end before the caller stopped waiting. -/
def handleRoutingBusy (body : List UInt8) : Handler Bool := do
  let (deviceState, waitTime) ← .done (busyParameters body)
  perform .countRoutingBusy
  perform (.recordReceiveError (s!"Routing busy: device_state=0x{hex 4 deviceState.toNat}, " ++
    s!"wait_time={waitTime}ms"))
  if waitTime > 0 then perform (.sleepWithin timeoutMs waitTime.toNat) else pure true

def routingParseError (e : KnxError) : KnxError :=
  .transport (.invalidConfiguration s!"Failed to parse routing frame: {e.toString}")

def parseRoutingFrame (frameData : List UInt8) : Result KnxIpFrame :=
  match KnxIpFrame.parse frameData with
  | .ok frame => .ok frame
  | .err e => .err (routingParseError e)
  | .panic => .panic

/-- The body of the frame, or nothing for a control message, unless the caller stops
waiting before. -/
def processRoutingMessage (frameData : List UInt8) : Handler (Option (List UInt8)) := do
  let frame ← .done (parseRoutingFrame frameData)
  match frame.header.serviceType with
  | .routingLostMessage => do
    handleRoutingLostMessage
    pure (some [])
  | .routingBusy => do
    if ← handleRoutingBusy timeoutMs frame.body then pure (some []) else pure none
  | _ => pure (some frame.body)

def recvWithin : Handler (Option (List UInt8)) := do
  if ← perform .isConnected then
    match ← perform (.recvFromWithin timeoutMs) with
    | none => pure none
    | some (.error e) => do
      perform (.recordReceiveError e.message)
      .done (.err (.transport (.socketError "recv_from" e)))
    | some (.ok buf) => do
      match ← processRoutingMessage timeoutMs buf with
      | none => pure none
      | some cemiData =>
        if cemiData.isEmpty then pure (some cemiData)
        else do
          perform .recordReceived
          pure (some cemiData)
  else .done (.err connectionClosed)

end Knust.Transport.Routing
