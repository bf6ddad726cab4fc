import Knust.Application.Tasks
import Knust.Transport.Queue

namespace Knust.Application.Instance

open Foundation Protocol Transport Transport.Queue

inductive ConnectionType
  | tunneling
  | tcpTunneling
  | routing
  | secureTunneling
  | secureRouting
  deriving Repr, DecidableEq

/-- The multiplication of a delay with the multiplier, which is a floating-point
number, is kept as a function. -/
structure BackoffConfig where
  initialDelayMs : ℕ
  maxDelayMs : ℕ
  multiply : ℕ → ℕ
  maxAttempts : ℕ

/-- Of the settings for TCP only the connection timeout is read. -/
structure ConnectionConfig where
  connectionType : ConnectionType
  gatewayIp : Option IpAddr
  gatewayPort : Option UInt16
  localIp : Option IpAddr
  individualAddress : IndividualAddress
  security : Option SecurityConfig
  timeoutMs : ℕ
  autoReconnect : Bool
  reconnectBackoff : BackoffConfig
  connectTimeoutMs : ℕ

def missingParameter {α : Type} (parameter : String) : Result α :=
  .err (.configuration (.missingParameter parameter))

def validationError {α : Type} (details : String) : Result α :=
  .err (.configuration (.validationError details))

def validateConfig (config : ConnectionConfig) : Result Unit := do
  match config.connectionType with
  | .tunneling | .tcpTunneling | .secureTunneling =>
    if config.gatewayIp.isNone then missingParameter "gateway_ip" else pure ()
  | .routing | .secureRouting => pure ()
  if config.timeoutMs = 0 then
    .err (.configuration (.invalidValue "timeout_ms" (toString config.timeoutMs)
      "Timeout must be greater than 0"))
  else pure ()

/-- What is fixed when an instance is built: its configuration, which has been
validated, whether the library has the `secure` feature, and how its telegram queue
works. -/
structure Knx where
  config : ConnectionConfig
  valid : validateConfig config = .ok ()
  secure : Bool
  queueConfig : QueueConfig
  heap : HeapPop PriorityTelegram PriorityTelegram.cmp

inductive KnxState
  | disconnected
  | connecting
  | connected
  | disconnecting
  | error
  deriving Repr, DecidableEq

inductive ConnectionState
  | disconnected
  | connecting
  | connected
  | disconnecting
  | error
  deriving Repr, DecidableEq

def KnxState.toConnectionState : KnxState → ConnectionState
  | .disconnected => .disconnected
  | .connecting => .connecting
  | .connected => .connected
  | .disconnecting => .disconnecting
  | .error => .error

/-- A connection as far as it can be told by downcasting it. The channel of a tunnel
does not change once the tunnel is shared. -/
inductive Link
  | tunnel (channelId : UInt8)
  | routing
  deriving Repr, DecidableEq

/-- A connection of the instance, with its number in the order in which they are
stored. -/
structure Connection where
  number : ℕ
  link : Link
  deriving Repr, DecidableEq

inductive Target
  | udp (gatewayAddr : SocketAddr) (security : Option SecurityConfig)
  | tcp (gatewayAddr : SocketAddr) (connectTimeoutMs : ℕ)
  | routing (localIp : Option IpAddr)
  deriving DecidableEq

def Target.link : Target → UInt8 → Link
  | .udp _ _, channelId | .tcp _ _, channelId => .tunnel channelId
  | .routing _, _ => .routing

inductive TaskKind
  | drain
  | cleanup
  | control (connection : Connection)
  | receiving (connection : Connection)
  | processing
  | sending (connection : Connection)
  | refresh
  | reconnection
  deriving Repr, DecidableEq

def TaskKind.connection? : TaskKind → Option Connection
  | .control connection | .receiving connection | .sending connection => some connection
  | _ => none

inductive Phase
  | spawned
  | running
  | finished
  deriving Repr, DecidableEq

structure Spawned where
  kind : TaskKind
  phase : Phase
  deriving Repr, DecidableEq

inductive Slot
  | processing
  | receiving
  | control
  | reconnect
  | cleanup
  | refresh
  deriving Repr, DecidableEq

inductive Receiver
  | stored
  | taken
  | dropped
  deriving Repr, DecidableEq

/-- The connection is behind a lock, of which the readers and the writer are kept, and
so is every slot, which stays locked while the task from it is joined. The
notifications are kept the latest first. -/
structure State where
  stored : ℕ
  connection : Option Connection
  readers : ℕ
  writing : Bool
  state : KnxState
  notified : List ConnectionState
  channelId : Option UInt8
  shutdown : Bool
  receiver : Receiver
  events : List ConnectionControlEvent
  queue : QueueState
  limited : List Telegram
  tasks : List Spawned
  slots : Slot → Option ℕ
  joining : Slot → Bool

/-- A new instance, with the two tasks that its construction spawns. -/
def State.new : State where
  stored := 0
  connection := none
  readers := 0
  writing := false
  state := .disconnected
  notified := []
  channelId := none
  shutdown := false
  receiver := .stored
  events := []
  queue := .new
  limited := []
  tasks := [⟨.drain, .spawned⟩, ⟨.cleanup, .spawned⟩]
  slots := Function.update (fun _ ↦ none) .cleanup (some 1)
  joining _ := false

def State.unlocked (s : State) : Bool := s.readers = 0 && !s.writing

def State.spawn (s : State) (kind : TaskKind) : State :=
  { s with tasks := s.tasks ++ [⟨kind, .spawned⟩] }

/-- What the runtime, the network and the other parts of the library contribute to one
step. -/
structure Env where
  now : ℕ := 0
  opened : Except KnxError UInt8 := .ok 0
  result : Except KnxError Unit := .ok ()
  frame : Except KnxError (List UInt8) := .error (.transport .connectionClosed)
  elapsed : Bool := false
  sequence : UInt8 := 0
  validation : SequenceValidationResult := .valid
  allocates : Bool := true
  admits : Bool := true
  stale : Option GroupAddress := none

inductive Guard
  | read
  | write
  deriving Repr, DecidableEq

inductive Command
  | now
  | readConnection
  | storeConnection (link : Link)
  | takeConnection
  | releaseConnection (guard : Guard)
  | setState (state : KnxState)
  | notifyConnectionStateChanged (state : ConnectionState)
  | channelId
  | setChannelId (channelId : Option UInt8)
  | isShutdown
  | setShutdown (value : Bool)
  | open (target : Target)
  | close (connection : Connection)
  | send (connection : Connection) (frame : List UInt8)
  | recv (connection : Connection)
  | validateSequenceNumber (connection : Connection) (received : UInt8)
  | sendTunnellingAck (connection : Connection) (channelId sequence status : UInt8)
  | nextSequence (connection : Connection)
  | takeReceiver
  | control (event : ConnectionControlEvent)
  | receiveControl
  | startReconnection
  | spawn (kind : TaskKind)
  | begin (handle : ℕ) (kind : TaskKind)
  | finish (handle : ℕ)
  | storeTask (slot : Slot) (handle : ℕ)
  | takeTask (slot : Slot)
  | join (handle timeoutMs : ℕ)
  | releaseTask (slot : Slot)
  | allocate (size : ℕ)
  | limit (telegram : Telegram)
  | receiveLimited
  | enqueue (direction : Direction) (telegram : Telegram)
  | dequeue (direction : Direction)
  | isEmpty
  | closeQueue
  | notifyTelegramReceived (telegram : Telegram)
  | nextStale
  | sleep (ms : ℕ)

abbrev Command.Response : Command → Type
  | .now | .spawn .. => ℕ
  | .readConnection | .takeConnection => Option Connection
  | .channelId => Option UInt8
  | .isShutdown | .takeReceiver | .startReconnection | .allocate .. | .isEmpty => Bool
  | .open .. => Except KnxError Link
  | .close .. | .send .. | .sendTunnellingAck .. => Except KnxError Unit
  | .recv .. => Option (Except KnxError (List UInt8))
  | .validateSequenceNumber .. => SequenceValidationResult
  | .nextSequence .. => UInt8
  | .receiveControl => Option ConnectionControlEvent
  | .takeTask .. => Option ℕ
  | .receiveLimited => Telegram
  | .enqueue .. => Result Unit
  | .dequeue .. => Option Telegram
  | .nextStale => Option GroupAddress
  | .storeConnection .. | .releaseConnection .. | .setState .. | .notifyConnectionStateChanged ..
  | .setChannelId .. | .setShutdown .. | .control .. | .begin .. | .finish .. | .storeTask ..
  | .join .. | .releaseTask .. | .limit .. | .closeQueue | .notifyTelegramReceived .. | .sleep .. =>
    Unit

variable (knx : Knx)

/-- A command that has to wait, for a lock, an event or another task, is not ready. What
a connection does when it is used is left to the environment. -/
def exec : Machine Command Command.Response State Env
  | .now, i, s => some (i.now, s)
  | .readConnection, _, s =>
    if s.writing then none else some (s.connection, { s with readers := s.readers + 1 })
  | .storeConnection link, _, s =>
    if s.unlocked then
      some ((), { s with connection := some ⟨s.stored, link⟩, stored := s.stored + 1 })
    else none
  | .takeConnection, _, s =>
    if s.unlocked then some (s.connection, { s with connection := none, writing := true })
    else none
  | .releaseConnection .read, _, s => some ((), { s with readers := s.readers - 1 })
  | .releaseConnection .write, _, s => some ((), { s with writing := false })
  | .setState state, _, s => some ((), { s with state })
  | .notifyConnectionStateChanged state, _, s =>
    some ((), { s with notified := state :: s.notified })
  | .channelId, _, s => some (s.channelId, s)
  | .setChannelId channelId, _, s => some ((), { s with channelId })
  | .isShutdown, _, s => some (s.shutdown, s)
  | .setShutdown shutdown, _, s => some ((), { s with shutdown })
  | .open target, i, s => some (i.opened.map target.link, s)
  | .close _, i, s | .send _ _, i, s | .sendTunnellingAck _ _ _ _, i, s => some (i.result, s)
  | .recv _, i, s => some (if i.elapsed then none else some i.frame, s)
  | .validateSequenceNumber _ _, i, s => some (i.validation, s)
  | .nextSequence _, i, s => some (i.sequence, s)
  | .takeReceiver, _, s =>
    match s.receiver with
    | .stored => some (true, { s with receiver := .taken })
    | _ => some (false, s)
  | .control event, _, s =>
    -- The channel holds up to 32 events.
    if s.receiver = .dropped then some ((), s)
    else if s.events.length < 32 then some ((), { s with events := s.events ++ [event] })
    else none
  | .receiveControl, i, s =>
    if i.elapsed then some (none, s)
    else match s.events with
      | event :: events => some (some event, { s with events })
      | [] => none
  | .startReconnection, _, s =>
    if s.joining .reconnect then none
    else if (s.slots .reconnect).isNone then
      some (true, { s.spawn .reconnection with
        slots := Function.update s.slots .reconnect (some s.tasks.length) })
    else some (false, s)
  | .spawn kind, _, s => some (s.tasks.length, s.spawn kind)
  | .begin handle kind, _, s =>
    if s.tasks[handle]? = some ⟨kind, .spawned⟩ then
      some ((), { s with tasks := s.tasks.set handle ⟨kind, .running⟩ })
    else none
  | .finish handle, _, s =>
    match s.tasks[handle]? with
    | some ⟨.control connection, _⟩ => some ((), { s with
        tasks := s.tasks.set handle ⟨.control connection, .finished⟩
        receiver := .dropped })
    | some ⟨kind, _⟩ => some ((), { s with tasks := s.tasks.set handle ⟨kind, .finished⟩ })
    | none => none
  | .storeTask slot handle, _, s =>
    if s.joining slot then none
    else some ((), { s with slots := Function.update s.slots slot (some handle) })
  | .takeTask slot, _, s =>
    if s.joining slot then none
    else some (s.slots slot, { s with
      slots := Function.update s.slots slot none
      joining := Function.update s.joining slot true })
  | .join handle _, i, s =>
    if (s.tasks[handle]?.any fun t ↦ t.phase = .finished) || i.elapsed then some ((), s) else none
  | .releaseTask slot, _, s => some ((), { s with joining := Function.update s.joining slot false })
  | .allocate _, i, s => some (i.allocates, s)
  | .limit telegram, i, s =>
    some ((), if i.admits then { s with limited := s.limited ++ [telegram] } else s)
  | .receiveLimited, _, s =>
    match s.limited with
    | telegram :: limited => some (telegram, { s with limited })
    | [] => none
  | .enqueue direction telegram, _, s =>
    let (r, queue) := s.queue.push knx.queueConfig direction telegram
    some (r, { s with queue })
  | .dequeue direction, _, s =>
    match s.queue.pop knx.heap direction with
    | (.telegram telegram, queue) => some (some telegram, { s with queue })
    | (.closed, queue) => some (none, { s with queue })
    | (.empty, _) => none
  | .isEmpty, _, s => some (s.queue.outgoing.isEmpty && s.queue.incoming.isEmpty, s)
  | .closeQueue, _, s => some ((), { s with queue := { s.queue with closed := true } })
  | .notifyTelegramReceived _, _, s | .sleep _, _, s => some ((), s)
  | .nextStale, i, s => some (i.stale, s)

abbrev Handler (α : Type) := Task Command Command.Response KnxError α

abbrev Past := Task.History Command Command.Response

abbrev perform (c : Command) : Handler c.Response := Task.perform c

def rethrow {α : Type} : Except KnxError α → Handler α
  | .ok a => .done (.ok a)
  | .error e => .done (.err e)

def enterState (state : KnxState) : Handler Unit := do
  Instance.perform (.setState state)
  Instance.perform (.notifyConnectionStateChanged state.toConnectionState)

def gatewayAddr : Result SocketAddr :=
  match knx.config.gatewayIp with
  | none => missingParameter "gateway_ip"
  | some gatewayIp => .ok (.new gatewayIp (knx.config.gatewayPort.getD 3671))

def tunnelSecurity : Result (Option SecurityConfig) :=
  if knx.config.connectionType = .secureTunneling then
    if knx.secure then
      match knx.config.security with
      | none => missingParameter "security"
      | some security => .ok (some security)
    else validationError "SecureTunneling requires the `secure` feature"
  else .ok none

def openUdpTunnel : Handler Link := do
  let gatewayAddr ← .done (gatewayAddr knx)
  let security ← .done (tunnelSecurity knx)
  rethrow (← Instance.perform (.open (.udp gatewayAddr security)))

def openTcpTunnel : Handler Link := do
  let gatewayAddr ← .done (gatewayAddr knx)
  rethrow (← Instance.perform (.open (.tcp gatewayAddr knx.config.connectTimeoutMs)))

def openRouting : Handler Link := do
  rethrow (← Instance.perform (.open (.routing knx.config.localIp)))

def secureRoutingError : KnxError :=
  .configuration (.validationError
    "SecureRouting (KNX IP Secure over multicast) is not yet implemented")

def createConnection : Handler Link :=
  match knx.config.connectionType with
  | .tunneling | .secureTunneling => openUdpTunnel knx
  | .tcpTunneling => openTcpTunnel knx
  | .routing => openRouting knx
  | .secureRouting => .done (.err secureRoutingError)

def establishConnection (link : Link) : Option UInt8 :=
  match knx.config.connectionType, link with
  | .tunneling, .tunnel channelId | .secureTunneling, .tunnel channelId
  | .tcpTunneling, .tunnel channelId => some channelId
  | _, _ => none

def keepChannelId : Link → Handler Unit
  | .tunnel channelId => Instance.perform (.setChannelId (some channelId))
  | .routing => pure ()

/-- The error of a tunnel ends the call, that of routing is part of the result. -/
def connectionResult : Handler (Except KnxError Link) :=
  match knx.config.connectionType with
  | .tunneling | .secureTunneling => do
    let link ← openUdpTunnel knx
    keepChannelId link
    pure (.ok link)
  | .tcpTunneling => do
    let link ← openTcpTunnel knx
    pure (.ok link)
  | .routing => Task.attempt (openRouting knx)
  | .secureRouting => pure (.error secureRoutingError)

def concludeConnect : Except KnxError Link → Handler Unit
  | .ok link => do
    Instance.perform (.storeConnection link)
    enterState .connected
  | .error e => do
    enterState .error
    .done (.err e)

def connect : Handler Unit := do
  enterState .connecting
  let result ← connectionResult knx
  concludeConnect result

def closeTaken : Option Connection → Handler Unit
  | some connection => do
    let closed ← Instance.perform (.close connection)
    Instance.perform (.releaseConnection .write)
    rethrow closed
  | none => Instance.perform (.releaseConnection .write)

def disconnect : Handler Unit := do
  enterState .disconnecting
  closeTaken (← Instance.perform .takeConnection)
  enterState .disconnected

def sendTelegram (telegram : Telegram) : Handler Unit := do
  .done (← Instance.perform (.enqueue .outgoing
    { telegram with source := knx.config.individualAddress }))

def startTask (slot : Slot) (kind : TaskKind) : Handler Unit := do
  let handle ← Instance.perform (.spawn kind)
  Instance.perform (.storeTask slot handle)

def startConnectionControlTask (connection : Connection) : Handler Unit := do
  if ← Instance.perform .takeReceiver then startTask .control (.control connection)
  else .done (validationError "Control receiver already taken")

def startTelegramReceivingTask (connection : Connection) : Handler Unit :=
  startTask .receiving (.receiving connection)

def startTelegramProcessingTask : Handler Unit := startTask .processing .processing

def startTelegramSendingTask (connection : Connection) : Handler Unit := do
  let _ ← Instance.perform (.spawn (.sending connection))

def startGroupRefreshTask : Handler Unit := startTask .refresh .refresh

def startTasks (connection : Connection) : Handler Unit := do
  startConnectionControlTask connection
  startTelegramReceivingTask connection
  startTelegramProcessingTask
  startTelegramSendingTask connection
  startGroupRefreshTask

def start : Handler Unit := do
  let connection ← Instance.perform .readConnection
  let started ← Task.attempt (match connection with
    | none => .done (validationError "Not connected to KNX network")
    | some connection => startTasks connection)
  Instance.perform (.releaseConnection .read)
  rethrow started

def awaitTask (slot : Slot) (timeoutMs : ℕ) : Handler Unit := do
  match ← Instance.perform (.takeTask slot) with
  | some handle => Instance.perform (.join handle timeoutMs)
  | none => pure ()
  Instance.perform (.releaseTask slot)

def stop : Handler Unit := do
  Instance.perform (.setShutdown true)
  Instance.perform .closeQueue
  awaitTask .receiving 5000
  awaitTask .processing 5000
  awaitTask .control 2000
  awaitTask .reconnect 2000
  awaitTask .cleanup 2000
  awaitTask .refresh 2000
  Instance.perform (.setShutdown false)

def shutdown : Handler Unit := do
  stop
  disconnect

def enqueueCemi (cemiData : List UInt8) : Handler Unit := do
  let timestamp ← Instance.perform .now
  let telegram ← .done (parseCemiToTelegram timestamp cemiData)
  Instance.perform (.limit telegram)

def handleTunnellingRequest (body : List UInt8) (connection : Connection) : Handler Unit := do
  let request ← .done (TunnellingRequest.parse body)
  match connection.link with
  | .tunnel _ => do
    let acknowledge (status : UInt8) : Handler Unit := do
      let _ ← Instance.perform (.sendTunnellingAck connection request.communicationChannelId
        request.sequenceCounter status)
    match ← Instance.perform (.validateSequenceNumber connection request.sequenceCounter) with
    | .valid => do
      acknowledge TunnellingAck.statusOk
      enqueueCemi request.rawCemi
    | .duplicate => acknowledge TunnellingAck.statusOk
    | .invalid _ _ => acknowledge TunnellingAck.statusErrorSequenceNumber
  -- Without a tunnel there is no counter to check and nobody to acknowledge to.
  | .routing => enqueueCemi request.rawCemi

def handleDisconnectRequest (body : List UInt8) (currentChannelId : Option UInt8) :
    Handler Unit := do
  if body.length < 10 then pure ()
  else do
    let request ← .done (DisconnectRequest.parse body)
    let channelId := request.communicationChannelId
    if currentChannelId.all (· = channelId) then do
      Instance.perform (.control (.sendDisconnectResponse channelId))
      Instance.perform
        (.control (.tunnelLost channelId "DisconnectRequest received from server"))
    else pure ()

def handleIncomingFrame (data : List UInt8) (currentChannelId : Option UInt8)
    (connection : Connection) : Handler Bool := do
  let frame ← .done (KnxIpFrame.parse data)
  match frame.header.serviceType with
  | .tunnellingRequest => do
    handleTunnellingRequest frame.body connection
    pure true
  | .routingIndication => do
    enqueueCemi frame.body
    pure true
  | .disconnectRequest => do
    handleDisconnectRequest frame.body currentChannelId
    pure true
  | .disconnectResponse => do
    .done (handleDisconnectResponse frame.body)
    pure true
  | .connectionstateRequest => do
    .done (handleConnectionstateRequest frame.body)
    pure true
  | .connectionstateResponse => do
    .done (handleConnectionstateResponse frame.body)
    pure true
  | .connectRequest | .connectResponse => pure true
  | _ => pure false

/-- The bodies of the tasks run for a number of rounds, and tell whether the task has
come to its end in them. -/
def receivingTask (connection : Connection) : ℕ → Handler Bool
  | 0 => pure false
  | rounds + 1 => do
    let stopping : Handler Bool := do
      Instance.perform .closeQueue
      pure true
    if ← Instance.perform .isShutdown then stopping
    else match ← Instance.perform (.recv connection) with
      | some (.error _) => stopping
      | none => do
        if ← Instance.perform .isShutdown then stopping else receivingTask connection rounds
      | some (.ok data) => do
        if ← Instance.perform (.allocate data.length) then do
          let currentChannelId ← Instance.perform .channelId
          let _ ← Task.attempt (handleIncomingFrame data currentChannelId connection)
          receivingTask connection rounds
        else receivingTask connection rounds

def isDrained : Handler Bool := do
  if ← Instance.perform .isShutdown then Instance.perform .isEmpty else pure false

def processingTask : ℕ → Handler Bool
  | 0 => pure false
  | rounds + 1 => do
    if ← isDrained then pure true
    else match ← Instance.perform (.dequeue .incoming) with
      | some telegram => do
        Instance.perform (.notifyTelegramReceived telegram)
        processingTask rounds
      | none => pure true

def buildOutgoingFrame (telegram : Telegram) (connection : Connection) :
    Handler (List UInt8) :=
  match connection.link with
  | .tunnel channelId => do
    let sequence ← Instance.perform (.nextSequence connection)
    pure (buildOutgoingFrameForConnection telegram (.tunnel channelId sequence))
  | .routing => pure (buildOutgoingFrameForConnection telegram .routing)

def sendingTask (connection : Connection) : ℕ → Handler Bool
  | 0 => pure false
  | rounds + 1 => do
    if ← isDrained then pure true
    else match ← Instance.perform (.dequeue .outgoing) with
      | some telegram => do
        let frame ← buildOutgoingFrame telegram connection
        let _ ← Instance.perform (.send connection frame)
        sendingTask connection rounds
      | none => pure true

def refreshTask : ℕ → Handler Bool
  | 0 => pure false
  | rounds + 1 => do
    if ← Instance.perform .isShutdown then pure true
    else do
      Instance.perform (.sleep 1000)
      if ← Instance.perform .isShutdown then pure true
      else match ← Instance.perform .nextStale with
        | some address => do
          let readTelegram := Telegram.groupRead (← Instance.perform .now) address
          let _ ← Task.attempt (sendTelegram knx { readTelegram with priority := .low } : Handler _)
          refreshTask rounds
        | none => refreshTask rounds

def cleanupTask : ℕ → Handler Bool
  | 0 => pure false
  | rounds + 1 => do
    if ← Instance.perform .isShutdown then pure true
    else do
      Instance.perform (.sleep 300000)
      cleanupTask rounds

def drainTask : ℕ → Handler Bool
  | 0 => pure false
  | rounds + 1 => do
    let telegram ← Instance.perform .receiveLimited
    let _ ← Instance.perform (.enqueue .incoming telegram)
    drainTask rounds

def reconnectionTask (delayMs attempt : ℕ) : ℕ → Handler Bool
  | 0 => pure false
  | rounds + 1 => do
    let backoff := knx.config.reconnectBackoff
    if ← Instance.perform .isShutdown then pure true
    else if attempt > backoff.maxAttempts then pure true
    else match ← Task.attempt (createConnection knx) with
      | .ok link => do
        Instance.perform (.storeConnection link)
        Instance.perform (.setState .connected)
        -- A connection without a channel leaves the previous one in place.
        match establishConnection knx link with
        | some channelId => Instance.perform (.setChannelId (some channelId))
        | none => pure ()
        Instance.perform (.notifyConnectionStateChanged .connected)
        pure true
      | .error _ => do
        Instance.perform (.sleep delayMs)
        reconnectionTask (min (backoff.multiply delayMs) backoff.maxDelayMs) (attempt + 1) rounds

def answerDisconnectRequest (connection : Connection) (channelId : UInt8) : Handler Unit := do
  let response : DisconnectResponse := ⟨channelId, ChannelResponse.statusOk⟩
  let _ ← Instance.perform (.send connection
    (KnxIpFrame.new .disconnectResponse response.serialize).serialize)
  Instance.perform (.setChannelId none)

def handleTunnelLost (_channelId : UInt8) (_reason : String) : Handler Unit := do
  enterState .disconnected
  let connection ← Instance.perform .takeConnection
  let _ ← Task.attempt (closeTaken connection)
  if knx.config.autoReconnect then do
    let _ ← Instance.perform .startReconnection

def controlTask (connection : Connection) : ℕ → Handler Bool
  | 0 => pure false
  | rounds + 1 => do
    match ← Instance.perform .receiveControl with
    | some (.sendDisconnectResponse channelId) => do
      answerDisconnectRequest connection channelId
      controlTask connection rounds
    | some (.tunnelLost channelId reason) => do
      handleTunnelLost knx channelId reason
      if knx.config.autoReconnect then controlTask connection rounds else pure true
    | none => do
      if ← Instance.perform .isShutdown then pure true else controlTask connection rounds

def taskBody : TaskKind → ℕ → Handler Bool
  | .drain => drainTask
  | .cleanup => cleanupTask
  | .control connection => controlTask knx connection
  | .receiving connection => receivingTask connection
  | .processing => processingTask
  | .sending connection => sendingTask connection
  | .refresh => refreshTask knx
  | .reconnection => reconnectionTask knx knx.config.reconnectBackoff.initialDelayMs 1

inductive Activity
  | connect
  | disconnect
  | start
  | stop
  | shutdown
  | sendTelegram (telegram : Telegram)
  | task (handle : ℕ) (kind : TaskKind) (rounds : ℕ)
  deriving DecidableEq

def program : Activity → Handler Unit
  | .connect => connect knx
  | .disconnect => disconnect
  | .start => start
  | .stop => stop
  | .shutdown => shutdown
  | .sendTelegram telegram => sendTelegram knx telegram
  | .task handle kind rounds => do
    Instance.perform (.begin handle kind)
    if ← taskBody knx kind rounds then Instance.perform (.finish handle) else pure ()

abbrev Step := Record Command Command.Response State

/-- Any calls, made at any time, and the tasks that they lead to. A task runs once, and
only after it has been spawned. -/
def run (moves : List (Move Activity Env)) : Config Command Command.Response State KnxError :=
  (⟨.new, [], []⟩ : Config Command Command.Response State KnxError).run
    (exec knx) (program knx) moves

end Knust.Application.Instance
