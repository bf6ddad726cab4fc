import Knust.Protocol.Tpci
import Knust.Transport.ServerState

namespace Knust.Transport

open Foundation Protocol Security

inductive TransportKind
  | udp
  | tcp
  deriving Repr, DecidableEq

inductive ConnectionState
  | connecting
  | connected
  | disconnecting
  | disconnected
  | failed
  deriving Repr, DecidableEq

/-- The uptime is not kept: it is computed from the time of establishment when the
statistics are read. -/
structure ConnectionStats where
  framesSent : ℕ
  framesReceived : ℕ
  sendErrors : ℕ
  recvErrors : ℕ
  connectionErrors : ℕ
  lastError : Option String
  lastErrorAt : Option ℕ
  deriving DecidableEq

namespace ConnectionStats

def default : ConnectionStats := ⟨0, 0, 0, 0, 0, none, none⟩

def recordError (s : ConnectionStats) (e : KnxError) (now : ℕ) : ConnectionStats :=
  { s with lastError := some e.toString, lastErrorAt := some now }

def recordConnectionError (s : ConnectionStats) (e : KnxError) (now : ℕ) : ConnectionStats :=
  { s with connectionErrors := s.connectionErrors + 1 }.recordError e now

def recordSendError (s : ConnectionStats) (e : KnxError) (now : ℕ) : ConnectionStats :=
  { s with sendErrors := s.sendErrors + 1 }.recordError e now

def recordReceiveError (s : ConnectionStats) (e : KnxError) (now : ℕ) : ConnectionStats :=
  { s with recvErrors := s.recvErrors + 1 }.recordError e now

end ConnectionStats

structure HeartbeatMonitor where
  consecutiveFailures : UInt8
  tunnelLost : Bool
  lastSuccess : Option ℕ
  deriving DecidableEq

namespace HeartbeatMonitor

def maxFailures : UInt8 := 3

def timeoutMs : ℕ := 10000

def new : HeartbeatMonitor := ⟨0, false, none⟩

def recordSuccess (m : HeartbeatMonitor) (now : ℕ) : HeartbeatMonitor :=
  { m with consecutiveFailures := 0, lastSuccess := some now }

def recordFailure (m : HeartbeatMonitor) : Bool × HeartbeatMonitor :=
  let failures := m.consecutiveFailures + 1
  let lost := failures ≥ maxFailures
  (lost, { m with consecutiveFailures := failures, tunnelLost := m.tunnelLost || lost })

end HeartbeatMonitor

inductive ConnectionControlEvent
  | tunnelLost (channelId : UInt8) (reason : String)
  | sendDisconnectResponse (channelId : UInt8)
  deriving DecidableEq

structure SecurityConfig where
  deviceAuthPassword : String
  userPassword : Option String
  deriving DecidableEq

/-- The fields of a tunnel that are fixed when it is built. The address of the
gateway only appears in messages, already printed. -/
structure Tunnel where
  kind : TransportKind
  gatewayAddr : String
  localHpai : Hpai
  connectionTimeoutMs : ℕ
  useHeartbeat : Bool
  sendAcks : Bool
  addressManaged : Bool
  configuredAddress : Option IndividualAddress

namespace Tunnel

def newUdpWithTimeout (gatewayAddr : String) (connectionTimeoutMs : ℕ) : Tunnel :=
  ⟨.udp, gatewayAddr, .routeBack, connectionTimeoutMs, true, true, false, none⟩

def newUdp (gatewayAddr : String) : Tunnel := newUdpWithTimeout gatewayAddr 5000

def newTcpWithTimeout (gatewayAddr : String) (connectionTimeoutMs : ℕ) : Tunnel :=
  ⟨.tcp, gatewayAddr, .newTcpRouteBack, connectionTimeoutMs, true, false, false, none⟩

end Tunnel

namespace Client

/-- The mutable fields of a tunnel, with the address registry that it is given and
what the application keeps for it: the incoming telegrams, the control events,
both the latest first, the channel and whether it still holds the connection. -/
structure State where
  transport : Bool
  channelId : UInt8
  sequenceCounter : UInt8
  expectedSequenceNumber : UInt8
  state : ConnectionState
  stats : ConnectionStats
  establishedAt : Option ℕ
  secureSession : Option SecureSession
  individualAddress : Option IndividualAddress
  claimed : IndividualAddress → Bool
  knownOccupied : IndividualAddress → Bool
  heartbeat : Option HeartbeatMonitor
  incoming : List Telegram
  queueOpen : Bool
  control : List ConnectionControlEvent
  knxChannelId : Option UInt8
  held : Bool

def State.built : State where
  transport := false
  channelId := 0
  sequenceCounter := 0
  expectedSequenceNumber := 0
  state := .disconnected
  stats := .default
  establishedAt := none
  secureSession := none
  individualAddress := none
  claimed _ := false
  knownOccupied _ := false
  heartbeat := none
  incoming := []
  queueOpen := true
  control := []
  knxChannelId := none
  held := false

/-- What the runtime, the operating system and the gateway contribute to one step. -/
structure Env where
  now : ℕ := 0
  secret : Block 32 := Block.zero 32
  establishError : Option KnxError := none
  ioError : Option IoError := none
  flushing : Bool := false
  frame : Except KnxError (List UInt8) := .error (.transport .connectionClosed)
  elapsed : Bool := false
  stopped : Bool := false
  response : Option KnxIpFrame := none
  queueAccepts : Bool := true
  shutdown : Bool := false
  allocates : Bool := true
  outgoing : Option Telegram := none

inductive Method
  | sendFrame
  | recvFrame
  | sendTunnellingAck
  | sendConnectionstateRequest
  | sendDisconnectRequest
  deriving DecidableEq

inductive Command
  | establishTransport
  | transport (caller : Method)
  | write (frame : List UInt8)
  | read
  | readWithin (timeoutMs : ℕ)
  | generateSecret
  | installSession (session : SecureSession)
  | encryptFrame (frame : List UInt8)
  | decryptFrame (frame : List UInt8)
  | recordSent
  | recordReceived
  | recordSendError (e : KnxError)
  | recordReceiveError (e : KnxError)
  | recordConnectionError (e : KnxError)
  | setState (state : ConnectionState)
  | isConnected
  | openChannel (channelId : UInt8)
  | closeChannel
  | channelId
  | nextSequence
  | loadExpected
  | storeExpected (value : UInt8)
  | isAvailable (addr : IndividualAddress)
  | claim (addr : IndividualAddress)
  | setAddress (addr : IndividualAddress)
  | releaseAddress
  | startMonitor
  | sleep
  | registerWaiter
  | awaitResponse (timeoutMs : ℕ)
  | recordSuccess
  | recordFailure
  | now
  | enqueueIncoming (telegram : Telegram)
  | closeQueue
  | control (event : ConnectionControlEvent)
  | receiveControl
  | isShutdown
  | isDrained
  | allocate (size : ℕ)
  | dequeueOutgoing
  | knxChannelId
  | clearKnxChannelId
  | takeConnection

abbrev Command.Response : Command → Type
  | .transport .. | .isConnected | .isAvailable .. | .sleep | .recordFailure | .isShutdown
  | .isDrained | .allocate .. | .takeConnection => Bool
  | .establishTransport | .write .. | .claim .. => Result Unit
  | .read => Except KnxError (List UInt8)
  | .readWithin .. => Option (Except KnxError (List UInt8))
  | .generateSecret => Block 32
  | .encryptFrame .. | .decryptFrame .. => Option (Result (List UInt8))
  | .channelId | .nextSequence | .loadExpected => UInt8
  | .awaitResponse .. => Option KnxIpFrame
  | .now => ℕ
  | .receiveControl => Option ConnectionControlEvent
  | .dequeueOutgoing => Option Telegram
  | .knxChannelId => Option UInt8
  | .installSession .. | .recordSent | .recordReceived | .recordSendError .. | .recordReceiveError ..
  | .recordConnectionError .. | .setState .. | .openChannel .. | .closeChannel | .storeExpected ..
  | .setAddress .. | .releaseAddress | .startMonitor | .registerWaiter | .recordSuccess
  | .enqueueIncoming .. | .closeQueue | .control .. | .clearKnxChannelId => Unit

def writeResult (kind : TransportKind) (i : Env) : Result Unit :=
  match i.ioError with
  | none => .ok ()
  | some source => .err (.transport (.socketError (match kind with
    | .udp => "send"
    | .tcp => if i.flushing then "tcp_flush" else "tcp_write") source))

def State.withSession {α : Type} (s : State) (f : SecureSession → α × SecureSession) :
    Option α × State :=
  match s.secureSession with
  | some session =>
    let (a, session) := f session
    (some a, { s with secureSession := some session })
  | none => (none, s)

def State.releaseAddress (s : State) : State :=
  match s.individualAddress with
  | some addr =>
    { s with individualAddress := none, claimed := Function.update s.claimed addr false }
  | none => s

def State.claim (s : State) (addr : IndividualAddress) : Result Unit × State :=
  if s.claimed addr then
    (.err (.transport (.invalidConfiguration s!"Address {addr.toString} already claimed")), s)
  else (.ok (), { s with claimed := Function.update s.claimed addr true })

variable (P : Primitives) (tunnel : Tunnel)

/-- Every command can be carried out at any time: waiting is part of what the
environment decides. -/
def respond : (c : Command) → Env → State → c.Response × State
  | .establishTransport, i, s =>
    match i.establishError with
    | none => (.ok (), { s with transport := true })
    | some e => (.err e, s)
  | .transport _, _, s => (s.transport, s)
  | .write _, i, s => (writeResult tunnel.kind i, s)
  | .read, i, s => (i.frame, s)
  | .readWithin _, i, s => (if i.elapsed then none else some i.frame, s)
  | .generateSecret, i, s => (i.secret, s)
  | .installSession session, _, s => ((), { s with secureSession := some session })
  | .encryptFrame frame, _, s => s.withSession fun session ↦ session.encryptFrame P frame
  | .decryptFrame frame, _, s => s.withSession fun session ↦ session.decryptFrame P frame
  | .recordSent, _, s =>
    ((), { s with stats := { s.stats with framesSent := s.stats.framesSent + 1 } })
  | .recordReceived, _, s =>
    ((), { s with stats := { s.stats with framesReceived := s.stats.framesReceived + 1 } })
  | .recordSendError e, i, s => ((), { s with stats := s.stats.recordSendError e i.now })
  | .recordReceiveError e, i, s => ((), { s with stats := s.stats.recordReceiveError e i.now })
  | .recordConnectionError e, i, s =>
    ((), { s with stats := s.stats.recordConnectionError e i.now })
  | .setState state, _, s => ((), { s with state })
  | .isConnected, _, s => (s.state = .connected, s)
  | .openChannel channelId, i, s =>
    ((), { s with channelId, establishedAt := some i.now, state := .connected })
  | .closeChannel, _, s =>
    ((), { s with state := .disconnected, establishedAt := none, channelId := 0 })
  | .channelId, _, s => (s.channelId, s)
  | .nextSequence, _, s =>
    (s.sequenceCounter, { s with sequenceCounter := s.sequenceCounter + 1 })
  | .loadExpected, _, s => (s.expectedSequenceNumber, s)
  | .storeExpected value, _, s => ((), { s with expectedSequenceNumber := value })
  | .isAvailable addr, _, s => (!s.claimed addr && !s.knownOccupied addr, s)
  | .claim addr, _, s => s.claim addr
  | .setAddress addr, _, s => ((), { s with individualAddress := some addr })
  | .releaseAddress, _, s => ((), s.releaseAddress)
  | .startMonitor, _, s => ((), { s with heartbeat := some .new })
  | .sleep, i, s => (!i.stopped, s)
  | .registerWaiter, _, s => ((), s)
  | .awaitResponse _, i, s => (if i.elapsed then none else i.response, s)
  | .recordSuccess, i, s =>
    ((), { s with heartbeat := s.heartbeat.map fun m ↦ m.recordSuccess i.now })
  | .recordFailure, _, s =>
    match s.heartbeat with
    | some m => (m.recordFailure.1, { s with heartbeat := some m.recordFailure.2 })
    | none => (false, s)
  | .now, i, s => (i.now, s)
  | .enqueueIncoming telegram, i, s =>
    ((), if i.queueAccepts then { s with incoming := telegram :: s.incoming } else s)
  | .closeQueue, _, s => ((), { s with queueOpen := false })
  | .control event, i, s =>
    ((), if i.queueAccepts then { s with control := event :: s.control } else s)
  | .receiveControl, _, s => (s.control.getLast?, { s with control := s.control.dropLast })
  | .isShutdown, i, s | .isDrained, i, s => (i.shutdown, s)
  | .allocate _, i, s => (i.allocates, s)
  | .dequeueOutgoing, i, s => (i.outgoing, s)
  | .knxChannelId, _, s => (s.knxChannelId, s)
  | .clearKnxChannelId, _, s => ((), { s with knxChannelId := none })
  | .takeConnection, _, s => (s.held, { s with held := false })

def exec : Machine Command Command.Response State Env :=
  fun c i s ↦ some (respond P tunnel c i s)

def Command.keepsSession : Command → Bool
  | .installSession .. | .encryptFrame .. | .decryptFrame .. => false
  | _ => true

variable {P tunnel} {c : Command} {i : Env} {s s' : State} {r : c.Response}

theorem State.claim_secureSession (s : State) (addr : IndividualAddress) :
    (s.claim addr).2.secureSession = s.secureSession := by
  unfold State.claim
  split <;> rfl

theorem State.releaseAddress_secureSession (s : State) :
    s.releaseAddress.secureSession = s.secureSession := by
  unfold State.releaseAddress
  split <;> rfl

theorem exec_secureSession (hc : c.keepsSession = true) (h : exec P tunnel c i s = some (r, s')) :
    s'.secureSession = s.secureSession := by
  have hs : s' = (respond P tunnel c i s).2 := (congrArg Prod.snd (Option.some.inj h)).symm
  subst hs
  cases c
  case claim addr => exact s.claim_secureSession addr
  case releaseAddress => exact s.releaseAddress_secureSession
  case establishTransport | recordFailure | enqueueIncoming | control =>
    simp only [respond]
    split <;> rfl
  case installSession | encryptFrame | decryptFrame => cases hc
  all_goals rfl

theorem exec_secureSession_isSome (hs : s.secureSession.isSome = true)
    (h : exec P tunnel c i s = some (r, s')) : s'.secureSession.isSome = true := by
  by_cases hc : c.keepsSession = true
  · rw [exec_secureSession hc h]
    exact hs
  obtain ⟨session, hsession⟩ := Option.isSome_iff_exists.mp hs
  cases c
  case installSession => cases h; rfl
  case encryptFrame =>
    simp only [exec, respond, State.withSession, hsession] at h
    cases h
    rfl
  case decryptFrame =>
    simp only [exec, respond, State.withSession, hsession] at h
    cases h
    rfl
  all_goals exact absurd rfl hc

end Client

end Knust.Transport
