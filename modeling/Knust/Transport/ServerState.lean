import Knust.Foundation.Concurrent
import Knust.Protocol.Telegram
import Knust.Security.Session

namespace Knust.Transport

open Foundation Protocol Security

inductive SequenceValidationResult
  | valid
  | duplicate
  | invalid (expected received : UInt8)
  deriving Repr, DecidableEq

inductive ClientLink
  | udp (peerAddr : SocketAddr)
  | tcp (transport : ℕ) (peerAddr : SocketAddr)
  deriving DecidableEq

def ClientLink.peerAddr : ClientLink → SocketAddr
  | .udp peerAddr | .tcp _ peerAddr => peerAddr

def clientTimeout : ℕ := 2 * 60 * 10 ^ 9

def ackTimeoutMs : ℕ := 1000

/-- A shared reference to a session: its fixed fields and the place of the
mutable ones. -/
structure ClientSession where
  channelId : UInt8
  link : ClientLink
  cells : ℕ
  deriving DecidableEq

structure ClientCells where
  sendSeq : UInt8
  recvSeq : UInt8
  lastHeartbeat : ℕ
  sendLock : Bool
  pendingAck : Option ℕ
  deriving DecidableEq

def ClientCells.new (now : ℕ) : ClientCells := ⟨0, 0, now, false, none⟩

def ClientCells.isStale (c : ClientCells) (now : ℕ) : Bool := now - c.lastHeartbeat > clientTimeout

structure SecureSessionEntry where
  session : SecureSession
  clientPublicKey : Block 32
  deriving DecidableEq

/-- A one-shot channel between the receiver of an acknowledgement and the task
that waits for it. -/
inductive Oneshot
  | waiting
  | sent (ack : TunnellingAck)
  | closed
  deriving DecidableEq

structure TunnelServer where
  localAddr : SocketAddr
  individualAddress : IndividualAddress
  secureConfig : Option SessionConfig

namespace Server

/-- Sessions and channels are reached through references into the three lists,
which only grow. -/
structure State where
  sessions : UInt8 → Option ClientSession
  sessionsHeld : Bool
  secureSessions : SocketAddr → Option ℕ
  nextSecureSessionId : UInt16
  shutdown : Bool
  published : List Telegram
  cells : List ClientCells
  entries : List SecureSessionEntry
  acks : List Oneshot

def State.bound : State where
  sessions _ := none
  sessionsHeld := false
  secureSessions _ := none
  nextSecureSessionId := 1
  shutdown := false
  published := []
  cells := []
  entries := []
  acks := []

/-- What the runtime and the operating system contribute to one step. -/
structure Env where
  now : ℕ := 0
  secret : Block 32 := Block.zero 32
  ioError : Option IoError := none
  flushing : Bool := false
  notified : Bool := false
  elapsed : Bool := false
  order : List UInt8 := []

/-- The accesses to shared state and to the outside, each atomic: a critical
section, an operation on an atomic variable or a call of the operating system. -/
inductive Command
  | isShutdown
  | requestShutdown
  | sleep
  | now
  | recvFrom (peer : SocketAddr) (data : List UInt8)
  | recvFrame (transport : ℕ) (peer : SocketAddr) (data : List UInt8)
  | streamClosed (transport : ℕ) (peer : SocketAddr)
  | sendFrame (link : ClientLink) (frame : List UInt8)
  | generateSecret
  | fetchSecureSessionId
  | getSecureSession (peer : SocketAddr)
  | getRecipient (peer : SocketAddr)
  | insertSecureSession (peer : SocketAddr) (entry : SecureSessionEntry)
  | removeSecureSession (peer : SocketAddr)
  | isAuthenticated (entry : ℕ)
  | verifyAuthenticateMac (entry : ℕ) (userId : UInt8) (mac : List UInt8)
  | encryptFrame (entry : ℕ) (frame : List UInt8)
  | decryptFrame (entry : ℕ) (frame : List UInt8)
  | openSession (link : ClientLink)
  | releaseSessions
  | getSession (channelId : UInt8)
  | touchSession (channelId : UInt8)
  | removeSession (channelId : UInt8)
  | staleSessions
  | removeSessions (ids : List UInt8)
  | allSessions
  | touch (cells : ℕ)
  | loadRecvSeq (cells : ℕ)
  | storeRecvSeq (cells : ℕ) (value : UInt8)
  | lockSend (cells : ℕ)
  | unlockSend (cells : ℕ)
  | loadSendSeq (cells : ℕ)
  | storeSendSeq (cells : ℕ) (value : UInt8)
  | expectAck (cells : ℕ)
  | awaitAck (channel : ℕ)
  | takePendingAck (cells : ℕ)
  | deliverAck (channel : ℕ) (ack : TunnellingAck)
  | publish (telegram : Telegram)
  deriving DecidableEq

abbrev Command.Response : Command → Type
  | .isShutdown | .sleep | .recvFrom .. | .isAuthenticated .. => Bool
  | .now | .expectAck .. => ℕ
  | .generateSecret => Block 32
  | .fetchSecureSessionId => UInt16
  | .getSecureSession .. | .getRecipient .. | .takePendingAck .. => Option ℕ
  | .sendFrame .. => Result Unit
  | .verifyAuthenticateMac .. => Result Bool
  | .encryptFrame .. | .decryptFrame .. => Result (List UInt8)
  | .openSession .. => Option UInt8
  | .getSession .. | .touchSession .. | .removeSession .. => Option ClientSession
  | .staleSessions => List UInt8
  | .allSessions => List ClientSession
  | .loadRecvSeq .. | .loadSendSeq .. => UInt8
  | .awaitAck .. => Option TunnellingAck
  | .requestShutdown | .recvFrame .. | .streamClosed .. | .insertSecureSession ..
  | .removeSecureSession .. | .releaseSessions | .removeSessions .. | .touch .. | .storeRecvSeq ..
  | .lockSend .. | .unlockSend .. | .storeSendSeq .. | .deliverAck .. | .publish .. => Unit

instance (c : Command) : DecidableEq c.Response := by cases c <;> infer_instance

def sendResult (link : ClientLink) (i : Env) : Result Unit :=
  match i.ioError with
  | none => .ok ()
  | some source => .err (.transport (.socketError (match link with
    | .udp _ => "send_to"
    | .tcp .. => if i.flushing then "tcp_flush" else "tcp_write") source))

def channelIds : List UInt8 := (List.range' 1 255).map UInt8.ofNat

def allocateChannelId (sessions : UInt8 → Option ClientSession) : Option UInt8 :=
  channelIds.find? fun id ↦ (sessions id).isNone

/-- The occupied identifiers, in an order that a hash map is free to choose. -/
def occupied (sessions : UInt8 → Option ClientSession) (order : List UInt8) : List UInt8 :=
  let ids := ((List.range 256).map UInt8.ofNat).filter fun id ↦ (sessions id).isSome
  (order.filter (· ∈ ids)).dedup ++ ids.filter (· ∉ order)

namespace State

variable {α : Type} (s : State)

/-- Access to the session table has to wait while it is held across an await. -/
def withSessions (x : α) : Option α := if s.sessionsHeld then none else some x

def withEntry (entry : ℕ) (f : SecureSessionEntry → α × SecureSession) : Option (α × State) :=
  match s.entries[entry]? with
  | some e =>
    let (a, session) := f e
    some (a, { s with entries := s.entries.set entry { e with session } })
  | none => none

def withCells (cells : ℕ) (f : ClientCells → Option (α × ClientCells)) : Option (α × State) :=
  match s.cells[cells]? with
  | some c =>
    match f c with
    | some (a, c) => some (a, { s with cells := s.cells.set cells c })
    | none => none
  | none => none

def dropSender : Option ℕ → List Oneshot
  | some channel => s.acks.modify channel fun c ↦ if c = .waiting then .closed else c
  | none => s.acks

def insertSession (link : ClientLink) (id : UInt8) (now : ℕ) : State :=
  { s with
    sessions := Function.update s.sessions id (some ⟨id, link, s.cells.length⟩)
    cells := s.cells ++ [.new now] }

def isStaleSession (now : ℕ) (id : UInt8) : Bool :=
  match (s.sessions id).bind fun session ↦ s.cells[session.cells]? with
  | some c => c.isStale now
  | none => false

def touchCells (session : ClientSession) (now : ℕ) : State :=
  { s with cells := s.cells.modify session.cells fun c ↦ { c with lastHeartbeat := now } }

section

variable {s} {s' : State}

theorem withEntry_eq_some {α : Type} {entry : ℕ} {f : SecureSessionEntry → α × SecureSession}
    {a : α} (h : s.withEntry entry f = some (a, s')) :
    ∃ e, s.entries[entry]? = some e ∧ a = (f e).1 ∧
      s' = { s with entries := s.entries.set entry { e with session := (f e).2 } } := by
  unfold withEntry at h
  split at h
  · rename_i e he
    simp only [Option.some.injEq, Prod.mk.injEq] at h
    exact ⟨e, he, h.1.symm, h.2.symm⟩
  · cases h

theorem withCells_eq_some {α : Type} {n : ℕ} {f : ClientCells → Option (α × ClientCells)}
    {a : α} (h : s.withCells n f = some (a, s')) :
    ∃ c c', s.cells[n]? = some c ∧ f c = some (a, c') ∧
      s' = { s with cells := s.cells.set n c' } := by
  unfold withCells at h
  split at h
  · rename_i c hc
    split at h
    · rename_i a' c' hf
      simp only [Option.some.injEq, Prod.mk.injEq] at h
      obtain ⟨rfl, rfl⟩ := h
      exact ⟨c, c', hc, hf, rfl⟩
    · cases h
  · cases h

theorem withSessions_eq_some {α : Type} {x y : α} (h : s.withSessions x = some y) :
    s.sessionsHeld = false ∧ x = y := by
  unfold withSessions at h
  split at h
  · cases h
  · rename_i hs
    exact ⟨eq_false_of_ne_true hs, Option.some.inj h⟩

end

end State

variable (P : Primitives)

def exec : Machine Command Command.Response State Env
  | .isShutdown, _, s => some (s.shutdown, s)
  | .requestShutdown, _, s => some ((), { s with shutdown := true })
  | .sleep, i, s => some (!(i.notified && s.shutdown), s)
  | .now, i, s => some (i.now, s)
  | .recvFrom _ _, i, s => some (!(i.notified && s.shutdown), s)
  | .recvFrame _ _ _, _, s => some ((), s)
  | .streamClosed _ _, _, s => some ((), s)
  | .sendFrame link _, i, s => some (sendResult link i, s)
  | .generateSecret, i, s => some (i.secret, s)
  | .fetchSecureSessionId, _, s =>
    some (s.nextSecureSessionId, { s with nextSecureSessionId := s.nextSecureSessionId + 1 })
  | .getSecureSession peer, _, s => some (s.secureSessions peer, s)
  | .getRecipient peer, _, s => some (s.secureSessions peer, s)
  | .insertSecureSession peer entry, _, s =>
    some ((), { s with
      secureSessions := Function.update s.secureSessions peer (some s.entries.length)
      entries := s.entries ++ [entry] })
  | .removeSecureSession peer, _, s =>
    some ((), { s with secureSessions := Function.update s.secureSessions peer none })
  | .isAuthenticated entry, _, s => s.withEntry entry fun e ↦ (e.session.isAuthenticated, e.session)
  | .verifyAuthenticateMac entry userId mac, _, s =>
    s.withEntry entry fun e ↦ e.session.verifyAuthenticateMac P e.clientPublicKey userId mac
  | .encryptFrame entry frame, _, s => s.withEntry entry fun e ↦ e.session.encryptFrame P frame
  | .decryptFrame entry frame, _, s => s.withEntry entry fun e ↦ e.session.decryptFrame P frame
  | .openSession link, i, s =>
    s.withSessions <| match allocateChannelId s.sessions with
    | some id => (some id, s.insertSession link id i.now)
    | none => (none, { s with sessionsHeld := true })
  | .releaseSessions, _, s => some ((), { s with sessionsHeld := false })
  | .getSession channelId, _, s => s.withSessions (s.sessions channelId, s)
  | .touchSession channelId, i, s =>
    s.withSessions <| match s.sessions channelId with
    | some session => (some session, s.touchCells session i.now)
    | none => (none, s)
  | .removeSession channelId, _, s =>
    s.withSessions (s.sessions channelId,
      { s with sessions := Function.update s.sessions channelId none })
  | .staleSessions, i, s =>
    s.withSessions ((occupied s.sessions i.order).filter (s.isStaleSession i.now), s)
  | .removeSessions ids, _, s =>
    s.withSessions ((), { s with sessions := fun id ↦ if id ∈ ids then none else s.sessions id })
  | .allSessions, i, s =>
    s.withSessions ((occupied s.sessions i.order).filterMap s.sessions, s)
  | .touch cells, i, s => s.withCells cells fun c ↦ some ((), { c with lastHeartbeat := i.now })
  | .loadRecvSeq cells, _, s => s.withCells cells fun c ↦ some (c.recvSeq, c)
  | .storeRecvSeq cells value, _, s =>
    s.withCells cells fun c ↦ some ((), { c with recvSeq := value })
  | .lockSend cells, _, s =>
    s.withCells cells fun c ↦ if c.sendLock then none else some ((), { c with sendLock := true })
  | .unlockSend cells, _, s => s.withCells cells fun c ↦ some ((), { c with sendLock := false })
  | .loadSendSeq cells, _, s => s.withCells cells fun c ↦ some (c.sendSeq, c)
  | .storeSendSeq cells value, _, s =>
    s.withCells cells fun c ↦ some ((), { c with sendSeq := value })
  | .expectAck cells, _, s =>
    match s.cells[cells]? with
    | some c => some (s.acks.length, { s with
        cells := s.cells.set cells { c with pendingAck := some s.acks.length }
        acks := s.dropSender c.pendingAck ++ [.waiting] })
    | none => none
  | .awaitAck channel, i, s =>
    match s.acks[channel]? with
    | some (.sent ack) => some (some ack, s)
    | some .closed => some (none, s)
    | some .waiting => if i.elapsed then some (none, s) else none
    | none => none
  | .takePendingAck cells, _, s =>
    s.withCells cells fun c ↦ some (c.pendingAck, { c with pendingAck := none })
  | .deliverAck channel ack, _, s =>
    some ((), { s with
      acks := s.acks.modify channel fun c ↦ if c = .waiting then .sent ack else c })
  | .publish telegram, _, s => some ((), { s with published := telegram :: s.published })

def Command.editsSecureSessions : Command → Bool
  | .insertSecureSession .. | .removeSecureSession .. => true
  | _ => false

section

variable {P} {c : Command} {i : Env} {s s' : State} {r : c.Response}

theorem exec_secureSessions (hc : c.editsSecureSessions = false)
    (he : exec P c i s = some (r, s')) : s'.secureSessions = s.secureSessions := by
  cases c
  case insertSecureSession | removeSecureSession => cases hc
  case isAuthenticated | verifyAuthenticateMac | encryptFrame | decryptFrame =>
    simp only [exec] at he
    obtain ⟨e, -, -, rfl⟩ := State.withEntry_eq_some he
    rfl
  case getSession | removeSession | removeSessions | staleSessions | allSessions =>
    simp only [exec] at he
    cases (State.withSessions_eq_some he).2
    rfl
  case openSession | touchSession =>
    simp only [exec] at he
    obtain ⟨-, heq⟩ := State.withSessions_eq_some he
    split at heq <;> cases heq <;> rfl
  case touch | loadRecvSeq | storeRecvSeq | lockSend | unlockSend | loadSendSeq | storeSendSeq
      | takePendingAck =>
    simp only [exec] at he
    obtain ⟨-, -, -, -, rfl⟩ := State.withCells_eq_some he
    rfl
  case expectAck =>
    simp only [exec] at he
    split at he <;> cases he
    rfl
  case awaitAck =>
    simp only [exec] at he
    split at he
    · cases he; rfl
    · cases he; rfl
    · split at he <;> cases he; rfl
    · cases he
  all_goals
    cases he
    rfl

end

end Server

end Knust.Transport
