import Knust.Transport.Server

namespace Knust.Transport.Server

open Foundation Foundation.Task Protocol Security

/-- The commands that neither receive, nor send, nor store a new secure session. -/
def Command.isPlain : Command → Bool
  | .recvFrom .. | .recvFrame .. | .streamClosed .. | .sendFrame .. | .insertSecureSession .. => false
  | _ => true

def Command.touchesChannels : Command → Bool
  | .openSession .. | .touchSession .. | .removeSession .. | .removeSessions .. | .touch ..
  | .loadRecvSeq .. | .storeRecvSeq .. | .lockSend .. | .unlockSend .. | .loadSendSeq ..
  | .storeSendSeq .. | .expectAck .. | .takePendingAck .. | .deliverAck .. | .publish .. => true
  | _ => false

section

variable {P : Primitives} {c : Command} {i : Env} {s s' : State} {r : c.Response}

theorem exec_channels (hc : c.touchesChannels = false) (h : exec P c i s = some (r, s')) :
    s'.sessions = s.sessions ∧ s'.cells = s.cells ∧ s'.acks = s.acks ∧
      s'.published = s.published := by
  cases c
  case isAuthenticated | verifyAuthenticateMac | encryptFrame | decryptFrame =>
    simp only [exec] at h
    obtain ⟨e, -, -, rfl⟩ := State.withEntry_eq_some h
    exact ⟨rfl, rfl, rfl, rfl⟩
  case getSession | staleSessions | allSessions =>
    simp only [exec] at h
    cases (State.withSessions_eq_some h).2
    exact ⟨rfl, rfl, rfl, rfl⟩
  case awaitAck =>
    simp only [exec] at h
    split at h
    · cases h; exact ⟨rfl, rfl, rfl, rfl⟩
    · cases h; exact ⟨rfl, rfl, rfl, rfl⟩
    · split at h <;> cases h; exact ⟨rfl, rfl, rfl, rfl⟩
    · cases h
  all_goals first | (cases h; exact ⟨rfl, rfl, rfl, rfl⟩) | cases hc

theorem exec_entries (h : exec P c i s = some (r, s')) :
    s'.entries = s.entries ∨
    (∃ peer e, c = .insertSecureSession peer e ∧ s'.entries = s.entries ++ [e]) ∨
    ∃ n e session, s.entries[n]? = some e ∧ s'.entries = s.entries.set n { e with session } ∧
      session.sessionKey = e.session.sessionKey ∧
      (session.state = e.session.state ∨ ∃ userId mac, c = .verifyAuthenticateMac n userId mac ∧
        (e.session.verifyAuthenticateMac P e.clientPublicKey userId mac).1 = .ok true) := by
  cases c
  case insertSecureSession peer e =>
    cases h
    exact .inr (.inl ⟨peer, e, rfl, rfl⟩)
  case isAuthenticated entry =>
    simp only [exec] at h
    obtain ⟨e, he, -, rfl⟩ := State.withEntry_eq_some h
    exact .inr (.inr ⟨entry, e, _, he, rfl, rfl, .inl rfl⟩)
  case verifyAuthenticateMac entry userId mac =>
    simp only [exec] at h
    obtain ⟨e, he, -, rfl⟩ := State.withEntry_eq_some h
    refine .inr (.inr ⟨entry, e, _, he, rfl, ?_, ?_⟩)
    · rw [SecureSession.verifyAuthenticateMac]
      split <;> rfl
    by_cases hv : (e.session.verifyAuthenticateMac P e.clientPublicKey userId mac).1 = .ok true
    · exact .inr ⟨userId, mac, rfl, hv⟩
    · left
      rw [SecureSession.verifyAuthenticateMac] at hv ⊢
      rw [if_neg hv]
  case encryptFrame entry frame =>
    simp only [exec] at h
    obtain ⟨e, he, -, rfl⟩ := State.withEntry_eq_some h
    refine .inr (.inr ⟨entry, e, _, he, rfl, ?_⟩)
    unfold SecureSession.encryptFrame
    split <;> exact ⟨rfl, .inl rfl⟩
  case decryptFrame entry frame =>
    simp only [exec] at h
    obtain ⟨e, he, -, rfl⟩ := State.withEntry_eq_some h
    refine .inr (.inr ⟨entry, e, _, he, rfl, ?_⟩)
    unfold SecureSession.decryptFrame
    split <;> exact ⟨rfl, .inl rfl⟩
  case getSession | staleSessions | allSessions | removeSession | removeSessions =>
    simp only [exec] at h
    cases (State.withSessions_eq_some h).2
    exact .inl rfl
  case openSession | touchSession =>
    simp only [exec] at h
    obtain ⟨-, hx⟩ := State.withSessions_eq_some h
    split at hx <;> cases hx <;> exact .inl rfl
  case awaitAck =>
    simp only [exec] at h
    split at h
    · cases h; exact .inl rfl
    · cases h; exact .inl rfl
    · split at h <;> cases h; exact .inl rfl
    · cases h
  case expectAck =>
    simp only [exec] at h
    split at h <;> cases h; exact .inl rfl
  case touch | loadRecvSeq | storeRecvSeq | lockSend | unlockSend | loadSendSeq | storeSendSeq
      | takePendingAck =>
    simp only [exec] at h
    obtain ⟨-, -, -, -, rfl⟩ := State.withCells_eq_some h
    exact .inl rfl
  all_goals
    cases h
    exact .inl rfl

end

theorem follows_rethrow {rule : Past → Command → Prop} {α : Type} (x : Except KnxError α) :
    (rethrow x).Follows rule := by
  cases x <;> exact .done _

def Command.isServing : Command → Bool
  | .now | .getSession .. | .touchSession .. | .removeSession .. | .removeSecureSession ..
  | .releaseSessions | .touch .. | .loadRecvSeq .. | .storeRecvSeq .. | .takePendingAck ..
  | .deliverAck .. | .publish .. => true
  | _ => false

/-- A rule that restricts none of these commands, and that replies are known to follow. -/
structure Serves (rule : History Command Command.Response → Command → Prop) : Prop where
  serving : ∀ c, c.isServing = true → ∀ h, rule h c
  reply : ∀ serviceType body link, (sendReply serviceType body link).Follows rule

namespace Serves

variable {rule : Past → Command → Prop} (hr : Serves rule)

include hr

theorem perform {c : Command} (hc : c.isServing = true) : (perform c).Follows rule :=
  .perform (hr.serving c hc)

theorem validateRecvSeq (session : ClientSession) (received : UInt8) :
    (validateRecvSeq session received).Follows rule := by
  refine .bind (hr.perform rfl) fun expected ↦ ?_
  split
  · exact .bind (hr.perform rfl) fun _ ↦ .done _
  · split <;> exact .done _

theorem handleTunnellingRequest (body : List UInt8) :
    (handleTunnellingRequest body).Follows rule := by
  refine .bind (.done _) fun request ↦ .bind (hr.perform rfl) fun session ↦ ?_
  cases session with
  | none => exact .done _
  | some session =>
    refine .bind (hr.perform rfl) fun _ ↦ .bind (hr.validateRecvSeq session _) fun validity ↦ ?_
    cases validity with
    | valid =>
      refine .bind (hr.reply _ _ _) fun _ ↦ .bind (hr.perform rfl) fun now ↦
        .bind (.attempt (.done _)) fun telegram ↦ ?_
      cases telegram with
      | ok telegram => exact hr.perform rfl
      | error e => exact .done _
    | duplicate => exact hr.reply _ _ _
    | invalid expected received => exact hr.reply _ _ _

theorem handleTunnellingAck (body : List UInt8) : (handleTunnellingAck body).Follows rule := by
  refine .bind (.done _) fun ack ↦ .bind (hr.perform rfl) fun session ↦ ?_
  cases session with
  | none => exact .done _
  | some session =>
    refine .bind (hr.perform rfl) fun channel ↦ ?_
    cases channel with
    | none => exact .done _
    | some channel => exact hr.perform rfl

theorem handleConnectionstateRequest (body : List UInt8) (link : ClientLink) :
    (handleConnectionstateRequest body link).Follows rule :=
  .bind (.done _) fun _ ↦ .bind (hr.perform rfl) fun _ ↦ hr.reply _ _ _

theorem handleDisconnectRequest (body : List UInt8) (link : ClientLink) :
    (handleDisconnectRequest body link).Follows rule :=
  .bind (.done _) fun _ ↦ .bind (hr.perform rfl) fun _ ↦ .bind (hr.perform rfl) fun _ ↦
    hr.reply _ _ _

end Serves

structure Dispatches (rule : History Command Command.Response → Command → Prop)
    (link : ClientLink) : Prop extends Serves rule where
  opening : ∀ hpai h, rule h (.openSession (resolveLink hpai link))

namespace Dispatches

variable {rule : Past → Command → Prop} {link : ClientLink} (hr : Dispatches rule link)
  (server : TunnelServer)

include hr

theorem handleConnectRequest (body : List UInt8) :
    (handleConnectRequest server body link).Follows rule := by
  refine .bind (.done _) fun request ↦ .bind (.perform (hr.opening _)) fun channelId ↦ ?_
  cases channelId with
  | some channelId => exact .bind (hr.reply _ _ _) fun _ ↦ .done _
  | none =>
    refine .bind (.attempt (hr.reply _ _ _)) fun sent ↦ ?_
    exact .bind (hr.perform rfl) fun _ ↦ .bind (follows_rethrow sent) fun _ ↦ .done _

theorem dispatchPlainFrame (frame : KnxIpFrame) (wasEncrypted : Bool) :
    (dispatchPlainFrame server frame link wasEncrypted).Follows rule := by
  unfold Server.dispatchPlainFrame
  split
  · exact .done _
  split
  · exact hr.handleConnectRequest server _
  · exact .bind (hr.handleTunnellingRequest _) fun _ ↦ .done _
  · exact .bind (hr.handleTunnellingAck _) fun _ ↦ .done _
  · exact .bind (hr.handleConnectionstateRequest _ _) fun _ ↦ .done _
  · exact .bind (hr.handleDisconnectRequest _ _) fun _ ↦ .done _
  · exact .done _

end Dispatches

/-- The commands of the secure handshake. A session is stored with its key and not as
authenticated. -/
def Command.isHandshake : Command → Bool
  | .generateSecret | .fetchSecureSessionId | .sendFrame .. | .getSecureSession ..
  | .verifyAuthenticateMac .. | .removeSecureSession .. => true
  | .insertSecureSession _ entry =>
    entry.session.sessionKey.initialized && entry.session.state != .authenticated
  | _ => false

theorem follows_handleSessionRequest_isHandshake (P : Primitives) (server : TunnelServer)
    (body : List UInt8) (link : ClientLink) :
    (handleSessionRequest P server body link).Follows fun _ c ↦ c.isHandshake = true := by
  unfold handleSessionRequest
  split
  · exact .done _
  refine .bind (.done _) fun request ↦ .bind (.perform fun _ ↦ rfl) fun secret ↦
    .bind (.perform fun _ ↦ rfl) fun sessionId ↦ .bind (.done _) fun mac ↦ ?_
  exact .bind (.bind (.perform fun _ ↦ rfl) fun _ ↦ .done _) fun _ ↦ .perform fun _ ↦ rfl

theorem follows_handleSessionAuthenticate_isHandshake (body : List UInt8) (link : ClientLink) :
    (handleSessionAuthenticate body link).Follows fun _ c ↦ c.isHandshake = true := by
  refine .bind (.done _) fun auth ↦ .bind (.perform fun _ ↦ rfl) fun entry ↦ ?_
  cases entry with
  | none => exact .done _
  | some entry =>
    refine .bind (.perform fun _ ↦ rfl) fun verified ↦ .bind (.done _) fun verified ↦
      .bind (.bind (.perform fun _ ↦ rfl) fun _ ↦ .done _) fun _ ↦ ?_
    cases verified with
    | true => exact .done _
    | false => exact .perform fun _ ↦ rfl

/-- A rule that restricts none of the plain commands, and that replies and
tunnelled telegrams are known to follow. -/
structure Permits (rule : History Command Command.Response → Command → Prop) : Prop where
  plain : ∀ c, c.isPlain = true → ∀ h, rule h c
  reply : ∀ serviceType body link, (sendReply serviceType body link).Follows rule
  tunnelled : ∀ session telegram, (sendToSession session telegram).Follows rule

namespace Permits

variable {rule : Past → Command → Prop} (hr : Permits rule)

include hr

theorem perform {c : Command} (hc : c.isPlain = true) : (perform c).Follows rule :=
  .perform (hr.plain c hc)

theorem dispatches (link : ClientLink) : Dispatches rule link where
  serving c hc h := hr.plain c (by cases c <;> first | rfl | cases hc) h
  opening _ h := hr.plain _ rfl h
  reply := hr.reply

theorem dispatchPlainFrame (server : TunnelServer) (frame : KnxIpFrame) (link : ClientLink)
    (wasEncrypted : Bool) : (dispatchPlainFrame server frame link wasEncrypted).Follows rule :=
  (hr.dispatches link).dispatchPlainFrame server frame wasEncrypted

theorem sendAll (telegram : Telegram) (sessions : List ClientSession) :
    (sendAll telegram sessions).Follows rule := by
  induction sessions with
  | nil => exact .done _
  | cons session sessions ih =>
    refine .bind (.attempt (hr.tunnelled session telegram)) fun result ↦ ?_
    cases result with
    | ok _ => exact ih
    | error e => exact .bind (hr.perform rfl) fun _ ↦ ih

theorem send (telegram : Telegram) : (send telegram).Follows rule :=
  .bind (hr.perform rfl) fun sessions ↦ hr.sendAll telegram sessions

theorem sweepLoop (sweeps : ℕ) : (sweepLoop sweeps).Follows rule := by
  induction sweeps with
  | zero => exact .done _
  | succ sweeps ih =>
    refine .bind (hr.perform rfl) fun slept ↦ ?_
    cases slept with
    | false => exact .done _
    | true =>
      refine .bind (hr.perform rfl) fun shutdown ↦ ?_
      cases shutdown with
      | true => exact .done _
      | false =>
        refine .bind (hr.perform rfl) fun stale ↦ ?_
        cases stale with
        | nil => exact ih
        | cons id stale => exact .bind (hr.perform rfl) fun _ ↦ ih

end Permits

end Knust.Transport.Server
