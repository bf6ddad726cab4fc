import Knust.Transport.ServerRules

namespace Knust.Transport.Server

open Foundation Foundation.Task Protocol Security
open Security.Reference (primitives)

variable (P : Primitives) (server : TunnelServer)

def IsHandshake (frame : List UInt8) : Prop :=
  KnxIpFrame.serviceTypeOf frame = some .sessionResponse ∨
    KnxIpFrame.serviceTypeOf frame = some .sessionStatus

instance (frame : List UInt8) : Decidable (IsHandshake frame) :=
  inferInstanceAs (Decidable (_ ∨ _))

/-- A task may send what it has encrypted, and what it found no recipient to
encrypt for. -/
def Sendable (h : History Command Command.Response) (frame : List UInt8) : Prop :=
  IsHandshake frame ∨ (∃ entry plain, ⟨.encryptFrame entry plain, .ok frame⟩ ∈ h) ∨
    ∃ peer, ⟨.getRecipient peer, none⟩ ∈ h

variable {h : Past}

theorem Sendable.cons {frame : List UInt8} (hs : Sendable h frame)
    (e : (c : Command) × c.Response) : Sendable (e :: h) frame := by
  rcases hs with hs | ⟨entry, plain, hs⟩ | ⟨peer, hs⟩
  · exact .inl hs
  · exact .inr (.inl ⟨entry, plain, List.mem_cons_of_mem _ hs⟩)
  · exact .inr (.inr ⟨peer, List.mem_cons_of_mem _ hs⟩)

def sendRule (h : History Command Command.Response) : Command → Prop
  | .sendFrame _ frame => Sendable h frame
  | _ => True

theorem obeys_maybeEncrypt (frame : List UInt8) (peer : SocketAddr) (h : Past) :
    (maybeEncrypt frame peer).Obeys sendRule (fun h r ↦ ∀ f, r = .ok f → Sendable h f) h := by
  refine ⟨trivial, fun entry ↦ ?_⟩
  cases entry with
  | none =>
    rintro f ⟨⟩
    exact .inr (.inr ⟨peer, List.mem_cons_self⟩)
  | some entry =>
    refine ⟨trivial, ?_⟩
    rintro r f rfl
    exact .inr (.inl ⟨entry, frame, List.mem_cons_self⟩)

theorem obeys_sendFrame (link : ClientLink) {frame : List UInt8} (hs : Sendable h frame) :
    (sendFrame link frame).Obeys sendRule (fun _ _ ↦ True) h :=
  ⟨hs, fun _ ↦ trivial⟩

theorem follows_sendReply (serviceType : ServiceType) (body : List UInt8) (link : ClientLink) :
    (sendReply serviceType body link).Follows sendRule := by
  intro h
  exact (obeys_maybeEncrypt _ link.peerAddr h).bind_true fun h frame hs ↦
    obeys_sendFrame link (hs frame rfl)

theorem follows_handshake (serviceType : ServiceType) {body : List UInt8} (link : ClientLink)
    (hb : body.length ≤ 65529)
    (hs : serviceType = .sessionResponse ∨ serviceType = .sessionStatus) :
    (sendFrame link (KnxIpFrame.new serviceType body).serialize).Follows sendRule := by
  intro h
  apply obeys_sendFrame
  left
  rw [IsHandshake, KnxIpFrame.serviceTypeOf_new serviceType hb]
  simpa using hs

theorem obeys_sendAttempts (session : ClientSession) (seq : UInt8) {frame : List UInt8}
    (hs : Sendable h frame) (attempts : ℕ) :
    (sendAttempts session seq frame attempts).Obeys sendRule (fun _ _ ↦ True) h := by
  induction attempts generalizing h with
  | zero => trivial
  | succ attempts ih =>
    refine ⟨trivial, fun channel ↦ ⟨hs.cons _, fun sent ↦ ?_⟩⟩
    cases sent with
    | err e => trivial
    | panic => trivial
    | ok _ =>
      refine ⟨trivial, fun ack ↦ ?_⟩
      cases ack with
      | none => exact ih (((hs.cons _).cons _).cons _)
      | some ack =>
        show Obeys _ _ _ (ite _ _ _)
        split
        · exact ⟨trivial, fun _ ↦ trivial⟩
        · trivial

theorem follows_sendToSession (session : ClientSession) (telegram : Telegram) :
    (sendToSession session telegram).Follows sendRule := by
  refine .bind (.perform fun _ ↦ trivial) fun _ ↦ .bind (.attempt ?_) fun result ↦
    .bind (.perform fun _ ↦ trivial) fun _ ↦ follows_rethrow result
  refine .bind (.perform fun _ ↦ trivial) fun seq h ↦ ?_
  refine (obeys_maybeEncrypt _ session.link.peerAddr h).bind ?_ (fun _ _ _ ↦ trivial)
    (fun _ _ ↦ trivial)
  intro h frame hs
  exact obeys_sendAttempts session seq (hs frame rfl) 2

theorem permits_sendRule : Permits sendRule where
  plain c hc h := by cases c <;> trivial
  reply := follows_sendReply
  tunnelled := follows_sendToSession

theorem follows_handleSessionRequest (body : List UInt8) (link : ClientLink) :
    (handleSessionRequest P server body link).Follows sendRule := by
  unfold handleSessionRequest
  split
  · exact .done _
  refine .bind (.done _) fun request ↦ .bind (.perform fun _ ↦ trivial) fun secret ↦
    .bind (.perform fun _ ↦ trivial) fun sessionId ↦ .bind (.done _) fun mac ↦ ?_
  refine .bind (follows_handshake _ link ?_ (.inl rfl)) fun _ ↦ .perform fun _ ↦ trivial
  simp [SessionResponse.serialize]

theorem follows_handleSessionAuthenticate (body : List UInt8) (link : ClientLink) :
    (handleSessionAuthenticate body link).Follows sendRule := by
  refine .bind (.done _) fun auth ↦ .bind (.perform fun _ ↦ trivial) fun entry ↦ ?_
  cases entry with
  | none => exact .done _
  | some entry =>
    refine .bind (.perform fun _ ↦ trivial) fun verified ↦ .bind (.done _) fun verified ↦ ?_
    refine .bind (follows_handshake _ link ?_ (.inr rfl)) fun _ ↦ ?_
    · simp [SessionStatus.serialize]
    · cases verified with
      | true => exact .done _
      | false => exact .perform fun _ ↦ trivial

theorem follows_handleFrame (data : List UInt8) (link : ClientLink) :
    (handleFrame P server data link).Follows sendRule := by
  refine .bind (.done _) fun frame ↦ ?_
  split
  · exact .bind (follows_handleSessionRequest _ _ _ _) fun _ ↦ .done _
  · exact .bind (follows_handleSessionAuthenticate _ _) fun _ ↦ .done _
  · refine .bind (.perform fun _ ↦ trivial) fun entry ↦ ?_
    cases entry with
    | none => exact .done _
    | some entry =>
      refine .bind (.perform fun _ ↦ trivial) fun authenticated ↦ ?_
      cases authenticated with
      | false => exact .done _
      | true =>
        refine .bind (.perform fun _ ↦ trivial) fun decrypted ↦ .bind (.done _) fun decrypted ↦
          .bind (.done _) fun inner ↦ ?_
        exact permits_sendRule.dispatchPlainFrame server _ _ _
  · exact permits_sendRule.dispatchPlainFrame server _ _ _

theorem follows_dispatchLoop (datagrams : List (SocketAddr × List UInt8)) :
    (dispatchLoop P server datagrams).Follows sendRule := by
  induction datagrams with
  | nil => exact .done _
  | cons d datagrams ih =>
    refine .bind (.perform fun _ ↦ trivial) fun shutdown ↦ ?_
    cases shutdown with
    | true => exact .done _
    | false =>
      refine .bind (.perform fun _ ↦ trivial) fun received ↦ ?_
      cases received with
      | false => exact .done _
      | true => exact .bind (.attempt (follows_handleFrame _ _ _ _)) fun _ ↦ ih

theorem follows_streamLoop (transport : ℕ) (peer : SocketAddr) (frames : List (List UInt8))
    (assigned : Option UInt8) :
    (streamLoop P server transport peer frames assigned).Follows sendRule := by
  induction frames generalizing assigned with
  | nil => exact .bind (.perform fun _ ↦ trivial) fun _ ↦ .done _
  | cons data frames ih =>
    refine .bind (.perform fun _ ↦ trivial) fun shutdown ↦ ?_
    cases shutdown with
    | true => exact .bind (.perform fun _ ↦ trivial) fun _ ↦ .done _
    | false =>
      refine .bind (.perform fun _ ↦ trivial) fun _ ↦
        .bind (.attempt (follows_handleFrame _ _ _ _)) fun result ↦ ?_
      rcases result with e | _ | id
      · exact ih assigned
      · exact ih assigned
      · exact ih (some id)

theorem follows_program (activity : Activity) : (program P server activity).Follows sendRule := by
  cases activity with
  | accept transport peer frames =>
    refine .bind (.perform fun _ ↦ trivial) fun shutdown ↦ ?_
    cases shutdown with
    | true => exact .done _
    | false =>
      refine .bind (follows_streamLoop _ _ _ _ _ _) fun assigned ↦ ?_
      cases assigned with
      | none => exact .perform fun _ ↦ trivial
      | some id => exact .bind (.perform fun _ ↦ trivial) fun _ ↦ .perform fun _ ↦ trivial
  | send telegram => exact permits_sendRule.send telegram
  | shutdown => exact .perform fun _ ↦ trivial

def Encrypts (r : Step) (frame : List UInt8) : Prop :=
  ∃ entry plain e, r.event = ⟨.encryptFrame entry plain, .ok frame⟩ ∧
    r.before.entries[entry]? = some e ∧ (e.session.encryptFrame P plain).1 = .ok frame

def Confidential (trace : List Step) : Prop :=
  ∀ r earlier, r :: earlier <:+ trace → ∀ link frame, r.command = .sendFrame link frame →
    IsHandshake frame ∨ ∃ r' ∈ earlier, Encrypts P r' frame

/-- If a frame is prepared for sending, its recipient has a secure session at
that time. -/
def recipientKnown (r : Step) : Bool :=
  match r.command with
  | .getRecipient peer => (r.before.secureSessions peer).isSome
  | _ => true

variable {P server} {r : Step}

theorem encrypts_of_event (hr : r.Executed (exec P)) {entry : ℕ} {plain frame : List UInt8}
    (he : r.event = ⟨.encryptFrame entry plain, .ok frame⟩) : Encrypts P r frame := by
  obtain ⟨k, c, x, before, after⟩ := r
  cases he
  obtain ⟨i, hr⟩ := hr
  simp only [exec, State.withEntry] at hr
  cases h : before.entries[entry]? with
  | none => simp [h] at hr
  | some e =>
    simp only [h, Option.some.injEq, Prod.mk.injEq] at hr
    exact ⟨entry, plain, e, rfl, h, hr.1⟩

theorem not_recipientKnown_of_event (hr : r.Executed (exec P)) {peer : SocketAddr}
    (he : r.event = ⟨.getRecipient peer, none⟩) : ¬ recipientKnown r := by
  obtain ⟨k, c, x, before, after⟩ := r
  cases he
  obtain ⟨i, hr⟩ := hr
  simp only [exec, Option.some.injEq, Prod.mk.injEq] at hr
  simp [recipientKnown, hr.1]

theorem grants_confidential :
    Config.Grants (exec P) sendRule (fun _ _ ↦ True) fun r earlier ↦
      (∀ r' ∈ earlier, recipientKnown r') → ∀ link frame, r.command = .sendFrame link frame →
        IsHandshake frame ∨ ∃ r' ∈ earlier, Encrypts P r' frame := by
  rintro trace s k c i r s' hexec - hrule - hknown link frame rfl
  rcases hrule with h | ⟨entry, plain, h⟩ | ⟨peer, h⟩
  · exact .inl h
  · obtain ⟨r', hr', -, he⟩ := mem_of_mem_history h
    exact .inr ⟨r', hr', encrypts_of_event (hexec r' hr') he⟩
  · obtain ⟨r', hr', -, he⟩ := mem_of_mem_history h
    exact absurd (hknown r' hr') (not_recipientKnown_of_event (hexec r' hr') he)

variable (P server)

/-- As long as recipients have secure sessions, nothing but the handshake leaves
the server in plain text. -/
theorem confidential_of_recipientKnown (datagrams : List (SocketAddr × List UInt8)) (sweeps : ℕ)
    (moves : List (Move Activity Env))
    (hknown : ∀ r ∈ (run P server datagrams sweeps moves).trace, recipientKnown r) :
    Confidential P (run P server datagrams sweeps moves).trace := by
  intro r earlier hr
  have hpool : ∀ p ∈ [dispatchLoop P server datagrams, sweepLoop sweeps],
      p.Obeys sendRule (fun _ _ ↦ True) [] := by
    simp only [List.forall_mem_cons, List.not_mem_nil, false_implies, implies_true, and_true]
    exact ⟨follows_dispatchLoop P server datagrams [], permits_sendRule.sweepLoop sweeps []⟩
  apply Config.run_always hpool (fun t ↦ follows_program P server t []) trivial
    (fun _ _ _ _ _ _ _ _ _ _ _ ↦ trivial) grants_confidential moves r earlier hr
  intro r' hr'
  exact hknown r' (hr.mem (List.mem_cons_of_mem _ hr'))

def sentFrames (trace : List Step) : List (List UInt8) :=
  trace.filterMap fun r ↦ match r.command with
    | .sendFrame _ frame => some frame
    | _ => none

theorem Confidential.sentFrames {trace : List Step} (h : Confidential P trace) {frame : List UInt8}
    (hf : frame ∈ sentFrames trace) :
    IsHandshake frame ∨ frame.take 4 = [0x06, 0x10, 0x09, 0x50] := by
  obtain ⟨r, hr, hc⟩ := List.mem_filterMap.mp hf
  split at hc
  · obtain ⟨later, earlier, rfl⟩ := List.append_of_mem hr
    cases hc
    rcases h r earlier ⟨later, rfl⟩ _ frame ‹_› with h | ⟨r', -, entry, plain, e, -, -, h⟩
    · exact .inl h
    · exact .inr (SecureSession.take_of_encryptFrame P plain h)
  · cases hc

theorem Reference.recipientKnown_twenty :
    ∀ r ∈ (run primitives Reference.secureServer Reference.datagrams 0
      (Reference.steps 20)).trace, recipientKnown r := by
  decide +kernel

theorem confidential_until_connected :
    (∀ r ∈ (run primitives Reference.secureServer Reference.datagrams 0
      (Reference.steps 20)).trace, recipientKnown r) ∧
    Confidential primitives (run primitives Reference.secureServer Reference.datagrams 0
      (Reference.steps 20)).trace :=
  ⟨Reference.recipientKnown_twenty, confidential_of_recipientKnown _ _ _ _ _
    Reference.recipientKnown_twenty⟩

theorem Reference.disconnectResponse_mem_sentFrames :
    (KnxIpFrame.new .disconnectResponse [1, 0]).serialize ∈ sentFrames
      (run primitives Reference.secureServer Reference.datagrams 0 (Reference.steps 29)).trace := by
  decide +kernel

/-- The answer to a disconnect request is sent after the session that should
protect it has been removed. -/
theorem disconnect_response_in_plain_text :
    ¬ Confidential primitives (run primitives Reference.secureServer Reference.datagrams 0
      (Reference.steps 29)).trace := by
  intro h
  have hplain := h.sentFrames _ Reference.disconnectResponse_mem_sentFrames
  revert hplain
  decide

end Knust.Transport.Server
