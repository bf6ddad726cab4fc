import Knust.Application.Handling
import Knust.Foundation.Sequential
import Knust.Security.Replay

namespace Knust.Application

open Foundation Foundation.Task Protocol Security Transport Transport.Client

variable (P : Primitives) (tunnel : Tunnel)

def Arrives (frame : List UInt8) (i : Env) : Prop :=
  i.frame = .ok frame ∧ i.elapsed = false ∧ i.shutdown = false ∧ i.allocates = true

def arriving (frame : List UInt8) :
    Machine Command Command.Response State {i : Env // Arrives frame i} :=
  fun c i s ↦ exec P tunnel c i.val s

/-- The commands that neither change the connection nor accept a telegram. -/
def isQuiet : Command → Bool
  | .storeExpected .. | .installSession .. | .setState .. | .openChannel .. | .closeChannel => false
  | _ => true

def Quiet : State → State → Prop :=
  Relation.ReflTransGen fun s s' ↦ ∃ c i r, isQuiet c = true ∧ exec P tunnel c i s = some (r, s')

/-- The session has the key and the identifier, and has received the number or a
later one. -/
structure Remembers (key : SessionKey) (sessionId : UInt16) (n : ℕ) (session : SecureSession) :
    Prop where
  key_eq : session.sessionKey = key
  id_eq : session.sessionId = sessionId
  received : n ≤ session.sequenceNumberReceived.toNat

structure Ready (key : SessionKey) (sessionId : UInt16) (n : ℕ) (v : UInt8) (s : State) : Prop where
  connected : s.state = .connected
  transport : s.transport = true
  expected : s.expectedSequenceNumber = v
  session : ∃ session, s.secureSession = some session ∧ Remembers key sessionId n session

variable {P tunnel} {key : SessionKey} {sessionId : UInt16} {n : ℕ} {v : UInt8}
  {session : SecureSession} {s : State} {h : Past}

theorem Remembers.encryptFrame (hr : Remembers key sessionId n session) (plain : List UInt8) :
    Remembers key sessionId n (session.encryptFrame P plain).2 := by
  unfold SecureSession.encryptFrame
  split
  · exact ⟨hr.key_eq, hr.id_eq, hr.received⟩
  · exact hr

theorem Remembers.decryptFrame (hr : Remembers key sessionId n session) (frame : List UInt8) :
    Remembers key sessionId n (session.decryptFrame P frame).2 := by
  rcases session.decryptFrame_eq P frame with ⟨hs, -⟩ | ⟨plain, q, ho, hd⟩
  · rw [hs]
    exact hr
  · obtain ⟨-, hf, hq⟩ := SecureSession.openFrame_eq_ok_imp P ho
    rw [hd]
    refine ⟨hr.key_eq, hr.id_eq, ?_⟩
    have hn := hr.received
    by_cases hz : session.sequenceNumberReceived.toNat = 0
    · show n ≤ q.toNat
      omega
    · have hlt := (fresh_iff_lt (show session.sequenceNumberReceived.toNat ≠ ⊥ from hz)).mp hf
      show n ≤ q.toNat
      omega

theorem Ready.step {c : Command} {i : Env} {s' : State} {r : c.Response}
    (hr : Ready key sessionId n v s) (hc : isQuiet c = true)
    (he : exec P tunnel c i s = some (r, s')) : Ready key sessionId n v s' := by
  have hs : s' = (respond P tunnel c i s).2 := (congrArg Prod.snd (Option.some.inj he)).symm
  obtain ⟨hconnected, htransport, hexpected, session, hsession, hrem⟩ := hr
  subst hs
  cases c
  case storeExpected | installSession | setState | openChannel | closeChannel => cases hc
  case encryptFrame frame =>
    simp only [respond, State.withSession, hsession]
    exact ⟨hconnected, htransport, hexpected, _, rfl, hrem.encryptFrame frame⟩
  case decryptFrame frame =>
    simp only [respond, State.withSession, hsession]
    exact ⟨hconnected, htransport, hexpected, _, rfl, hrem.decryptFrame frame⟩
  case establishTransport | recordFailure | enqueueIncoming | control | claim | releaseAddress =>
    simp only [respond, State.claim, State.releaseAddress]
    split <;> exact ⟨hconnected, by first | rfl | exact htransport, hexpected, session, hsession, hrem⟩
  all_goals exact ⟨hconnected, htransport, hexpected, session, hsession, hrem⟩

theorem Ready.quiet {s' : State} (hr : Ready key sessionId n v s) (hq : Quiet P tunnel s s') :
    Ready key sessionId n v s' := by
  induction hq with
  | refl => exact hr
  | tail _ hstep ih =>
    obtain ⟨c, i, r, hc, he⟩ := hstep
    exact ih.step hc he

structure Decrypted (P : Primitives) (session : SecureSession) (frame plain : List UInt8)
    (before after : State) : Prop where
  connected : before.state = .connected ∧ after.state = .connected
  transport : before.transport = true ∧ after.transport = true
  expected : after.expectedSequenceNumber = before.expectedSequenceNumber
  session : ∃ q, session.openFrame P frame = .ok (plain, q) ∧
    after.secureSession = some { session with sequenceNumberReceived := q }

structure Refused (P : Primitives) (session : SecureSession) (frame : List UInt8) (before : State)
    (h : History Command Command.Response) : Prop where
  reason : ¬ (before.state = .connected ∧ before.transport = true ∧
    ∃ x, session.openFrame P frame = .ok x)
  notAccepted : ∀ plain, ⟨.decryptFrame frame, some (.ok plain)⟩ ∉ h
  notStored : ∀ v, ⟨.storeExpected v, ()⟩ ∉ h

def receptionHistory (frame plain : List UInt8) : History Command Command.Response :=
  [⟨.recordReceived, ()⟩, ⟨.decryptFrame frame, some (.ok plain)⟩,
    ⟨.readWithin 100, some (.ok frame)⟩, ⟨.transport .recvFrame, true⟩, ⟨.isConnected, true⟩,
    ⟨.isShutdown, false⟩]

def Receipt (P : Primitives) (session : SecureSession) (frame : List UInt8) (before after : State)
    (h : History Command Command.Response) (r : Result (Option (List UInt8))) : Prop :=
  (∃ plain, Decrypted P session frame plain before after ∧ r = .ok (some plain) ∧
    h = receptionHistory frame plain) ∨
  Refused P session frame before h ∧ ∀ x, r ≠ .ok x

theorem ensures_connectionRecvWithin (hs : s.secureSession = some session) (frame : List UInt8) :
    (connectionRecvWithin 100).Ensures (arriving P tunnel frame) (Receipt P session frame s) s
      [⟨.isShutdown, false⟩] := by
  rintro i₁ r₁ s₁ ⟨⟩
  -- A round can end early at three places: no connection, no transport, no valid frame.
  by_cases hc : s.state = .connected
  swap
  · simp only [hc, decide_false]
    rintro i₂ r₂ s₂ ⟨⟩
    exact .inr ⟨⟨fun hr ↦ hc hr.1, by simp, by simp⟩, by simp⟩
  simp only [hc, decide_true]
  rintro i₂ r₂ s₂ ⟨⟩
  cases ht : s.transport with
  | false =>
    rintro i₃ r₃ s₃ ⟨⟩
    exact .inr ⟨⟨fun hr ↦ by simp [ht] at hr, by simp, by simp⟩, by simp⟩
  | true =>
    rintro ⟨i₃, hframe, helapsed, -⟩ r₃ s₃ ⟨⟩
    simp only [helapsed, hframe]
    intro i₄ decrypted s₄ h₄
    simp only [arriving, exec, respond, State.withSession, hs, Option.some.injEq,
      Prod.mk.injEq] at h₄
    obtain ⟨rfl, rfl⟩ := h₄
    rcases ho : session.openFrame P frame with ⟨plain, q⟩ | e | _
    · have hd : session.decryptFrame P frame =
          (.ok plain, { session with sequenceNumberReceived := q }) := by
        rw [SecureSession.decryptFrame, ho]
      rw [hd]
      rintro i₅ r₅ s₅ ⟨⟩
      exact .inl ⟨plain, ⟨⟨hc, hc⟩, ⟨ht, ht⟩, rfl, q, ho, rfl⟩, rfl, rfl⟩
    · have hd : session.decryptFrame P frame = (.err e, session) := by
        rw [SecureSession.decryptFrame, ho]
      rw [hd]
      rintro i₅ r₅ s₅ ⟨⟩
      exact .inr ⟨⟨fun hr ↦ by simp [ho] at hr, by simp, by simp⟩, by simp⟩
    · have hd : session.decryptFrame P frame = (.panic, session) := by
        rw [SecureSession.decryptFrame, ho]
      rw [hd]
      exact .inr ⟨⟨fun hr ↦ by simp [ho] at hr, by simp, by simp⟩, by simp⟩

inductive Validated (received : UInt8) (s : State) (h : History Command Command.Response) :
    State → History Command Command.Response → Result SequenceValidationResult → Prop
  | valid (hr : received = s.expectedSequenceNumber) :
    Validated received s h { s with expectedSequenceNumber := s.expectedSequenceNumber + 1 }
      (⟨.storeExpected (s.expectedSequenceNumber + 1), ()⟩ ::
        ⟨.loadExpected, s.expectedSequenceNumber⟩ :: h) (.ok .valid)
  | duplicate (hr : received = s.expectedSequenceNumber - 1) :
    Validated received s h s (⟨.loadExpected, s.expectedSequenceNumber⟩ :: h) (.ok .duplicate)
  | invalid (hr : received ≠ s.expectedSequenceNumber - 1) :
    Validated received s h s (⟨.loadExpected, s.expectedSequenceNumber⟩ :: h)
      (.ok (.invalid s.expectedSequenceNumber received))

theorem ensures_validateSequenceNumber (received : UInt8) (frame : List UInt8) (s : State)
    (h : Past) :
    (validateSequenceNumber received).Ensures (arriving P tunnel frame) (Validated received s h) s
      h := by
  rintro i₁ r₁ s₁ ⟨⟩
  show Ensures _ _ _ _ (ite _ _ _)
  split
  · rename_i hr
    rintro i₂ r₂ s₂ ⟨⟩
    exact .valid hr
  · show Ensures _ _ _ _ (ite _ _ _)
    split
    · rename_i hr
      exact .duplicate hr
    · rename_i hr
      exact .invalid hr

def IsRequest (plain : List UInt8) (request : TunnellingRequest) : Prop :=
  ∃ frame, KnxIpFrame.parse plain = .ok frame ∧ frame.header.serviceType = .tunnellingRequest ∧
    TunnellingRequest.parse frame.body = .ok request

theorem IsRequest.fields {telegram : Telegram} {channelId sequence : UInt8} {code : MessageCode}
    {request : TunnellingRequest}
    (hr : IsRequest (buildTunnellingFrameWithCode telegram channelId sequence code) request) :
    request.communicationChannelId = channelId ∧ request.sequenceCounter = sequence := by
  obtain ⟨frame, hf, -, hr⟩ := hr
  obtain ⟨rest, hb⟩ := KnxIpFrame.body_of_parse hf
  obtain ⟨reserved, hbody⟩ := TunnellingRequest.eq_of_parse hr
  have hdrop (header : KnxIpHeader) (body : List UInt8) :
      (KnxIpFrame.serialize ⟨header, body⟩).drop 6 = body :=
    List.drop_left' header.serialize_length
  rw [buildTunnellingFrameWithCode, KnxIpFrame.new, hdrop, hbody] at hb
  simp only [TunnellingRequest.serialize, List.cons_append, List.cons.injEq, true_and] at hb
  exact ⟨hb.1.symm, hb.2.1.symm⟩

theorem follows_isQuiet_acknowledge (channelId sequence status : UInt8) :
    (Client.sendTunnellingAck channelId sequence status).Follows fun _ c ↦ isQuiet c = true := by
  refine .bind (.perform fun _ ↦ rfl) fun found ↦ ?_
  cases found with
  | true => exact .bind (.done _) fun _ ↦ .bind (.perform fun _ ↦ rfl) fun _ ↦ .done _
  | false => exact .done _

theorem follows_isQuiet_enqueueCemi (cemiData : List UInt8) :
    (enqueueCemi cemiData).Follows fun _ c ↦ isQuiet c = true :=
  follows_enqueueCemi (fun _ ↦ rfl) fun _ _ _ _ ↦ rfl

theorem not_mem_store_cons (hno : ∀ v, ⟨.storeExpected v, ()⟩ ∉ h) {c : Command}
    (hc : isQuiet c = true) (x : c.Response) (v : UInt8) :
    ⟨.storeExpected v, ()⟩ ∉ (⟨c, x⟩ :: h : Past) := by
  intro hv
  rcases List.mem_cons.mp hv with he | hv
  · cases he
    cases hc
  · exact hno v hv

theorem ensures_no_store {α : Type} {p : Handler α} (hp : p.Follows fun _ c ↦ isQuiet c = true)
    (frame : List UInt8) (s : State) (hno : ∀ v, ⟨.storeExpected v, ()⟩ ∉ h) :
    p.Ensures (arriving P tunnel frame) (fun _ h _ ↦ ∀ v, ⟨.storeExpected v, ()⟩ ∉ h) s h :=
  Ensures.carry (A := fun _ h ↦ ∀ v, ⟨.storeExpected v, ()⟩ ∉ h) (hp [])
    (fun _ _ _ r _ _ hno hc _ ↦ not_mem_store_cons hno hc r) hno

theorem ensures_handleTunnellingRequest (hr : Ready key sessionId n s.expectedSequenceNumber s)
    (hno : ∀ v, ⟨.storeExpected v, ()⟩ ∉ h) (frame body : List UInt8) :
    (handleTunnellingRequest body).Ensures (arriving P tunnel frame) (fun s' h' _ ↦
      ∀ v, ⟨.storeExpected v, ()⟩ ∈ h' → ∃ request, TunnellingRequest.parse body = .ok request ∧
        v = request.sequenceCounter + 1 ∧ Ready key sessionId n v s') s h := by
  unfold handleTunnellingRequest
  cases hp : TunnellingRequest.parse body with
  | err e => exact fun v hv ↦ absurd hv (hno v)
  | panic => exact fun v hv ↦ absurd hv (hno v)
  | ok request =>
    have hack (status : UInt8) := (follows_isQuiet_acknowledge request.communicationChannelId
      request.sequenceCounter status).attempt (δ := KnxError)
    refine (ensures_validateSequenceNumber request.sequenceCounter frame s h).bind
      (fun s₁ h₁ result hv ↦ ?_) (fun _ _ _ hv ↦ by cases hv) (fun _ _ hv ↦ by cases hv)
    cases hv with
    | valid hseq =>
      -- The counter is stored, and all that follows is quiet.
      refine (Ensures.carry (K := fun c ↦ isQuiet c = true) (A := fun s' h' ↦
        Ready key sessionId n (request.sequenceCounter + 1) s' ∧
          ∀ v, ⟨.storeExpected v, ()⟩ ∈ h' → v = request.sequenceCounter + 1) (g := [])
        ?_ ?_ ⟨?_, ?_⟩).mono fun s' h' _ hA v hv ↦ ⟨request, rfl, hA.2 v hv, hA.2 v hv ▸ hA.1⟩
      · exact (Follows.bind (.bind (hack _) fun _ ↦ .done _) fun _ ↦
          follows_isQuiet_enqueueCemi _) []
      · rintro c i s r s' h ⟨hr, hv⟩ hc he
        refine ⟨hr.step hc he, fun v hm ↦ ?_⟩
        rcases List.mem_cons.mp hm with he | hm
        · cases he
          cases hc
        · exact hv v hm
      · rw [hseq]
        exact ⟨hr.connected, hr.transport, rfl, hr.session⟩
      · intro v hv
        simpa [hno, hseq] using hv
    | duplicate _ =>
      exact (ensures_no_store (.bind (hack _) fun _ ↦ .done _) frame s
        (not_mem_store_cons hno rfl _)).mono fun _ _ _ hno v hv ↦ absurd hv (hno v)
    | invalid _ =>
      exact (ensures_no_store (.bind (hack _) fun _ ↦ .done _) frame s
        (not_mem_store_cons hno rfl _)).mono fun _ _ _ hno v hv ↦ absurd hv (hno v)

theorem ensures_handleIncomingFrame (hr : Ready key sessionId n s.expectedSequenceNumber s)
    (hno : ∀ v, ⟨.storeExpected v, ()⟩ ∉ h) (frame plain : List UInt8) (current : Option UInt8) :
    (handleIncomingFrame plain current).Ensures (arriving P tunnel frame) (fun s' h' _ ↦
      ∀ v, ⟨.storeExpected v, ()⟩ ∈ h' → ∃ request, IsRequest plain request ∧
        v = request.sequenceCounter + 1 ∧ Ready key sessionId n v s') s h := by
  have hquiet {p : Handler Bool} (hp : p.Follows fun _ c ↦ isQuiet c = true) :
      p.Ensures (arriving P tunnel frame) (fun s' h' _ ↦
        ∀ v, ⟨.storeExpected v, ()⟩ ∈ h' → ∃ request, IsRequest plain request ∧
          v = request.sequenceCounter + 1 ∧ Ready key sessionId n v s') s h :=
    (ensures_no_store hp frame s hno).mono fun _ _ _ hno v hv ↦ absurd hv (hno v)
  unfold handleIncomingFrame
  cases hp : KnxIpFrame.parse plain with
  | err e => exact hquiet (.done _)
  | panic => exact hquiet (.done _)
  | ok f =>
    rw [Task.ok_bind]
    split
    · rename_i ht
      refine ((ensures_handleTunnellingRequest hr hno frame f.body).mono ?_).bind_const
        fun _ _ _ ↦ id
      intro s' h' _ hv v hm
      obtain ⟨request, hreq, hv, hr⟩ := hv v hm
      exact ⟨request, ⟨f, hp, ht, hreq⟩, hv, hr⟩
    · exact hquiet (.bind (follows_isQuiet_enqueueCemi _) fun _ ↦ .done _)
    · exact hquiet (.bind (follows_handleDisconnectRequest fun _ _ ↦ rfl) fun _ ↦ .done _)
    all_goals first | exact hquiet (.bind (.done _) fun _ ↦ .done _) | exact hquiet (.done _)

theorem ensures_round (hs : s.secureSession = some session) (frame : List UInt8)
    {Q : State → Past → Prop} (hrefused : ∀ s' h, Refused P session frame s h → Q s' h)
    (hhandled : ∀ s' plain current, Decrypted P session frame plain s s' →
      (handleIncomingFrame plain current).Ensures (arriving P tunnel frame) (fun s h _ ↦ Q s h) s'
        (⟨.knxChannelId, current⟩ :: ⟨.allocate plain.length, true⟩ ::
          receptionHistory frame plain)) :
    (receivingTask 1).Ensures (arriving P tunnel frame) (fun s h _ ↦ Q s h) s [] := by
  rintro ⟨i₁, -, -, hshutdown, -⟩ r₁ s₁ ⟨⟩
  simp only [hshutdown]
  refine ((ensures_connectionRecvWithin hs frame).attempt (T := fun s₁ h₁ r ↦
    (∃ plain, Decrypted P session frame plain s s₁ ∧ r = .ok (.ok (some plain)) ∧
      h₁ = receptionHistory frame plain) ∨
    Refused P session frame s h₁ ∧ ∀ x, r ≠ .ok (.ok x)) ?_ ?_ ?_).bind ?_ ?_ ?_
  · rintro s₁ h₁ x (⟨plain, hd, hr, hh⟩ | ⟨-, hr⟩)
    · cases hr
      exact .inl ⟨plain, hd, rfl, hh⟩
    · exact absurd rfl (hr x)
  · rintro s₁ h₁ e (⟨plain, -, hr, -⟩ | ⟨hr, -⟩)
    · cases hr
    · exact .inr ⟨hr, nofun⟩
  · rintro s₁ h₁ (⟨plain, -, hr, -⟩ | ⟨hr, -⟩)
    · cases hr
    · exact .inr ⟨hr, nofun⟩
  · rintro s₁ h₁ result (⟨plain, hd, hr, rfl⟩ | ⟨hr, hne⟩)
    · cases hr
      rintro ⟨i₂, -, -, -, halloc⟩ r₂ s₂ ⟨⟩
      simp only [halloc]
      rintro i₃ current s₃ ⟨⟩
      exact (hhandled s₁ plain s₁.knxChannelId hd).attempt_const.bind_const fun _ _ _ ↦ id
    · rcases result with e | x
      · rintro i₂ r₂ s₂ ⟨⟩
        exact hrefused _ _ ⟨hr.reason, by simpa using hr.notAccepted, by simpa using hr.notStored⟩
      · exact absurd rfl (hne x)
  · rintro s₁ h₁ e (⟨plain, -, hr, -⟩ | ⟨hr, -⟩)
    · cases hr
    · exact hrefused s₁ h₁ hr
  · rintro s₁ h₁ (⟨plain, -, hr, -⟩ | ⟨hr, -⟩)
    · cases hr
    · exact hrefused s₁ h₁ hr

theorem ensures_accepted (hs : s.secureSession = some session) (frame : List UInt8) :
    (receivingTask 1).Ensures (arriving P tunnel frame) (fun s' h _ ↦
      ∀ v, ⟨.storeExpected v, ()⟩ ∈ h → ∃ plain q request,
        session.openFrame P frame = .ok (plain, q) ∧ IsRequest plain request ∧
        v = request.sequenceCounter + 1 ∧
        Ready session.sessionKey session.sessionId (sequenceField frame) v s') s [] := by
  refine ensures_round hs frame (fun s' h hr v hv ↦ absurd hv (hr.notStored v)) ?_
  rintro s' plain current ⟨⟨-, hconnected⟩, ⟨-, htransport⟩, hexpected, q, ho, hsession⟩
  have hq := (SecureSession.openFrame_eq_ok_imp P ho).2.2
  have hready : Ready session.sessionKey session.sessionId (sequenceField frame)
      s'.expectedSequenceNumber s' :=
    ⟨hconnected, htransport, rfl, _, hsession, rfl, rfl, hq.ge⟩
  refine (ensures_handleIncomingFrame hready (by simp [receptionHistory]) frame plain
    current).mono fun s h _ hv v hm ↦ ?_
  obtain ⟨request, hreq, hv, hr⟩ := hv v hm
  exact ⟨plain, q, request, ho, hreq, hv, hr⟩

end Knust.Application
