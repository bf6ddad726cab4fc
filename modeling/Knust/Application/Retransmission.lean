import Knust.Application.Reception
import Knust.Transport.ServerSending

namespace Knust.Application

open Foundation Foundation.Task Protocol Security Transport Transport.Client

/-- The frame was accepted by `decrypt_frame`, the expected counter was found to be
one ahead of the given one and left there, and the request was acknowledged. No
error was recorded, and the receiving task goes on. -/
structure AcknowledgedAgain (frame : List UInt8) (channelId sequence : UInt8)
    (h : History Command Command.Response) : Prop where
  accepted : ∃ plain, ⟨.decryptFrame frame, some (.ok plain)⟩ ∈ h
  expected : ⟨.loadExpected, sequence + 1⟩ ∈ h
  discarded : ∀ v, ⟨.storeExpected v, ()⟩ ∉ h
  acknowledged : ∃ sent, ⟨.write (KnxIpFrame.new .tunnellingAck
    (TunnellingAck.newOk channelId sequence).serialize).serialize, sent⟩ ∈ h
  noError : ∀ e, ⟨.recordReceiveError e, ()⟩ ∉ h
  goesOn : ⟨.closeQueue, ()⟩ ∉ h

section

variable {P : Primitives} {tunnel : Tunnel} {key : SessionKey} {sessionId : UInt16} {n : ℕ}

theorem ensures_not_again {s : State} {session : SecureSession}
    (hs : s.secureSession = some session) (frame : List UInt8) (channelId sequence : UInt8) :
    (receivingTask 1).Ensures (arriving P tunnel frame) (fun _ h _ ↦
      AcknowledgedAgain frame channelId sequence h → ∃ x, session.openFrame P frame = .ok x) s [] := by
  refine ensures_round hs frame (fun s' h hr ha ↦ ?_) ?_
  · obtain ⟨plain, hp⟩ := ha.accepted
    exact absurd hp (hr.notAccepted plain)
  · rintro s' plain current ⟨-, -, -, q, ho, -⟩
    exact (Ensures.invariant (A := fun _ _ ↦ True) (fun _ _ _ _ _ _ _ _ ↦ trivial) trivial _).mono
      fun _ _ _ _ _ ↦ ⟨_, ho⟩

theorem ensures_sendTunnellingAck {s : State} (ht : s.transport = true) (frame : List UInt8)
    (channelId sequence status : UInt8) {h : Past} :
    (Client.sendTunnellingAck channelId sequence status).Ensures (arriving P tunnel frame)
      (fun _ h' _ ↦ ∃ sent, h' = ⟨.write (KnxIpFrame.new .tunnellingAck
        (TunnellingAck.serialize ⟨channelId, sequence, status⟩)).serialize, sent⟩ ::
          ⟨.transport .sendTunnellingAck, true⟩ :: h) s h := by
  rintro i₁ r₁ s₁ ⟨⟩
  simp only [ht]
  rintro i₂ sent s₂ ⟨⟩
  exact ⟨_, rfl⟩

theorem ensures_again {s : State} {session : SecureSession} {frame plain : List UInt8} {q : UInt64}
    {request : TunnellingRequest} (hs : s.secureSession = some session)
    (ho : session.openFrame P frame = .ok (plain, q)) (hreq : IsRequest plain request)
    (hready : Ready key sessionId n (request.sequenceCounter + 1) s) :
    (receivingTask 1).Ensures (arriving P tunnel frame) (fun _ h _ ↦
      AcknowledgedAgain frame request.communicationChannelId request.sequenceCounter h) s [] := by
  obtain ⟨f, hf, htype, hparse⟩ := hreq
  refine ensures_round hs frame
    (fun s' h hr ↦ absurd ⟨hready.connected, hready.transport, _, ho⟩ hr.reason) ?_
  rintro s' plain' current ⟨-, ⟨-, htransport⟩, hexpected, q', ho', -⟩
  obtain ⟨rfl, rfl⟩ : plain = plain' ∧ q = q' := by simpa [ho] using ho'
  rw [hready.expected] at hexpected
  unfold handleIncomingFrame
  rw [hf, Task.ok_bind]
  simp only [htype]
  unfold handleTunnellingRequest
  rw [hparse, Task.ok_bind]
  refine Ensures.bind_const ?_ fun _ _ _ ↦ id
  refine (ensures_validateSequenceNumber request.sequenceCounter frame s' _).bind
    (fun s₁ h₁ result hv ↦ ?_) (fun _ _ _ hv ↦ by cases hv) (fun _ _ hv ↦ by cases hv)
  cases hv with
  | valid hr => simp [hexpected] at hr
  | invalid hr => simp [hexpected] at hr
  | duplicate _ =>
    have hagain (sent) : AcknowledgedAgain frame request.communicationChannelId
        request.sequenceCounter (⟨.write (KnxIpFrame.new .tunnellingAck (TunnellingAck.newOk
          request.communicationChannelId request.sequenceCounter).serialize).serialize, sent⟩ ::
          ⟨.transport .sendTunnellingAck, true⟩ :: ⟨.loadExpected, s'.expectedSequenceNumber⟩ ::
          ⟨.knxChannelId, current⟩ :: ⟨.allocate plain.length, true⟩ ::
          receptionHistory frame plain) :=
      ⟨⟨plain, by simp [receptionHistory]⟩, by simp [hexpected], by simp [receptionHistory],
        ⟨sent, by simp⟩, by simp [receptionHistory], by simp [receptionHistory]⟩
    refine ((ensures_sendTunnellingAck htransport frame request.communicationChannelId
      request.sequenceCounter TunnellingAck.statusOk).mono ?_).attempt_const.bind_const
      fun _ _ _ ↦ id
    rintro _ _ _ ⟨sent, rfl⟩
    exact hagain sent

end

section

variable (P : Primitives) (tunnel : Tunnel)

/-- A telegram is sent to a secure client, the client accepts the first transmission,
and the server repeats it for want of an acknowledgement. -/
structure LostAcknowledgement where
  session : ClientSession
  telegram : Telegram
  sending : History Server.Command Server.Command.Response
  call : ∃ result, (Server.sendToSession session telegram).Reaches [] sending result
  server : SecureSession
  secured : Server.SecuredBy P server sending
  sequence : UInt8
  drawn : ⟨.loadSendSeq session.cells, sequence⟩ ∈ sending
  first : List UInt8
  second : List UInt8
  transmitted : Server.transmissions sending = [first, second]
  client : State
  clientSession : SecureSession
  secure : client.secureSession = some clientSession
  sameKey : clientSession.sessionKey = server.sessionKey
  sameId : clientSession.sessionId = server.sessionId
  firstInputs : ℕ → {i : Env // Arrives first i}
  firstEnd : Ending Command Command.Response State KnxError Unit
  firstRound : (receivingTask 1).runAlone (arriving P tunnel first) firstInputs client [] =
    some firstEnd
  accepted : ∃ v, ⟨.storeExpected v, ()⟩ ∈ firstEnd.history
  waiting : State
  meanwhile : Quiet P tunnel firstEnd.state waiting
  waitingSession : SecureSession
  stillSecure : waiting.secureSession = some waitingSession
  secondInputs : ℕ → {i : Env // Arrives second i}

variable {P tunnel}

def LostAcknowledgement.secondRound (x : LostAcknowledgement P tunnel) :
    Option (Ending Command Command.Response State KnxError Unit) :=
  (receivingTask 1).runAlone (arriving P tunnel x.second) x.secondInputs x.waiting []

theorem openFrame_of_encryptFrame {server session : SecureSession} {plain frame plain' : List UInt8}
    {q : UInt64} (henc : (server.encryptFrame P plain).1 = .ok frame)
    (hkey : session.sessionKey = server.sessionKey) (hid : session.sessionId = server.sessionId)
    (ho : session.openFrame P frame = .ok (plain', q)) : plain' = plain := by
  by_cases hi : server.sessionKey.initialized = true
  · rw [SecureSession.encryptFrame_eq P plain hi] at henc
    cases henc
    have hu := ((SecureSession.openFrame_eq_ok P).mp ho).2.2.2.2.2
    rw [hkey, hid, SecureSession.unwrap_sealedWrapper] at hu
    exact (Outcome.ok.inj hu).symm
  · simp [SecureSession.encryptFrame, hi, SecureSession.keyNotInitialized] at henc

theorem fresh_iff_of_le {last m : ℕ} (h : m ≤ last) : Fresh last m ↔ last = 0 := by
  simp [Fresh, h]

/-- The retransmission is taken for the duplicate that it is exactly if the client
has received no frame with a number other than zero. -/
theorem acknowledgedAgain_iff (x : LostAcknowledgement P tunnel) :
    ∃ e, x.secondRound = some e ∧
      (AcknowledgedAgain x.second x.session.channelId x.sequence e.history ↔
        x.waitingSession.sequenceNumberReceived = 0) := by
  obtain ⟨e, he⟩ : ∃ e, x.secondRound = some e := exists_runAlone (fun _ _ _ ↦ rfl) _ _ _ _
  refine ⟨e, he, ?_⟩
  obtain ⟨result, hcall⟩ := x.call
  obtain ⟨henc, hsecond⟩ := Server.retransmission_eq hcall x.secured x.drawn x.transmitted
  obtain ⟨v, hv⟩ := x.accepted
  obtain ⟨plain, q, request, ho, hreq, rfl, hready⟩ :=
    (ensures_accepted x.secure x.first).runAlone x.firstRound v hv
  -- The client has read the frame that the server built, and is ready to see it again.
  obtain rfl := openFrame_of_encryptFrame henc x.sameKey x.sameId ho
  obtain ⟨hchannel, hsequence⟩ := hreq.fields
  have hwaiting := hready.quiet x.meanwhile
  obtain ⟨session, hs, hkey, hid, hle⟩ := hwaiting.session
  obtain rfl : session = x.waitingSession := by
    rw [x.stillSecure] at hs
    exact (Option.some.inj hs).symm
  have hzero : Fresh x.waitingSession.sequenceNumberReceived.toNat (sequenceField x.first) ↔
      x.waitingSession.sequenceNumberReceived = 0 := by
    rw [fresh_iff_of_le hle, ← UInt64.toNat_inj]
    rfl
  rw [← hzero]
  constructor
  · intro ha
    obtain ⟨⟨plain', q'⟩, ho'⟩ := (ensures_not_again x.stillSecure x.second x.session.channelId
      x.sequence).runAlone he ha
    rw [hsecond] at ho'
    exact (SecureSession.openFrame_eq_ok_imp P ho').2.1
  · intro hf
    have hauth : x.waitingSession.authentic P x.first = true := by
      have hauth := (SecureSession.openFrame_eq_ok_imp P ho).1
      rw [SecureSession.authentic_iff] at hauth ⊢
      rwa [hkey, hid]
    obtain ⟨⟨plain', q'⟩, ho'⟩ := SecureSession.openFrame_of_authentic P hauth hf
    obtain rfl := openFrame_of_encryptFrame henc (hkey.trans x.sameKey) (hid.trans x.sameId) ho'
    rw [← hsecond] at ho'
    have hagain := (ensures_again x.stillSecure ho' hreq hwaiting).runAlone he
    rwa [hchannel, hsequence] at hagain

end

namespace Reference

open Security.Reference (primitives)
open Client.Reference (tunnel)
open Server.Reference (firstChannel temperature numbered wrappedRequest unacknowledged
  runsTo_unacknowledged securedBy_unacknowledged)

def onFirstChannel : State :=
  { State.built with
    transport := true
    channelId := 1
    state := .connected
    secureSession := some { Security.Reference.client with sequenceNumber := 1 }
    knxChannelId := some 1 }

def arrival (frame : List UInt8) : {i : Env // Arrives frame i} :=
  ⟨{ frame := .ok frame }, rfl, rfl, rfl, rfl⟩

def receive (frame : List UInt8) (s : State) :
    Option (Ending Command Command.Response State KnxError Unit) :=
  (receivingTask 1).runAlone (arriving primitives tunnel frame) (fun _ ↦ arrival frame) s []

def isStore : (c : Command) × c.Response → Bool
  | ⟨.storeExpected _, _⟩ => true
  | _ => false

def isClose : (c : Command) × c.Response → Bool
  | ⟨.closeQueue, _⟩ => true
  | _ => false

def twice (n : UInt64) : Option (Bool × Option SecureSession × Bool) := do
  let first ← receive (wrappedRequest n) onFirstChannel
  let second ← receive (wrappedRequest n) first.state
  some (first.history.any isStore, first.state.secureSession, second.history.any isClose)

theorem twice_zero : twice 0 = some (true,
    some { Security.Reference.client with sequenceNumber := 1 }, false) := by
  decide +kernel

theorem twice_one : twice 1 = some (true,
    some { Security.Reference.client with sequenceNumber := 1, sequenceNumberReceived := 1 },
      true) := by
  decide +kernel

theorem exists_lost {n : UInt64} {waiting : SecureSession} {closes : Bool}
    (h : twice n = some (true, some waiting, closes)) :
    ∃ (x : LostAcknowledgement primitives tunnel) (e : _), x.first = wrappedRequest n ∧
      x.second = wrappedRequest n ∧ x.waitingSession = waiting ∧ x.secondRound = some e ∧
      e.history.any isClose = closes := by
  obtain ⟨first, hfirst, h⟩ := Option.bind_eq_some_iff.mp h
  obtain ⟨second, hsecond, h⟩ := Option.bind_eq_some_iff.mp h
  simp only [Option.some.injEq, Prod.mk.injEq] at h
  obtain ⟨hstore, hwaiting, hclose⟩ := h
  obtain ⟨e, he, hsent⟩ := runsTo_unacknowledged n
  refine ⟨{
    session := firstChannel
    telegram := temperature
    sending := unacknowledged n
    call := ⟨e.outcome, hsent ▸ reaches_of_runAlone he⟩
    server := numbered n
    secured := securedBy_unacknowledged n
    sequence := 0
    drawn := by simp [unacknowledged, firstChannel]
    first := wrappedRequest n
    second := wrappedRequest n
    transmitted := rfl
    client := onFirstChannel
    clientSession := { Security.Reference.client with sequenceNumber := 1 }
    secure := rfl
    sameKey := rfl
    sameId := rfl
    firstInputs := fun _ ↦ arrival (wrappedRequest n)
    firstEnd := first
    firstRound := hfirst
    accepted := ?_
    waiting := first.state
    meanwhile := .refl
    waitingSession := waiting
    stillSecure := hwaiting
    secondInputs := fun _ ↦ arrival (wrappedRequest n) }, second, rfl, rfl, rfl, hsecond, hclose⟩
  obtain ⟨⟨c, r⟩, hc, hs⟩ := List.any_eq_true.mp hstore
  cases c with
  | storeExpected v => exact ⟨v, hc⟩
  | _ => cases hs

end Reference

section

open Security.Reference (primitives)
open Client.Reference (tunnel)
open Server.Reference (wrappedRequest)

/-- A first frame, with number zero, is acknowledged again. -/
theorem acknowledgedAgain_first_frame :
    ∃ (x : LostAcknowledgement primitives tunnel) (e : _), x.second = wrappedRequest 0 ∧
      x.secondRound = some e ∧
      AcknowledgedAgain x.second x.session.channelId x.sequence e.history := by
  obtain ⟨x, -, -, hx, hw, -⟩ := Reference.exists_lost Reference.twice_zero
  obtain ⟨e, he, hagain⟩ := acknowledgedAgain_iff x
  exact ⟨x, e, hx, he, hagain.mpr (by rw [hw]; rfl)⟩

/-- After the answer to the connect request, which has number zero, the first telegram
has number one: its retransmission is taken for a replay, and the receiving task ends. -/
theorem retransmission_taken_for_replay :
    ∃ (x : LostAcknowledgement primitives tunnel) (e : _), x.first = wrappedRequest 1 ∧
      x.second = wrappedRequest 1 ∧ x.secondRound = some e ∧ ⟨.closeQueue, ()⟩ ∈ e.history ∧
      ¬ AcknowledgedAgain x.second x.session.channelId x.sequence e.history := by
  obtain ⟨x, e, hfirst, hsecond, -, he, hclose⟩ := Reference.exists_lost Reference.twice_one
  obtain ⟨⟨c, r⟩, hc, hs⟩ := List.any_eq_true.mp hclose
  cases c with
  | closeQueue => exact ⟨x, e, hfirst, hsecond, he, hc, fun ha ↦ ha.goesOn hc⟩
  | _ => cases hs

end

end Knust.Application
