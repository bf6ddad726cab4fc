import Knust.Security.Reference
import Knust.Security.Wrapper
import Knust.Transport.Acknowledgement
import Knust.Transport.TunnelRules

namespace Knust.Transport.Client

open Foundation Foundation.Task Protocol Security

/-- The frame as it was before it was encrypted, if the command right before was to
encrypt it. -/
def plainText (frame : List UInt8) : History Command Command.Response → List UInt8
  | ⟨.encryptFrame plain, _⟩ :: _ => plain
  | _ => frame

def requestOf (frame : List UInt8) : Option TunnellingRequest :=
  match KnxIpFrame.parse frame with
  | .ok f =>
    if f.header.serviceType = .tunnellingRequest then
      match TunnellingRequest.parse f.body with
      | .ok request => some request
      | _ => none
    else none
  | _ => none

def ackOf (frame : List UInt8) : Option TunnellingAck :=
  match KnxIpFrame.parse frame with
  | .ok f =>
    if f.header.serviceType = .tunnellingAck then
      match TunnellingAck.parse f.body with
      | .ok ack => some ack
      | _ => none
    else none
  | _ => none

/-- What has happened on a channel since it was opened: the counter that the gateway
expects next, its requests that were acknowledged and that have arrived, and the
candidate addresses that the registry offered. -/
structure Ledger where
  expects : UInt8
  acknowledged : ℕ
  arrived : ℕ
  tried : ℕ
  deriving DecidableEq

namespace Ledger

variable (channelId : UInt8) (l : Ledger) (frame : List UInt8)

def new : Ledger := ⟨0, 0, 0, 0⟩

def send : Ledger :=
  { l with
    expects := match requestOf frame with
      | some request =>
        if request.communicationChannelId = channelId ∧ request.sequenceCounter = l.expects then
          l.expects + 1
        else l.expects
      | none => l.expects
    acknowledged := match ackOf frame with
      | some ack => if ack.communicationChannelId = channelId then l.acknowledged + 1
        else l.acknowledged
      | none => l.acknowledged }

def receive : Ledger :=
  { l with
    arrived := match requestOf frame with
      | some request => if request.communicationChannelId = channelId then l.arrived + 1
        else l.arrived
      | none => l.arrived }

end Ledger

/-- All that the tunnel writes reaches the gateway, which counts from zero on every new
channel. -/
def ledger (channelId : UInt8) : History Command Command.Response → Ledger
  | [] => .new
  | ⟨.openChannel _, _⟩ :: _ => .new
  | ⟨.write frame, _⟩ :: h => (ledger channelId h).send channelId (plainText frame h)
  | ⟨.decryptFrame raw, none⟩ :: h => (ledger channelId h).receive channelId raw
  | ⟨.decryptFrame _, some (.ok data)⟩ :: h => (ledger channelId h).receive channelId data
  | ⟨.isAvailable _, true⟩ :: h =>
    { ledger channelId h with tried := (ledger channelId h).tried + 1 }
  | _ :: h => ledger channelId h

structure InStep (s : State) (h : History Command Command.Response) : Prop where
  outgoing : s.sequenceCounter = (ledger s.channelId h).expects
  incoming : s.expectedSequenceNumber = UInt8.ofNat (ledger s.channelId h).acknowledged

def expectedAfter (start : UInt8) : ℕ → UInt8
  | 0 => 0
  | n + 1 =>
    if counter start n = expectedAfter start n then expectedAfter start n + 1
    else expectedAfter start n

theorem toNat_counter (start : UInt8) (n : ℕ) :
    (counter start n).toNat = (start.toNat + n) % 256 := by
  rw [counter, UInt8.toNat_add, UInt8.toNat_ofNat']
  omega

theorem expectedAfter_eq (start : UInt8) (n : ℕ) :
    expectedAfter start n = if start = 0 ∨ 256 ≤ start.toNat + n then counter start n else 0 := by
  induction n with
  | zero =>
    have := start.toNat_lt
    split
    · rename_i h
      obtain rfl : start = 0 := h.resolve_right (by omega)
      rfl
    · rfl
  | succ n ih =>
    rw [expectedAfter, ih]
    by_cases h : start = 0 ∨ 256 ≤ start.toNat + n
    · have h' : start = 0 ∨ 256 ≤ start.toNat + (n + 1) := h.imp id (by omega)
      rw [if_pos h, if_pos rfl, if_pos h', counter_succ]
    · obtain ⟨hstart, hn⟩ := not_or.mp h
      have hpos : start.toNat ≠ 0 := fun h0 ↦ hstart (UInt8.toNat_inj.mp h0)
      have hne : counter start n ≠ 0 := by
        intro h0
        have := congrArg UInt8.toNat h0
        rw [toNat_counter, UInt8.toNat_zero] at this
        omega
      rw [if_neg h, if_neg hne]
      -- At the wrap the counter meets the zero that the gateway still expects.
      split
      · rename_i h'
        apply UInt8.toNat_inj.mp
        have := h'.resolve_left hstart
        rw [toNat_counter, UInt8.toNat_zero]
        omega
      · rfl

theorem counter_eq_expectedAfter_iff {start : UInt8} {n : ℕ} :
    counter start n = expectedAfter start n ↔ start = 0 ∨ 256 ≤ start.toNat + n := by
  rw [expectedAfter_eq]
  by_cases h : start = 0 ∨ 256 ≤ start.toNat + n
  · simp [h]
  · obtain ⟨hstart, hn⟩ := not_or.mp h
    have hpos : start.toNat ≠ 0 := fun h0 ↦ hstart (UInt8.toNat_inj.mp h0)
    rw [if_neg h]
    refine iff_of_false (fun h0 ↦ ?_) h
    have := congrArg UInt8.toNat h0
    rw [toNat_counter, UInt8.toNat_zero] at this
    omega

def requestFrame (request : TunnellingRequest) : List UInt8 :=
  (KnxIpFrame.new .tunnellingRequest request.serialize).serialize

theorem requestOf_requestFrame {request : TunnellingRequest}
    (hlength : request.rawCemi.length ≤ 65525) :
    requestOf (requestFrame request) = some request := by
  have hbody : request.serialize.length ≤ 65529 := by
    simp [TunnellingRequest.serialize]
    omega
  rw [requestOf, requestFrame, KnxIpFrame.parse_serialize_new .tunnellingRequest hbody]
  simp only [KnxIpFrame.new, KnxIpHeader.new, if_true, TunnellingRequest.parse_serialize]

theorem ackOf_requestFrame (request : TunnellingRequest) : ackOf (requestFrame request) = none := by
  unfold ackOf
  split
  · rename_i f hf
    rw [if_neg (by rw [KnxIpFrame.serviceType_of_parse hf]; decide)]
  · rfl

theorem parse_ackFrame (ack : TunnellingAck) :
    KnxIpFrame.parse (ackFrame ack) = .ok (.new .tunnellingAck ack.serialize) :=
  KnxIpFrame.parse_serialize_new .tunnellingAck (by simp [TunnellingAck.serialize])

theorem ackOf_ackFrame (ack : TunnellingAck) : ackOf (ackFrame ack) = some ack := by
  rw [ackOf, parse_ackFrame]
  simp only [KnxIpFrame.new, KnxIpHeader.new, if_true, TunnellingAck.parse_serialize]

theorem requestOf_ackFrame (ack : TunnellingAck) : requestOf (ackFrame ack) = none := by
  rw [requestOf, parse_ackFrame]
  rfl

theorem Ledger.send_request (l : Ledger) (request : TunnellingRequest)
    (hlength : request.rawCemi.length ≤ 65525) :
    l.send request.communicationChannelId (requestFrame request) =
      { l with expects := if request.sequenceCounter = l.expects then l.expects + 1
          else l.expects } := by
  rw [send, requestOf_requestFrame hlength, ackOf_requestFrame]
  simp

theorem Ledger.send_ack (l : Ledger) (channelId : UInt8) (ack : TunnellingAck) :
    l.send channelId (ackFrame ack) =
      { l with acknowledged := if ack.communicationChannelId = channelId then l.acknowledged + 1
          else l.acknowledged } := by
  rw [send, requestOf_ackFrame, ackOf_ackFrame]

structure Linked (s : State) : Prop where
  transport : s.transport = true
  keyed : ∀ session, s.secureSession = some session → session.sessionKey.initialized = true

section

variable {P : Primitives} {tunnel : Tunnel} {s : State} {h : Past}

theorem Linked.withSession {session : SecureSession} (hs : Linked s)
    (hsession : session.sessionKey.initialized = true) :
    Linked { s with secureSession := some session } :=
  ⟨hs.transport, fun _ h' ↦ Option.some.inj h' ▸ hsession⟩

theorem sessionKey_decryptFrame (session : SecureSession) (frame : List UInt8) :
    (session.decryptFrame P frame).2.sessionKey = session.sessionKey := by
  unfold SecureSession.decryptFrame
  split <;> rfl

section

variable (tunnel) (channelId start expected : UInt8)

/-- How far an open channel has come: the numbers drawn, those of the requests that
were sent, and the addresses tried. -/
structure Counted (drawn sent tried : ℕ) (s : State) (h : History Command Command.Response) :
    Prop where
  linked : Linked s
  channel : s.channelId = channelId
  outgoing : s.sequenceCounter = counter start drawn
  incoming : s.expectedSequenceNumber = expected
  expects : (ledger channelId h).expects = expectedAfter start sent
  acknowledged : (ledger channelId h).acknowledged =
    if tunnel.sendAcks then (ledger channelId h).arrived else 0
  tried : (ledger channelId h).tried = tried

end

section

variable {channelId start expected : UInt8} {drawn sent tried : ℕ}

theorem Counted.congr (hs : Counted tunnel channelId start expected drawn sent tried s h)
    {s' : State} {h' : Past} (hlinked : Linked s') (hchannel : s'.channelId = s.channelId)
    (hsequence : s'.sequenceCounter = s.sequenceCounter)
    (hexpected : s'.expectedSequenceNumber = s.expectedSequenceNumber)
    (hledger : ledger channelId h' = ledger channelId h) :
    Counted tunnel channelId start expected drawn sent tried s' h' :=
  ⟨hlinked, hchannel.trans hs.channel, hsequence.trans hs.outgoing, hexpected.trans hs.incoming,
    hledger ▸ hs.expects, hledger ▸ hs.acknowledged, hledger ▸ hs.tried⟩

theorem attains_wrapCemi (hs : Counted tunnel channelId start expected drawn sent tried s h)
    (rawCemi : List UInt8) :
    (wrapCemi rawCemi).Attains (exec P tunnel) (fun s' h' r ↦
      Counted tunnel channelId start expected (drawn + 1) sent tried s' h' ∧
        r = .ok (requestFrame ⟨channelId, counter start drawn, rawCemi⟩)) s h := by
  intro i₁
  refine ⟨_, s, rfl, ?_⟩
  intro i₂
  refine ⟨_, _, rfl, ⟨⟨hs.linked.transport, hs.linked.keyed⟩, hs.channel, ?_, hs.incoming,
    hs.expects, hs.acknowledged, hs.tried⟩, ?_⟩
  · rw [counter_succ, ← hs.outgoing]
  · rw [hs.channel, hs.outgoing]
    rfl

theorem attains_encode_write (hs : Linked s) (frame : List UInt8) (h : Past) :
    (do
      let data ← encode frame
      .done (← perform (.write data)) : Handler Unit).Attains (exec P tunnel) (fun s' h' _ ↦
        Linked s' ∧ (∃ session, s' = { s with secureSession := session }) ∧
          ∃ data r x, h' = ⟨.write data, r⟩ :: ⟨.encryptFrame frame, x⟩ :: h) s h := by
  intro i₁
  cases hsession : s.secureSession with
  | none =>
    refine ⟨none, s, by simp [exec, respond, State.withSession, hsession], ?_⟩
    intro i₂
    exact ⟨_, s, rfl, hs, ⟨none, by rw [← hsession]⟩, _, _, _, rfl⟩
  | some session =>
    refine ⟨_, _, by simp only [exec, respond, State.withSession, hsession]; rfl, ?_⟩
    have hkey := hs.keyed session hsession
    rw [SecureSession.encryptFrame_eq P frame hkey]
    intro i₂
    exact ⟨_, _, rfl, hs.withSession hkey, ⟨_, rfl⟩, _, _, _, rfl⟩

inductive Wrote (frame : List UInt8) (h : History Command Command.Response) :
    History Command Command.Response → Prop
  | written (data : List UInt8) (r : Result Unit) (x : Option (Result (List UInt8))) :
    Wrote frame h (⟨.write data, r⟩ :: ⟨.encryptFrame frame, x⟩ :: ⟨.transport .sendFrame, true⟩ :: h)
  | sent {h' : History Command Command.Response} (hw : Wrote frame h h') :
    Wrote frame h (⟨.recordSent, ()⟩ :: h')
  | failed {h' : History Command Command.Response} (hw : Wrote frame h h') (e : KnxError) :
    Wrote frame h (⟨.recordSendError e, ()⟩ :: h')

theorem Wrote.ledger_eq {frame : List UInt8} {h' : Past} (hw : Wrote frame h h')
    (channelId : UInt8) : ledger channelId h' = (ledger channelId h).send channelId frame := by
  induction hw with
  | written => rfl
  | sent _ ih => exact ih
  | failed _ _ ih => exact ih

theorem attains_sendFrame_linked (hs : Linked s) (frame : List UInt8) (h : Past) :
    (sendFrame frame).Attains (exec P tunnel) (fun s' h' _ ↦ Linked s' ∧
      (∃ session stats, s' = { s with secureSession := session, stats }) ∧ Wrote frame h h') s h := by
  have hsent : (do
      if ← Client.perform (.transport .sendFrame) then do
        let data ← encode frame
        .done (← Client.perform (.write data))
      else .done (.err connectionClosed) : Handler Unit).Attains (exec P tunnel)
      (fun s' h' _ ↦ Linked s' ∧ (∃ session stats, s' = { s with secureSession := session, stats }) ∧
        Wrote frame h h') s h := by
    intro i₁
    refine ⟨_, s, rfl, ?_⟩
    simp only [hs.transport]
    refine (attains_encode_write hs frame _).mono ?_
    rintro s' h' r ⟨hlinked, ⟨session, rfl⟩, data, r', x, rfl⟩
    exact ⟨hlinked, ⟨session, s.stats, by rw [hs.transport]⟩, .written data r' x⟩
  refine hsent.attempt_const.bind_const ?_
  rintro s₁ h₁ result ⟨hlinked, ⟨session, stats, rfl⟩, hwrote⟩
  cases result with
  | ok _ =>
    intro i₂
    exact ⟨_, _, rfl, ⟨hlinked.transport, hlinked.keyed⟩, ⟨session, _, rfl⟩, hwrote.sent⟩
  | error e =>
    intro i₂
    exact ⟨_, _, rfl, ⟨hlinked.transport, hlinked.keyed⟩, ⟨session, _, rfl⟩, hwrote.failed e⟩

theorem attains_sendFrame_request
    (hs : Counted tunnel channelId start expected drawn sent tried s h) {rawCemi : List UInt8}
    (hlength : rawCemi.length ≤ 65525) :
    (sendFrame (requestFrame ⟨channelId, counter start sent, rawCemi⟩)).Attains (exec P tunnel)
      (fun s' h' _ ↦ Counted tunnel channelId start expected drawn (sent + 1) tried s' h') s h := by
  refine (attains_sendFrame_linked hs.linked _ h).mono ?_
  rintro s' h' r ⟨hlinked, ⟨session, stats, rfl⟩, hwrote⟩
  have hledger : ledger channelId h' =
      { ledger channelId h with expects := expectedAfter start (sent + 1) } := by
    refine (hwrote.ledger_eq channelId).trans (((ledger channelId h).send_request
      ⟨channelId, counter start sent, rawCemi⟩ hlength).trans ?_)
    rw [hs.expects]
    rfl
  exact ⟨hlinked, hs.channel, hs.outgoing, hs.incoming, by rw [hledger],
    by rw [hledger]; exact hs.acknowledged, by rw [hledger]; exact hs.tried⟩

variable (tunnel channelId start expected drawn sent tried) in
def Pending (data : List UInt8) (s : State) (h : History Command Command.Response) : Prop :=
  ∃ before, Counted tunnel channelId start expected drawn sent tried s before ∧
    ledger channelId h = (ledger channelId before).receive channelId data

theorem attains_recvFrameWithin (timeoutMs : ℕ)
    (hs : Counted tunnel channelId start expected drawn sent tried s h) :
    (recvFrameWithin timeoutMs).Attains (exec P tunnel) (fun s' h' r ↦
      (r = .ok none → Counted tunnel channelId start expected drawn sent tried s' h') ∧
      ∀ data, r = .ok (some data) →
        Pending tunnel channelId start expected drawn sent tried data s' h') s h := by
  intro i₁
  refine ⟨_, s, rfl, ?_⟩
  rw [hs.linked.transport]
  intro i₂
  refine ⟨_, s, rfl, ?_⟩
  cases i₂.elapsed with
  | true => exact ⟨fun _ ↦ hs.congr hs.linked rfl rfl rfl rfl, by simp⟩
  | false =>
    cases i₂.frame with
    | error e =>
      intro i₃
      exact ⟨_, _, rfl, by simp, by simp⟩
    | ok raw =>
      intro i₃
      cases hsession : s.secureSession with
      | none =>
        refine ⟨none, s, by simp [exec, respond, State.withSession, hsession], ?_⟩
        intro i₄
        refine ⟨_, _, rfl, by simp, fun data hdata ↦ ?_⟩
        cases hdata
        exact ⟨h, hs.congr ⟨hs.linked.transport, hs.linked.keyed⟩ rfl rfl rfl rfl, rfl⟩
      | some session =>
        refine ⟨_, _, by simp only [exec, respond, State.withSession, hsession]; rfl, ?_⟩
        have hkey : (session.decryptFrame P raw).2.sessionKey.initialized = true := by
          rw [sessionKey_decryptFrame]
          exact hs.linked.keyed session hsession
        have hlinked := hs.linked.withSession hkey
        cases (session.decryptFrame P raw).1 with
        | ok data =>
          intro i₄
          refine ⟨_, _, rfl, by simp, fun data' hdata ↦ ?_⟩
          cases hdata
          exact ⟨h, hs.congr ⟨hlinked.transport, hlinked.keyed⟩ rfl rfl rfl rfl, rfl⟩
        | err e =>
          intro i₄
          exact ⟨_, _, rfl, by simp, by simp⟩
        | panic => exact ⟨by simp, by simp⟩

theorem Pending.counted_of_none {data : List UInt8}
    (hp : Pending tunnel channelId start expected drawn sent tried data s h)
    (hdata : requestOf data = none) :
    Counted tunnel channelId start expected drawn sent tried s h := by
  obtain ⟨before, hs, hledger⟩ := hp
  rw [Ledger.receive, hdata] at hledger
  exact hs.congr hs.linked rfl rfl rfl hledger

theorem attains_acknowledgeProbe {data : List UInt8} {request : TunnellingRequest}
    (hp : Pending tunnel channelId start expected drawn sent tried data s h)
    (hdata : requestOf data = some request) :
    (acknowledgeProbe tunnel request).Attains (exec P tunnel)
      (fun s' h' _ ↦ Counted tunnel channelId start expected drawn sent tried s' h') s h := by
  obtain ⟨before, hs, hledger⟩ := hp
  rw [Ledger.receive, hdata] at hledger
  unfold acknowledgeProbe
  cases hacks : tunnel.sendAcks with
  | false =>
    rw [if_neg (by simp)]
    refine ⟨hs.linked, hs.channel, hs.outgoing, hs.incoming, ?_, ?_, ?_⟩
    · rw [hledger]
      exact hs.expects
    · rw [hledger, hacks]
      exact hs.acknowledged.trans (by rw [hacks]; rfl)
    · rw [hledger]
      exact hs.tried
  | true =>
    rw [if_pos rfl]
    have hsend : (sendTunnellingAck request.communicationChannelId request.sequenceCounter
        0).Attains (exec P tunnel)
        (fun s' h' _ ↦ Counted tunnel channelId start expected drawn sent tried s' h') s h := by
      intro i₁
      refine ⟨_, s, rfl, ?_⟩
      rw [hs.linked.transport]
      intro i₂
      refine ⟨_, s, rfl, ?_⟩
      have hwritten : ledger channelId (⟨.write (ackFrame ⟨request.communicationChannelId,
          request.sequenceCounter, 0⟩), writeResult tunnel.kind i₂⟩ ::
          ⟨.transport .sendTunnellingAck, true⟩ :: h) =
          (ledger channelId h).send channelId (ackFrame ⟨request.communicationChannelId,
            request.sequenceCounter, 0⟩) := rfl
      rw [Ledger.send_ack, hledger] at hwritten
      have hbalance := hs.acknowledged
      rw [if_pos hacks] at hbalance
      refine ⟨hs.linked, hs.channel, hs.outgoing, hs.incoming, ?_, ?_, ?_⟩
      · exact (congrArg Ledger.expects hwritten).trans hs.expects
      · refine (congrArg Ledger.acknowledged hwritten).trans ?_
        rw [if_pos hacks]
        refine Eq.trans ?_ (congrArg Ledger.arrived hwritten).symm
        simp only [hbalance]
      · exact (congrArg Ledger.tried hwritten).trans hs.tried
    exact hsend.attempt_const.bind_const fun _ _ _ ↦ id

theorem attains_probeFrame {data : List UInt8}
    (hp : Pending tunnel channelId start expected drawn sent tried data s h) :
    (probeFrame tunnel data).Attains (exec P tunnel) (fun s' h' r ↦
      ∀ a, r = .ok a → Counted tunnel channelId start expected drawn sent tried s' h') s h := by
  unfold probeFrame
  cases hparse : KnxIpFrame.parse data with
  | panic => intro a ha; cases ha
  | err e => exact fun _ _ ↦ hp.counted_of_none (by rw [requestOf, hparse])
  | ok frame =>
    by_cases htype : frame.header.serviceType = .tunnellingRequest
    swap
    · simp only [ne_eq, htype, not_false_eq_true, if_true]
      exact fun _ _ ↦ hp.counted_of_none (by simp [requestOf, hparse, htype])
    simp only [ne_eq, htype, not_true_eq_false, if_false]
    cases hrequest : TunnellingRequest.parse frame.body with
    | panic => intro a ha; cases ha
    | err e => exact fun _ _ ↦ hp.counted_of_none (by simp [requestOf, hparse, htype, hrequest])
    | ok request =>
      have hdata : requestOf data = some request := by
        simp [requestOf, hparse, htype, hrequest]
      refine (attains_acknowledgeProbe hp hdata).bind_ok fun s₁ h₁ _ hs₁ ↦ ?_
      cases parseProbeCemi request.rawCemi with
      | panic => intro a ha; cases ha
      | err e => exact fun _ _ ↦ hs₁
      | ok cemi => exact fun _ _ ↦ hs₁

theorem attains_recvUntilSignal (frames : ℕ)
    (hs : Counted tunnel channelId start expected drawn sent tried s h) :
    (recvUntilSignal tunnel frames).Attains (exec P tunnel) (fun s' h' r ↦
      ∀ a, r = .ok a → Counted tunnel channelId start expected drawn sent tried s' h') s h := by
  induction frames generalizing s h with
  | zero => exact fun _ _ ↦ hs
  | succ frames ih =>
    refine (attains_recvFrameWithin probeTimeoutMs hs).bind_ok ?_
    rintro s₁ h₁ received ⟨hnone, hsome⟩
    cases received with
    | none => exact fun _ _ ↦ hnone rfl
    | some data =>
      refine (attains_probeFrame (hsome data rfl)).bind_ok fun s₂ h₂ occupied hs₂ ↦ ?_
      cases occupied with
      | true => exact fun _ _ ↦ hs₂ true rfl
      | false => exact ih (hs₂ false rfl)

theorem length_buildLdataReqCemi (src dst : IndividualAddress) (tpci : UInt8)
    (apci : List UInt8) : (buildLdataReqCemi src dst tpci apci).length = 10 + apci.length := by
  simp [buildLdataReqCemi, u16Bytes]
  omega

theorem attains_probeAddress (frames : ℕ) (addr : IndividualAddress)
    (hs : Counted tunnel channelId start expected sent sent tried s h) :
    (probeAddress tunnel frames addr).Attains (exec P tunnel) (fun s' h' r ↦ ∀ a, r = .ok a →
      Counted tunnel channelId start expected (sent + 3) (sent + 3) tried s' h') s h := by
  have hshort (src dst : IndividualAddress) (tpci : UInt8) {apci : List UInt8}
      (hapci : apci.length ≤ 2) : (buildLdataReqCemi src dst tpci apci).length ≤ 65525 := by
    rw [length_buildLdataReqCemi]
    omega
  refine (attains_wrapCemi hs _).bind_ok ?_
  rintro s₁ h₁ _ ⟨hs₁, ⟨⟩⟩
  refine (attains_sendFrame_request hs₁ (hshort _ _ _ (by simp))).bind_ok fun s₂ h₂ _ hs₂ ↦ ?_
  refine (attains_wrapCemi hs₂ _).bind_ok ?_
  rintro s₃ h₃ _ ⟨hs₃, ⟨⟩⟩
  refine (attains_sendFrame_request hs₃ (hshort _ _ _ (by decide))).bind_ok fun s₄ h₄ _ hs₄ ↦ ?_
  refine (attains_recvUntilSignal frames hs₄).bind_ok fun s₅ h₅ occupied hs₅ ↦ ?_
  refine (attains_wrapCemi (hs₅ occupied rfl) _).bind_ok ?_
  rintro s₆ h₆ _ ⟨hs₆, ⟨⟩⟩
  -- A failure to send the last request is ignored; its number is drawn all the same.
  exact (attains_sendFrame_request hs₆ (hshort _ _ _ (by simp))).attempt_const.bind_ok
    fun _ _ _ hs₇ _ _ ↦ hs₇

theorem attains_selectFrom (frames : ℕ) (area line : UInt8) (addrs : List IndividualAddress)
    (probedCount : ℕ) (hs : Counted tunnel channelId start expected (3 * tried) (3 * tried) tried s h) :
    (selectFrom tunnel frames area line addrs probedCount).Attains (exec P tunnel)
      (fun s' h' r ↦ ∀ a, r = .ok a → ∃ tried,
        Counted tunnel channelId start expected (3 * tried) (3 * tried) tried s' h') s h := by
  induction addrs generalizing s h tried probedCount with
  | nil => intro a ha; cases ha
  | cons addr rest ih =>
    intro i₁
    refine ⟨_, s, rfl, ?_⟩
    cases havailable : (!s.claimed addr && !s.knownOccupied addr) with
    | false => exact ih probedCount (hs.congr hs.linked rfl rfl rfl rfl)
    | true =>
      have hoffered : Counted tunnel channelId start expected (3 * tried) (3 * tried) (tried + 1) s
          (⟨.isAvailable addr, true⟩ :: h) :=
        ⟨hs.linked, hs.channel, hs.outgoing, hs.incoming, hs.expects, hs.acknowledged,
          congrArg (· + 1) hs.tried⟩
      refine (attains_probeAddress frames addr hoffered).bind_ok fun s₁ h₁ occupied hs₁ ↦ ?_
      have hprobed : Counted tunnel channelId start expected (3 * (tried + 1)) (3 * (tried + 1))
          (tried + 1) s₁ h₁ := hs₁ occupied rfl
      cases occupied with
      | true => exact ih (probedCount + 1) hprobed
      | false => exact fun _ _ ↦ ⟨tried + 1, hprobed⟩

theorem attains_finishConnect (frames : ℕ) (channelId : UInt8)
    (assignedAddress : Option IndividualAddress) (hs : Linked s) :
    (finishConnect tunnel frames channelId assignedAddress).Attains (exec P tunnel)
      (fun s' h' r ↦ r = .ok () → ∃ tried, Counted tunnel channelId s.sequenceCounter
        s.expectedSequenceNumber (3 * tried) (3 * tried) tried s' h') s h := by
  intro i₁
  refine ⟨_, _, rfl, ?_⟩
  have hopened (i : Env) : Counted tunnel channelId s.sequenceCounter s.expectedSequenceNumber
      (3 * 0) (3 * 0) 0
      { s with channelId, establishedAt := some i.now, state := .connected }
      (⟨.openChannel channelId, ()⟩ :: h) := by
    refine ⟨⟨hs.transport, hs.keyed⟩, rfl, (UInt8.add_zero _).symm, rfl, rfl, ?_, rfl⟩
    show 0 = ite _ 0 0
    split <;> rfl
  show Attains _ _ _ _ (ite _ _ _)
  split
  swap
  · exact fun _ ↦ ⟨0, hopened i₁⟩
  have hfinal : (finalAddress tunnel frames assignedAddress).Attains (exec P tunnel)
      (fun s' h' r ↦ ∀ a, r = .ok a → ∃ tried, Counted tunnel channelId s.sequenceCounter
        s.expectedSequenceNumber (3 * tried) (3 * tried) tried s' h')
      { s with channelId, establishedAt := some i₁.now, state := .connected }
      (⟨.openChannel channelId, ()⟩ :: h) := by
    unfold finalAddress
    split
    · exact fun _ _ ↦ ⟨0, hopened i₁⟩
    · exact fun _ _ ↦ ⟨0, hopened i₁⟩
    · exact attains_selectFrom frames 0 0 _ 0 (hopened i₁)
  refine hfinal.bind ?_ (fun _ _ _ _ ha ↦ by cases ha) (fun _ _ _ ha ↦ by cases ha)
  intro s₁ h₁ addr hs₁
  obtain ⟨tried, hs₁⟩ := hs₁ addr rfl
  intro i₂
  by_cases hclaimed : s₁.claimed addr = true
  · refine ⟨_, s₁, by simp only [exec, respond, State.claim, hclaimed, if_true]; rfl, ?_⟩
    intro ha
    cases ha
  · refine ⟨.ok (), _, by simp only [exec, respond, State.claim, hclaimed]; rfl, ?_⟩
    intro i₃
    exact ⟨_, _, rfl, fun _ ↦ ⟨tried, hs₁.congr ⟨hs₁.linked.transport, hs₁.linked.keyed⟩ rfl rfl
      rfl rfl⟩⟩

end

structure StartsInStep (tunnel : Tunnel) (before : State) (l : Ledger) : Prop where
  outgoing : before.sequenceCounter = 0 ∨ 256 ≤ before.sequenceCounter.toNat + 3 * l.tried
  incoming : before.expectedSequenceNumber =
    UInt8.ofNat (if tunnel.sendAcks then l.arrived else 0)

theorem Counted.inStep_iff {before : State} {channelId : UInt8} {tried : ℕ}
    (hs : Counted tunnel channelId before.sequenceCounter before.expectedSequenceNumber (3 * tried)
      (3 * tried) tried s h) :
    InStep s h ↔ StartsInStep tunnel before (ledger s.channelId h) := by
  rw [hs.channel]
  constructor
  · rintro ⟨hout, hin⟩
    rw [hs.channel] at hout hin
    rw [hs.outgoing, hs.expects] at hout
    rw [hs.incoming, hs.acknowledged] at hin
    refine ⟨?_, hin⟩
    rw [hs.tried]
    exact counter_eq_expectedAfter_iff.mp hout
  · rintro ⟨hout, hin⟩
    rw [hs.tried] at hout
    refine ⟨?_, ?_⟩
    · rw [hs.channel, hs.outgoing, hs.expects]
      exact counter_eq_expectedAfter_iff.mpr hout
    · rw [hs.channel, hs.incoming, hs.acknowledged]
      exact hin

def Command.keepsLink : Command → Bool
  | .nextSequence | .storeExpected _ | .installSession _ => false
  | _ => true

structure Unmoved (s s' : State) : Prop where
  outgoing : s'.sequenceCounter = s.sequenceCounter
  incoming : s'.expectedSequenceNumber = s.expectedSequenceNumber
  linked : Linked s → Linked s'

theorem Unmoved.refl (s : State) : Unmoved s s := ⟨rfl, rfl, id⟩

theorem Unmoved.trans {s₁ s₂ s₃ : State} (h₁ : Unmoved s₁ s₂) (h₂ : Unmoved s₂ s₃) :
    Unmoved s₁ s₃ :=
  ⟨h₂.outgoing.trans h₁.outgoing, h₂.incoming.trans h₁.incoming, h₂.linked ∘ h₁.linked⟩

theorem unmoved_exec {c : Command} {i : Env} {s' : State} {r : c.Response}
    (hc : c.keepsLink = true) (he : exec P tunnel c i s = some (r, s')) : Unmoved s s' := by
  have hs : s' = (respond P tunnel c i s).2 := (congrArg Prod.snd (Option.some.inj he)).symm
  subst hs
  cases c
  case claim addr =>
    simp only [respond, State.claim]
    split <;> exact ⟨rfl, rfl, fun hl ↦ ⟨hl.transport, hl.keyed⟩⟩
  case releaseAddress =>
    simp only [respond, State.releaseAddress]
    split <;> exact ⟨rfl, rfl, fun hl ↦ ⟨hl.transport, hl.keyed⟩⟩
  case encryptFrame frame =>
    simp only [respond, State.withSession]
    split
    · rename_i session hsession
      refine ⟨rfl, rfl, fun hl ↦ hl.withSession ?_⟩
      rw [SecureSession.encryptFrame_eq P frame (hl.keyed session hsession)]
      exact hl.keyed session hsession
    · exact .refl s
  case decryptFrame frame =>
    simp only [respond, State.withSession]
    split
    · rename_i session hsession
      refine ⟨rfl, rfl, fun hl ↦ hl.withSession ?_⟩
      rw [sessionKey_decryptFrame]
      exact hl.keyed session hsession
    · exact .refl s
  case establishTransport =>
    simp only [respond]
    split
    · exact ⟨rfl, rfl, fun hl ↦ ⟨rfl, hl.keyed⟩⟩
    · exact .refl s
  case recordFailure | enqueueIncoming | control =>
    simp only [respond]
    split <;> exact ⟨rfl, rfl, fun hl ↦ ⟨hl.transport, hl.keyed⟩⟩
  case nextSequence | storeExpected | installSession => cases hc
  all_goals exact ⟨rfl, rfl, fun hl ↦ ⟨hl.transport, hl.keyed⟩⟩

theorem ensures_unmoved {α : Type} {p : Handler α} (hp : p.Follows fun _ c ↦ c.keepsLink = true)
    (s : State) (h : Past) : p.Ensures (exec P tunnel) (fun s' _ _ ↦ Unmoved s s') s h :=
  Ensures.carry (A := fun s' _ ↦ Unmoved s s') (hp [])
    (fun _ _ _ _ _ _ ha hc he ↦ ha.trans (unmoved_exec hc he)) (.refl s)

def Command.isTraffic : Command → Bool
  | .transport .. | .write .. | .read | .readWithin .. | .encryptFrame .. | .decryptFrame ..
  | .recordSent | .recordReceived | .recordSendError .. | .recordReceiveError .. | .isAvailable ..
  | .channelId => true
  | _ => false

theorem Command.keepsLink_of_isTraffic {c : Command} (hc : c.isTraffic = true) :
    c.keepsLink = true := by
  cases c
  case nextSequence | storeExpected | installSession => cases hc
  all_goals rfl

theorem follows_awaitDisconnectResponse {rule : Past → Command → Prop}
    (hread : ∀ h, rule h (.readWithin 1000)) (frames : ℕ) :
    (awaitDisconnectResponse frames).Follows rule := by
  induction frames with
  | zero => exact .done _
  | succ frames ih =>
    refine .bind (.perform hread) fun raw ↦ ?_
    match raw with
    | none => exact .done _
    | some (.error e) => exact .done _
    | some (.ok data) =>
      dsimp only
      split
      · exact .done _
      · exact ih
      · split
        · split
          · exact .done _
          · exact .done _
          · split <;> exact .done _
        · exact ih

theorem Command.isTraffic_of_isReading (c : Command) (hc : c.isReading = true) (_ : Past) :
    c.isTraffic = true := by
  cases c <;> first | rfl | cases hc

theorem follows_traffic_sendFrame (frame : List UInt8) :
    (sendFrame frame).Follows fun _ c ↦ c.isTraffic = true :=
  follows_sendFrame (fun _ ↦ rfl) (fun _ ↦ rfl) (fun _ _ _ _ ↦ rfl) (fun _ ↦ rfl) fun _ _ ↦ rfl

theorem follows_traffic_recvFrameWithin (timeoutMs : ℕ) :
    (recvFrameWithin timeoutMs).Follows fun _ c ↦ c.isTraffic = true :=
  follows_recvFrameWithin Command.isTraffic_of_isReading timeoutMs

theorem follows_traffic_connectRequest :
    (connectRequest tunnel).Follows fun _ c ↦ c.isTraffic = true :=
  follows_connectRequest (fun _ _ ↦ rfl) tunnel

theorem follows_keepsLink_secureHandshake (security : SecurityConfig) :
    (secureHandshake tunnel P security).Follows fun _ c ↦ c.keepsLink = true := by
  have hrecv : (recvHandshake tunnel).Follows fun _ c ↦ c.keepsLink = true := by
    refine .bind (.perform fun _ ↦ rfl) fun raw ↦ ?_
    rcases raw with _ | _ | _ <;> exact .done _
  have hstatus (session : SecureSession) :
      (awaitSessionStatus tunnel session).Follows fun _ c ↦ c.keepsLink = true :=
    .bind hrecv fun _ ↦ .bind (.done _) fun _ ↦ .bind (.done _) fun _ ↦ .done _
  refine .bind (.perform fun _ ↦ rfl) fun _ ↦ .bind (.done _) fun _ ↦
    .bind (.perform fun _ ↦ rfl) fun _ ↦ .bind (.perform fun _ ↦ rfl) fun _ ↦
    .bind (.done _) fun _ ↦ .bind hrecv fun _ ↦ .bind (.done _) fun _ ↦ .bind (.done _) fun _ ↦
    .bind (.perform fun _ ↦ rfl) fun _ ↦ .bind (.done _) fun _ ↦ hstatus _

theorem attains_sendFrame (frame : List UInt8) :
    (sendFrame frame).Attains (exec P tunnel) (fun s' _ r ↦ ∀ a, r = .ok a → Linked s') s h := by
  by_cases hlinked : Linked s
  · exact (attains_sendFrame_linked hlinked frame h).mono fun _ _ _ ha _ _ ↦ ha.1
  have hsent : (do
      if ← Client.perform (.transport .sendFrame) then do
        let data ← encode frame
        .done (← Client.perform (.write data))
      else .done (.err connectionClosed) : Handler Unit).Attains (exec P tunnel)
      (fun _ _ r ↦ ∃ e, r = .err e) s h := by
    intro i₁
    refine ⟨_, s, rfl, ?_⟩
    cases htransport : s.transport with
    | false => exact ⟨_, rfl⟩
    | true =>
      -- Without its key the session cannot encrypt the frame.
      have hkey : ∃ session, s.secureSession = some session ∧
          session.sessionKey.initialized = false := by
        by_contra hkey
        refine hlinked ⟨htransport, fun session hsession ↦ ?_⟩
        by_contra hinit
        exact hkey ⟨session, hsession, eq_false_of_ne_true hinit⟩
      obtain ⟨session, hsession, hinit⟩ := hkey
      intro i₂
      refine ⟨_, _, by simp only [exec, respond, State.withSession, hsession]; rfl, ?_⟩
      simp only [SecureSession.encryptFrame, hinit]
      exact ⟨_, rfl⟩
  refine (hsent.attempt (T := fun _ _ r ↦ ∃ e, r = .ok (.error e)) (by simp) (by simp)
    (by simp)).bind_ok ?_
  rintro s₁ h₁ result ⟨e, ⟨⟩⟩ i₂
  refine ⟨_, _, rfl, fun a ha ↦ ?_⟩
  cases ha

theorem attains_unmoved {α : Type} {p : Handler α} (hp : p.Follows fun _ c ↦ c.keepsLink = true)
    (s : State) (h : Past) : p.Attains (exec P tunnel) (fun s' _ _ ↦ Unmoved s s') s h :=
  (ensures_unmoved hp s h).attains fun _ _ _ ↦ rfl

theorem attains_sendConnectRequest :
    (sendConnectRequest tunnel).Attains (exec P tunnel) (fun s' _ r ↦
      Unmoved s s' ∧ ∀ a, r = .ok a → Linked s') s h := by
  have hkeeps (_ : Past) (c : Command) (hc : c.isTraffic = true) :
      c.keepsLink = true := Command.keepsLink_of_isTraffic hc
  refine (attains_unmoved (follows_traffic_connectRequest.imp hkeeps) s h).bind ?_
    (fun _ _ _ hs₁ ↦ ⟨hs₁, by simp⟩) (fun _ _ hs₁ ↦ ⟨hs₁, by simp⟩)
  intro s₁ h₁ request hs₁
  refine ((attains_sendFrame _).and (ensures_unmoved ((follows_traffic_sendFrame _).imp hkeeps) s₁ h₁)).bind
    ?_ (fun _ _ _ hs₂ ↦ ⟨hs₁.trans hs₂.2, by simp⟩) (fun _ _ hs₂ ↦ ⟨hs₁.trans hs₂.2, by simp⟩)
  rintro s₂ h₂ _ ⟨hlinked, hs₂⟩
  have hs₂ := hs₁.trans hs₂
  refine (attains_unmoved ((follows_traffic_recvFrameWithin _).imp hkeeps) s₂ h₂).bind ?_
    (fun _ _ _ hs₃ ↦ ⟨hs₂.trans hs₃, by simp⟩) (fun _ _ hs₃ ↦ ⟨hs₂.trans hs₃, by simp⟩)
  intro s₃ h₃ response hs₃
  cases response <;> exact ⟨hs₂.trans hs₃, fun _ _ ↦ hs₃.linked (hlinked () rfl)⟩

variable (tunnel) in
/-- The call returns `Ok` only with a channel whose counters start where those of the
tunnel were before. -/
def Opens (before s : State) (h : History Command Command.Response) (r : Result Unit) : Prop :=
  r = .ok () → ∃ channelId tried, Counted tunnel channelId before.sequenceCounter
    before.expectedSequenceNumber (3 * tried) (3 * tried) tried s h

theorem attains_openTunnel {before : State} (frames : ℕ)
    {request : Handler (UInt8 × Option IndividualAddress)}
    (hrequest : request.Attains (exec P tunnel) (fun s' _ r ↦
      s'.sequenceCounter = before.sequenceCounter ∧
      s'.expectedSequenceNumber = before.expectedSequenceNumber ∧
      ∀ a, r = .ok a → Linked s') s h) :
    (do openTunnel tunnel frames (← Task.attempt request)).Attains (exec P tunnel)
      (Opens tunnel before) s h := by
  refine (hrequest.attempt (T := fun s' _ r ↦ s'.sequenceCounter = before.sequenceCounter ∧
    s'.expectedSequenceNumber = before.expectedSequenceNumber ∧
    ∀ a, r = .ok (.ok a) → Linked s') ?_ ?_ ?_).bind ?_ ?_ ?_
  · rintro s' h' a ⟨hout, hin, ha⟩
    exact ⟨hout, hin, fun _ _ ↦ ha a rfl⟩
  · rintro s' h' e ⟨hout, hin, -⟩
    exact ⟨hout, hin, by simp⟩
  · rintro s' h' ⟨hout, hin, -⟩
    exact ⟨hout, hin, by simp⟩
  · rintro s₁ h₁ result ⟨hout, hin, hlinked⟩
    cases result with
    | ok a =>
      refine (attains_finishConnect frames a.1 a.2 (hlinked a rfl)).mono fun s' h' r hr hok ↦ ?_
      obtain ⟨tried, hcounted⟩ := hr hok
      rw [hout, hin] at hcounted
      exact ⟨a.1, tried, hcounted⟩
    | error e =>
      intro i₁
      refine ⟨_, _, rfl, ?_⟩
      intro i₂
      refine ⟨_, _, rfl, fun hok ↦ ?_⟩
      cases hok
  · intro s' h' e _ hok
    cases hok
  · intro s' h' _ hok
    cases hok

theorem attains_connect (frames : ℕ) :
    (connect tunnel frames).Attains (exec P tunnel) (Opens tunnel s) s h := by
  intro i₁
  refine ⟨_, _, rfl, ?_⟩
  refine attains_openTunnel frames ?_
  intro i₂
  cases he : i₂.establishError with
  | some e =>
    refine ⟨.err e, _, by simp only [exec, respond, he]; rfl, ?_⟩
    exact ⟨rfl, rfl, by simp⟩
  | none =>
    refine ⟨.ok (), _, by simp only [exec, respond, he]; rfl, ?_⟩
    exact attains_sendConnectRequest.mono fun s' h' r ha ↦ ⟨ha.1.outgoing, ha.1.incoming, ha.2⟩

theorem attains_connectSecure (security : SecurityConfig) (frames : ℕ) :
    (connectSecure tunnel P security frames).Attains (exec P tunnel) (Opens tunnel s) s h := by
  refine (attains_unmoved (follows_keepsLink_secureHandshake security) s h).bind ?_
    (fun _ _ _ _ hok ↦ by cases hok) (fun _ _ _ hok ↦ by cases hok)
  intro s₁ h₁ session hs₁ i₁
  refine ⟨_, _, rfl, ?_⟩
  intro i₂
  refine ⟨_, _, rfl, attains_openTunnel frames ?_⟩
  refine attains_sendConnectRequest.mono fun s' h' r ha ↦ ⟨?_, ?_, ha.2⟩
  · exact ha.1.outgoing.trans hs₁.outgoing
  · exact ha.1.incoming.trans hs₁.incoming

inductive Connect
  | plain
  | secure (security : SecurityConfig)

variable (P tunnel) in
def Connect.call (frames : ℕ) : Connect → Handler Unit
  | .plain => connect tunnel frames
  | .secure security => connectSecure tunnel P security frames

/-- Neither `connect` nor `disconnect` resets the counters, and the probe does not count
what it acknowledges. So a new channel is in step only if the counters happened to
be right before. -/
theorem inStep_iff_startsInStep (P : Primitives) (tunnel : Tunnel) (how : Connect) (frames : ℕ)
    (inputs : ℕ → Env) (s : State) :
    ∃ e, (how.call P tunnel frames).runAlone (exec P tunnel) inputs s [] = some e ∧
      (e.outcome = .ok () → (InStep e.state e.history ↔
        StartsInStep tunnel s (ledger e.state.channelId e.history))) := by
  have hopens : (how.call P tunnel frames).Attains (exec P tunnel) (Opens tunnel s) s [] := by
    cases how with
    | plain => exact attains_connect frames
    | secure security => exact attains_connectSecure security frames
  obtain ⟨e, he, hopen⟩ := hopens.exists_runAlone inputs
  refine ⟨e, he, fun hok ↦ ?_⟩
  obtain ⟨channelId, tried, hcounted⟩ := hopen hok
  exact hcounted.inStep_iff

end

instance (s : State) (h : History Command Command.Response) : Decidable (InStep s h) :=
  decidable_of_iff (s.sequenceCounter = (ledger s.channelId h).expects ∧
    s.expectedSequenceNumber = UInt8.ofNat (ledger s.channelId h).acknowledged)
    ⟨fun hs ↦ ⟨hs.1, hs.2⟩, fun hs ↦ ⟨hs.outgoing, hs.incoming⟩⟩

namespace Reference

def managed : Tunnel := { tunnel with addressManaged := true }

def accepting (_ : ℕ) : Env :=
  { frame := .ok (KnxIpFrame.new .connectResponse ([1, 0] ++ Hpai.routeBack.serialize)).serialize }

def reconnect : Handler Unit := do
  connect managed 0
  disconnect managed 0
  connect managed 0

end Reference

section

open Security.Reference (primitives)

/-- The first channel of a new tunnel is in step, if the gateway sends nothing while an
address is looked for. -/
theorem inStep_first_connect :
    ∃ e, (connect Reference.managed 0).runAlone (exec primitives Reference.managed)
      Reference.accepting .built [] = some e ∧ e.outcome = .ok () ∧ InStep e.state e.history := by
  obtain ⟨e, he, hiff⟩ := inStep_iff_startsInStep primitives Reference.managed .plain 0
    Reference.accepting .built
  have hrun : ((connect Reference.managed 0).runAlone (exec primitives Reference.managed)
      Reference.accepting .built []).map (fun e ↦ (e.outcome,
        (ledger e.state.channelId e.history).arrived)) = some (.ok (), 0) := by decide +kernel
  replace he : (connect Reference.managed 0).runAlone (exec primitives Reference.managed)
      Reference.accepting .built [] = some e := he
  rw [he, Option.map_some, Option.some.injEq, Prod.mk.injEq] at hrun
  refine ⟨e, he, hrun.1, (hiff hrun.1).mpr ⟨.inl rfl, ?_⟩⟩
  rw [hrun.2]
  rfl

/-- The second channel is not: the tunnel goes on counting where the first one ended, and
the gateway refuses its requests. -/
theorem not_inStep_after_reconnect :
    ∃ e, Reference.reconnect.runAlone (exec primitives Reference.managed) Reference.accepting
      .built [] = some e ∧ e.outcome = .ok () ∧ e.state.sequenceCounter = 6 ∧
        (ledger e.state.channelId e.history).expects = 0 ∧ ¬ InStep e.state e.history := by
  have hrun : (Reference.reconnect.runAlone (exec primitives Reference.managed)
      Reference.accepting .built []).map (fun e ↦ (e.outcome, e.state.sequenceCounter,
        (ledger e.state.channelId e.history).expects, decide (InStep e.state e.history))) =
      some (.ok (), 6, 0, false) := by decide +kernel
  obtain ⟨e, he, hrun⟩ := Option.map_eq_some_iff.mp hrun
  simp only [Prod.mk.injEq, decide_eq_false_iff_not] at hrun
  exact ⟨e, he, hrun⟩

end

end Knust.Transport.Client
