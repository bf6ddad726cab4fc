import Knust.Application.Tasks
import Knust.Foundation.Sequential
import Knust.Transport.Routing

namespace Knust.Application.Routing

open Foundation Foundation.Task Protocol Transport Transport.Routing

def enqueueCemi (cemiData : List UInt8) : Handler Unit := do
  let timestamp ← Routing.perform .now
  let telegram ← .done (parseCemiToTelegram timestamp cemiData)
  Routing.perform (.enqueueIncoming telegram)

/-- Without a tunnel there is no counter to check and nobody to acknowledge to. -/
def handleTunnellingRequest (body : List UInt8) : Handler Unit := do
  let request ← .done (TunnellingRequest.parse body)
  enqueueCemi request.rawCemi

def handleDisconnectRequest (body : List UInt8) (currentChannelId : Option UInt8) :
    Handler Unit := do
  if body.length < 10 then pure ()
  else do
    let request ← .done (DisconnectRequest.parse body)
    let channelId := request.communicationChannelId
    if currentChannelId.all (· = channelId) then do
      Routing.perform (.control (.sendDisconnectResponse channelId))
      Routing.perform (.control (.tunnelLost channelId "DisconnectRequest received from server"))
    else pure ()

def handleIncomingFrame (data : List UInt8) (currentChannelId : Option UInt8) :
    Handler Bool := do
  let frame ← .done (KnxIpFrame.parse data)
  match frame.header.serviceType with
  | .tunnellingRequest => do
    handleTunnellingRequest frame.body
    pure true
  | .routingIndication => do
    enqueueCemi frame.body
    pure true
  | .disconnectRequest => do
    handleDisconnectRequest frame.body currentChannelId
    pure true
  | .disconnectResponse => do
    .done (handleDisconnectResponse frame.body)
    pure true
  | .connectionstateRequest => do
    .done (handleConnectionstateRequest frame.body)
    pure true
  | .connectionstateResponse => do
    .done (handleConnectionstateResponse frame.body)
    pure true
  | .connectRequest | .connectResponse => pure true
  | _ => pure false

def receivingTask : ℕ → Handler Unit
  | 0 => pure ()
  | rounds + 1 => do
    if ← Routing.perform .isShutdown then Routing.perform .closeQueue
    else match ← Task.attempt (recvWithin 100) with
      | .error _ => Routing.perform .closeQueue
      | .ok none => do
        if ← Routing.perform .isShutdown then Routing.perform .closeQueue
        else receivingTask rounds
      | .ok (some data) => do
        if ← Routing.perform (.allocate data.length) then do
          let currentChannelId ← Routing.perform .knxChannelId
          let _ ← Task.attempt (handleIncomingFrame data currentChannelId)
          receivingTask rounds
        else receivingTask rounds

def sendTelegram (telegram : Telegram) : Handler Unit :=
  send (buildOutgoingFrameForConnection telegram .routing)

def sendingTask : ℕ → Handler Unit
  | 0 => pure ()
  | telegrams + 1 => do
    if ← Routing.perform .isDrained then pure ()
    else match ← Routing.perform .dequeueOutgoing with
      | none => pure ()
      | some telegram => do
        let _ ← Task.attempt (sendTelegram telegram)
        sendingTask telegrams

def delivering (datagram : List UInt8) : Machine Command Command.Response State Env :=
  fun c i s ↦ exec c { i with datagram := .ok datagram } s

def sentDatagrams : History Command Command.Response → List (List UInt8)
  | [] => []
  | ⟨.sendTo datagram, _⟩ :: h => sentDatagrams h ++ [datagram]
  | _ :: h => sentDatagrams h

def deliveredTelegrams : History Command Command.Response → List Telegram
  | [] => []
  | ⟨.enqueueIncoming telegram, _⟩ :: h => deliveredTelegrams h ++ [telegram]
  | _ :: h => deliveredTelegrams h

/-- One RoutingIndication was sent, with the cEMI bytes of the telegram. -/
def SendsCemi (telegram : Telegram) (h : History Command Command.Response) : Prop :=
  ∃ datagram frame, sentDatagrams h = [datagram] ∧ KnxIpFrame.parse datagram = .ok frame ∧
    frame.header.serviceType = .routingIndication ∧
    frame.body = (outgoingCemi telegram .lDataReq).serialize

/-- The telegram that the cEMI bytes encode was delivered, and no other. -/
def DeliversCemi (cemiData : List UInt8) (h : History Command Command.Response) : Prop :=
  ∃ timestamp telegram, parseCemiToTelegram timestamp cemiData = .ok telegram ∧
    deliveredTelegrams h = [telegram]

theorem first_of_cemi {cemiData : List UInt8} {cemi : CemiFrame}
    (hcemi : CemiFrame.parse cemiData = .ok cemi) : cemiData.head? ≠ some 6 := by
  rcases cemiData with _ | ⟨code, rest⟩
  · simp
  rintro ⟨⟩
  rw [CemiFrame.parse, if_neg (by simp)] at hcemi
  split at hcemi
  · simp [parseError] at hcemi
  · obtain ⟨code, hcode, hcemi⟩ := Outcome.bind_eq_ok.mp hcemi
    cases hcode
    obtain ⟨messageCode, hmessage, -⟩ := Outcome.bind_eq_ok.mp hcemi
    cases hmessage

theorem parse_of_cemi {cemiData : List UInt8} {cemi : CemiFrame}
    (hcemi : CemiFrame.parse cemiData = .ok cemi) : ∃ e, KnxIpFrame.parse cemiData = .err e := by
  unfold KnxIpFrame.parse
  cases hheader : KnxIpHeader.parse cemiData with
  | ok header =>
    obtain ⟨hlength, -, rest, rfl⟩ := KnxIpHeader.parse_eq_ok_iff.mp hheader
    refine absurd ?_ (first_of_cemi hcemi)
    simp [KnxIpHeader.serialize, hlength]
  | err e => exact ⟨e, rfl⟩
  | panic => exact absurd hheader (KnxIpHeader.parse_ne_panic _)

theorem parseRoutingFrame_take {datagram : List UInt8} {frame frame' : KnxIpFrame}
    (hframe : KnxIpFrame.parse datagram = .ok frame) {n : ℕ}
    (hframe' : parseRoutingFrame (datagram.take n) = .ok frame') : frame' = frame := by
  unfold parseRoutingFrame at hframe'
  split at hframe'
  · rename_i f hf
    cases hframe'
    have hwhole := KnxIpFrame.parse_append hf (datagram.drop n)
    rw [List.take_append_drop, hframe] at hwhole
    exact (Outcome.ok.inj hwhole).symm
  · cases hframe'
  · cases hframe'

theorem handleIncomingFrame_cemi {cemiData : List UInt8} {cemi : CemiFrame}
    (hcemi : CemiFrame.parse cemiData = .ok cemi) (currentChannelId : Option UInt8) :
    ∃ e, handleIncomingFrame cemiData currentChannelId = .done (.err e) := by
  obtain ⟨e, he⟩ := parse_of_cemi hcemi
  exact ⟨e, by rw [handleIncomingFrame, he]; rfl⟩

variable {s : State} {h : Past}

theorem attains_recvWithin {datagram : List UInt8} {frame : KnxIpFrame}
    (hframe : KnxIpFrame.parse datagram = .ok frame)
    (htype : frame.header.serviceType = .routingIndication) (timeoutMs : ℕ) :
    (recvWithin timeoutMs).Attains (delivering datagram) (fun _ h' r ↦
      deliveredTelegrams h' = deliveredTelegrams h ∧
        ∀ data, r = .ok (some data) → data = frame.body) s h := by
  intro i₁
  refine ⟨_, s, rfl, ?_⟩
  by_cases hc : s.state = .connected
  swap
  · simp only [hc, decide_false]
    exact ⟨rfl, by simp⟩
  simp only [hc, decide_true]
  intro i₂
  cases helapsed : i₂.elapsed with
  | true =>
    refine ⟨none, s, by simp [delivering, exec, respond, helapsed], ?_⟩
    exact ⟨rfl, by simp⟩
  | false =>
    refine ⟨some (.ok (datagram.take bufferSize)), s,
      by simp [delivering, exec, respond, helapsed, Except.map], ?_⟩
    show Attains _ _ _ _ (processRoutingMessage timeoutMs (datagram.take bufferSize) >>= _)
    rw [processRoutingMessage]
    cases hread : parseRoutingFrame (datagram.take bufferSize) with
    | err e => exact ⟨rfl, by simp⟩
    | panic => exact ⟨rfl, by simp⟩
    | ok frame' =>
      obtain rfl := parseRoutingFrame_take hframe hread
      simp only [Task.ok_bind, htype]
      show Attains _ _ _ _ (ite _ _ _)
      split
      · exact ⟨rfl, by simp⟩
      · intro i₃
        exact ⟨_, _, rfl, rfl, by simp⟩

theorem attains_round {datagram : List UInt8} {frame : KnxIpFrame}
    (hframe : KnxIpFrame.parse datagram = .ok frame)
    (htype : frame.header.serviceType = .routingIndication) {cemi : CemiFrame}
    (hcemi : CemiFrame.parse frame.body = .ok cemi) :
    (receivingTask 1).Attains (delivering datagram) (fun _ h' _ ↦
      deliveredTelegrams h' = []) s [] := by
  intro i₁
  refine ⟨_, s, rfl, ?_⟩
  cases i₁.shutdown with
  | true =>
    intro i₂
    exact ⟨_, _, rfl, rfl⟩
  | false =>
    refine ((attains_recvWithin hframe htype 100).attempt (T := fun _ h' r ↦
      deliveredTelegrams h' = [] ∧ ∀ data, r = .ok (.ok (some data)) → data = frame.body)
      ?_ ?_ ?_).bind ?_ ?_ ?_
    · intro s₁ h₁ a ha
      refine ⟨ha.1, fun data hdata ↦ ha.2 data ?_⟩
      cases hdata
      rfl
    · exact fun s₁ h₁ e ha ↦ ⟨ha.1, by simp⟩
    · exact fun s₁ h₁ ha ↦ ⟨ha.1, by simp⟩
    · intro s₁ h₁ result ha
      rcases result with e | _ | data
      · intro i₂
        exact ⟨_, _, rfl, ha.1⟩
      · intro i₂
        refine ⟨_, s₁, rfl, ?_⟩
        cases i₂.shutdown with
        | true =>
          intro i₃
          exact ⟨_, _, rfl, ha.1⟩
        | false => exact ha.1
      · obtain rfl := ha.2 data rfl
        intro i₂
        refine ⟨_, s₁, rfl, ?_⟩
        cases i₂.allocates with
        | false => exact ha.1
        | true =>
          intro i₃
          refine ⟨_, s₁, rfl, ?_⟩
          obtain ⟨e, he⟩ := handleIncomingFrame_cemi hcemi s₁.knxChannelId
          show Attains _ _ _ _ (Task.attempt (handleIncomingFrame frame.body s₁.knxChannelId) >>= _)
          rw [he]
          exact ha.1
    · exact fun s₁ h₁ e ha ↦ ha.1
    · exact fun s₁ h₁ ha ↦ ha.1

theorem attains_sendTelegram (telegram : Telegram) :
    (sendTelegram telegram).Attains exec (fun _ h' _ ↦ sentDatagrams h' = [] ∨
      sentDatagrams h' = [(KnxIpFrame.new .routingIndication
        (buildOutgoingFrameForConnection telegram .routing)).serialize]) s [] := by
  intro i₁
  refine ⟨_, s, rfl, ?_⟩
  by_cases hc : s.state = .connected
  swap
  · simp only [hc, decide_false]
    exact .inl rfl
  simp only [hc, decide_true]
  intro i₂
  cases he : i₂.ioError with
  | none =>
    refine ⟨.ok (), s, by simp [exec, respond, he], ?_⟩
    intro i₃
    exact ⟨_, _, rfl, .inr rfl⟩
  | some e =>
    refine ⟨.error e, s, by simp [exec, respond, he], ?_⟩
    intro i₃
    exact ⟨_, _, rfl, .inr rfl⟩

theorem not_sendsCemi {telegram : Telegram} (hsent : sentDatagrams h = [] ∨
    sentDatagrams h = [(KnxIpFrame.new .routingIndication
      (buildOutgoingFrameForConnection telegram .routing)).serialize]) :
    ¬ SendsCemi telegram h := by
  rintro ⟨datagram, frame, hd, hparse, -, hbody⟩
  rcases hsent with hsent | hsent
  · rw [hsent] at hd
    cases hd
  · obtain rfl : _ = datagram := List.singleton_injective (hsent.symm.trans hd)
    obtain ⟨rest, hrest⟩ := KnxIpFrame.body_of_parse hparse
    rw [KnxIpFrame.serialize, List.drop_left' (KnxIpHeader.serialize_length _), hbody] at hrest
    -- The inner frame starts with the length of its header, cEMI data with a code.
    have hfirst := congrArg List.head? hrest
    simp [buildOutgoingFrameForConnection, KnxIpFrame.new, KnxIpFrame.serialize,
      KnxIpHeader.serialize, KnxIpHeader.new, CemiFrame.serialize, outgoingCemi, CemiFrame.new,
      MessageCode.toU8] at hfirst

/-- Neither direction of a routing instance speaks KNX/IP: no telegram leaves as the body
of its datagram, and no datagram with a telegram as its body is delivered. -/
theorem routing_never_transparent (telegram : Telegram) (datagram : List UInt8)
    (frame : KnxIpFrame) (cemi : CemiFrame) (inputs : ℕ → Env) (s : State) :
    (∃ e, (sendTelegram telegram).runAlone exec inputs s [] = some e ∧
      ¬ SendsCemi telegram e.history) ∧
    (KnxIpFrame.parse datagram = .ok frame →
      frame.header.serviceType = .routingIndication → CemiFrame.parse frame.body = .ok cemi →
      ∃ e, (receivingTask 1).runAlone (delivering datagram) inputs s [] = some e ∧
        ¬ DeliversCemi frame.body e.history) := by
  refine ⟨?_, fun hframe htype hcemi ↦ ?_⟩
  · obtain ⟨e, he, hsent⟩ := (attains_sendTelegram telegram).exists_runAlone inputs
    exact ⟨e, he, not_sendsCemi hsent⟩
  · obtain ⟨e, he, hnone⟩ := (attains_round hframe htype hcemi).exists_runAlone inputs
    refine ⟨e, he, ?_⟩
    rintro ⟨timestamp, telegram, -, hdelivered⟩
    rw [hnone] at hdelivered
    cases hdelivered

namespace Reference

def temperature : Telegram := .groupWrite 0 .temperature [0x0C, 0x65]

def indication : KnxIpFrame := .new .routingIndication (outgoingCemi temperature .lDataInd).serialize

theorem parse_indication : KnxIpFrame.parse indication.serialize = .ok indication :=
  KnxIpFrame.parse_serialize_new .routingIndication (by decide)

theorem exists_cemi : ∃ cemi, CemiFrame.parse indication.body = .ok cemi :=
  Outcome.isOk_iff.mp (by decide +kernel)

end Reference

theorem indication_not_delivered :
    ∃ e, (receivingTask 1).runAlone (delivering Reference.indication.serialize) (fun _ ↦ {}) .new []
      = some e ∧ ¬ DeliversCemi Reference.indication.body e.history := by
  obtain ⟨cemi, hcemi⟩ := Reference.exists_cemi
  exact (routing_never_transparent Reference.temperature _ _ cemi _ _).2
    Reference.parse_indication rfl hcemi

/-- A write of a temperature leaves as a RoutingIndication in a RoutingIndication, and
the same write from a router is not delivered. -/
theorem temperature_lost_in_routing :
    (∃ e, (sendTelegram Reference.temperature).runAlone exec (fun _ ↦ {}) .new [] = some e ∧
      ¬ SendsCemi Reference.temperature e.history) ∧
    ∃ e, (receivingTask 1).runAlone (delivering Reference.indication.serialize) (fun _ ↦ {}) .new []
      = some e ∧ e.outcome = .ok () ∧ ¬ DeliversCemi Reference.indication.body e.history := by
  constructor
  · exact ⟨_, rfl, not_sendsCemi (.inr rfl)⟩
  · have hrun : ((receivingTask 1).runAlone (delivering Reference.indication.serialize)
        (fun _ ↦ {}) .new []).map (fun e ↦ (e.outcome, deliveredTelegrams e.history)) =
        some (.ok (), []) := by decide +kernel
    obtain ⟨e, he, hrun⟩ := Option.map_eq_some_iff.mp hrun
    obtain ⟨houtcome, hnone⟩ := Prod.mk.inj hrun
    refine ⟨e, he, houtcome, ?_⟩
    rintro ⟨timestamp, telegram, -, hdelivered⟩
    rw [hnone] at hdelivered
    cases hdelivered

end Knust.Application.Routing
