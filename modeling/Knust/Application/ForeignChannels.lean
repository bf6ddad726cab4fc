import Knust.Application.Tasks
import Knust.Transport.Probing

namespace Knust.Application.ForeignChannels

open Foundation Foundation.Task Protocol Security Transport Transport.Client

def disconnectRequestOf (frame : List UInt8) : Option DisconnectRequest :=
  match KnxIpFrame.parse frame with
  | .ok f =>
    if f.header.serviceType = .disconnectRequest then
      match DisconnectRequest.parse f.body with
      | .ok request => some request
      | _ => none
    else none
  | _ => none

def disconnectResponseOf (frame : List UInt8) : Option DisconnectResponse :=
  match KnxIpFrame.parse frame with
  | .ok f =>
    if f.header.serviceType = .disconnectResponse then
      match DisconnectResponse.parse f.body with
      | .ok response => some response
      | _ => none
    else none
  | _ => none

def Foreign (channelId : UInt8) (frame : List UInt8) : Prop :=
  (∃ request, requestOf frame = some request ∧ request.communicationChannelId ≠ channelId) ∨
    ∃ request, disconnectRequestOf frame = some request ∧
      request.communicationChannelId ≠ channelId

def latest (h : History Command Command.Response) : Option (List UInt8) := (heard h).head?

/-- A request is accepted, a disconnect is announced, or an acknowledgement says that
everything is well. -/
def Acts (h : History Command Command.Response) : Command → Prop
  | .storeExpected _ | .enqueueIncoming _ | .control _ => True
  | .write frame => ∃ ack, ackOf (plainText frame h) = some ack ∧ ack.statusCode = TunnellingAck.statusOk
  | _ => False

/-- Nothing is done about a frame for another channel, and disconnects are answered for our
channel only. -/
structure Unaffected (channelId : UInt8) (r : Step) (earlier : List Step) : Prop where
  idle : ∀ frame, latest (history r.task earlier) = some frame → Foreign channelId frame →
    ¬ Acts (history r.task earlier) r.command
  unanswered : ∀ frame response, r.command = .write frame →
    disconnectResponseOf (plainText frame (history r.task earlier)) = some response →
    response.communicationChannelId = channelId

/-- A request for another channel has a counter that is neither expected nor a repetition,
and a disconnect for another channel comes while ours is known. -/
def Discerns (channelId : UInt8) (frame : List UInt8) (s : State) : Command → Prop
  | .loadExpected => ∀ request ∈ requestOf frame, request.communicationChannelId ≠ channelId →
      request.sequenceCounter ≠ s.expectedSequenceNumber ∧
        request.sequenceCounter ≠ s.expectedSequenceNumber - 1
  | .knxChannelId => ∀ request ∈ disconnectRequestOf frame,
      request.communicationChannelId ≠ channelId → s.knxChannelId ≠ none
  | _ => True

def Discernible (channelId : UInt8) (r : Step) (earlier : List Step) : Prop :=
  ∀ frame ∈ latest (history r.task earlier), Discerns channelId frame r.before r.command

abbrev AllDiscernible (channelId : UInt8) (trace : List Step) : Prop :=
  ∀ r earlier, r :: earlier <:+ trace → Discernible channelId r earlier

/-- A tunnel when the tasks are started for it. The channel of a TCP tunnel is not stored. -/
structure Begun (tunnel : Tunnel) (channelId : UInt8) (s : State) : Prop where
  channel : s.channelId = channelId
  stored : s.knxChannelId = match tunnel.kind with
    | .udp => some channelId
    | .tcp => none
  unannounced : s.control = []

def clientTasks (tunnel : Tunnel) (autoReconnect : Bool) (rounds telegrams events frames : ℕ) :
    List (Handler Unit) :=
  [receivingTask rounds, sendingTask telegrams, controlTask tunnel autoReconnect frames events]

def loaded : History Command Command.Response → Option UInt8
  | [] => none
  | ⟨.loadExpected, expected⟩ :: _ => some expected
  | ⟨.decryptFrame _, _⟩ :: _ => none
  | _ :: h => loaded h

def lookedUp : History Command Command.Response → Option (Option UInt8)
  | [] => none
  | ⟨.knxChannelId, current⟩ :: _ => some current
  | ⟨.decryptFrame _, _⟩ :: _ => none
  | _ :: h => lookedUp h

def Admitted (h : History Command Command.Response) : Prop :=
  ∃ frame, latest h = some frame ∧
    (requestOf frame = none ∧ disconnectRequestOf frame = none ∨
      ∃ request expected, requestOf frame = some request ∧ loaded h = some expected ∧
        (request.sequenceCounter = expected ∨ request.sequenceCounter = expected - 1))

def announcedChannel : ConnectionControlEvent → UInt8
  | .tunnelLost channelId _ => channelId
  | .sendDisconnectResponse channelId => channelId

def Announced (h : History Command Command.Response) (event : ConnectionControlEvent) : Prop :=
  ∃ frame request current, latest h = some frame ∧ disconnectRequestOf frame = some request ∧
    announcedChannel event = request.communicationChannelId ∧ lookedUp h = some current ∧
    current.all (· = request.communicationChannelId) = true

def actionRule (h : History Command Command.Response) : Command → Prop
  | .storeExpected _ | .enqueueIncoming _ => Admitted h
  | .control event => Announced h event
  | .write frame =>
    (∀ ack, ackOf (plainText frame h) = some ack → ack.statusCode = TunnellingAck.statusOk → Admitted h) ∧
      ∀ response, disconnectResponseOf (plainText frame h) = some response →
        ⟨.receiveControl, some (.sendDisconnectResponse response.communicationChannelId)⟩ ∈ h
  | _ => True

def keepsNotes : Command → Bool
  | .decryptFrame .. | .loadExpected | .knxChannelId => false
  | _ => true

structure Notes where
  frame : Option (List UInt8)
  expected : Option UInt8
  current : Option (Option UInt8)

def notes (h : History Command Command.Response) : Notes := ⟨latest h, loaded h, lookedUp h⟩

section

variable {h h' : Past} {frame : List UInt8}

theorem notes_cons {c : Command} (hc : keepsNotes c = true) (r : c.Response) :
    notes (⟨c, r⟩ :: h) = notes h := by
  cases c
  case decryptFrame | loadExpected | knxChannelId => cases hc
  all_goals rfl

theorem Admitted.of_notes (ha : Admitted h) (hnotes : notes h' = notes h) : Admitted h' := by
  obtain ⟨hlatest, hloaded, -⟩ := Notes.mk.inj hnotes
  obtain ⟨frame, hframe, hadmitted⟩ := ha
  refine ⟨frame, hlatest.trans hframe, hadmitted.imp id fun hrequest ↦ ?_⟩
  obtain ⟨request, expected, hrequest, hexpected, hcounter⟩ := hrequest
  exact ⟨request, expected, hrequest, hloaded.trans hexpected, hcounter⟩

theorem Announced.of_notes {event : ConnectionControlEvent} (ha : Announced h event)
    (hnotes : notes h' = notes h) : Announced h' event := by
  obtain ⟨hlatest, -, hlookedUp⟩ := Notes.mk.inj hnotes
  obtain ⟨frame, request, current, hframe, hrequest, hevent, hcurrent, hours⟩ := ha
  exact ⟨frame, request, current, hlatest.trans hframe, hrequest, hevent,
    hlookedUp.trans hcurrent, hours⟩

theorem ackOf_of_serviceType {s : ServiceType} (hs : s ≠ .tunnellingAck) (body : List UInt8) :
    ackOf (KnxIpFrame.new s body).serialize = none := by
  unfold ackOf
  split
  next f hf => rw [if_neg (by rwa [KnxIpFrame.serviceType_of_parse hf])]
  next => rfl

theorem disconnectResponseOf_of_serviceType {s : ServiceType} (hs : s ≠ .disconnectResponse)
    (body : List UInt8) : disconnectResponseOf (KnxIpFrame.new s body).serialize = none := by
  unfold disconnectResponseOf
  split
  next f hf => rw [if_neg (by rwa [KnxIpFrame.serviceType_of_parse hf])]
  next => rfl

theorem actionRule_write {s : ServiceType} (hack : s ≠ .tunnellingAck)
    (hresponse : s ≠ .disconnectResponse) {body data : List UInt8}
    (hplain : plainText data h = (KnxIpFrame.new s body).serialize) :
    actionRule h (.write data) := by
  constructor
  · intro ack hack'
    rw [hplain, ackOf_of_serviceType hack] at hack'
    cases hack'
  · intro response hresponse'
    rw [hplain, disconnectResponseOf_of_serviceType hresponse] at hresponse'
    cases hresponse'

theorem obeys_acknowledge (channelId sequence status : UInt8)
    (hstatus : status = TunnellingAck.statusOk → Admitted h) :
    (Client.sendTunnellingAck channelId sequence status).Obeys actionRule
      (fun h' _ ↦ notes h' = notes h) h := by
  refine ⟨trivial, fun found ↦ ?_⟩
  cases found with
  | false => rfl
  | true =>
    refine ⟨⟨?_, ?_⟩, fun _ ↦ rfl⟩
    · intro ack hack hok
      have hack : ackOf (ackFrame ⟨channelId, sequence, status⟩) = some ack := hack
      rw [ackOf_ackFrame] at hack
      obtain rfl := Option.some.inj hack
      exact (hstatus hok).of_notes rfl
    · intro response hresponse
      have hnone := disconnectResponseOf_of_serviceType (s := .tunnellingAck) (by decide)
        (TunnellingAck.serialize ⟨channelId, sequence, status⟩)
      cases hnone.symm.trans hresponse

theorem obeys_enqueueCemi (ha : Admitted h) (cemiData : List UInt8) :
    (enqueueCemi cemiData).Obeys actionRule (fun _ _ ↦ True) h := by
  refine ⟨trivial, fun timestamp ↦ ?_⟩
  apply Obeys.done_bind (r := parseCemiToTelegram timestamp cemiData)
  intro telegram _
  exact ⟨ha.of_notes rfl, fun _ ↦ trivial⟩

theorem obeys_validateSequenceNumber (hlatest : latest h = some frame)
    {request : TunnellingRequest} (hrequest : requestOf frame = some request) :
    (validateSequenceNumber request.sequenceCounter).Obeys actionRule (fun h' r ↦
      r = .ok .valid ∨ r = .ok .duplicate → Admitted h') h := by
  refine ⟨trivial, fun expected ↦ ?_⟩
  have hadmitted (hcounter : request.sequenceCounter = expected ∨
      request.sequenceCounter = expected - 1) : Admitted (⟨.loadExpected, expected⟩ :: h) :=
    ⟨frame, hlatest, .inr ⟨request, expected, hrequest, rfl, hcounter⟩⟩
  show Obeys _ _ _ (ite _ _ _)
  split
  next hvalid => exact ⟨hadmitted (.inl hvalid), fun _ _ ↦ (hadmitted (.inl hvalid)).of_notes rfl⟩
  next =>
    show Obeys _ _ _ (ite _ _ _)
    split
    next hduplicate => exact fun _ ↦ hadmitted (.inr hduplicate)
    next =>
      intro h
      simp at h

theorem obeys_handleTunnellingRequest (hlatest : latest h = some frame) {f : KnxIpFrame}
    (hparse : KnxIpFrame.parse frame = .ok f)
    (hservice : f.header.serviceType = .tunnellingRequest) :
    (handleTunnellingRequest f.body).Obeys actionRule (fun _ _ ↦ True) h := by
  apply Obeys.done_bind
  intro request hrequest
  have hrequest : requestOf frame = some request := by simp [requestOf, hparse, hservice, hrequest]
  have hack (status : UInt8) {g : Past}
      (hg : status = TunnellingAck.statusOk → Admitted g) :
      (do let _ ← Task.attempt (Client.sendTunnellingAck request.communicationChannelId
            request.sequenceCounter status) : Handler Unit).Obeys actionRule
        (fun h' _ ↦ notes h' = notes g) g :=
    ((obeys_acknowledge _ _ status hg).attempt (T := fun h' _ ↦ notes h' = notes g)
      (fun _ _ ↦ id) (fun _ _ ↦ id) (fun _ ↦ id)).bind (fun _ _ ↦ id) (fun _ _ ↦ id) (fun _ ↦ id)
  refine (obeys_validateSequenceNumber hlatest hrequest).bind (fun h₁ result hadmitted ↦ ?_)
    (fun _ _ _ ↦ trivial) fun _ _ ↦ trivial
  cases result with
  | valid =>
    have ha := hadmitted (.inl rfl)
    refine (hack TunnellingAck.statusOk fun _ ↦ ha).bind (fun h₂ _ hnotes ↦ ?_)
      (fun _ _ _ ↦ trivial) fun _ _ ↦ trivial
    exact obeys_enqueueCemi (ha.of_notes hnotes) _
  | duplicate => exact (hack _ fun _ ↦ hadmitted (.inr rfl)).mono fun _ _ _ ↦ trivial
  | invalid expected received =>
    refine (hack TunnellingAck.statusErrorSequenceNumber fun hstatus ↦ ?_).mono fun _ _ _ ↦ trivial
    cases hstatus

theorem obeys_handleDisconnectRequest (hlatest : latest h = some frame) {f : KnxIpFrame}
    (hparse : KnxIpFrame.parse frame = .ok f)
    (hservice : f.header.serviceType = .disconnectRequest) {current : Option UInt8}
    (hcurrent : lookedUp h = some current) :
    (handleDisconnectRequest f.body current).Obeys actionRule (fun _ _ ↦ True) h := by
  unfold handleDisconnectRequest
  split
  next => trivial
  next =>
  apply Obeys.done_bind
  intro request hrequest
  have hrequest : disconnectRequestOf frame = some request := by
    simp [disconnectRequestOf, hparse, hservice, hrequest]
  show Obeys _ _ _ (ite _ _ _)
  split
  next hours =>
    have ha (event : ConnectionControlEvent)
        (hevent : announcedChannel event = request.communicationChannelId) : Announced h event :=
      ⟨frame, request, current, hlatest, hrequest, hevent, hcurrent, hours⟩
    exact ⟨ha _ rfl, fun _ ↦ ⟨(ha _ rfl).of_notes rfl, fun _ ↦ trivial⟩⟩
  next => trivial

theorem obeys_handleIncomingFrame (hlatest : latest h = some frame) {current : Option UInt8}
    (hcurrent : lookedUp h = some current) :
    (handleIncomingFrame frame current).Obeys actionRule (fun _ _ ↦ True) h := by
  apply Obeys.done_bind
  intro f hparse
  have hdone {p : Handler Unit} (hp : p.Obeys actionRule (fun _ _ ↦ True) h) :
      (do p; pure true : Handler Bool).Obeys actionRule (fun _ _ ↦ True) h :=
    hp.bind_true fun _ _ _ ↦ trivial
  split
  next hservice => exact hdone (obeys_handleTunnellingRequest hlatest hparse hservice)
  next hservice =>
    apply hdone
    apply obeys_enqueueCemi
    exact ⟨frame, hlatest, .inl (by simp [requestOf, disconnectRequestOf, hparse, hservice])⟩
  next hservice => exact hdone (obeys_handleDisconnectRequest hlatest hparse hservice hcurrent)
  all_goals first | exact hdone trivial | trivial

theorem obeys_received (raw : Except KnxError (List UInt8)) :
    (received raw).Obeys actionRule (fun h' r ↦ ∀ data, r = .ok data → latest h' = some data)
      h := by
  cases raw with
  | error e => exact ⟨trivial, fun _ _ hdata ↦ by cases hdata⟩
  | ok raw =>
    refine ⟨trivial, fun decrypted ↦ ?_⟩
    match decrypted with
    | none => exact ⟨trivial, fun _ _ hdata ↦ congrArg some (Outcome.ok.inj hdata)⟩
    | some (.ok _) => exact ⟨trivial, fun _ _ hdata ↦ congrArg some (Outcome.ok.inj hdata)⟩
    | some (.err _) => exact ⟨trivial, fun _ _ hdata ↦ by cases hdata⟩
    | some .panic => exact fun _ hdata ↦ by cases hdata

theorem obeys_connectionRecvWithin (timeoutMs : ℕ) :
    (connectionRecvWithin timeoutMs).Obeys actionRule
      (fun h' r ↦ ∀ data, r = .ok (some data) → latest h' = some data) h := by
  have hsome (raw : Except KnxError (List UInt8)) {g : Past} :
      (do
        let data ← received raw
        pure (some data) : Handler (Option (List UInt8))).Obeys actionRule
        (fun h' r ↦ ∀ data, r = .ok (some data) → latest h' = some data) g := by
    refine (obeys_received raw).bind (fun h' data hlatest data' hdata ↦ ?_) (by simp) (by simp)
    obtain rfl := Option.some.inj (Outcome.ok.inj hdata)
    exact hlatest data rfl
  refine ⟨trivial, fun connected ↦ ?_⟩
  cases connected with
  | false => exact ⟨trivial, fun _ _ hdata ↦ by cases hdata⟩
  | true =>
    refine ⟨trivial, fun established ↦ ?_⟩
    cases established with
    | false => exact hsome _
    | true =>
      refine ⟨trivial, fun arrived ↦ ?_⟩
      cases arrived with
      | none => exact fun data hdata ↦ by cases hdata
      | some raw => exact hsome raw

theorem obeys_receivingTask (rounds : ℕ) :
    (receivingTask rounds).Obeys actionRule (fun _ _ ↦ True) h := by
  induction rounds generalizing h with
  | zero => trivial
  | succ rounds ih =>
    refine ⟨trivial, fun stopped ↦ ?_⟩
    cases stopped with
    | true => exact ⟨trivial, fun _ ↦ trivial⟩
    | false =>
      refine ((obeys_connectionRecvWithin 100).attempt (T := fun h' r ↦
        ∀ data, r = .ok (.ok (some data)) → latest h' = some data) ?_ (by simp) (by simp)).bind ?_
        (fun _ _ _ ↦ trivial) fun _ _ ↦ trivial
      · intro h₁ data hlatest data' hdata
        exact hlatest data' (congrArg _ (Except.ok.inj (Outcome.ok.inj hdata)))
      · intro h₁ arrived hlatest
        match arrived with
        | .error e => exact ⟨trivial, fun _ ↦ trivial⟩
        | .ok none =>
          refine ⟨trivial, fun stopped ↦ ?_⟩
          cases stopped with
          | true => exact ⟨trivial, fun _ ↦ trivial⟩
          | false => exact ih
        | .ok (some data) =>
          refine ⟨trivial, fun allocated ↦ ?_⟩
          cases allocated with
          | false => exact ih
          | true =>
            refine ⟨trivial, fun current ↦ ?_⟩
            have hhandled : (handleIncomingFrame data current).Obeys actionRule (fun _ _ ↦ True)
                (⟨.knxChannelId, current⟩ :: ⟨.allocate data.length, true⟩ :: h₁) := by
              apply obeys_handleIncomingFrame
              · exact hlatest data rfl
              · rfl
            exact hhandled.attempt_true.bind_true fun _ _ _ ↦ ih

theorem obeys_connectionSend {data : List UInt8}
    (hwrite : ∀ connected found encrypted written, actionRule (⟨.encryptFrame data, encrypted⟩ ::
      ⟨.transport .sendFrame, found⟩ :: ⟨.isConnected, connected⟩ :: h) (.write written)) :
    (connectionSend data).Obeys actionRule (fun _ _ ↦ True) h := by
  refine ⟨trivial, fun connected ↦ ?_⟩
  cases connected with
  | false => exact ⟨trivial, fun _ ↦ trivial⟩
  | true =>
    have hwritten : (do
        if ← Client.perform (.transport .sendFrame) then do
          let frame ← encode data
          .done (← Client.perform (.write frame))
        else .done (.err connectionClosed) : Handler Unit).Obeys actionRule (fun _ _ ↦ True)
        (⟨.isConnected, true⟩ :: h) := by
      refine ⟨trivial, fun found ↦ ?_⟩
      cases found with
      | false => trivial
      | true =>
        refine ⟨trivial, fun encrypted ↦ ?_⟩
        match encrypted with
        | none => exact ⟨hwrite true true none data, fun _ ↦ trivial⟩
        | some (.ok frame) => exact ⟨hwrite true true _ frame, fun _ ↦ trivial⟩
        | some (.err e) => trivial
        | some .panic => trivial
    refine hwritten.attempt_true.bind_true fun _ result _ ↦ ?_
    cases result with
    | ok _ => exact ⟨trivial, fun _ ↦ trivial⟩
    | error e => exact ⟨trivial, fun _ ↦ trivial⟩

theorem obeys_sendingTask (telegrams : ℕ) :
    (sendingTask telegrams).Obeys actionRule (fun _ _ ↦ True) h := by
  induction telegrams generalizing h with
  | zero => trivial
  | succ telegrams ih =>
    refine ⟨trivial, fun drained ↦ ?_⟩
    cases drained with
    | true => trivial
    | false =>
      refine ⟨trivial, fun outgoing ↦ ?_⟩
      cases outgoing with
      | none => trivial
      | some telegram =>
        have hsend {g : Past} :
            (sendTelegram telegram).Obeys actionRule (fun _ _ ↦ True) g := by
          refine ⟨trivial, fun channelId ↦ ⟨trivial, fun sequence ↦ ?_⟩⟩
          apply obeys_connectionSend
          intro connected found encrypted written
          exact actionRule_write (s := .tunnellingRequest) (by decide) (by decide) rfl
        exact hsend.attempt_true.bind_true fun _ _ _ ↦ ih

theorem obeys_answerDisconnectRequest {channelId : UInt8}
    (hevent : ⟨.receiveControl, some (.sendDisconnectResponse channelId)⟩ ∈ h) :
    (answerDisconnectRequest channelId).Obeys actionRule (fun _ _ ↦ True) h := by
  let response : DisconnectResponse := ⟨channelId, ChannelResponse.statusOk⟩
  have hsend : (connectionSend
      (KnxIpFrame.new .disconnectResponse response.serialize).serialize).Obeys actionRule
      (fun _ _ ↦ True) h := by
    apply obeys_connectionSend
    intro connected found encrypted written
    refine ⟨fun ack hack ↦ ?_, fun answer hanswer ↦ ?_⟩
    · cases (ackOf_of_serviceType (by decide) _).symm.trans hack
    · have hours : disconnectResponseOf
          (KnxIpFrame.new .disconnectResponse response.serialize).serialize = some response := by
        have hlength : response.serialize.length ≤ 65529 := by simp [ChannelResponse.serialize]
        rw [disconnectResponseOf, KnxIpFrame.parse_serialize_new _ hlength]
        rfl
      obtain rfl := Option.some.inj (hours.symm.trans hanswer)
      simp [hevent, response]
  exact hsend.attempt_true.bind_true fun _ _ _ ↦ ⟨trivial, fun _ ↦ trivial⟩

theorem obeys_closeConnection (tunnel : Tunnel) (frames : ℕ) :
    (closeConnection tunnel frames).Obeys actionRule (fun _ _ ↦ True) h := by
  have hsend {g : Past} :
      (sendDisconnect tunnel frames).Obeys actionRule (fun _ _ ↦ True) g := by
    refine ⟨trivial, fun channelId ↦ ?_⟩
    show Obeys _ _ _ (ite _ _ _)
    split
    next => trivial
    next =>
      refine ⟨trivial, fun found ↦ ?_⟩
      cases found with
      | false => trivial
      | true =>
        refine ⟨trivial, fun channelId ↦ ⟨?_, fun written ↦ ?_⟩⟩
        · exact actionRule_write (s := .disconnectRequest) (by decide) (by decide) rfl
        · cases written with
          | ok _ => exact follows_awaitDisconnectResponse (fun _ ↦ trivial) frames _
          | err e => trivial
          | panic => trivial
  refine ⟨trivial, fun held ↦ ?_⟩
  cases held with
  | false => trivial
  | true =>
    exact hsend.attempt_true.bind_true fun _ _ _ ↦ trivial

theorem obeys_controlTask (tunnel : Tunnel) (autoReconnect : Bool) (frames events : ℕ) :
    (controlTask tunnel autoReconnect frames events).Obeys actionRule (fun _ _ ↦ True) h := by
  induction events generalizing h with
  | zero => trivial
  | succ events ih =>
    refine ⟨trivial, fun event ↦ ?_⟩
    match event with
    | some (.sendDisconnectResponse channelId) =>
      exact (obeys_answerDisconnectRequest (List.mem_cons_self ..)).bind (fun _ _ _ ↦ ih)
        (fun _ _ _ ↦ trivial) fun _ _ ↦ trivial
    | some (.tunnelLost channelId reason) =>
      refine (obeys_closeConnection tunnel frames).bind (fun _ _ _ ↦ ?_) (fun _ _ _ ↦ trivial)
        fun _ _ ↦ trivial
      cases autoReconnect with
      | true => exact ih
      | false => trivial
    | none =>
      refine ⟨trivial, fun stopped ↦ ?_⟩
      cases stopped with
      | true => trivial
      | false => exact ih

end

section

variable {P : Primitives} {tunnel : Tunnel} {channelId : UInt8}

/-- A task that has a frame for another channel knows that it is not for us. -/
structure Unfit (channelId : UInt8) (n : Notes) : Prop where
  counter : ∀ frame request expected, n.frame = some frame → requestOf frame = some request →
    request.communicationChannelId ≠ channelId → n.expected = some expected →
    request.sequenceCounter ≠ expected ∧ request.sequenceCounter ≠ expected - 1
  current : ∀ frame request current, n.frame = some frame →
    disconnectRequestOf frame = some request → request.communicationChannelId ≠ channelId →
    n.current = some current → current = some channelId

structure Ours (channelId : UInt8) (trace : List Step) (s : State) : Prop where
  stored : s.knxChannelId = none ∨ s.knxChannelId = some channelId
  announced : ∀ event ∈ s.control, announcedChannel event = channelId
  taken : ∀ r ∈ trace, ∀ event, r.event = ⟨.receiveControl, some event⟩ →
    announcedChannel event = channelId
  unfit : ∀ k, Unfit channelId (notes (history k trace))

theorem disconnectRequestOf_of_requestOf {frame : List UInt8} {request : TunnellingRequest}
    (hrequest : requestOf frame = some request) : disconnectRequestOf frame = none := by
  unfold requestOf at hrequest
  unfold disconnectRequestOf
  cases hparse : KnxIpFrame.parse frame with
  | ok f =>
    simp only [hparse] at hrequest ⊢
    split at hrequest
    next hservice => rw [if_neg (by rw [hservice]; decide)]
    next => cases hrequest
  | err e => rfl
  | panic => rfl

theorem Unfit.not_admitted {h : Past} {frame : List UInt8} (hunfit : Unfit channelId (notes h))
    (hlatest : latest h = some frame) (hforeign : Foreign channelId frame) : ¬ Admitted h := by
  intro hadmitted
  obtain ⟨frame', hframe', hadmitted⟩ := hadmitted
  obtain rfl := Option.some.inj (hframe'.symm.trans hlatest)
  rcases hadmitted with ⟨hrequest, hdisconnect⟩ | ⟨request, expected, hrequest, hloaded, hcounter⟩
  · rcases hforeign with ⟨_, h, -⟩ | ⟨_, h, -⟩
    · cases hrequest.symm.trans h
    · cases hdisconnect.symm.trans h
  · rcases hforeign with ⟨request', hrequest', hne⟩ | ⟨_, hdisconnect, -⟩
    · obtain rfl := Option.some.inj (hrequest'.symm.trans hrequest)
      obtain ⟨hexpected, hrepeated⟩ :=
        hunfit.counter _ _ _ hlatest hrequest' hne hloaded
      exact hcounter.elim hexpected hrepeated
    · rw [disconnectRequestOf_of_requestOf hrequest] at hdisconnect
      cases hdisconnect

theorem Unfit.announced {h : Past} {event : ConnectionControlEvent}
    (hunfit : Unfit channelId (notes h)) (hevent : Announced h event) :
    announcedChannel event = channelId := by
  obtain ⟨frame, request, current, hlatest, hrequest, hevent, hcurrent, hours⟩ := hevent
  by_contra hne
  rw [hevent] at hne
  have hknown := hunfit.current frame request current hlatest hrequest hne hcurrent
  rw [hknown] at hours
  simp [Ne.symm hne] at hours

theorem respond_knxChannelId (c : Command) (i : Env) (s : State) :
    (respond P tunnel c i s).2.knxChannelId = s.knxChannelId ∨
      (respond P tunnel c i s).2.knxChannelId = none := by
  cases c
  case clearKnxChannelId => exact .inr rfl
  case encryptFrame | decryptFrame =>
    simp only [respond, State.withSession]
    split <;> exact .inl rfl
  case establishTransport | recordFailure | enqueueIncoming | control | claim | releaseAddress =>
    simp only [respond, State.claim, State.releaseAddress]
    split <;> exact .inl rfl
  all_goals exact .inl rfl

theorem respond_control (c : Command) (i : Env) (s : State) :
    ∀ event ∈ (respond P tunnel c i s).2.control, event ∈ s.control ∨ c = .control event := by
  cases c
  case control event =>
    intro event' hevent
    simp only [respond] at hevent
    split at hevent
    · rcases List.mem_cons.mp hevent with rfl | hevent
      · exact .inr rfl
      · exact .inl hevent
    · exact .inl hevent
  case receiveControl => exact fun event hevent ↦ .inl (List.dropLast_subset _ hevent)
  case encryptFrame | decryptFrame =>
    simp only [respond, State.withSession]
    split <;> exact fun _ ↦ .inl
  case establishTransport | recordFailure | enqueueIncoming | claim | releaseAddress =>
    simp only [respond, State.claim, State.releaseAddress]
    split <;> exact fun _ ↦ .inl
  all_goals exact fun _ ↦ .inl

theorem Unfit.step {trace : List Step} {s s' : State} {k : ℕ} {c : Command} {i : Env}
    {r : c.Response} (hstored : s.knxChannelId = none ∨ s.knxChannelId = some channelId)
    (hunfit : Unfit channelId (notes (history k trace)))
    (hdiscernible : Discernible channelId ⟨k, c, r, s, s'⟩ trace)
    (he : exec P tunnel c i s = some (r, s')) :
    Unfit channelId (notes (⟨c, r⟩ :: history k trace)) := by
  have hr : r = (respond P tunnel c i s).1 := (congrArg Prod.fst (Option.some.inj he)).symm
  by_cases hc : keepsNotes c = true
  · rwa [notes_cons hc]
  cases c
  case decryptFrame raw =>
    refine ⟨fun _ _ _ _ _ _ hexpected ↦ ?_, fun _ _ _ _ _ _ hcurrent ↦ ?_⟩
    · cases hexpected
    · cases hcurrent
  case loadExpected =>
    refine ⟨fun frame request expected hframe hrequest hne hexpected ↦ ?_, hunfit.current⟩
    obtain rfl := Option.some.inj hexpected
    rw [hr]
    exact hdiscernible frame hframe request hrequest hne
  case knxChannelId =>
    refine ⟨hunfit.counter, fun frame request current hframe hrequest hne hcurrent ↦ ?_⟩
    obtain rfl := Option.some.inj hcurrent
    rw [hr]
    exact hstored.resolve_left (hdiscernible frame hframe request hrequest hne)
  all_goals exact absurd rfl hc

theorem keeps_ours : Config.Keeps (exec P tunnel) actionRule fun trace s ↦
    AllDiscernible channelId trace → Ours channelId trace s := by
  intro trace s k c i r s' _ hours hrule he hall
  have hours := hours fun r earlier hsuffix ↦ hall r earlier (hsuffix.trans (List.suffix_cons ..))
  have hs' : s' = (respond P tunnel c i s).2 := (congrArg Prod.snd (Option.some.inj he)).symm
  have hr : r = (respond P tunnel c i s).1 := (congrArg Prod.fst (Option.some.inj he)).symm
  have hdiscernible := hall _ _ List.suffix_rfl
  refine ⟨?_, fun event hevent ↦ ?_, fun r' hr' event hevent ↦ ?_, fun j ↦ ?_⟩
  · rw [hs']
    rcases respond_knxChannelId c i s with hsame | hnone
    · rw [hsame]
      exact hours.stored
    · exact .inl hnone
  · rw [hs'] at hevent
    rcases respond_control c i s event hevent with hevent | rfl
    · exact hours.announced event hevent
    · exact (hours.unfit k).announced hrule
  · rcases List.mem_cons.mp hr' with rfl | hr'
    · cases hevent
      exact hours.announced event (List.mem_of_getLast? hr.symm)
    · exact hours.taken r' hr' event hevent
  · by_cases hj : k = j
    · subst hj
      rw [history_cons_self ⟨k, c, r, s, s'⟩]
      exact (hours.unfit k).step hours.stored hdiscernible he
    · rw [history_cons_of_ne hj]
      exact hours.unfit j

theorem Ours.unaffected {trace : List Step} {s s' : State} {k : ℕ} {c : Command} {r : c.Response}
    (hours : Ours channelId trace s) (hrule : actionRule (history k trace) c) :
    Unaffected channelId ⟨k, c, r, s, s'⟩ trace := by
  refine ⟨fun frame hlatest hforeign hacts ↦ ?_, fun frame response hwrite hresponse ↦ ?_⟩
  · have hnot := (hours.unfit k).not_admitted hlatest hforeign
    cases c
    case storeExpected | enqueueIncoming => exact hnot hrule
    case control event =>
      have hevent := (hours.unfit k).announced hrule
      obtain ⟨frame', request, current, hframe', hrequest, hchannel, -⟩ := hrule
      obtain rfl := Option.some.inj (hframe'.symm.trans hlatest)
      rcases hforeign with ⟨_, hother, -⟩ | ⟨request', hrequest', hne⟩
      · rw [disconnectRequestOf_of_requestOf hother] at hrequest
        cases hrequest
      · obtain rfl := Option.some.inj (hrequest'.symm.trans hrequest)
        exact hne (hchannel.symm.trans hevent)
    case write frame =>
      obtain ⟨ack, hack, hok⟩ := hacts
      exact hnot (hrule.1 ack hack hok)
    all_goals exact hacts
  · obtain rfl : c = .write frame := hwrite
    have hevent := hrule.2 response hresponse
    obtain ⟨r', hr', -, hevent⟩ := mem_of_mem_history hevent
    exact hours.taken r' hr' _ hevent

end

/-- The tasks of a client on a tunnel, in a run in which the frames for other channels can be
told from our own: they have no effect. -/
theorem foreign_frames_without_effect (P : Primitives) (tunnel : Tunnel) (channelId : UInt8)
    (s : State) (hs : Begun tunnel channelId s) (autoReconnect : Bool)
    (rounds telegrams events frames : ℕ) (program : Empty → Handler Unit)
    (moves : List (Move Empty Env)) :
    let x := (⟨s, clientTasks tunnel autoReconnect rounds telegrams events frames, []⟩ :
      Config _ _ _ _).run (exec P tunnel) program moves
    AllDiscernible channelId x.trace →
      ∀ r earlier, r :: earlier <:+ x.trace → Unaffected channelId r earlier := by
  intro x hall r earlier hr
  have hpool : ∀ p ∈ clientTasks tunnel autoReconnect rounds telegrams events frames,
      p.Obeys actionRule (fun _ _ ↦ True) [] := by
    simp only [clientTasks, List.mem_cons, List.not_mem_nil, or_false, forall_eq_or_imp, forall_eq]
    exact ⟨obeys_receivingTask rounds, obeys_sendingTask telegrams,
      obeys_controlTask tunnel autoReconnect frames events⟩
  have hinit : AllDiscernible channelId [] → Ours channelId [] s := by
    intro _
    refine ⟨?_, by simp [hs.unannounced], by simp, fun k ↦ ⟨?_, ?_⟩⟩
    · rw [hs.stored]
      cases tunnel.kind with
      | udp => exact .inr rfl
      | tcp => exact .inl rfl
    · intro _ _ _ hframe
      cases hframe
    · intro _ _ _ hframe
      cases hframe
  have hgood : Config.Grants (exec P tunnel) actionRule
      (fun trace s ↦ AllDiscernible channelId trace → Ours channelId trace s)
      fun r earlier ↦ AllDiscernible channelId earlier → Unaffected channelId r earlier :=
    fun _ _ _ _ _ _ _ _ hours hrule _ hall ↦ (hours hall).unaffected hrule
  exact Config.run_always hpool (fun t ↦ t.elim) hinit keeps_ours hgood moves r earlier hr
    fun r' earlier' hsuffix ↦ hall r' earlier' (hsuffix.trans ((List.suffix_cons ..).trans hr))

instance decidableDiscerns (channelId : UInt8) (frame : List UInt8) (s : State) :
    (c : Command) → Decidable (Discerns channelId frame s c)
  | .loadExpected => inferInstanceAs (Decidable (∀ request ∈ requestOf frame,
      request.communicationChannelId ≠ channelId →
        request.sequenceCounter ≠ s.expectedSequenceNumber ∧
          request.sequenceCounter ≠ s.expectedSequenceNumber - 1))
  | .knxChannelId => inferInstanceAs (Decidable (∀ request ∈ disconnectRequestOf frame,
      request.communicationChannelId ≠ channelId → s.knxChannelId ≠ none))
  | .establishTransport | .transport .. | .write .. | .read | .readWithin .. | .generateSecret
  | .installSession .. | .encryptFrame .. | .decryptFrame .. | .recordSent | .recordReceived
  | .recordSendError .. | .recordReceiveError .. | .recordConnectionError .. | .setState ..
  | .isConnected | .openChannel .. | .closeChannel | .channelId | .nextSequence
  | .storeExpected .. | .isAvailable .. | .claim .. | .setAddress .. | .releaseAddress
  | .startMonitor | .sleep | .registerWaiter | .awaitResponse .. | .recordSuccess
  | .recordFailure | .now | .enqueueIncoming .. | .closeQueue | .control .. | .receiveControl
  | .isShutdown | .isDrained | .allocate .. | .dequeueOutgoing | .clearKnxChannelId
  | .takeConnection => .isTrue trivial

instance decidableAllDiscernible (channelId : UInt8) : (trace : List Step) →
    Decidable (AllDiscernible channelId trace)
  | [] => .isTrue fun _ _ hsuffix ↦ absurd hsuffix.length_le (by simp)
  | r :: trace =>
    have := decidableAllDiscernible channelId trace
    decidable_of_iff ((∀ frame ∈ latest (history r.task trace),
        Discerns channelId frame r.before r.command) ∧ AllDiscernible channelId trace) <| by
      constructor
      · intro h r' earlier hsuffix
        rcases List.suffix_cons_iff.mp hsuffix with heq | hsuffix
        · cases heq
          exact h.1
        · exact h.2 r' earlier hsuffix
      · intro h
        exact ⟨h r trace List.suffix_rfl,
          fun r' earlier hsuffix ↦ h r' earlier (hsuffix.trans (List.suffix_cons ..))⟩

namespace Reference

def begun : State :=
  { State.built with
    transport := true
    state := .connected
    channelId := 1
    knxChannelId := some 1
    held := true }

def request (sequence : UInt8) : List UInt8 :=
  [0x06, 0x10, 0x04, 0x20, 0x00, 0x15, 0x04, 0x02, sequence, 0x00,
    0x29, 0x00, 0xBC, 0xE0, 0x11, 0x05, 0x09, 0x01, 0x01, 0x00, 0x81]

def receive (frame : List UInt8) (steps : ℕ) : Config Command Command.Response State KnxError :=
  (⟨begun, clientTasks Client.Reference.tunnel false 1 0 0 0, []⟩ : Config _ _ _ _).run
    (exec Security.Reference.primitives Client.Reference.tunnel)
    (fun t : Empty ↦ t.elim) (List.replicate steps (.resume 0 { frame := .ok frame }))

def stores : Command → Bool
  | .storeExpected _ => true
  | _ => false

end Reference

theorem begun_reference : Begun Client.Reference.tunnel 1 Reference.begun := ⟨rfl, rfl, rfl⟩

theorem unexpected_request_without_effect :
    Foreign 1 (Reference.request 5) ∧
      AllDiscernible 1 (Reference.receive (Reference.request 5) 12).trace ∧
      ∀ r earlier, r :: earlier <:+ (Reference.receive (Reference.request 5) 12).trace →
        Unaffected 1 r earlier := by
  have hall : AllDiscernible 1 (Reference.receive (Reference.request 5) 12).trace := by
    decide +kernel
  refine ⟨.inl ⟨⟨2, 5, [0x29, 0x00, 0xBC, 0xE0, 0x11, 0x05, 0x09, 0x01, 0x01, 0x00, 0x81]⟩, ?_, ?_⟩,
    hall, foreign_frames_without_effect _ _ 1 _ begun_reference false 1 0 0 0 _ _ hall⟩
  · decide +kernel
  · decide

/-- A request for channel 2 is handed over as if it were ours. -/
theorem foreign_request_accepted :
    (∃ r earlier, r :: earlier <:+ (Reference.receive (Reference.request 0) 10).trace ∧
      ¬ Unaffected 1 r earlier) ∧
    (Reference.receive (Reference.request 0) 16).state.expectedSequenceNumber = 1 ∧
    (Reference.receive (Reference.request 0) 16).state.incoming.length = 1 := by
  refine ⟨?_, by decide +kernel, by decide +kernel⟩
  have hlatest : latest (history 0 (Reference.receive (Reference.request 0) 10).trace.tail) =
      some (Reference.request 0) := by decide +kernel
  have hstores : (Reference.receive (Reference.request 0) 10).trace.head?.any
      (fun r ↦ r.task = 0 ∧ Reference.stores r.command) = true := by decide +kernel
  have hforeign : Foreign 1 (Reference.request 0) := by
    refine .inl ⟨⟨2, 0, [0x29, 0x00, 0xBC, 0xE0, 0x11, 0x05, 0x09, 0x01, 0x01, 0x00, 0x81]⟩, ?_, ?_⟩
    · decide +kernel
    · decide
  generalize (Reference.receive (Reference.request 0) 10).trace = trace at hlatest hstores
  cases trace with
  | nil => cases hstores
  | cons r earlier =>
    obtain ⟨task, c, response, before, after⟩ := r
    obtain ⟨rfl, hc⟩ : task = 0 ∧ Reference.stores c = true := by simpa using hstores
    refine ⟨_, _, List.suffix_rfl, fun hunaffected ↦ ?_⟩
    apply hunaffected.idle _ hlatest hforeign
    cases c
    case storeExpected => trivial
    all_goals cases hc

end Knust.Application.ForeignChannels
