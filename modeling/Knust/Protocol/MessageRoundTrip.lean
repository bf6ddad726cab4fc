import Knust.Protocol.CemiAccepted

namespace Knust.Protocol

open Foundation

def Hpai.IsV4 (h : Hpai) : Prop := ∃ octets, h.ipAddr = .v4 octets

theorem Hpai.serialize_length (h : Hpai) : h.serialize.length = 8 := by
  cases hip : h.ipAddr <;> simp [serialize, ipBytes, hip]

theorem Hpai.parse_serialize {h : Hpai} (hv4 : h.IsV4) (rest : List UInt8) :
    parse (h.serialize ++ rest) = .ok h := by
  obtain ⟨octets, hip⟩ := hv4
  have hserialize : h.serialize ++ rest =
      [8, h.hostProtocolCode] ++ (octets.val ++ (u16Bytes h.port ++ rest)) := by
    simp [serialize, ipBytes, hip]
  have hlength : length ≤ (h.serialize ++ rest).length := by
    rw [List.length_append, serialize_length]
    exact Nat.le_add_right _ _
  have hip' : (slice (h.serialize ++ rest) 2 6 : Result _) = .ok octets.val :=
    slice_middle [8, h.hostProtocolCode] (u16Bytes h.port ++ rest) hserialize rfl (by simp)
  have hport : ∀ i, (index (h.serialize ++ rest) (6 + i) : Result _) =
      index (u16Bytes h.port ++ rest) i := by
    intro i
    have happend := index_append (ε := KnxError) ([8, h.hostProtocolCode] ++ octets.val)
      (u16Bytes h.port ++ rest) i
    rw [hserialize, ← List.append_assoc]
    simpa using happend
  rw [parse, if_neg (by omega), hip', hport 0, hport 1, hserialize]
  simp [index, u16Bytes_eq, ← hip]

theorem ConnectionRequestInfo.parse_serialize {c : ConnectionRequestInfo}
    (h : c.individualAddress = none) : parse c.serialize = .ok c := by
  obtain ⟨connectionType, knxLayer, reserved, individualAddress⟩ := c
  cases h
  rfl

theorem ConnectionRequestInfo.parse_serialize_extended {c : ConnectionRequestInfo}
    {addr : IndividualAddress} (h : c.individualAddress = some addr) :
    parse c.serialize = parseError 0 "Invalid CRI length: 6" := by
  obtain ⟨connectionType, knxLayer, reserved, individualAddress⟩ := c
  cases h
  rfl

theorem ConnectRequest.parse_serialize {r : ConnectRequest} (hcontrol : r.controlEndpoint.IsV4)
    (hdata : r.dataEndpoint.IsV4) :
    parse r.serialize = (ConnectionRequestInfo.parse r.cri.serialize >>= fun cri ↦
      .ok { r with cri }) := by
  have hdrop : ∀ (h : Hpai) (rest : List UInt8), (h.serialize ++ rest).drop 8 = rest :=
    fun h rest ↦ List.drop_left' h.serialize_length
  have hserialize : r.serialize =
      r.controlEndpoint.serialize ++ (r.dataEndpoint.serialize ++ r.cri.serialize) :=
    List.append_assoc _ _ _
  have hfirst : (sliceFrom r.serialize 8 : Result _) =
      .ok (r.dataEndpoint.serialize ++ r.cri.serialize) := by
    rw [sliceFrom_of_le (by simp [hserialize, Hpai.serialize_length]), hserialize, hdrop]
  have hsecond : (sliceFrom r.serialize 16 : Result _) = .ok r.cri.serialize := by
    rw [sliceFrom_of_le (by simp [hserialize, Hpai.serialize_length]; omega), hserialize,
      ← List.drop_drop (i := 8) (j := 8), hdrop, hdrop]
  rw [parse, sliceFrom_of_le (Nat.zero_le _), hfirst, hsecond, hserialize]
  simp only [List.drop_zero, Outcome.ok_bind, Hpai.parse_serialize hcontrol,
    Hpai.parse_serialize hdata]

namespace ConnectResponse

theorem parseEndpoint_eq {channelId : UInt8} {hpai : Hpai} (hv4 : hpai.IsV4) (crd : List UInt8) :
    parseEndpoint ([channelId, statusOk] ++ (hpai.serialize ++ crd)) statusOk =
      .ok (hpai, crd) := by
  have hlength : ([channelId, statusOk] ++ (hpai.serialize ++ crd)).length = 10 + crd.length := by
    simp only [List.length_append, hpai.serialize_length, List.length_cons, List.length_nil]
    omega
  have hcrd : ([channelId, statusOk] ++ (hpai.serialize ++ crd)).drop 10 = crd := by
    rw [← List.append_assoc]
    exact List.drop_left' (by simp [hpai.serialize_length])
  rw [parseEndpoint, if_pos rfl, hlength, if_pos (by omega), sliceFrom_of_le (by omega)]
  have hendpoint : ([channelId, statusOk] ++ (hpai.serialize ++ crd)).drop 2 =
      hpai.serialize ++ crd := rfl
  rw [hendpoint, Outcome.ok_bind, Hpai.parse_serialize hv4, Outcome.ok_bind]
  by_cases hempty : crd = []
  · subst hempty
    rfl
  · have hpos := List.length_pos_of_ne_nil hempty
    rw [if_pos (by omega), sliceFrom_of_le (by omega), Outcome.ok_bind, hcrd]

theorem parse_serialize {r : ConnectResponse} (hstatus : r.status = statusOk)
    (hendpoint : r.dataEndpoint.IsV4) (hassigned : r.assignedAddress = parseAssignedAddress r.crd) :
    parse r.serialize = .ok r := by
  obtain ⟨channelId, status, dataEndpoint, crd, assignedAddress⟩ := r
  obtain rfl : status = statusOk := hstatus
  obtain rfl : assignedAddress = parseAssignedAddress crd := hassigned
  have hserialize : serialize ⟨channelId, statusOk, dataEndpoint, crd, parseAssignedAddress crd⟩ =
      [channelId, statusOk] ++ (dataEndpoint.serialize ++ crd) := List.append_assoc _ _ _
  have hchannel : (index ([channelId, statusOk] ++ (dataEndpoint.serialize ++ crd)) 0 : Result _) =
      .ok channelId := rfl
  have hstatus : (index ([channelId, statusOk] ++ (dataEndpoint.serialize ++ crd)) 1 : Result _) =
      .ok statusOk := rfl
  rw [hserialize, parse, if_neg (by simp), hchannel, hstatus, Outcome.ok_bind, Outcome.ok_bind,
    parseEndpoint_eq hendpoint, Outcome.ok_bind]

theorem crd_of_parse {body : List UInt8} {r : ConnectResponse} (h : parse body = .ok r)
    (hstatus : r.status = statusOk) : r.crd = body.drop 10 := by
  obtain ⟨-, h⟩ := checked_eq_ok.mp h
  obtain ⟨channelId, -, h⟩ := Outcome.bind_eq_ok.mp h
  obtain ⟨status, -, h⟩ := Outcome.bind_eq_ok.mp h
  obtain ⟨⟨dataEndpoint, crd⟩, hendpoint, h⟩ := Outcome.bind_eq_ok.mp h
  cases h
  obtain rfl : status = statusOk := hstatus
  rw [parseEndpoint, if_pos rfl] at hendpoint
  split at hendpoint
  · obtain ⟨bytes, -, hendpoint⟩ := Outcome.bind_eq_ok.mp hendpoint
    obtain ⟨hpai, -, hendpoint⟩ := Outcome.bind_eq_ok.mp hendpoint
    dsimp only at hendpoint
    split at hendpoint
    · rw [sliceFrom_of_le (by omega)] at hendpoint
      cases hendpoint
      rfl
    · cases hendpoint
      exact (List.drop_eq_nil_of_le (by omega)).symm
  · cases hendpoint

end ConnectResponse

theorem SessionRequest.parse_serialize {r : SessionRequest} (h : r.controlEndpoint.IsV4) :
    parse r.serialize = .ok r := by
  have hkey : (slice r.serialize 8 40 : Result _) = .ok r.publicKey.val :=
    slice_middle r.controlEndpoint.serialize [] (by simp [serialize])
      r.controlEndpoint.serialize_length (by simp)
  have hlength : r.serialize.length = 40 := by
    simp [serialize, Hpai.serialize_length]
  rw [parse, if_neg (by omega), hkey, serialize, Hpai.parse_serialize h]
  simp

theorem SessionAuthenticate.parse_serialize (a : SessionAuthenticate) :
    parse a.serialize = .ok a := by
  have hmac : (slice a.serialize 2 18 : Result _) = .ok a.mac.val :=
    slice_middle [0x00, a.userId] [] (by simp [serialize]) rfl (by simp)
  rw [parse, if_neg (by simp [serialize]), hmac]
  simp [serialize, index]

theorem ChannelRequest.parseNamed_serialize {r : ChannelRequest} (h : r.controlEndpoint.IsV4)
    (name : String) : parseNamed name r.serialize = .ok r := by
  have hlength : r.serialize.length = 10 := by simp [serialize, Hpai.serialize_length]
  have hdrop : r.serialize.drop 2 = r.controlEndpoint.serialize ++ [] := by simp [serialize]
  rw [parseNamed, if_neg (by omega), sliceFrom_of_le (by omega), hdrop]
  simp [Hpai.parse_serialize h, -List.append_nil, serialize, index]

inductive Message
  | connectRequest (r : ConnectRequest)
  | connectResponse (r : ConnectResponse)
  | sessionRequest (r : SessionRequest)
  | sessionResponse (r : SessionResponse)
  | sessionAuthenticate (a : SessionAuthenticate)
  | sessionStatus (s : SessionStatus)
  | connectionstateRequest (r : ConnectionstateRequest)
  | connectionstateResponse (r : ConnectionstateResponse)
  | disconnectRequest (r : DisconnectRequest)
  | disconnectResponse (r : DisconnectResponse)
  | tunnellingRequest (r : TunnellingRequest)
  | tunnellingAck (a : TunnellingAck)
  deriving DecidableEq

namespace Message

def serviceType : Message → ServiceType
  | .connectRequest _ => .connectRequest
  | .connectResponse _ => .connectResponse
  | .sessionRequest _ => .sessionRequest
  | .sessionResponse _ => .sessionResponse
  | .sessionAuthenticate _ => .sessionAuthenticate
  | .sessionStatus _ => .sessionStatus
  | .connectionstateRequest _ => .connectionstateRequest
  | .connectionstateResponse _ => .connectionstateResponse
  | .disconnectRequest _ => .disconnectRequest
  | .disconnectResponse _ => .disconnectResponse
  | .tunnellingRequest _ => .tunnellingRequest
  | .tunnellingAck _ => .tunnellingAck

def serialize : Message → List UInt8
  | .connectRequest r => r.serialize
  | .connectResponse r => r.serialize
  | .sessionRequest r => r.serialize
  | .sessionResponse r => r.serialize
  | .sessionAuthenticate a => a.serialize
  | .sessionStatus s => s.serialize
  | .connectionstateRequest r => ChannelRequest.serialize r
  | .connectionstateResponse r => ChannelResponse.serialize r
  | .disconnectRequest r => ChannelRequest.serialize r
  | .disconnectResponse r => ChannelResponse.serialize r
  | .tunnellingRequest r => r.serialize
  | .tunnellingAck a => a.serialize

def parseBody (serviceType : ServiceType) (body : List UInt8) : Option (Result Message) :=
  match serviceType with
  | .connectRequest => some (.connectRequest <$> ConnectRequest.parse body)
  | .connectResponse => some (.connectResponse <$> ConnectResponse.parse body)
  | .sessionRequest => some (.sessionRequest <$> SessionRequest.parse body)
  | .sessionResponse => some (.sessionResponse <$> SessionResponse.parse body)
  | .sessionAuthenticate => some (.sessionAuthenticate <$> SessionAuthenticate.parse body)
  | .sessionStatus => some (.sessionStatus <$> SessionStatus.parse body)
  | .connectionstateRequest => some (.connectionstateRequest <$> ConnectionstateRequest.parse body)
  | .connectionstateResponse =>
    some (.connectionstateResponse <$> ConnectionstateResponse.parse body)
  | .disconnectRequest => some (.disconnectRequest <$> DisconnectRequest.parse body)
  | .disconnectResponse => some (.disconnectResponse <$> DisconnectResponse.parse body)
  | .tunnellingRequest => some (.tunnellingRequest <$> TunnellingRequest.parse body)
  | .tunnellingAck => some (.tunnellingAck <$> TunnellingAck.parse body)
  | _ => none

def RoundTrips (m : Message) : Prop :=
  ∃ frame, KnxIpFrame.parse (KnxIpFrame.new m.serviceType m.serialize).serialize = .ok frame ∧
    parseBody frame.header.serviceType frame.body = some (.ok m)

/-- IPv4 endpoints, a positive answer with the address that its connection data states,
and a request that fits into a frame. -/
def Transmissible : Message → Prop
  | .connectRequest r => r.controlEndpoint.IsV4 ∧ r.dataEndpoint.IsV4
  | .connectResponse r => r.status = ConnectResponse.statusOk ∧ r.dataEndpoint.IsV4 ∧
      r.assignedAddress = ConnectResponse.parseAssignedAddress r.crd
  | .sessionRequest r => r.controlEndpoint.IsV4
  | .connectionstateRequest r => r.controlEndpoint.IsV4
  | .disconnectRequest r => r.controlEndpoint.IsV4
  | .tunnellingRequest r => r.serialize.length ≤ 65529
  | _ => True

/-- No individual address is requested, and the connection data fits into a frame. -/
def Readable : Message → Prop
  | .connectRequest r => r.cri.individualAddress = none
  | .connectResponse r => r.crd.length ≤ 65519
  | _ => True

variable {m : Message}

theorem parseBody_serialize (hm : m.Transmissible) (hr : m.Readable) :
    parseBody m.serviceType m.serialize = some (.ok m) := by
  cases m with
  | connectRequest r =>
    have hcri := ConnectionRequestInfo.parse_serialize hr
    simp [parseBody, serviceType, serialize, ConnectRequest.parse_serialize hm.1 hm.2, hcri]
  | connectResponse r =>
    simp [parseBody, serviceType, serialize, ConnectResponse.parse_serialize hm.1 hm.2.1 hm.2.2]
  | sessionRequest r =>
    simp [parseBody, serviceType, serialize, SessionRequest.parse_serialize hm]
  | sessionResponse r =>
    have hparse := SessionResponse.parse_serialize r []
    rw [List.append_nil] at hparse
    simp [parseBody, serviceType, serialize, hparse]
  | sessionAuthenticate a =>
    simp [parseBody, serviceType, serialize, SessionAuthenticate.parse_serialize]
  | sessionStatus s => rfl
  | connectionstateRequest r =>
    simp [parseBody, serviceType, serialize, ConnectionstateRequest.parse,
      ChannelRequest.parseNamed_serialize hm]
  | connectionstateResponse r => rfl
  | disconnectRequest r =>
    simp [parseBody, serviceType, serialize, DisconnectRequest.parse,
      ChannelRequest.parseNamed_serialize hm]
  | disconnectResponse r => rfl
  | tunnellingRequest r =>
    simp [parseBody, serviceType, serialize, TunnellingRequest.parse_serialize]
  | tunnellingAck a => simp [parseBody, serviceType, serialize, TunnellingAck.parse_serialize]

theorem serialize_length_le (hm : m.Transmissible) (hr : m.Readable) :
    m.serialize.length ≤ 65529 := by
  cases m with
  | connectRequest r =>
    rw [serialize, ConnectRequest.serialize, List.length_append, List.length_append,
      Hpai.serialize_length, Hpai.serialize_length, ConnectionRequestInfo.serialize, hr]
    simp
  | connectResponse r =>
    have hcrd : r.crd.length ≤ 65519 := hr
    rw [serialize, ConnectResponse.serialize, List.length_append, List.length_append,
      Hpai.serialize_length, List.length_cons, List.length_singleton]
    omega
  | sessionRequest r => simp [serialize, SessionRequest.serialize, Hpai.serialize_length]
  | sessionResponse r => simp [serialize, SessionResponse.serialize]
  | sessionAuthenticate a => simp [serialize, SessionAuthenticate.serialize]
  | sessionStatus s => simp [serialize, SessionStatus.serialize]
  | connectionstateRequest r => simp [serialize, ChannelRequest.serialize, Hpai.serialize_length]
  | connectionstateResponse r => simp [serialize, ChannelResponse.serialize]
  | disconnectRequest r => simp [serialize, ChannelRequest.serialize, Hpai.serialize_length]
  | disconnectResponse r => simp [serialize, ChannelResponse.serialize]
  | tunnellingRequest r => exact hm
  | tunnellingAck a => simp [serialize, TunnellingAck.serialize]

theorem readable_of_roundTrips (hm : m.Transmissible) (h : m.RoundTrips) : m.Readable := by
  obtain ⟨frame, hframe, hbody⟩ := h
  cases m with
  | connectRequest r =>
    cases haddr : r.cri.individualAddress with
    | none => exact haddr
    | some addr =>
      have hlength : r.serialize.length ≤ 65529 := by
        rw [ConnectRequest.serialize, List.length_append, List.length_append,
          Hpai.serialize_length, Hpai.serialize_length, ConnectionRequestInfo.serialize, haddr]
        simp
      have hnew := KnxIpFrame.parse_serialize_new .connectRequest hlength
      obtain rfl := Outcome.ok.inj (hnew.symm.trans hframe)
      have hparse : ConnectRequest.parse r.serialize =
          parseError 0 "Invalid CRI length: 6" := by
        rw [ConnectRequest.parse_serialize hm.1 hm.2,
          ConnectionRequestInfo.parse_serialize_extended haddr]
        rfl
      obtain ⟨r', hr', -⟩ := Outcome.map_eq_ok.mp (Option.some.inj hbody)
      cases hparse.symm.trans hr'
  | connectResponse r =>
    rw [KnxIpFrame.serviceType_of_parse hframe] at hbody
    obtain ⟨r', hr', heq⟩ := Outcome.map_eq_ok.mp (Option.some.inj hbody)
    cases heq
    have hcrd := ConnectResponse.crd_of_parse hr' hm.1
    have hlength := KnxIpFrame.body_length_of_parse hframe
    rw [Readable, hcrd, List.length_drop]
    omega
  | _ => trivial

/-- A message comes back unless it requests an individual address or carries more
connection data than a frame can hold. -/
theorem roundTrips_iff_readable (m : Message) (hm : m.Transmissible) :
    m.RoundTrips ↔ m.Readable := by
  refine ⟨readable_of_roundTrips hm, fun hr ↦ ⟨KnxIpFrame.new m.serviceType m.serialize, ?_, ?_⟩⟩
  · exact KnxIpFrame.parse_serialize_new _ (serialize_length_le hm hr)
  · exact parseBody_serialize hm hr

namespace Reference

def connectRequest (individualAddress : Option IndividualAddress) : Message :=
  .connectRequest { ConnectRequest.newRouteBack with
    cri := { ConnectionRequestInfo.newTunnel with individualAddress } }

theorem connectRequest_transmissible (individualAddress : Option IndividualAddress) :
    (connectRequest individualAddress).Transmissible := ⟨⟨_, rfl⟩, ⟨_, rfl⟩⟩

end Reference

theorem plain_connect_request_round_trips : (Reference.connectRequest none).RoundTrips :=
  (roundTrips_iff_readable _ (Reference.connectRequest_transmissible none)).mpr rfl

theorem requested_address_not_read_back :
    (Reference.connectRequest (some ⟨0x1105⟩)).Transmissible ∧
      ¬ (Reference.connectRequest (some ⟨0x1105⟩)).RoundTrips := by
  refine ⟨Reference.connectRequest_transmissible _, fun h ↦ ?_⟩
  have hreadable := readable_of_roundTrips (Reference.connectRequest_transmissible _) h
  cases hreadable

end Message

end Knust.Protocol
