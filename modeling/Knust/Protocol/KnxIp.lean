import Knust.Foundation.BigEndian
import Knust.Foundation.Block
import Knust.Protocol.Address

namespace Knust.Protocol

open Foundation

inductive ServiceType
  | searchRequest | searchResponse | descriptionRequest | descriptionResponse
  | connectRequest | connectResponse | connectionstateRequest | connectionstateResponse
  | disconnectRequest | disconnectResponse | deviceConfigurationRequest | deviceConfigurationAck
  | tunnellingRequest | tunnellingAck | routingIndication | routingLostMessage | routingBusy
  | secureWrapper | sessionRequest | sessionResponse | sessionAuthenticate | sessionStatus
  deriving Repr, DecidableEq

namespace ServiceType

def toU16 : ServiceType → UInt16
  | .searchRequest => 0x0201
  | .searchResponse => 0x0202
  | .descriptionRequest => 0x0203
  | .descriptionResponse => 0x0204
  | .connectRequest => 0x0205
  | .connectResponse => 0x0206
  | .connectionstateRequest => 0x0207
  | .connectionstateResponse => 0x0208
  | .disconnectRequest => 0x0209
  | .disconnectResponse => 0x020A
  | .deviceConfigurationRequest => 0x0310
  | .deviceConfigurationAck => 0x0311
  | .tunnellingRequest => 0x0420
  | .tunnellingAck => 0x0421
  | .routingIndication => 0x0530
  | .routingLostMessage => 0x0531
  | .routingBusy => 0x0532
  | .secureWrapper => 0x0950
  | .sessionRequest => 0x0951
  | .sessionResponse => 0x0952
  | .sessionAuthenticate => 0x0953
  | .sessionStatus => 0x0954

def fromU16 (value : UInt16) : Option ServiceType :=
  if value = 0x0201 then some .searchRequest
  else if value = 0x0202 then some .searchResponse
  else if value = 0x0203 then some .descriptionRequest
  else if value = 0x0204 then some .descriptionResponse
  else if value = 0x0205 then some .connectRequest
  else if value = 0x0206 then some .connectResponse
  else if value = 0x0207 then some .connectionstateRequest
  else if value = 0x0208 then some .connectionstateResponse
  else if value = 0x0209 then some .disconnectRequest
  else if value = 0x020A then some .disconnectResponse
  else if value = 0x0310 then some .deviceConfigurationRequest
  else if value = 0x0311 then some .deviceConfigurationAck
  else if value = 0x0420 then some .tunnellingRequest
  else if value = 0x0421 then some .tunnellingAck
  else if value = 0x0530 then some .routingIndication
  else if value = 0x0531 then some .routingLostMessage
  else if value = 0x0532 then some .routingBusy
  else if value = 0x0950 then some .secureWrapper
  else if value = 0x0951 then some .sessionRequest
  else if value = 0x0952 then some .sessionResponse
  else if value = 0x0953 then some .sessionAuthenticate
  else if value = 0x0954 then some .sessionStatus
  else none

def toString : ServiceType → String
  | .searchRequest => "SearchRequest"
  | .searchResponse => "SearchResponse"
  | .descriptionRequest => "DescriptionRequest"
  | .descriptionResponse => "DescriptionResponse"
  | .connectRequest => "ConnectRequest"
  | .connectResponse => "ConnectResponse"
  | .connectionstateRequest => "ConnectionstateRequest"
  | .connectionstateResponse => "ConnectionstateResponse"
  | .disconnectRequest => "DisconnectRequest"
  | .disconnectResponse => "DisconnectResponse"
  | .deviceConfigurationRequest => "DeviceConfigurationRequest"
  | .deviceConfigurationAck => "DeviceConfigurationAck"
  | .tunnellingRequest => "TunnellingRequest"
  | .tunnellingAck => "TunnellingAck"
  | .routingIndication => "RoutingIndication"
  | .routingLostMessage => "RoutingLostMessage"
  | .routingBusy => "RoutingBusy"
  | .secureWrapper => "SecureWrapper"
  | .sessionRequest => "SessionRequest"
  | .sessionResponse => "SessionResponse"
  | .sessionAuthenticate => "SessionAuthenticate"
  | .sessionStatus => "SessionStatus"

theorem fromU16_toU16 (s : ServiceType) : fromU16 s.toU16 = some s := by cases s <;> decide

theorem toU16_of_fromU16 {value : UInt16} {s : ServiceType} (h : fromU16 value = some s) :
    s.toU16 = value := by
  have hcases {c : Prop} [Decidable c] {a : ServiceType} {rest : Option ServiceType}
      (h : (if c then some a else rest) = some s) : (c ∧ a = s) ∨ rest = some s := by
    by_cases hc : c
    · exact .inl ⟨hc, Option.some.inj (by rwa [if_pos hc] at h)⟩
    · exact .inr (by rwa [if_neg hc] at h)
  unfold fromU16 at h
  iterate 22
    rcases hcases h with ⟨rfl, rfl⟩ | h
    · rfl
  cases h

end ServiceType

structure KnxIpHeader where
  headerLength : UInt8
  protocolVersion : UInt8
  serviceType : ServiceType
  totalLength : UInt16
  deriving Repr, DecidableEq

namespace KnxIpHeader

def length : ℕ := 6

def new (serviceType : ServiceType) (bodyLength : UInt16) : KnxIpHeader where
  headerLength := 6
  protocolVersion := 0x10
  serviceType := serviceType
  totalLength := 6 + bodyLength

def parse (data : List UInt8) : Result KnxIpHeader :=
  if data.length < length then parseError 0 s!"Header too short: {data.length} bytes"
  else do
    let headerLength ← index data 0
    let protocolVersion ← index data 1
    let serviceTypeRaw := u16OfBytes (← index data 2) (← index data 3)
    let totalLength := u16OfBytes (← index data 4) (← index data 5)
    if headerLength ≠ 6 then parseError 0 s!"Invalid header length: {headerLength}"
    else if protocolVersion ≠ 0x10 then
      .err (.protocol (.unsupportedVersion protocolVersion))
    else match ServiceType.fromU16 serviceTypeRaw with
      | none => parseError 2 s!"Unknown service type: 0x{hex 4 serviceTypeRaw.toNat}"
      | some serviceType => .ok { headerLength, protocolVersion, serviceType, totalLength }

def serialize (h : KnxIpHeader) : List UInt8 :=
  [h.headerLength, h.protocolVersion] ++ u16Bytes h.serviceType.toU16 ++ u16Bytes h.totalLength

@[simp] theorem serialize_length (h : KnxIpHeader) : h.serialize.length = 6 := by
  simp [serialize]

theorem parse_serialize (h : KnxIpHeader) (rest : List UInt8) (hl : h.headerLength = 6)
    (hv : h.protocolVersion = 0x10) : parse (h.serialize ++ rest) = .ok h := by
  rw [parse, if_neg (by simp [length])]
  simp only [serialize, u16Bytes_eq, hl, hv, index]
  simp [ServiceType.fromU16_toU16, ← hl, ← hv]

theorem parse_cons (b₀ b₁ b₂ b₃ b₄ b₅ : UInt8) (rest : List UInt8) :
    parse (b₀ :: b₁ :: b₂ :: b₃ :: b₄ :: b₅ :: rest) =
      if b₀ ≠ 6 then parseError 0 s!"Invalid header length: {b₀}"
      else if b₁ ≠ 0x10 then .err (.protocol (.unsupportedVersion b₁))
      else match ServiceType.fromU16 (u16OfBytes b₂ b₃) with
        | none => parseError 2 s!"Unknown service type: 0x{hex 4 (u16OfBytes b₂ b₃).toNat}"
        | some serviceType => .ok ⟨b₀, b₁, serviceType, u16OfBytes b₄ b₅⟩ := by
  rw [parse, if_neg (by simp [length])]
  rfl

theorem exists_cons {data : List UInt8} (h : length ≤ data.length) :
    ∃ b₀ b₁ b₂ b₃ b₄ b₅ rest, data = b₀ :: b₁ :: b₂ :: b₃ :: b₄ :: b₅ :: rest := by
  match data, h with
  | b₀ :: b₁ :: b₂ :: b₃ :: b₄ :: b₅ :: rest, _ => exact ⟨b₀, b₁, b₂, b₃, b₄, b₅, rest, rfl⟩

theorem parse_ne_panic (data : List UInt8) : parse data ≠ .panic := by
  by_cases hlength : data.length < length
  · simp [parse, hlength, parseError]
  obtain ⟨b₀, b₁, b₂, b₃, b₄, b₅, rest, rfl⟩ := exists_cons (Nat.le_of_not_lt hlength)
  rw [parse_cons]
  split
  · simp [parseError]
  · split
    · simp
    · split <;> simp [parseError]

theorem parse_eq_ok_iff {data : List UInt8} {header : KnxIpHeader} :
    parse data = .ok header ↔ header.headerLength = 6 ∧ header.protocolVersion = 0x10 ∧
      ∃ rest, data = header.serialize ++ rest := by
  constructor
  · intro h
    by_cases hlength : data.length < length
    · simp [parse, hlength, parseError] at h
    obtain ⟨b₀, b₁, b₂, b₃, b₄, b₅, rest, rfl⟩ := exists_cons (Nat.le_of_not_lt hlength)
    rw [parse_cons] at h
    by_cases h₀ : b₀ = 6
    swap
    · simp [h₀, parseError] at h
    by_cases h₁ : b₁ = 0x10
    swap
    · simp [h₀, h₁] at h
    simp only [h₀, h₁, ne_eq, not_true_eq_false, if_false] at h
    split at h
    · simp [parseError] at h
    · rename_i serviceType htype
      cases h
      refine ⟨rfl, rfl, rest, ?_⟩
      simp [serialize, h₀, h₁, ServiceType.toU16_of_fromU16 htype]
  · rintro ⟨hl, hv, rest, rfl⟩
    exact parse_serialize header rest hl hv

end KnxIpHeader

inductive IpAddr
  | v4 (octets : Block 4)
  | v6 (octets : Block 16)
  deriving DecidableEq

def IpAddr.unspecifiedV4 : IpAddr := .v4 (Block.zero 4)

inductive SocketAddr
  | v4 (octets : Block 4) (port : UInt16)
  | v6 (octets : Block 16) (port : UInt16) (flowinfo scopeId : UInt32)
  deriving DecidableEq

namespace SocketAddr

def new : IpAddr → UInt16 → SocketAddr
  | .v4 octets, port => .v4 octets port
  | .v6 octets, port => .v6 octets port 0 0

def ip : SocketAddr → IpAddr
  | .v4 octets _ => .v4 octets
  | .v6 octets _ _ _ => .v6 octets

def port : SocketAddr → UInt16
  | .v4 _ port | .v6 _ port _ _ => port

end SocketAddr

structure Hpai where
  hostProtocolCode : UInt8
  ipAddr : IpAddr
  port : UInt16
  deriving DecidableEq

namespace Hpai

def length : ℕ := 8

def protocolUdp : UInt8 := 0x01

def protocolTcp : UInt8 := 0x02

def new (addr : SocketAddr) : Hpai := ⟨protocolUdp, addr.ip, addr.port⟩

def routeBack : Hpai := ⟨protocolUdp, .unspecifiedV4, 0⟩

def newTcpRouteBack : Hpai := ⟨protocolTcp, .unspecifiedV4, 0⟩

def parse (data : List UInt8) : Result Hpai :=
  if data.length < length then parseError 0 s!"HPAI too short: {data.length} bytes"
  else do
    let structureLength ← index data 0
    let hostProtocolCode ← index data 1
    let ipBytes ← toBlock 4 (← slice data 2 6)
    let port := u16OfBytes (← index data 6) (← index data 7)
    if structureLength ≠ 8 then parseError 0 s!"Invalid HPAI length: {structureLength}"
    else .ok { hostProtocolCode, ipAddr := .v4 ipBytes, port }

def ipBytes : IpAddr → List UInt8
  | .v4 octets => octets.val
  | .v6 _ => [0, 0, 0, 0]

def serialize (h : Hpai) : List UInt8 :=
  [8, h.hostProtocolCode] ++ ipBytes h.ipAddr ++ u16Bytes h.port

def socketAddr (h : Hpai) : SocketAddr := SocketAddr.new h.ipAddr h.port

end Hpai

structure ConnectionRequestInfo where
  connectionType : UInt8
  knxLayer : UInt8
  reserved : UInt8
  individualAddress : Option IndividualAddress
  deriving DecidableEq

namespace ConnectionRequestInfo

def tunnelConnection : UInt8 := 0x04

def tunnelLinklayer : UInt8 := 0x02

def newTunnel : ConnectionRequestInfo := ⟨tunnelConnection, tunnelLinklayer, 0, none⟩

/-- Only the four-byte form is accepted, so a requested address is never read. -/
def parse (data : List UInt8) : Result ConnectionRequestInfo :=
  if data.length < 4 then parseError 0 s!"CRI too short: {data.length} bytes"
  else do
    let structureLength ← index data 0
    let connectionType ← index data 1
    let knxLayer ← index data 2
    let reserved ← index data 3
    if structureLength ≠ 4 then parseError 0 s!"Invalid CRI length: {structureLength}"
    else .ok { connectionType, knxLayer, reserved, individualAddress := none }

def serialize (c : ConnectionRequestInfo) : List UInt8 :=
  match c.individualAddress with
  | some addr => [6, c.connectionType, c.knxLayer, c.reserved] ++ u16Bytes addr.raw
  | none => [4, c.connectionType, c.knxLayer, c.reserved]

end ConnectionRequestInfo

structure ConnectRequest where
  controlEndpoint : Hpai
  dataEndpoint : Hpai
  cri : ConnectionRequestInfo
  deriving DecidableEq

namespace ConnectRequest

def new (controlAddr dataAddr : SocketAddr) : ConnectRequest :=
  ⟨Hpai.new controlAddr, Hpai.new dataAddr, .newTunnel⟩

def newTcpRouteBack : ConnectRequest :=
  ⟨.newTcpRouteBack, .newTcpRouteBack, .newTunnel⟩

def newRouteBack : ConnectRequest := ⟨.routeBack, .routeBack, .newTunnel⟩

def parse (data : List UInt8) : Result ConnectRequest := do
  let controlEndpoint ← Hpai.parse (← sliceFrom data 0)
  let dataEndpoint ← Hpai.parse (← sliceFrom data 8)
  let cri ← ConnectionRequestInfo.parse (← sliceFrom data 16)
  .ok { controlEndpoint, dataEndpoint, cri }

def serialize (r : ConnectRequest) : List UInt8 :=
  r.controlEndpoint.serialize ++ r.dataEndpoint.serialize ++ r.cri.serialize

end ConnectRequest

structure ConnectResponse where
  channelId : UInt8
  status : UInt8
  dataEndpoint : Hpai
  crd : List UInt8
  assignedAddress : Option IndividualAddress
  deriving DecidableEq

namespace ConnectResponse

def statusOk : UInt8 := 0x00

def statusErrorConnectionId : UInt8 := 0x21

def statusErrorNoMoreConnections : UInt8 := 0x24

def parseAssignedAddress (crd : List UInt8) : Option IndividualAddress :=
  match crd with
  | _ :: connectionType :: hi :: lo :: _ =>
    if connectionType = ConnectionRequestInfo.tunnelConnection then some ⟨u16OfBytes hi lo⟩ else none
  | _ => none

/-- The data endpoint and the connection data, present in positive answers only. -/
def parseEndpoint (data : List UInt8) (status : UInt8) : Result (Hpai × List UInt8) :=
  if status = statusOk then
    if data.length > 2 then do
      let hpai ← Hpai.parse (← sliceFrom data 2)
      let crd ← if data.length > 10 then sliceFrom data 10 else .ok []
      .ok (hpai, crd)
    else parseError 2 "Missing data endpoint in connect response"
  else .ok (.routeBack, [])

def parse (data : List UInt8) : Result ConnectResponse :=
  if data.length < 2 then parseError 0 "Connect response too short"
  else do
    let channelId ← index data 0
    let status ← index data 1
    let (dataEndpoint, crd) ← parseEndpoint data status
    .ok { channelId, status, dataEndpoint, crd, assignedAddress := parseAssignedAddress crd }

def serialize (r : ConnectResponse) : List UInt8 :=
  [r.channelId, r.status] ++ r.dataEndpoint.serialize ++ r.crd

def isSuccess (r : ConnectResponse) : Bool := r.status = statusOk

def statusDescription (status : UInt8) : String :=
  if status = statusOk then "OK"
  else if status = 0x01 then "Host protocol type not supported"
  else if status = 0x02 then "Version not supported"
  else if status = 0x04 then "Sequence number error"
  else if status = 0x0F then "General error"
  else if status = statusErrorConnectionId then "Connection ID error"
  else if status = 0x22 then "Connection type not supported"
  else if status = 0x23 then "Connection option not supported"
  else if status = statusErrorNoMoreConnections then "No more connections available"
  else if status = 0x25 then "No more unique connections available"
  else if status = 0x26 then "Data connection error"
  else if status = 0x27 then "KNX connection error"
  else if status = 0x28 then "Authorization error"
  else if status = 0x29 then "Tunnelling layer not supported"
  else if status = 0x2D then "No tunnelling address available"
  else if status = 0x2E then "Connection address already in use"
  else "Unknown error"

def errorMessage (r : ConnectResponse) : Option String :=
  if r.status = statusOk then none
  else some s!"Gateway rejected connection: {statusDescription r.status} (0x{hex 2 r.status.toNat})"

end ConnectResponse

structure KnxIpFrame where
  header : KnxIpHeader
  body : List UInt8
  deriving DecidableEq

namespace KnxIpFrame

def new (serviceType : ServiceType) (body : List UInt8) : KnxIpFrame where
  header := KnxIpHeader.new serviceType (UInt16.ofNat body.length)
  body := body

/-- A declared length below the header size reaches the slice and aborts. -/
def parse (data : List UInt8) : Result KnxIpFrame := do
  let header ← KnxIpHeader.parse data
  if data.length < header.totalLength.toNat then
    parseError 0 s!"Frame too short: expected {header.totalLength} bytes, got {data.length}"
  else do
    let body ← slice data KnxIpHeader.length header.totalLength.toNat
    .ok { header, body }

def serialize (f : KnxIpFrame) : List UInt8 := f.header.serialize ++ f.body

theorem parse_serialize_new (s : ServiceType) {body : List UInt8} (hb : body.length ≤ 65529) :
    parse (new s body).serialize = .ok (new s body) := by
  have hlen : (6 + UInt16.ofNat body.length).toNat = 6 + body.length := by
    rw [UInt16.toNat_add, UInt16.toNat_ofNat']
    simp
    omega
  have hslice := slice_append (ε := KnxError)
    (KnxIpHeader.new s (UInt16.ofNat body.length)).serialize body 0 body.length
  rw [KnxIpHeader.serialize_length, slice_of_le (Nat.zero_le _) le_rfl] at hslice
  rw [parse, serialize, KnxIpHeader.parse_serialize _ _ rfl rfl, Outcome.ok_bind]
  simp only [new, KnxIpHeader.new, hlen, List.length_append, KnxIpHeader.serialize_length,
    Nat.lt_irrefl, if_false] at hslice ⊢
  simp [KnxIpHeader.length, hslice]

variable {frame : KnxIpFrame}

theorem serviceType_of_parse {s : ServiceType} {body : List UInt8}
    (h : parse (new s body).serialize = .ok frame) : frame.header.serviceType = s := by
  obtain ⟨header, hheader, h⟩ := Outcome.bind_eq_ok.mp h
  rw [serialize, KnxIpHeader.parse_serialize _ _ rfl rfl] at hheader
  obtain rfl := Outcome.ok.inj hheader
  split at h
  · simp [parseError] at h
  · obtain ⟨body', -, h⟩ := Outcome.bind_eq_ok.mp h
    cases h
    rfl

theorem body_of_parse {data : List UInt8} (h : parse data = .ok frame) :
    ∃ rest, data.drop 6 = frame.body ++ rest := by
  obtain ⟨header, -, h⟩ := Outcome.bind_eq_ok.mp h
  split at h
  · simp [parseError] at h
  · obtain ⟨body, hb, h⟩ := Outcome.bind_eq_ok.mp h
    obtain ⟨-, rfl⟩ := slice_eq_ok.mp hb
    cases h
    exact ⟨_, (List.take_append_drop _ _).symm⟩

theorem body_length_of_parse {data : List UInt8} (h : parse data = .ok frame) :
    frame.body.length ≤ 65529 := by
  obtain ⟨header, -, h⟩ := Outcome.bind_eq_ok.mp h
  obtain ⟨-, h⟩ := checked_eq_ok.mp h
  obtain ⟨body, hbody, h⟩ := Outcome.bind_eq_ok.mp h
  cases h
  have htotal := header.totalLength.toNat_lt
  have hlength := length_of_slice hbody
  rw [KnxIpHeader.length] at hlength
  dsimp only
  omega

theorem parse_append {data : List UInt8} (h : parse data = .ok frame) (more : List UInt8) :
    parse (data ++ more) = .ok frame := by
  obtain ⟨header, hheader, h⟩ := Outcome.bind_eq_ok.mp h
  obtain ⟨hl, hv, rest, rfl⟩ := KnxIpHeader.parse_eq_ok_iff.mp hheader
  split at h
  · simp [parseError] at h
  rename_i hlength
  obtain ⟨body, hslice, h⟩ := Outcome.bind_eq_ok.mp h
  cases h
  rw [parse, List.append_assoc, KnxIpHeader.parse_serialize header _ hl hv, Outcome.ok_bind,
    if_neg (by simp only [List.length_append] at hlength ⊢; omega), ← List.append_assoc]
  obtain ⟨⟨hlo, hhi⟩, hbody⟩ := slice_eq_ok.mp hslice
  rw [slice_of_le hlo (by rw [List.length_append]; omega), Outcome.ok_bind, ← hbody,
    List.drop_append_of_le_length (by omega), List.take_append_of_le_length]
  rw [List.length_drop]
  omega

def serviceTypeOf (frame : List UInt8) : Option ServiceType :=
  match parse frame with
  | .ok f => some f.header.serviceType
  | _ => none

theorem serviceTypeOf_new (s : ServiceType) {body : List UInt8} (hb : body.length ≤ 65529) :
    serviceTypeOf (new s body).serialize = some s := by
  rw [serviceTypeOf, parse_serialize_new s hb]
  rfl

end KnxIpFrame

structure SessionRequest where
  controlEndpoint : Hpai
  publicKey : Block 32
  deriving DecidableEq

namespace SessionRequest

def parse (data : List UInt8) : Result SessionRequest :=
  if data.length < 40 then parseError 0 s!"SessionRequest too short: {data.length} bytes"
  else do
    let controlEndpoint ← Hpai.parse data
    let publicKey ← toBlock 32 (← slice data 8 40)
    .ok { controlEndpoint, publicKey }

def serialize (r : SessionRequest) : List UInt8 :=
  r.controlEndpoint.serialize ++ r.publicKey.val

end SessionRequest

structure SessionResponse where
  sessionId : UInt16
  publicKey : Block 32
  mac : Block 16
  deriving DecidableEq

namespace SessionResponse

def parse (data : List UInt8) : Result SessionResponse :=
  if data.length < 50 then parseError 0 s!"SessionResponse too short: {data.length} bytes"
  else do
    let sessionId := u16OfBytes (← index data 0) (← index data 1)
    let publicKey ← toBlock 32 (← slice data 2 34)
    let mac ← toBlock 16 (← slice data 34 50)
    .ok { sessionId, publicKey, mac }

def serialize (r : SessionResponse) : List UInt8 :=
  u16Bytes r.sessionId ++ r.publicKey.val ++ r.mac.val

theorem parse_serialize (r : SessionResponse) (rest : List UInt8) :
    parse (r.serialize ++ rest) = .ok r := by
  have hkey : (slice (r.serialize ++ rest) 2 34 : Result _) = .ok r.publicKey.val :=
    slice_middle (u16Bytes r.sessionId) (r.mac.val ++ rest) (by simp [serialize]) (by simp) (by simp)
  have hmac : (slice (r.serialize ++ rest) 34 50 : Result _) = .ok r.mac.val :=
    slice_middle (u16Bytes r.sessionId ++ r.publicKey.val) rest (by simp [serialize]) (by simp)
      (by simp)
  have hhi : (index (r.serialize ++ rest) 0 : Result _) = .ok (hiByte r.sessionId) := by
    simp [serialize, u16Bytes_eq, index]
  have hlo : (index (r.serialize ++ rest) 1 : Result _) = .ok (loByte r.sessionId) := by
    simp [serialize, u16Bytes_eq, index]
  have hlen : 50 ≤ (r.serialize ++ rest).length := by
    simp [serialize]
    omega
  rw [parse, if_neg (by omega), hhi, hlo, hkey, hmac]
  simp

theorem exists_serialize {data : List UInt8} (h : 50 ≤ data.length) :
    ∃ (r : SessionResponse) (rest : List UInt8), data = r.serialize ++ rest := by
  obtain ⟨id, data, rfl⟩ := Block.exists_append (n := 2) (show 2 ≤ data.length by omega)
  rw [List.length_append, Block.length] at h
  obtain ⟨key, data, rfl⟩ := Block.exists_append (n := 32) (show 32 ≤ data.length by omega)
  rw [List.length_append, Block.length] at h
  obtain ⟨mac, rest, rfl⟩ := Block.exists_append (n := 16) (show 16 ≤ data.length by omega)
  obtain ⟨sessionId, hid⟩ := exists_u16Bytes id.property
  exact ⟨⟨sessionId, key, mac⟩, rest, by simp [serialize, hid]⟩

theorem parse_eq_ok_iff {data : List UInt8} {r : SessionResponse} :
    parse data = .ok r ↔ ∃ rest, data = r.serialize ++ rest := by
  constructor
  · intro h
    have hlen : 50 ≤ data.length := by
      by_contra hlen
      rw [parse, if_pos (by omega)] at h
      simp [parseError] at h
    obtain ⟨r', rest, rfl⟩ := exists_serialize hlen
    rw [parse_serialize, Outcome.ok.injEq] at h
    exact ⟨rest, by rw [h]⟩
  · rintro ⟨rest, rfl⟩
    exact parse_serialize r rest

end SessionResponse

structure SessionAuthenticate where
  userId : UInt8
  mac : Block 16
  deriving DecidableEq

namespace SessionAuthenticate

def parse (data : List UInt8) : Result SessionAuthenticate :=
  if data.length < 18 then parseError 0 s!"SessionAuthenticate too short: {data.length} bytes"
  else do
    let userId ← index data 1
    let mac ← toBlock 16 (← slice data 2 18)
    .ok { userId, mac }

def serialize (a : SessionAuthenticate) : List UInt8 := [0x00, a.userId] ++ a.mac.val

end SessionAuthenticate

structure SessionStatus where
  status : UInt8
  deriving DecidableEq

namespace SessionStatus

def statusOk : UInt8 := 0x00

def statusAuthFailed : UInt8 := 0x01

def parse (data : List UInt8) : Result SessionStatus :=
  if data.length < 2 then parseError 0 s!"SessionStatus too short: {data.length} bytes"
  else do .ok { status := ← index data 1 }

def serialize (s : SessionStatus) : List UInt8 := [0x00, s.status]

def isSuccess (s : SessionStatus) : Bool := s.status = statusOk

theorem parse_eq_ok_iff {data : List UInt8} {s : SessionStatus} :
    parse data = .ok s ↔ ∃ reserved rest, data = reserved :: s.status :: rest := by
  rcases data with _ | ⟨reserved, _ | ⟨status, rest⟩⟩
  · simp [parse, parseError]
  · simp [parse, parseError]
  · have hparse : parse (reserved :: status :: rest) = .ok ⟨status⟩ := by simp [parse, index]
    rw [hparse, Outcome.ok.injEq]
    constructor
    · rintro rfl
      exact ⟨reserved, rest, rfl⟩
    · rintro ⟨_, _, h⟩
      cases h
      rfl

end SessionStatus

structure ChannelRequest where
  communicationChannelId : UInt8
  controlEndpoint : Hpai
  deriving DecidableEq

namespace ChannelRequest

def parseNamed (name : String) (data : List UInt8) : Result ChannelRequest :=
  if data.length < 10 then parseError 0 s!"{name} too short: {data.length} bytes"
  else do
    let communicationChannelId ← index data 0
    let controlEndpoint ← Hpai.parse (← sliceFrom data 2)
    .ok { communicationChannelId, controlEndpoint }

def serialize (r : ChannelRequest) : List UInt8 :=
  [r.communicationChannelId, 0x00] ++ r.controlEndpoint.serialize

end ChannelRequest

structure ChannelResponse where
  communicationChannelId : UInt8
  status : UInt8
  deriving DecidableEq

namespace ChannelResponse

def statusOk : UInt8 := 0x00

def parseNamed (name : String) (data : List UInt8) : Result ChannelResponse :=
  if data.length < 2 then parseError 0 s!"{name} too short: {data.length} bytes"
  else do
    let communicationChannelId ← index data 0
    let status ← index data 1
    .ok { communicationChannelId, status }

def serialize (r : ChannelResponse) : List UInt8 := [r.communicationChannelId, r.status]

def isSuccess (r : ChannelResponse) : Bool := r.status = statusOk

end ChannelResponse

abbrev ConnectionstateRequest := ChannelRequest

def ConnectionstateRequest.parse : List UInt8 → Result ConnectionstateRequest :=
  ChannelRequest.parseNamed "Connectionstate request"

abbrev ConnectionstateResponse := ChannelResponse

def ConnectionstateResponse.parse : List UInt8 → Result ConnectionstateResponse :=
  ChannelResponse.parseNamed "Connectionstate response"

abbrev DisconnectRequest := ChannelRequest

def DisconnectRequest.parse : List UInt8 → Result DisconnectRequest :=
  ChannelRequest.parseNamed "Disconnect request"

abbrev DisconnectResponse := ChannelResponse

def DisconnectResponse.parse : List UInt8 → Result DisconnectResponse :=
  ChannelResponse.parseNamed "Disconnect response"

structure TunnellingRequest where
  communicationChannelId : UInt8
  sequenceCounter : UInt8
  rawCemi : List UInt8
  deriving DecidableEq

namespace TunnellingRequest

def parse (data : List UInt8) : Result TunnellingRequest :=
  if data.length < 4 then parseError 0 s!"Tunnelling request too short: {data.length} bytes"
  else do
    let structureLength ← index data 0
    if structureLength ≠ 4 then
      parseError 0 s!"Invalid tunnelling request header length: {structureLength}"
    else do
      let communicationChannelId ← index data 1
      let sequenceCounter ← index data 2
      let rawCemi ← sliceFrom data 4
      .ok { communicationChannelId, sequenceCounter, rawCemi }

def serialize (r : TunnellingRequest) : List UInt8 :=
  [4, r.communicationChannelId, r.sequenceCounter, 0x00] ++ r.rawCemi

theorem parse_serialize (r : TunnellingRequest) : parse r.serialize = .ok r := by
  simp [parse, serialize, index, sliceFrom]

theorem eq_of_parse {data : List UInt8} {r : TunnellingRequest} (h : parse data = .ok r) :
    ∃ reserved,
      data = 4 :: r.communicationChannelId :: r.sequenceCounter :: reserved :: r.rawCemi := by
  rcases data with _ | ⟨b₀, _ | ⟨b₁, _ | ⟨b₂, _ | ⟨b₃, rest⟩⟩⟩⟩
  iterate 4 simp [parse, parseError] at h
  rw [parse, if_neg (by simp)] at h
  by_cases h₀ : b₀ = 4
  · have hr : ⟨b₁, b₂, rest⟩ = r := by simpa [index, sliceFrom, h₀] using h
    exact ⟨b₃, by rw [← hr, h₀]⟩
  · simp [index, h₀, parseError] at h

end TunnellingRequest

structure TunnellingAck where
  communicationChannelId : UInt8
  sequenceCounter : UInt8
  statusCode : UInt8
  deriving DecidableEq

namespace TunnellingAck

def statusOk : UInt8 := 0x00

def statusErrorSequenceNumber : UInt8 := 0x04

def newOk (channelId sequenceCounter : UInt8) : TunnellingAck :=
  ⟨channelId, sequenceCounter, statusOk⟩

def newSequenceError (channelId sequenceCounter : UInt8) : TunnellingAck :=
  ⟨channelId, sequenceCounter, statusErrorSequenceNumber⟩

def parse (data : List UInt8) : Result TunnellingAck :=
  if data.length < 4 then parseError 0 s!"Tunnelling ack too short: {data.length} bytes"
  else do
    let structureLength ← index data 0
    if structureLength ≠ 4 then
      parseError 0 s!"Invalid tunnelling ack body length: {structureLength}"
    else do
      let communicationChannelId ← index data 1
      let sequenceCounter ← index data 2
      let statusCode ← index data 3
      .ok { communicationChannelId, sequenceCounter, statusCode }

def serialize (a : TunnellingAck) : List UInt8 :=
  [4, a.communicationChannelId, a.sequenceCounter, a.statusCode]

theorem parse_serialize (a : TunnellingAck) : parse a.serialize = .ok a := by
  simp [parse, serialize, index]

def isSuccess (a : TunnellingAck) : Bool := a.statusCode = statusOk

end TunnellingAck

end Knust.Protocol
