import Knust.Foundation.LengthBlocks
import Knust.Foundation.Text
import Knust.Protocol.KnxIp
import Mathlib.Data.List.Induction

namespace Knust.Transport.Discovery

open Foundation LengthBlocks
open Protocol (IpAddr SocketAddr)

inductive ServiceType
  | core
  | deviceManagement
  | tunneling
  | routing
  | remoteLogging
  | remoteConfiguration
  | objectServer
  deriving DecidableEq

structure GatewayCapabilities where
  supportsTunneling : Bool
  supportsRouting : Bool
  supportsDeviceManagement : Bool
  maxTunnelingConnections : UInt8
  deriving DecidableEq

structure GatewayInfo where
  addr : SocketAddr
  name : Text
  capabilities : GatewayCapabilities
  supportedServices : List ServiceType
  deviceSerial : Text
  macAddress : Option Text
  multicastAddr : Option SocketAddr
  deriving DecidableEq

inductive DiscoveryError
  | invalidResponse (addr : Text) (reason : Text)
  deriving DecidableEq

structure AddrDisplay where
  ip : IpAddr → Text
  socket : SocketAddr → Text

structure Findings where
  name : Text
  capabilities : GatewayCapabilities
  supportedServices : List ServiceType
  deviceSerial : Text
  deriving DecidableEq

def upperDigit (n : ℕ) : Char := if n < 10 then Char.ofNat (48 + n) else Char.ofNat (55 + n)

def upperHex (b : UInt8) : Text := [upperDigit (b.toNat / 16), upperDigit (b.toNat % 16)]

def upperHex8 (n : ℕ) : Text :=
  ((Nat.toDigits 16 n).map Char.toUpper).leftpad 8 '0'

def GatewayCapabilities.initial : GatewayCapabilities := ⟨false, false, false, 1⟩

variable (display : AddrDisplay)

def initialFindings (addr : SocketAddr) : Findings where
  name := Text.lit "KNX Gateway " ++ display.ip addr.ip
  capabilities := .initial
  supportedServices := [.core]
  deviceSerial := Text.lit "SN" ++ upperHex8 (display.ip addr.ip).bytes.length

def addFamily (found : Findings) (serviceFamily : UInt8) : Findings :=
  match serviceFamily with
  | 0x03 => { found with
      capabilities := { found.capabilities with supportsDeviceManagement := true }
      supportedServices := found.supportedServices ++ [.deviceManagement] }
  | 0x04 => { found with
      capabilities :=
        { found.capabilities with supportsTunneling := true, maxTunnelingConnections := 4 }
      supportedServices := found.supportedServices ++ [.tunneling] }
  | 0x05 => { found with
      capabilities := { found.capabilities with supportsRouting := true }
      supportedServices := found.supportedServices ++ [.routing] }
  | _ => found

def parseFamilies (data : List UInt8) (limit : ℕ) :
    ℕ → ℕ → Findings → Outcome DiscoveryError Findings
  | 0, _, _ => .panic
  | rounds + 1, servicesOffset, found =>
    if servicesOffset + 2 ≤ limit then do
      let serviceFamily ← index data servicesOffset
      parseFamilies data limit rounds (servicesOffset + 2) (addFamily found serviceFamily)
    else .ok found

def friendlyName (nameBytes : List UInt8) : Option Text :=
  match nameBytes.idxOf? 0 with
  | none => none
  | some nullPos =>
    match Text.fromUtf8 (nameBytes.take nullPos) with
    | none => none
    | some parsedName => if parsedName = [] then none else some parsedName

def parseHardware (data : List UInt8) (offset dibLength : ℕ) (found : Findings) :
    Outcome DiscoveryError Findings :=
  if dibLength ≥ 54 ∧ offset + 54 ≤ data.length then do
    let found ←
      if offset + 18 ≤ data.length then do
        let serialBytes ← slice data (offset + 12) (offset + 18)
        .ok { found with deviceSerial := Text.lit "SN" ++ serialBytes.flatMap upperHex }
      else .ok found
    if offset + 54 ≤ data.length then do
      let nameBytes ← slice data (offset + 24) (offset + 54)
      .ok { found with name := (friendlyName nameBytes).getD found.name }
    else .ok found
  else .ok found

def parseDib (data : List UInt8) (offset dibLength : ℕ) (dibType : UInt8) (found : Findings) :
    Outcome DiscoveryError Findings :=
  match dibType with
  | 0x01 => parseHardware data offset dibLength found
  | 0x02 => parseFamilies data (offset + dibLength) (dibLength + 1) (offset + 2)
      { found with supportedServices := [.core] }
  | _ => .ok found

def parseDibs (data : List UInt8) : ℕ → ℕ → Findings → Outcome DiscoveryError Findings
  | 0, _, _ => .panic
  | rounds + 1, offset, found =>
    if offset < data.length then
      if offset + 2 > data.length then .ok found
      else do
        let dibLength := (← index data offset).toNat
        let dibType ← index data (offset + 1)
        if dibLength < 2 ∨ offset + dibLength > data.length then .ok found
        else do
          let found ← parseDib data offset dibLength dibType found
          parseDibs data rounds (offset + dibLength) found
    else .ok found

def multicastAddr : SocketAddr := .v4 ⟨[224, 0, 23, 12], rfl⟩ 3671

/-- Common capabilities stand in for services that no block has named. -/
def withDefaults (found : Findings) : Findings :=
  if found.supportedServices.length = 1 then
    { found with
      capabilities := { found.capabilities with
        supportsTunneling := true
        supportsDeviceManagement := true
        maxTunnelingConnections := 4 }
      supportedServices := found.supportedServices ++ [.deviceManagement, .tunneling] }
  else found

def gatewayInfo (addr : SocketAddr) (found : Findings) : GatewayInfo where
  addr := addr
  name := found.name
  capabilities := found.capabilities
  supportedServices := found.supportedServices
  deviceSerial := found.deviceSerial
  macAddress := none
  multicastAddr := if found.capabilities.supportsRouting then some multicastAddr else none

def invalidResponse {α : Type} (addr : SocketAddr) (reason : String) :
    Outcome DiscoveryError α := .err (.invalidResponse (display.socket addr) reason.toList)

def parseDiscoveryResponse (data : List UInt8) (addr : SocketAddr) :
    Outcome DiscoveryError GatewayInfo :=
  if data.length < 6 then invalidResponse display addr "Response too short"
  else do
    if (← index data 0) ≠ 0x06 ∨ (← index data 1) ≠ 0x10 then
      invalidResponse display addr "Invalid KNX/IP header"
    else if data.length ≥ 4 ∧ ((← index data 2) ≠ 0x02 ∨ (← index data 3) ≠ 0x02) then
      invalidResponse display addr "Not a search response"
    else do
      let totalLength ←
        if data.length ≥ 6 then do .ok (u16OfBytes (← index data 4) (← index data 5))
        else .ok (UInt16.ofNat data.length)
      if totalLength.toNat > data.length then
        invalidResponse display addr
          s!"Frame length mismatch: expected {totalLength}, got {data.length}"
      else do
        let found ← parseDibs data (data.length + 1) 14 (initialFindings display addr)
        .ok (gatewayInfo addr (withDefaults found))

def families : List UInt8 → List UInt8
  | serviceFamily :: _ :: rest => serviceFamily :: families rest
  | _ => []

def addDib (found : Findings) (dibType : UInt8) (block : List UInt8) : Findings :=
  match dibType with
  | 0x01 =>
    if 54 ≤ block.length then
      { found with
        name := (friendlyName ((block.drop 24).take 30)).getD found.name
        deviceSerial := Text.lit "SN" ++ ((block.drop 12).take 6).flatMap upperHex }
    else found
  | 0x02 => (families (block.drop 2)).foldl addFamily { found with supportedServices := [.core] }
  | _ => found

def addBlock (found : Findings) (block : List UInt8) : Findings :=
  addDib found (block.getD 1 0) block

variable {data : List UInt8}

theorem parseFamilies_eq {limit : ℕ} (hlimit : limit ≤ data.length) {rounds offset : ℕ}
    (hrounds : limit - offset < rounds) (found : Findings) :
    parseFamilies data limit rounds offset found =
      .ok ((families ((data.take limit).drop offset)).foldl addFamily found) := by
  induction rounds generalizing offset found with
  | zero => omega
  | succ rounds ih =>
    rw [parseFamilies]
    split
    · rename_i hmore
      have hfamily : offset < (data.take limit).length := by
        rw [List.length_take]
        omega
      have hversion : offset + 1 < (data.take limit).length := by
        rw [List.length_take]
        omega
      rw [List.drop_eq_getElem_cons hfamily, List.drop_eq_getElem_cons hversion, families,
        List.foldl_cons, List.getElem_take, index, List.getElem?_eq_getElem (by omega)]
      exact ih (by omega) _
    · rename_i hdone
      have hshort : families ((data.take limit).drop offset) = [] := by
        have hlength : ((data.take limit).drop offset).length < 2 := by
          rw [List.length_drop, List.length_take]
          omega
        cases hrest : (data.take limit).drop offset with
        | nil => rfl
        | cons a rest =>
          cases rest with
          | nil => rfl
          | cons b rest =>
            rw [hrest, List.length_cons, List.length_cons] at hlength
            omega
      rw [hshort]
      rfl

theorem parseHardware_eq {offset n : ℕ} (hle : offset + n ≤ data.length) (hn : 54 ≤ n)
    (found : Findings) :
    parseHardware data offset n found =
      .ok { found with
        name := (friendlyName (((data.drop offset).take n |>.drop 24).take 30)).getD found.name
        deviceSerial := Text.lit "SN" ++
          (((data.drop offset).take n |>.drop 12).take 6).flatMap upperHex } := by
  have hslice (lo hi : ℕ) (hlo : lo ≤ hi) (hhi : hi ≤ n) :
      (slice data (offset + lo) (offset + hi) : Outcome DiscoveryError (List UInt8)) =
        .ok ((((data.drop offset).take n).drop lo).take (hi - lo)) := by
    rw [slice_of_le (by omega) (by omega), List.drop_take, List.take_take, List.drop_drop,
      Nat.add_sub_add_left, Nat.min_eq_left (by omega)]
  rw [parseHardware, if_pos ⟨hn, by omega⟩, if_pos (by omega), hslice 12 18 (by omega) (by omega),
    Outcome.ok_bind, Outcome.ok_bind]
  simp only [if_pos (show offset + 54 ≤ data.length by omega), hslice 24 54 (by omega) hn,
    Outcome.ok_bind]

theorem parseDib_eq {offset n : ℕ} {dibType : UInt8} (htwo : 2 ≤ n)
    (hle : offset + n ≤ data.length) (htype : data[offset + 1]? = some dibType) (found : Findings) :
    parseDib data offset n dibType found = .ok (addBlock found ((data.drop offset).take n)) := by
  have hlength : ((data.drop offset).take n).length = n := by
    rw [List.length_take, List.length_drop]
    omega
  have hblock : ((data.drop offset).take n)[1]? = some dibType := by
    rw [List.getElem?_take_of_lt (by omega), List.getElem?_drop, htype]
  rw [addBlock, List.getD_eq_getElem?_getD, hblock, Option.getD_some]
  by_cases hhardware : dibType = 0x01
  · subst hhardware
    rw [parseDib, addDib, hlength]
    split
    · rename_i hn
      exact parseHardware_eq hle hn found
    · rename_i hn
      rw [parseHardware, if_neg (fun h ↦ hn h.1)]
  · by_cases hfamilies : dibType = 0x02
    · subst hfamilies
      rw [parseDib, addDib, parseFamilies_eq hle (by omega), List.drop_take, List.drop_take,
        List.drop_drop, Nat.add_sub_add_left]
    · simp [parseDib, addDib]

theorem parseDibs_eq (data : List UInt8) {rounds offset : ℕ}
    (hrounds : data.length - offset < rounds) (found : Findings) :
    parseDibs data rounds offset found =
      .ok ((blocks (data.drop offset)).foldl addBlock found) := by
  induction rounds generalizing offset found with
  | zero => omega
  | succ rounds ih =>
    rw [parseDibs]
    by_cases hshort : data.length < offset + 2
    · have hnone : blockLength (data.drop offset) = none := by
        have hlength : (data.drop offset).length < 2 := by
          rw [List.length_drop]
          omega
        cases hrest : data.drop offset with
        | nil => rfl
        | cons a rest =>
          cases rest with
          | nil => rfl
          | cons b rest =>
            rw [hrest, List.length_cons, List.length_cons] at hlength
            omega
      rw [if_pos hshort, ite_self, blocks, split_of_none hnone]
      rfl
    · have hlength : offset < data.length := by omega
      have htype : offset + 1 < data.length := by omega
      have hblock : blockLength (data.drop offset) =
          if 2 ≤ data[offset].toNat ∧ data[offset].toNat ≤ data.length - offset then
            some data[offset].toNat
          else none := by
        rw [← List.length_drop, List.drop_eq_getElem_cons hlength,
          List.drop_eq_getElem_cons htype]
        rfl
      rw [if_pos hlength, if_neg hshort, index, List.getElem?_eq_getElem hlength, index,
        List.getElem?_eq_getElem htype]
      simp only [Outcome.ok_bind]
      split
      · rename_i hstop
        rw [if_neg (by omega)] at hblock
        rw [blocks, split_of_none hblock]
        rfl
      · rename_i hgo
        rw [if_pos (by omega)] at hblock
        rw [parseDib_eq (by omega) (by omega) (List.getElem?_eq_getElem htype), Outcome.ok_bind,
          ih (by omega), blocks, blocks, split_of_some hblock, List.foldl_cons, List.drop_drop]

def totalLength (data : List UInt8) : ℕ :=
  (u16OfBytes (data.getD 4 0) (data.getD 5 0)).toNat

structure Accepted (data : List UInt8) : Prop where
  length : 6 ≤ data.length
  header : data.take 4 = [0x06, 0x10, 0x02, 0x02]
  total : totalLength data ≤ data.length

def findings (data : List UInt8) (addr : SocketAddr) : Findings :=
  withDefaults ((blocks (data.drop 14)).foldl addBlock (initialFindings display addr))

theorem parse_of_length_lt (h : data.length < 6) (addr : SocketAddr) :
    parseDiscoveryResponse display data addr =
      invalidResponse display addr "Response too short" := if_pos h

theorem parse_cons (b₀ b₁ b₂ b₃ b₄ b₅ : UInt8) (rest : List UInt8) (addr : SocketAddr) :
    let data := b₀ :: b₁ :: b₂ :: b₃ :: b₄ :: b₅ :: rest
    parseDiscoveryResponse display data addr =
      if b₀ ≠ 0x06 ∨ b₁ ≠ 0x10 then invalidResponse display addr "Invalid KNX/IP header"
      else if b₂ ≠ 0x02 ∨ b₃ ≠ 0x02 then invalidResponse display addr "Not a search response"
      else if totalLength data > data.length then invalidResponse display addr
        s!"Frame length mismatch: expected {u16OfBytes b₄ b₅}, got {data.length}"
      else .ok (gatewayInfo addr (findings display data addr)) := by
  intro data
  have hlong : ¬ data.length < 6 := by simp [data]
  have hfour : data.length ≥ 4 := by simp [data]
  rw [parseDiscoveryResponse, if_neg hlong, parseDibs_eq data (by omega)]
  simp only [data, index, hfour, true_and, List.getElem?_cons_zero, List.getElem?_cons_succ,
    Outcome.ok_bind, ge_iff_le, if_pos (Nat.le_of_not_lt hlong)]
  rfl

theorem parse_cases (data : List UInt8) (addr : SocketAddr) :
    (Accepted data ∧ parseDiscoveryResponse display data addr =
        .ok (gatewayInfo addr (findings display data addr))) ∨
      ¬ Accepted data ∧ ∃ e, parseDiscoveryResponse display data addr = .err e := by
  by_cases hlength : data.length < 6
  · exact .inr ⟨fun h ↦ absurd h.length (Nat.not_le.mpr hlength), _,
      parse_of_length_lt display hlength addr⟩
  obtain ⟨b₀, b₁, b₂, b₃, b₄, b₅, rest, rfl⟩ :=
    Protocol.KnxIpHeader.exists_cons (Nat.le_of_not_lt hlength)
  have haccepted : Accepted (b₀ :: b₁ :: b₂ :: b₃ :: b₄ :: b₅ :: rest) ↔
      (¬ (b₀ ≠ 0x06 ∨ b₁ ≠ 0x10) ∧ ¬ (b₂ ≠ 0x02 ∨ b₃ ≠ 0x02)) ∧
        totalLength (b₀ :: b₁ :: b₂ :: b₃ :: b₄ :: b₅ :: rest) ≤
          (b₀ :: b₁ :: b₂ :: b₃ :: b₄ :: b₅ :: rest).length := by
    constructor
    · intro h
      have hheader := h.header
      simp only [List.take_succ_cons, List.take_zero, List.cons.injEq, and_true] at hheader
      obtain ⟨rfl, rfl, rfl, rfl⟩ := hheader
      exact ⟨by decide, h.total⟩
    · intro h
      refine ⟨Nat.le_of_not_lt hlength, ?_, h.2⟩
      simp only [not_or, not_not] at h
      simp [h]
  rw [haccepted, parse_cons]
  split
  · rename_i hheader
    exact .inr ⟨fun h ↦ h.1.1 hheader, _, rfl⟩
  · rename_i hheader
    split
    · rename_i htype
      exact .inr ⟨fun h ↦ h.1.2 htype, _, rfl⟩
    · rename_i htype
      split
      · rename_i htotal
        exact .inr ⟨fun h ↦ absurd h.2 (Nat.not_le.mpr htotal), _, rfl⟩
      · rename_i htotal
        exact .inl ⟨⟨⟨hheader, htype⟩, Nat.le_of_not_lt htotal⟩, rfl⟩

def serviceOf : UInt8 → Option ServiceType
  | 0x03 => some .deviceManagement
  | 0x04 => some .tunneling
  | 0x05 => some .routing
  | _ => none

def familyLists (dibs : List (List UInt8)) : List (List UInt8) :=
  (dibs.filter (·.getD 1 0 = 0x02)).map fun block ↦ families (block.drop 2)

def lastServices (lists : List (List UInt8)) : List ServiceType :=
  (lists.getLast?.getD []).filterMap serviceOf

/-- A service that some block lists is listed by the last one as well, or is a default where the
last one lists none. -/
def Repeated (lists : List (List UInt8)) : Prop :=
  ∀ list ∈ lists, ∀ service ∈ list.filterMap serviceOf,
    service ∈ lastServices lists ∨ service ≠ .routing ∧ lastServices lists = []

def GatewayCapabilities.supports (c : GatewayCapabilities) : ServiceType → Bool
  | .deviceManagement => c.supportsDeviceManagement
  | .tunneling => c.supportsTunneling
  | .routing => c.supportsRouting
  | _ => false

theorem addFamily_eq (found : Findings) (serviceFamily : UInt8) :
    (addFamily found serviceFamily).supportedServices =
        found.supportedServices ++ (serviceOf serviceFamily).toList ∧
      ∀ service, (addFamily found serviceFamily).capabilities.supports service ↔
        found.capabilities.supports service ∨ serviceOf serviceFamily = some service := by
  unfold addFamily
  split
  · refine ⟨rfl, fun service ↦ ?_⟩
    cases service <;> simp [GatewayCapabilities.supports, serviceOf]
  · refine ⟨rfl, fun service ↦ ?_⟩
    cases service <;> simp [GatewayCapabilities.supports, serviceOf]
  · refine ⟨rfl, fun service ↦ ?_⟩
    cases service <;> simp [GatewayCapabilities.supports, serviceOf]
  · have hnone : serviceOf serviceFamily = none := by
      unfold serviceOf
      split <;> first | contradiction | rfl
    simp [hnone]

theorem foldl_addFamily (list : List UInt8) (found : Findings) :
    (list.foldl addFamily found).supportedServices =
        found.supportedServices ++ list.filterMap serviceOf ∧
      ∀ service, (list.foldl addFamily found).capabilities.supports service ↔
        found.capabilities.supports service ∨ service ∈ list.filterMap serviceOf := by
  induction list generalizing found with
  | nil => simp
  | cons serviceFamily list ih =>
    obtain ⟨hservices, hsupports⟩ := addFamily_eq found serviceFamily
    obtain ⟨hlater, hlater'⟩ := ih (addFamily found serviceFamily)
    rw [List.foldl_cons, hlater, hservices]
    refine ⟨?_, fun service ↦ ?_⟩
    · cases h : serviceOf serviceFamily <;> simp [h]
    · rw [hlater', hsupports, or_assoc]
      cases h : serviceOf serviceFamily with
      | none => simp [h]
      | some s =>
        rw [List.filterMap_cons_some h, List.mem_cons, Option.some.injEq, eq_comm (a := s)]

theorem addBlock_of_families {found : Findings} {block : List UInt8}
    (hblock : block.getD 1 0 = 0x02) :
    addBlock found block =
      (families (block.drop 2)).foldl addFamily { found with supportedServices := [.core] } := by
  rw [addBlock, hblock, addDib]

theorem addBlock_of_other (found : Findings) {block : List UInt8}
    (hblock : block.getD 1 0 ≠ 0x02) :
    (addBlock found block).supportedServices = found.supportedServices ∧
      (addBlock found block).capabilities = found.capabilities := by
  rw [addBlock]
  generalize block.getD 1 0 = dibType at hblock
  unfold addDib
  split
  · split <;> exact ⟨rfl, rfl⟩
  · exact absurd rfl hblock
  · exact ⟨rfl, rfl⟩

theorem foldl_addBlock (dibs : List (List UInt8)) (addr : SocketAddr) :
    let found := dibs.foldl addBlock (initialFindings display addr)
    found.supportedServices = .core :: lastServices (familyLists dibs) ∧
      ∀ service, found.capabilities.supports service ↔
        ∃ list ∈ familyLists dibs, service ∈ list.filterMap serviceOf := by
  induction dibs using List.reverseRecOn with
  | nil =>
    refine ⟨rfl, fun service ↦ ?_⟩
    cases service <;> simp [familyLists, initialFindings, GatewayCapabilities.initial,
      GatewayCapabilities.supports]
  | append_singleton dibs block ih =>
    obtain ⟨hservices, hsupports⟩ := ih
    rw [List.foldl_append, List.foldl_cons, List.foldl_nil]
    by_cases hblock : block.getD 1 0 = 0x02
    · have hlists : familyLists (dibs ++ [block]) =
          familyLists dibs ++ [families (block.drop 2)] := by
        rw [familyLists, List.filter_append, List.filter_cons_of_pos (by rwa [decide_eq_true_eq]),
          List.map_append]
        rfl
      obtain ⟨hadded, hadded'⟩ := foldl_addFamily (families (block.drop 2))
        { dibs.foldl addBlock (initialFindings display addr) with supportedServices := [.core] }
      rw [addBlock_of_families hblock, hlists]
      refine ⟨?_, fun service ↦ ?_⟩
      · rw [hadded, lastServices, List.getLast?_concat]
        rfl
      · rw [hadded', hsupports]
        simp [or_and_right, exists_or]
    · have hlists : familyLists (dibs ++ [block]) = familyLists dibs := by
        rw [familyLists, List.filter_append, List.filter_cons_of_neg (by rwa [decide_eq_true_eq]),
          List.filter_nil, List.append_nil]
        rfl
      obtain ⟨hsame, hsame'⟩ :=
        addBlock_of_other (dibs.foldl addBlock (initialFindings display addr)) hblock
      rw [hlists]
      refine ⟨hsame.trans hservices, fun service ↦ ?_⟩
      rw [hsame', hsupports]

def Coherent (g : GatewayInfo) : Prop :=
  (g.capabilities.supportsTunneling ↔ .tunneling ∈ g.supportedServices) ∧
    (g.capabilities.supportsRouting ↔ .routing ∈ g.supportedServices) ∧
    (g.capabilities.supportsDeviceManagement ↔ .deviceManagement ∈ g.supportedServices)

theorem mem_lastServices {lists : List (List UInt8)} {service : ServiceType}
    (h : service ∈ lastServices lists) :
    ∃ list ∈ lists, service ∈ list.filterMap serviceOf := by
  rw [lastServices] at h
  cases hlast : lists.getLast? with
  | none =>
    rw [hlast] at h
    cases h
  | some list =>
    rw [hlast] at h
    exact ⟨list, List.mem_of_getLast? hlast, h⟩

theorem serviceOf_mem {list : List UInt8} {service : ServiceType}
    (h : service ∈ list.filterMap serviceOf) :
    service = .deviceManagement ∨ service = .tunneling ∨ service = .routing := by
  obtain ⟨serviceFamily, -, hservice⟩ := List.mem_filterMap.mp h
  unfold serviceOf at hservice
  split at hservice <;> cases hservice <;> simp

theorem coherent_withDefaults_of_none {found : Findings} (addr : SocketAddr)
    (hservices : found.supportedServices = [.core]) :
    Coherent (gatewayInfo addr (withDefaults found)) ↔ ¬ found.capabilities.supportsRouting := by
  simp [Coherent, gatewayInfo, withDefaults, hservices]

theorem withDefaults_of_some {found : Findings} {services : List ServiceType}
    (hservices : found.supportedServices = .core :: services) (hsome : services ≠ []) :
    withDefaults found = found := by
  apply if_neg
  rw [hservices, List.length_cons, Nat.succ_inj]
  exact fun h ↦ hsome (List.length_eq_zero_iff.mp h)

theorem coherent_iff (data : List UInt8) (addr : SocketAddr) :
    Coherent (gatewayInfo addr (findings display data addr)) ↔
      Repeated (familyLists (blocks (data.drop 14))) := by
  obtain ⟨hservices, hsupports⟩ := foldl_addBlock display (blocks (data.drop 14)) addr
  rw [findings]
  generalize familyLists (blocks (data.drop 14)) = lists at hservices hsupports ⊢
  generalize (blocks (data.drop 14)).foldl addBlock (initialFindings display addr) = found
    at hservices hsupports ⊢
  have hlast {service : ServiceType} (h : service ∈ lastServices lists) :
      found.capabilities.supports service := (hsupports service).mpr (mem_lastServices h)
  by_cases hempty : lastServices lists = []
  · rw [hempty] at hservices
    rw [coherent_withDefaults_of_none addr hservices]
    change ¬ found.capabilities.supports .routing ↔ _
    rw [hsupports]
    constructor
    · intro hrouting list hlist service hservice
      refine .inr ⟨?_, hempty⟩
      rintro rfl
      exact hrouting ⟨list, hlist, hservice⟩
    · rintro hrepeated ⟨list, hlist, hservice⟩
      rcases hrepeated list hlist _ hservice with h | h
      · rw [hempty] at h
        cases h
      · exact h.1 rfl
  · rw [withDefaults_of_some hservices hempty]
    have hmem {service : ServiceType} (hcore : service ≠ .core) :
        service ∈ found.supportedServices ↔ service ∈ lastServices lists := by
      simp [hservices, hcore]
    constructor
    · rintro ⟨htunneling, hrouting, hmanagement⟩ list hlist service hservice
      have hflag : found.capabilities.supports service :=
        (hsupports service).mpr ⟨list, hlist, hservice⟩
      left
      rcases serviceOf_mem hservice with rfl | rfl | rfl
      · exact (hmem (by simp)).mp (hmanagement.mp hflag)
      · exact (hmem (by simp)).mp (htunneling.mp hflag)
      · exact (hmem (by simp)).mp (hrouting.mp hflag)
    · intro hrepeated
      have hiff (service : ServiceType) (hcore : service ≠ .core) :
          found.capabilities.supports service ↔ service ∈ found.supportedServices := by
        rw [hmem hcore]
        refine ⟨fun hflag ↦ ?_, hlast⟩
        obtain ⟨list, hlist, hservice⟩ := (hsupports service).mp hflag
        exact (hrepeated list hlist service hservice).resolve_right fun h ↦ hempty h.2
      exact ⟨hiff .tunneling (by simp), hiff .routing (by simp), hiff .deviceManagement (by simp)⟩

/-- The blocks within the announced length are followed by a length that no block has. -/
def EndMarked (data : List UInt8) : Prop := Terminated ((data.take (totalLength data)).drop 14)

def DependsOnlyOn (n : ℕ) (data : List UInt8) (addr : SocketAddr) : Prop :=
  ∀ data', data'.take n = data.take n →
    parseDiscoveryResponse display data' addr = parseDiscoveryResponse display data addr

theorem totalLength_of_take {data' : List UInt8} {n : ℕ} (hn : 6 ≤ n)
    (h : data'.take n = data.take n) : totalLength data' = totalLength data := by
  have hget (i : ℕ) (hi : i < n) : data'.getD i 0 = data.getD i 0 := by
    rw [List.getD_eq_getElem?_getD, List.getD_eq_getElem?_getD, ← List.getElem?_take_of_lt hi, h,
      List.getElem?_take_of_lt hi]
  rw [totalLength, totalLength, hget 4 (by omega), hget 5 (by omega)]

theorem Accepted.of_take {data' : List UInt8} {n : ℕ} (h : Accepted data) (hn : 6 ≤ n)
    (htake : data'.take n = data.take n) (htotal : totalLength data ≤ data'.length) :
    Accepted data' := by
  have htake' (m : ℕ) (hm : m ≤ n) : data'.take m = data.take m := by
    rw [← Nat.min_eq_left hm, ← List.take_take, htake, List.take_take]
  refine ⟨?_, (htake' 4 (by omega)).trans h.header, (totalLength_of_take hn htake).symm ▸ htotal⟩
  have hlength := congrArg List.length (htake' 6 hn)
  have := h.length
  rw [List.length_take, List.length_take] at hlength
  omega

theorem lt_of_terminated_drop {l : List UInt8} {n : ℕ} (h : Terminated (l.drop n)) :
    n < l.length := by
  by_contra hle
  rw [List.drop_eq_nil_of_le (Nat.le_of_not_lt hle)] at h
  obtain ⟨m, hm, -⟩ := h
  cases hm

theorem blocks_drop_of_endMarked {n : ℕ} (h : Terminated ((data.take n).drop 14)) :
    blocks (data.drop 14) = blocks ((data.take n).drop 14) := by
  have hlt := lt_of_terminated_drop h
  conv_lhs => rw [← List.take_append_drop n data, List.drop_append_of_le_length hlt.le]
  exact blocks_append_of_terminated h _

theorem dependsOnlyOn_of_endMarked (h : Accepted data) (hmarked : EndMarked data)
    (addr : SocketAddr) : DependsOnlyOn display (totalLength data) data addr := by
  intro data' htake
  have hlt := lt_of_terminated_drop hmarked
  rw [List.length_take_of_le h.total] at hlt
  have hlength : totalLength data ≤ data'.length := by
    have hlengths := congrArg List.length htake
    rw [List.length_take_of_le h.total, List.length_take] at hlengths
    omega
  have h' : Accepted data' := h.of_take (by omega) htake hlength
  have hblocks : blocks (data'.drop 14) = blocks (data.drop 14) := by
    rw [blocks_drop_of_endMarked hmarked, blocks_drop_of_endMarked (n := totalLength data)]
    · rw [htake]
    · rw [htake]
      exact hmarked
  have hfindings : findings display data' addr = findings display data addr := by
    rw [findings, findings, hblocks]
  obtain ⟨-, hparse⟩ := (parse_cases display data addr).resolve_right fun hno ↦ hno.1 h
  obtain ⟨-, hparse'⟩ := (parse_cases display data' addr).resolve_right fun hno ↦ hno.1 h'
  rw [hparse, hparse', hfindings]

def hardwareBlock (b : UInt8) : List UInt8 :=
  54 :: 1 :: (List.replicate 10 0 ++ b :: List.replicate 41 0)

theorem blockLength_hardwareBlock (b : UInt8) :
    blockLength (hardwareBlock b) = some (hardwareBlock b).length := rfl

theorem deviceSerial_of_last {before : List (List UInt8)} {b : UInt8}
    (h : blocks (data.drop 14) = before ++ [hardwareBlock b]) (addr : SocketAddr) :
    (findings display data addr).deviceSerial =
      Text.lit "SN" ++ [b, 0, 0, 0, 0, 0].flatMap upperHex := by
  have hdefaults (found : Findings) : (withDefaults found).deviceSerial = found.deviceSerial := by
    unfold withDefaults
    split <;> rfl
  rw [findings, hdefaults, h, List.foldl_append]
  rfl

theorem exists_base (h : Accepted data) (hmarked : ¬ EndMarked data) :
    ∃ base : List UInt8, base.take (totalLength data) = data.take (totalLength data) ∧
      base.take 6 = data.take 6 ∧ totalLength data ≤ base.length ∧ 14 ≤ base.length ∧
      ¬ Terminated (base.drop 14) := by
  have hsix := h.length
  by_cases hlong : 14 ≤ totalLength data
  · refine ⟨data.take (totalLength data), ?_, ?_, ?_, ?_, hmarked⟩
    · rw [List.take_take, Nat.min_self]
    · rw [List.take_take, Nat.min_eq_left (by omega)]
    · rw [List.length_take_of_le h.total]
    · rw [List.length_take_of_le h.total]
      exact hlong
  · have hlength : ((data ++ List.replicate 14 0).take 14).length = 14 := by simp
    refine ⟨(data ++ List.replicate 14 0).take 14, ?_, ?_, by omega, hlength.ge, ?_⟩
    · rw [List.take_take, Nat.min_eq_left (by omega), List.take_append_of_le_length h.total]
    · rw [List.take_take, Nat.min_eq_left (by omega), List.take_append_of_le_length hsix]
    · intro hterminated
      exact absurd (lt_of_terminated_drop hterminated) (by omega)

theorem exists_serial (h : Accepted data) (hmarked : ¬ EndMarked data) (b : UInt8)
    (addr : SocketAddr) :
    ∃ data' g, data'.take (totalLength data) = data.take (totalLength data) ∧
      parseDiscoveryResponse display data' addr = .ok g ∧
      g.deviceSerial = Text.lit "SN" ++ [b, 0, 0, 0, 0, 0].flatMap upperHex := by
  obtain ⟨base, htake, hheader, htotal, hlength, hnot⟩ := exists_base h hmarked
  obtain ⟨x, before, hx⟩ := exists_blocks_append hnot (blockLength_hardwareBlock b)
  rw [← List.drop_append_of_le_length hlength] at hx
  have h' : Accepted (base ++ x) := by
    refine h.of_take le_rfl ?_ ?_
    · rw [List.take_append_of_le_length (by omega), hheader]
    · rw [List.length_append]
      omega
  obtain ⟨-, hparse⟩ := (parse_cases display (base ++ x) addr).resolve_right fun hno ↦ hno.1 h'
  refine ⟨base ++ x, _, ?_, hparse, deviceSerial_of_last display hx addr⟩
  rw [List.take_append_of_le_length htotal, htake]

theorem endMarked_of_dependsOnlyOn (h : Accepted data) {addr : SocketAddr}
    (hdepends : DependsOnlyOn display (totalLength data) data addr) : EndMarked data := by
  by_contra hmarked
  obtain ⟨data₀, g₀, htake₀, hparse₀, hserial₀⟩ := exists_serial display h hmarked 0 addr
  obtain ⟨data₁, g₁, htake₁, hparse₁, hserial₁⟩ := exists_serial display h hmarked 1 addr
  -- Both would have to be the result for the given datagram.
  have heq : Outcome.ok g₀ = (Outcome.ok g₁ : Outcome DiscoveryError GatewayInfo) := by
    rw [← hparse₀, ← hparse₁, hdepends data₀ htake₀, hdepends data₁ htake₁]
  cases heq
  rw [hserial₀] at hserial₁
  exact absurd (List.append_cancel_left hserial₁) (by decide)

/-- The parser never reads outside the data and always ends. Of the gateway that it returns, the
flags agree with the services exactly if the last list of families repeats the earlier ones, there
is a multicast address exactly if routing is supported, and the result depends on the announced
bytes alone exactly if the blocks in them end with a length that no block has. -/
theorem parsed_gateway_coherent (data : List UInt8) (addr : SocketAddr) :
    parseDiscoveryResponse display data addr ≠ .panic ∧
      ∀ g, parseDiscoveryResponse display data addr = .ok g →
        (Coherent g ↔ Repeated (familyLists (blocks (data.drop 14)))) ∧
        (g.multicastAddr.isSome ↔ g.capabilities.supportsRouting) ∧
        (DependsOnlyOn display (totalLength data) data addr ↔ EndMarked data) := by
  obtain ⟨h, hparse⟩ | ⟨-, e, hparse⟩ := parse_cases display data addr
  · rw [hparse]
    refine ⟨Outcome.ok_ne_panic _, fun g hg ↦ ?_⟩
    cases hg
    refine ⟨coherent_iff display data addr, ?_, endMarked_of_dependsOnlyOn display h,
      fun hmarked ↦ dependsOnlyOn_of_endMarked display h hmarked addr⟩
    rw [gatewayInfo]
    cases (findings display data addr).capabilities.supportsRouting <;> simp
  · rw [hparse]
    refine ⟨Outcome.err_ne_panic _, fun g hg ↦ ?_⟩
    cases hg

namespace Reference

def gateway : SocketAddr := .v4 ⟨[192, 168, 1, 15], rfl⟩ 3671

def printed : AddrDisplay :=
  ⟨fun _ ↦ "192.168.1.15".toList, fun _ ↦ "192.168.1.15:3671".toList⟩

def front (length : UInt8) : List UInt8 :=
  [0x06, 0x10, 0x02, 0x02, 0x00, length, 0x08, 0x01, 192, 168, 1, 15, 0x0E, 0x57]

def tunnelingResponse : List UInt8 := front 20 ++ [0x04, 0x02, 0x04, 0x01, 0x00, 0x00]

end Reference

theorem tunneling_response_coherent :
    ∃ g, parseDiscoveryResponse Reference.printed Reference.tunnelingResponse Reference.gateway =
        .ok g ∧ Coherent g ∧
      DependsOnlyOn Reference.printed 20 Reference.tunnelingResponse Reference.gateway := by
  have haccepted : Accepted Reference.tunnelingResponse := ⟨by decide, by decide, by decide⟩
  obtain ⟨-, hparse⟩ := (parse_cases Reference.printed Reference.tunnelingResponse
    Reference.gateway).resolve_right fun hno ↦ hno.1 haccepted
  obtain ⟨hcoherent, -, hdepends⟩ := (parsed_gateway_coherent Reference.printed
    Reference.tunnelingResponse Reference.gateway).2 _ hparse
  refine ⟨_, hparse, hcoherent.mpr ?_, hdepends.mpr ?_⟩
  · intro list hlist service hservice
    obtain rfl : list = [0x04] := List.mem_singleton.mp hlist
    exact .inl hservice
  · exact ⟨0, rfl, by decide⟩

/-- Routing from the first of two lists remains without a service, and a block beyond the
announced length is read. -/
theorem incoherent_responses :
    (∃ g, parseDiscoveryResponse Reference.printed
        (Reference.front 22 ++ [0x04, 0x02, 0x05, 0x01, 0x04, 0x02, 0x04, 0x01])
          Reference.gateway = .ok g ∧
      g.capabilities.supportsRouting ∧ .routing ∉ g.supportedServices) ∧
    ∃ g, parseDiscoveryResponse Reference.printed
        (Reference.front 14 ++ [0x04, 0x02, 0x05, 0x01]) Reference.gateway = .ok g ∧
      parseDiscoveryResponse Reference.printed (Reference.front 14) Reference.gateway ≠ .ok g := by
  refine ⟨⟨_, rfl, by decide, by decide⟩, _, rfl, fun h ↦ ?_⟩
  have hrouting := congrArg (fun r ↦ r.value?.map (·.capabilities.supportsRouting)) h
  exact absurd hrouting (by decide)

end Knust.Transport.Discovery
