import Knust.Protocol.CemiAccepted
import Knust.Protocol.Tpci

namespace Knust.Protocol

open Foundation CemiFrame

variable {raw : List UInt8} {offset finish : ℕ} {f : CemiFrame}

theorem drop_of_index {b : UInt8} (h : (index raw offset : Result _) = .ok b) :
    raw.drop offset = b :: raw.drop (offset + 1) := by
  obtain ⟨hlt, rfl⟩ := List.getElem?_eq_some_iff.mp (index_eq_ok.mp h)
  exact List.drop_eq_getElem_cons hlt

theorem raw_of_parseDestination {addressType : AddressType} {destRaw : UInt16} {addr : Address}
    (h : parseDestination addressType destRaw = .ok addr) : addr.raw = destRaw := by
  unfold parseDestination GroupAddress.tryFromRaw at h
  split at h
  · split at h
    · rename_i haddr
      cases h
      split at haddr
      · cases haddr
        rfl
      · cases haddr
    · cases h
  · cases h
    rfl

/-- The fields of a frame in the order in which they are read, and what follows the length field.
Only an extended frame has the third control byte. -/
structure Layout (raw : List UInt8) (f : CemiFrame) where
  code : UInt8
  declared : UInt8
  control : UInt16
  ext : Option UInt8
  rest : List UInt8
  raw_eq : raw = [code, declared] ++ additionalInfoBytes f.additionalInfo ++ u16Bytes control ++
    ext.toList ++ u16Bytes f.sourceAddr.raw ++ u16Bytes f.destAddr.raw ++ [f.dataLength] ++ rest
  code_eq : MessageCode.fromU8 code = .ok f.messageCode
  declared_eq : declared.toNat = (additionalInfoBytes f.additionalInfo).length
  ext_isSome : ext.isSome ↔ (ControlField.fromFlags control).frameType = .extended
  ext_eq : f.extendedControlField = ext.map ExtendedControlField.fromU8

theorem parseAddressed_layout {messageCode : MessageCode} {info : List AdditionalInfo}
    {controlField : ControlField} {ext : Option ExtendedControlField}
    (h : parseAddressed raw messageCode info controlField ext offset = .ok f) :
    raw.drop offset = u16Bytes f.sourceAddr.raw ++ (u16Bytes f.destAddr.raw ++
      f.dataLength :: raw.drop (offset + 5)) ∧
    f.messageCode = messageCode ∧ f.additionalInfo = info ∧ f.extendedControlField = ext := by
  obtain ⟨-, h⟩ := checked_eq_ok.mp h
  obtain ⟨sourceHi, h₁, h⟩ := Outcome.bind_eq_ok.mp h
  obtain ⟨sourceLo, h₂, h⟩ := Outcome.bind_eq_ok.mp h
  obtain ⟨-, h⟩ := checked_eq_ok.mp h
  obtain ⟨destHi, h₃, h⟩ := Outcome.bind_eq_ok.mp h
  obtain ⟨destLo, h₄, h⟩ := Outcome.bind_eq_ok.mp h
  obtain ⟨destAddr, hdest, h⟩ := Outcome.bind_eq_ok.mp h
  obtain ⟨-, h⟩ := checked_eq_ok.mp h
  obtain ⟨dataLength, h₅, h⟩ := Outcome.bind_eq_ok.mp h
  obtain ⟨-, h⟩ := checked_eq_ok.mp h
  obtain ⟨⟨tpci, apciData⟩, -, h⟩ := Outcome.bind_eq_ok.mp h
  cases h
  have hraw : destAddr.raw = u16OfBytes destHi destLo := raw_of_parseDestination hdest
  refine ⟨?_, rfl, rfl, rfl⟩
  rw [drop_of_index h₁, drop_of_index h₂, drop_of_index h₃, drop_of_index h₄, drop_of_index h₅,
    hraw, u16Bytes_u16OfBytes, u16Bytes_u16OfBytes]
  rfl

theorem parseExtended_layout {flags controlField : ControlField}
    {extendedControlField : Option ExtendedControlField}
    (h : parseExtended raw flags offset = .ok (controlField, extendedControlField, finish)) :
    ∃ ext : Option UInt8, raw.drop offset = ext.toList ++ raw.drop finish ∧
      (ext.isSome ↔ flags.frameType = .extended) ∧
      extendedControlField = ext.map ExtendedControlField.fromU8 := by
  unfold parseExtended at h
  split at h
  · rename_i htype
    obtain ⟨-, h⟩ := checked_eq_ok.mp h
    obtain ⟨value, hvalue, h⟩ := Outcome.bind_eq_ok.mp h
    cases h
    exact ⟨some value, drop_of_index hvalue, by simp [htype], rfl⟩
  · rename_i htype
    cases h
    exact ⟨none, rfl, by simp [htype], rfl⟩

theorem exists_layout (h : CemiFrame.parse raw = .ok f) : Nonempty (Layout raw f) := by
  obtain ⟨-, declared', hdeclared', hbound, hfills⟩ := wellFormed_of_parse h
  obtain ⟨-, h⟩ := checked_eq_ok.mp h
  obtain ⟨-, h⟩ := checked_eq_ok.mp h
  obtain ⟨code, hcode, h⟩ := Outcome.bind_eq_ok.mp h
  obtain ⟨messageCode, hmessage, h⟩ := Outcome.bind_eq_ok.mp h
  obtain ⟨declared, hdeclared, h⟩ := Outcome.bind_eq_ok.mp h
  obtain ⟨harea, h⟩ := checked_eq_ok.mp h
  obtain ⟨⟨info, offset⟩, hinfo, h⟩ := Outcome.bind_eq_ok.mp h
  obtain ⟨rfl, -⟩ := parseAdditionalInfo_fills (by omega) (by omega) hinfo
  obtain rfl : declared' = declared :=
    Option.some.inj (hdeclared'.symm.trans (index_eq_ok.mp hdeclared))
  obtain ⟨-, h⟩ := checked_eq_ok.mp h
  obtain ⟨hi, hhi, h⟩ := Outcome.bind_eq_ok.mp h
  obtain ⟨lo, hlo, h⟩ := Outcome.bind_eq_ok.mp h
  obtain ⟨⟨controlField, extendedControlField, finish⟩, hextended, h⟩ := Outcome.bind_eq_ok.mp h
  obtain ⟨ext, hext, hsome, rfl⟩ := parseExtended_layout hextended
  obtain ⟨haddressed, rfl, rfl, heq⟩ := parseAddressed_layout h
  refine ⟨⟨code, declared', u16OfBytes hi lo, ext, raw.drop (finish + 5), ?_, hmessage, ?_, hsome,
    heq⟩⟩
  · simp only [List.append_assoc, List.singleton_append]
    rw [u16Bytes_u16OfBytes, ← haddressed, ← hext]
    change raw = code :: declared' :: (_ ++ hi :: lo :: raw.drop (2 + declared'.toNat + 1 + 1))
    rw [← drop_of_index hlo, ← drop_of_index hhi, ← List.drop_drop, ← hfills,
      List.take_append_drop, ← drop_of_index hdeclared, ← drop_of_index hcode, List.drop_zero]
  · rw [← hfills, List.length_take, List.length_drop]
    omega

theorem Layout.parseProbeCemi_eq (layout : Layout raw f) (h : CemiFrame.parse raw = .ok f)
    (hzero : f.dataLength = 0) {octet : UInt8} (hoctet : layout.rest.head? = some octet) :
    parseProbeCemi raw = .ok { f with tpci := octet } := by
  have htpci : f.tpci = 0 := (wellFormed_of_parse h).1.silent hzero
  obtain ⟨code, declared, control, ext, rest, hraw, hcode, hdeclared, hsome, hext⟩ := layout
  obtain ⟨tail, rfl⟩ := List.head?_eq_some_iff.mp hoctet
  have hindex : (index raw 1 : Result _) = .ok declared := by
    rw [hraw]
    rfl
  -- The place that is computed is the end of what stands in front of the octet.
  have hget : raw.getD (2 + declared.toNat + 2 +
      (if f.extendedControlField.isSome then 1 else 0) + 4 + 1) f.tpci = octet := by
    have hlength : ext.toList.length = if f.extendedControlField.isSome then 1 else 0 := by
      rw [hext]
      cases ext <;> rfl
    rw [hraw, ← hlength, hdeclared, List.getD_eq_getElem?_getD,
      List.getElem?_append_right (by simp; omega), Nat.sub_eq_zero_of_le (by simp; omega)]
    rfl
  rw [parseProbeCemi, h, Outcome.ok_bind, if_pos ⟨hzero, htpci⟩, hindex, Outcome.ok_bind]
  exact congrArg (fun tpci ↦ Outcome.ok { f with tpci }) hget

theorem parseProbeCemi_build (src dst : IndividualAddress) (tpci : UInt8) {apci : List UInt8}
    (h : apci.length ≤ 255) :
    parseProbeCemi (buildLdataReqCemi src dst tpci apci) =
      .ok { CemiFrame.new .lDataReq src (.individual dst) apci with tpci } := by
  have hnew := CemiFrame.new_wellFormed .lDataReq src (.individual dst) (Nat.lt_succ_of_le h)
  have hcontrol : u16Bytes (newControlField (.individual dst)).toFlags = [0xB4, 0x60] := by
    change u16Bytes (newControlField (.individual ⟨0⟩)).toFlags = _
    decide
  by_cases hempty : apci = []
  · subst hempty
    have hbytes : buildLdataReqCemi src dst tpci [] =
        (CemiFrame.new .lDataReq src (.individual dst) []).serialize ++ [tpci] := by
      simp [buildLdataReqCemi, serialize, CemiFrame.new, additionalInfoBytes, hcontrol,
        MessageCode.toU8, Address.raw]
    have hparse := parse_serialize_append hnew [tpci]
    rw [← hbytes] at hparse
    let layout : Layout (buildLdataReqCemi src dst tpci [])
        (CemiFrame.new .lDataReq src (.individual dst) []) :=
      { code := 0x11, declared := 0, control := (newControlField (.individual dst)).toFlags
        ext := none, rest := [tpci]
        raw_eq := by
          rw [hcontrol]
          simp [buildLdataReqCemi, CemiFrame.new, additionalInfoBytes, Address.raw]
        code_eq := rfl
        declared_eq := rfl
        ext_isSome := by
          rw [ControlField.fromFlags_toFlags (newControlField (.individual dst)) hnew.hop]
          simp [newControlField]
        ext_eq := rfl }
    exact layout.parseProbeCemi_eq hparse rfl rfl
  · have hlength : UInt8.ofNat apci.length ≠ 0 := by
      intro hzero
      have hnat := congrArg UInt8.toNat hzero
      rw [UInt8.toNat_ofNat_of_lt' (Nat.lt_succ_of_le h)] at hnat
      exact hempty (List.length_eq_zero_iff.mp hnat)
    have hwell : ({ CemiFrame.new .lDataReq src (.individual dst) apci with
        tpci } : CemiFrame).WellFormed :=
      ⟨hnew.1, hnew.2, hnew.3, hnew.4, hnew.5, fun hzero ↦ absurd hzero hlength⟩
    have hbytes : buildLdataReqCemi src dst tpci apci =
        ({ CemiFrame.new .lDataReq src (.individual dst) apci with
          tpci } : CemiFrame).serialize := by
      simp [buildLdataReqCemi, serialize, CemiFrame.new, additionalInfoBytes, hcontrol,
        MessageCode.toU8, Address.raw, UInt8.pos_iff_ne_zero.mpr hlength]
    have hparse := parse_serialize hwell
    rw [← hbytes] at hparse
    rw [parseProbeCemi, hparse, Outcome.ok_bind, if_neg fun hzero ↦ hlength hzero.1]

/-- A probe reads its own frames back, and of any frame without data it reports the octet that
stands behind the length field and changes nothing else. -/
theorem probe_cemi_recovered :
    (∀ (src dst : IndividualAddress) (tpci : UInt8) (apci : List UInt8), apci.length ≤ 255 →
      ∃ frame, parseProbeCemi (buildLdataReqCemi src dst tpci apci) = .ok frame ∧
        frame.sourceAddr = src ∧ frame.destAddr = .individual dst ∧ frame.tpci = tpci ∧
        frame.apciData = apci) ∧
    ∀ (raw : List UInt8) (f : CemiFrame), CemiFrame.parse raw = .ok f → f.dataLength = 0 →
      Nonempty (Layout raw f) ∧ ∀ (layout : Layout raw f) (octet : UInt8),
        layout.rest.head? = some octet → parseProbeCemi raw = .ok { f with tpci := octet } :=
  ⟨fun src dst tpci _ h ↦ ⟨_, parseProbeCemi_build src dst tpci h, rfl, rfl, rfl, rfl⟩,
    fun _ _ h hzero ↦ ⟨exists_layout h, fun layout _ ↦ layout.parseProbeCemi_eq h hzero⟩⟩

def extendedDisconnect : List UInt8 :=
  [0x29, 2, 3, 0, 0x3C, 0x60, 0xE0, 0x11, 1, 0x0A, 3, 0, 0x81]

/-- The control byte of a disconnection in an extended frame with additional information. -/
theorem probe_cemi_recovered_extended : ∃ f, CemiFrame.parse extendedDisconnect = .ok f ∧
    parseProbeCemi extendedDisconnect = .ok { f with tpci := 0x81 } := by
  let f : CemiFrame := ⟨.lDataInd, [⟨3, []⟩], ⟨.extended, false, false, .low, false, false, .group, 6⟩,
    some ⟨.group, 6, 0⟩, ⟨0x1101⟩, .group .temperature, 0, 0, []⟩
  have hparse : CemiFrame.parse extendedDisconnect = .ok f := by decide +kernel
  let layout : Layout extendedDisconnect f :=
    ⟨0x29, 2, 0x3C60, some 0xE0, [0x81], by decide, rfl, rfl, by decide, by decide⟩
  exact ⟨f, hparse, (probe_cemi_recovered.2 _ f hparse rfl).2 layout 0x81 rfl⟩

end Knust.Protocol
