import Knust.Protocol.CemiRoundTrip
import Knust.Protocol.Robustness

namespace Knust.Protocol

open Foundation

theorem ControlField.fromFlags_hopCount_lt (flags : UInt16) : (fromFlags flags).hopCount < 8 := by
  have hbits : ∀ low : UInt8, (low >>> 4) &&& 0x07 < 8 := by decide +kernel
  exact hbits _

theorem ExtendedControlField.fromU8_bounds (value : UInt8) :
    (fromU8 value).hopCount < 8 ∧ (fromU8 value).extendedFrameFormat < 16 := by
  have hbits : ∀ value : UInt8, (value >>> 4) &&& 0x07 < 8 ∧ value &&& 0x0F < 16 := by
    decide +kernel
  exact hbits value

namespace CemiFrame

variable {data : List UInt8} {stop offset finish : ℕ} {info : List AdditionalInfo}

theorem parseAdditionalInfo_fills (hstop : stop ≤ data.length) (hoffset : offset ≤ stop)
    (h : parseAdditionalInfo data stop offset = .ok (info, finish)) :
    finish = stop ∧ (data.drop offset).take (stop - offset) = additionalInfoBytes info := by
  fun_induction parseAdditionalInfo data stop offset generalizing info finish with
  | case1 => simp [parseError] at h
  | case2 offset hlt hdata ih =>
    obtain ⟨infoType, htype, h⟩ := Outcome.bind_eq_ok.mp h
    obtain ⟨infoLen, hlen, h⟩ := Outcome.bind_eq_ok.mp h
    obtain ⟨hfits, h⟩ := checked_eq_ok.mp h
    obtain ⟨infoData, hslice, h⟩ := Outcome.bind_eq_ok.mp h
    obtain ⟨⟨rest, last⟩, hrest, h⟩ := Outcome.bind_eq_ok.mp h
    cases h
    obtain ⟨hfinish, hbytes⟩ := ih infoLen hfits (by omega) hrest
    obtain ⟨⟨-, hbound⟩, rfl⟩ := slice_eq_ok.mp hslice
    have hsplit : data.drop offset = infoType :: infoLen :: data.drop (offset + 2) := by
      rw [List.drop_eq_getElem_cons (by omega), List.drop_eq_getElem_cons (i := offset + 1) (by omega),
        (List.getElem?_eq_some_iff.mp (index_eq_ok.mp htype)).2,
        (List.getElem?_eq_some_iff.mp (index_eq_ok.mp hlen)).2]
    -- The area is the two bytes in front of the block, its data and the rest.
    have harea : stop - offset = infoLen.toNat + (stop - (offset + 2 + infoLen.toNat)) + 1 + 1 := by
      omega
    refine ⟨hfinish, ?_⟩
    rw [hsplit, harea, List.take_succ_cons, List.take_succ_cons, additionalInfoBytes_cons, ← hbytes,
      List.take_add, List.drop_drop, length_of_slice hslice]
    simp
  | case3 offset hge =>
    cases h
    obtain rfl : offset = stop := by omega
    simp [additionalInfoBytes]

theorem parseDestination_type {addressType : AddressType} {destRaw : UInt16} {addr : Address}
    (h : parseDestination addressType destRaw = .ok addr) : addressType = addressTypeOf addr := by
  cases addressType with
  | individual =>
    cases h
    rfl
  | group =>
    rw [parseDestination, if_pos rfl] at h
    split at h
    · cases h
      rfl
    · cases h

theorem parseExtended_spec {flags controlField : ControlField}
    {extendedControlField : Option ExtendedControlField} (hflags : flags.hopCount < 8)
    (h : parseExtended data flags offset = .ok (controlField, extendedControlField, finish)) :
    controlField.hopCount < 8 ∧
      (extendedControlField = none → controlField.frameType = .standard) ∧
      ∀ c, extendedControlField = some c → controlField.frameType = .extended ∧
        c.hopCount = controlField.hopCount ∧
        c.destinationAddressType = controlField.destinationAddressType ∧
        c.extendedFrameFormat < 16 := by
  unfold parseExtended at h
  split at h
  · rename_i htype
    obtain ⟨-, h⟩ := checked_eq_ok.mp h
    obtain ⟨value, -, h⟩ := Outcome.bind_eq_ok.mp h
    cases h
    obtain ⟨hhop, hformat⟩ := ExtendedControlField.fromU8_bounds value
    refine ⟨hhop, nofun, fun c hc ↦ ?_⟩
    cases hc
    exact ⟨htype, rfl, rfl, hformat⟩
  · rename_i htype
    cases h
    refine ⟨hflags, fun _ ↦ ?_, nofun⟩
    cases hframe : flags.frameType with
    | extended => exact absurd hframe htype
    | standard => rfl

theorem parseTpdu_spec {dataLength tpci : UInt8} {apciData : List UInt8}
    (h : parseTpdu data dataLength offset = .ok (tpci, apciData)) :
    apciData.length = dataLength.toNat ∧ (dataLength = 0 → tpci = 0) := by
  unfold parseTpdu at h
  split at h
  · rename_i hpos
    obtain ⟨first, -, h⟩ := Outcome.bind_eq_ok.mp h
    obtain ⟨rest, hslice, h⟩ := Outcome.bind_eq_ok.mp h
    cases h
    refine ⟨?_, fun hzero ↦ ?_⟩
    · rw [length_of_slice hslice]
      omega
    · subst hzero
      exact absurd hpos (by decide)
  · rename_i hzero
    cases h
    obtain rfl : dataLength = 0 := by simpa [UInt8.pos_iff_ne_zero] using hzero
    exact ⟨rfl, fun _ ↦ rfl⟩

theorem parseBody_wellFormed {messageCode : MessageCode} {f : CemiFrame}
    (hinfo : (additionalInfoBytes info).length < 256)
    (h : parseBody data messageCode info offset = .ok f) :
    f.WellFormed ∧ f.additionalInfo = info := by
  obtain ⟨-, h⟩ := checked_eq_ok.mp h
  obtain ⟨hi, -, h⟩ := Outcome.bind_eq_ok.mp h
  obtain ⟨lo, -, h⟩ := Outcome.bind_eq_ok.mp h
  obtain ⟨⟨controlField, extendedControlField, offset⟩, hextended, h⟩ := Outcome.bind_eq_ok.mp h
  obtain ⟨hhop, hstandard, hfields⟩ := parseExtended_spec (ControlField.fromFlags_hopCount_lt _) hextended
  obtain ⟨-, h⟩ := checked_eq_ok.mp h
  obtain ⟨sourceHi, -, h⟩ := Outcome.bind_eq_ok.mp h
  obtain ⟨sourceLo, -, h⟩ := Outcome.bind_eq_ok.mp h
  obtain ⟨-, h⟩ := checked_eq_ok.mp h
  obtain ⟨destHi, -, h⟩ := Outcome.bind_eq_ok.mp h
  obtain ⟨destLo, -, h⟩ := Outcome.bind_eq_ok.mp h
  obtain ⟨destAddr, hdest, h⟩ := Outcome.bind_eq_ok.mp h
  obtain ⟨-, h⟩ := checked_eq_ok.mp h
  obtain ⟨dataLength, -, h⟩ := Outcome.bind_eq_ok.mp h
  obtain ⟨-, h⟩ := checked_eq_ok.mp h
  obtain ⟨⟨tpci, apciData⟩, htpdu, h⟩ := Outcome.bind_eq_ok.mp h
  cases h
  obtain ⟨hdata, hsilent⟩ := parseTpdu_spec htpdu
  refine ⟨⟨hinfo, hhop, ?_, parseDestination_type hdest, hdata, hsilent⟩, rfl⟩
  cases extendedControlField with
  | none => exact hstandard rfl
  | some c => exact hfields c rfl

/-- The consecutive blocks of a list fill the area that the second byte declares. -/
def FillsDeclaredArea (info : List AdditionalInfo) (data : List UInt8) : Prop :=
  ∃ declared : UInt8, data[1]? = some declared ∧ 2 + declared.toNat ≤ data.length ∧
    (data.drop 2).take declared.toNat = additionalInfoBytes info

theorem wellFormed_of_parse {f : CemiFrame} (h : parse data = .ok f) :
    f.WellFormed ∧ FillsDeclaredArea f.additionalInfo data := by
  obtain ⟨-, h⟩ := checked_eq_ok.mp h
  obtain ⟨-, h⟩ := checked_eq_ok.mp h
  obtain ⟨code, -, h⟩ := Outcome.bind_eq_ok.mp h
  obtain ⟨messageCode, -, h⟩ := Outcome.bind_eq_ok.mp h
  obtain ⟨declared, hdeclared, h⟩ := Outcome.bind_eq_ok.mp h
  obtain ⟨harea, h⟩ := checked_eq_ok.mp h
  obtain ⟨⟨info, offset⟩, hinfo, h⟩ := Outcome.bind_eq_ok.mp h
  obtain ⟨-, hfills⟩ := parseAdditionalInfo_fills (by omega) (by omega) hinfo
  rw [Nat.add_sub_cancel_left] at hfills
  have hlength : (additionalInfoBytes info).length < 256 := by
    rw [← hfills]
    exact (List.length_take_le _ _).trans_lt declared.toNat_lt
  obtain ⟨hwell, rfl⟩ := parseBody_wellFormed hlength h
  exact ⟨hwell, declared, index_eq_ok.mp hdeclared, by omega, hfills⟩

/-- Parsing stays within its input, and what it accepts is read back from its
serialized form. -/
theorem parse_accepts_expressible (b : List UInt8) :
    parse b ≠ .panic ∧
    ∀ f, parse b = .ok f → parse f.serialize = .ok f ∧
      FillsDeclaredArea f.additionalInfo b ∧ f.apciData.length = f.dataLength.toNat := by
  refine ⟨parse_ne_panic b, fun f hf ↦ ?_⟩
  obtain ⟨hwell, hfills⟩ := wellFormed_of_parse hf
  exact ⟨parse_serialize hwell, hfills, hwell.data⟩

namespace Reference

def extendedBytes : List UInt8 :=
  [0x29, 5, 3, 1, 7, 4, 0, 0x3C, 0x60, 0xE0, 0x11, 1, 0x0A, 3, 1, 0, 0x80]

def extendedFrame : CemiFrame where
  messageCode := .lDataInd
  additionalInfo := [⟨3, [7]⟩, ⟨4, []⟩]
  controlField := ⟨.extended, false, false, .low, false, false, .group, 6⟩
  extendedControlField := some ⟨.group, 6, 0⟩
  sourceAddr := ⟨0x1101⟩
  destAddr := .group .temperature
  dataLength := 1
  tpci := 0
  apciData := [0x80]

theorem parse_extendedBytes : parse extendedBytes = .ok extendedFrame := by
  have hparse : parse extendedBytes = (parseAdditionalInfo extendedBytes (2 + 5) 2 >>= fun r ↦
      parseBody extendedBytes .lDataInd r.1 r.2) := rfl
  have hinfo : parseAdditionalInfo extendedBytes (2 + 5) 2 = .ok ([⟨3, [7]⟩, ⟨4, []⟩], 2 + 5) :=
    parseAdditionalInfo_bytes [⟨3, [7]⟩, ⟨4, []⟩] [0x29, 5]
      [0x3C, 0x60, 0xE0, 0x11, 1, 0x0A, 3, 1, 0, 0x80] (by decide)
  rw [hparse, hinfo]
  rfl

end Reference

/-- The flags of the serialized frame differ from those received. -/
theorem extended_frame_read_back :
    parse Reference.extendedFrame.serialize = .ok Reference.extendedFrame ∧
      FillsDeclaredArea Reference.extendedFrame.additionalInfo Reference.extendedBytes ∧
      Reference.extendedFrame.serialize ≠ Reference.extendedBytes := by
  obtain ⟨hread, hfills, -⟩ :=
    (parse_accepts_expressible Reference.extendedBytes).2 _ Reference.parse_extendedBytes
  exact ⟨hread, hfills, by decide⟩

end CemiFrame

end Knust.Protocol
