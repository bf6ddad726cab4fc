import Knust.Protocol.Cemi
import Mathlib.Data.FinEnum

namespace Knust.Protocol

open Foundation

theorem word_high (hi lo : UInt8) :
    ((hi.toUInt16 <<< 8 ||| lo.toUInt16) >>> 8).toUInt8 = hi := by
  apply UInt8.eq_of_toBitVec_eq
  ext i h
  have h₁ : 8 + i < 16 := by omega
  have h₂ : i < 16 := by omega
  simp [h₁, h₂, BitVec.getLsbD_eq_getElem h]

theorem word_low (hi lo : UInt8) : (hi.toUInt16 <<< 8 ||| lo.toUInt16).toUInt8 = lo := by
  apply UInt8.eq_of_toBitVec_eq
  ext i h
  simp

namespace ControlField

theorem lowByte_fields : ∀ (isGroup : Bool) (h : UInt8), h < 8 →
    ((bitIf isGroup 0x80 ||| ((h &&& 0x07) <<< 4)) >>> 4) &&& 0x07 = h ∧
    ((bitIf isGroup 0x80 ||| ((h &&& 0x07) <<< 4)) &&& 0x80 ≠ 0 ↔ isGroup = true) := by
  decide +kernel

theorem highByte_fields : ∀ (standard repeat_ systemBroadcast ackRequest confirm : Bool) (p : Fin 4),
    let high := bitIf standard 0x80 ||| bitIf (!repeat_) 0x20 ||| bitIf (!systemBroadcast) 0x10 |||
      (UInt8.ofNat p <<< 2) ||| bitIf ackRequest 0x02 ||| bitIf confirm 0x01
    (high &&& 0x80 ≠ 0 ↔ standard = true) ∧ decide (high &&& 0x20 = 0) = repeat_ ∧
    decide (high &&& 0x10 = 0) = systemBroadcast ∧ (high >>> 2) &&& 0x03 = UInt8.ofNat p ∧
    decide (high &&& 0x02 ≠ 0) = ackRequest ∧ decide (high &&& 0x01 ≠ 0) = confirm := by
  decide +kernel

theorem priorityOf_bits (p : Priority) : priorityOf (priorityBits p) = p := by cases p <;> decide

theorem fromFlags_toFlags (c : ControlField) (h : c.hopCount < 8) : fromFlags c.toFlags = c := by
  obtain ⟨hhop, hgroup⟩ := lowByte_fields (c.destinationAddressType = .group) c.hopCount h
  have hp : (priorityBits c.priority).toNat < 4 := by cases c.priority <;> decide
  obtain ⟨hstd, hrep, hsys, hprio, hack, hcon⟩ := highByte_fields (c.frameType = .standard)
    c.repeat_ c.systemBroadcast c.ackRequest c.confirm ⟨_, hp⟩
  simp only [UInt8.ofNat_toNat] at hstd hrep hsys hprio hack hcon
  rw [← highByte] at hstd hrep hsys hprio hack hcon
  rw [← lowByte] at hhop hgroup
  have htype : (if c.highByte &&& 0x80 ≠ 0 then FrameType.standard else .extended) =
      c.frameType := by
    simp only [hstd]
    cases c.frameType <;> rfl
  have hdest : (if c.lowByte &&& 0x80 ≠ 0 then AddressType.group else .individual) =
      c.destinationAddressType := by
    simp only [hgroup]
    cases c.destinationAddressType <;> rfl
  simp only [fromFlags, toFlags, word_high, word_low, htype, hrep, hsys, hprio, priorityOf_bits,
    hack, hcon, hdest, hhop]

end ControlField

namespace ExtendedControlField

theorem toU8_fields : ∀ (isGroup : Bool) (h : Fin 8) (f : Fin 16),
    fromU8 (bitIf isGroup 0x80 ||| ((UInt8.ofNat h &&& 0x07) <<< 4) ||| (UInt8.ofNat f &&& 0x0F)) =
      ⟨if isGroup then .group else .individual, UInt8.ofNat h, UInt8.ofNat f⟩ := by
  decide +kernel

theorem fromU8_toU8 (c : ExtendedControlField) (h : c.hopCount < 8)
    (hf : c.extendedFrameFormat < 16) : fromU8 c.toU8 = c := by
  have hc := toU8_fields (c.destinationAddressType = .group) ⟨c.hopCount.toNat, h⟩
    ⟨c.extendedFrameFormat.toNat, hf⟩
  simp only [UInt8.ofNat_toNat] at hc
  rw [toU8, hc]
  rcases c with ⟨_ | _, _, _⟩ <;> rfl

end ExtendedControlField

namespace CemiFrame

/-- The frames that the wire format can express. -/
structure WellFormed (f : CemiFrame) : Prop where
  info : (additionalInfoBytes f.additionalInfo).length < 256
  hop : f.controlField.hopCount < 8
  extended : match f.extendedControlField with
    | none => f.controlField.frameType = .standard
    | some c => f.controlField.frameType = .extended ∧ c.hopCount = f.controlField.hopCount ∧
        c.destinationAddressType = f.controlField.destinationAddressType ∧
        c.extendedFrameFormat < 16
  dest : f.controlField.destinationAddressType = addressTypeOf f.destAddr
  data : f.apciData.length = f.dataLength.toNat
  silent : f.dataLength = 0 → f.tpci = 0

theorem parseDestination_raw (a : Address) : parseDestination (addressTypeOf a) a.raw = .ok a := by
  cases a with
  | group a => simp [parseDestination, addressTypeOf, Address.raw, GroupAddress.tryFromRaw_raw]
  | individual a => rfl

theorem additionalInfoBytes_cons (i : AdditionalInfo) (info : List AdditionalInfo) :
    additionalInfoBytes (i :: info) =
      [i.infoType, UInt8.ofNat i.data.length] ++ i.data ++ additionalInfoBytes info := by
  simp [additionalInfoBytes]

theorem parseAdditionalInfo_step {data : List UInt8} {stop offset : ℕ} {t n : UInt8}
    (ht : data[offset]? = some t) (hn : data[offset + 1]? = some n)
    (hs : offset + 2 + n.toNat ≤ stop) (hd : stop ≤ data.length) :
    parseAdditionalInfo data stop offset =
      (parseAdditionalInfo data stop (offset + 2 + n.toNat) >>= fun r ↦
        .ok (⟨t, (data.drop (offset + 2)).take n.toNat⟩ :: r.1, r.2)) := by
  have hsl : (slice data (offset + 2) (offset + 2 + n.toNat) : Result _) =
      .ok ((data.drop (offset + 2)).take n.toNat) := by
    rw [slice_of_le (Nat.le_add_right _ _) (hs.trans hd), Nat.add_sub_cancel_left]
  conv_lhs => rw [parseAdditionalInfo]
  rw [if_pos (by omega), if_neg (by omega)]
  simp only [index, ht, hn, Outcome.ok_bind, hsl]
  rw [if_neg (by omega)]

theorem parseAdditionalInfo_bytes (info : List AdditionalInfo) (front rest : List UInt8)
    (hlen : (additionalInfoBytes info).length < 256) :
    parseAdditionalInfo (front ++ additionalInfoBytes info ++ rest)
      (front.length + (additionalInfoBytes info).length) front.length =
      .ok (info, front.length + (additionalInfoBytes info).length) := by
  induction info generalizing front with
  | nil => simp [parseAdditionalInfo, additionalInfoBytes]
  | cons i info ih =>
    have hb := additionalInfoBytes_cons i info
    have hl := congrArg List.length hb
    simp only [List.length_append, List.length_cons, List.length_nil] at hl
    have hnat : (UInt8.ofNat i.data.length).toNat = i.data.length :=
      UInt8.toNat_ofNat_of_lt (by simp only [UInt8.size]; omega)
    have hfront : (front ++ [i.infoType, UInt8.ofNat i.data.length] ++ i.data).length =
        front.length + 2 + i.data.length := by simp; omega
    have hstop : front.length + 2 + i.data.length + (additionalInfoBytes info).length =
        front.length + (additionalInfoBytes (i :: info)).length := by omega
    have happ : front ++ [i.infoType, UInt8.ofNat i.data.length] ++ i.data ++
        additionalInfoBytes info ++ rest = front ++ additionalInfoBytes (i :: info) ++ rest := by
      simp [hb]
    -- The hypothesis is used with the first block moved to the part already read.
    have hrest := ih (front ++ [i.infoType, UInt8.ofNat i.data.length] ++ i.data) (by omega)
    rw [hfront, hstop, happ] at hrest
    rw [parseAdditionalInfo_step (t := i.infoType) (n := UInt8.ofNat i.data.length)
      (by simp [hb]) (by simp [hb]) (by omega) (by simp), hnat, hrest]
    simp [hb, List.drop_append, List.drop_eq_nil_of_le]

def tpduBytes (f : CemiFrame) : List UInt8 :=
  if f.dataLength > 0 then f.tpci :: f.apciData else []

def addressedBytes (f : CemiFrame) : List UInt8 :=
  u16Bytes f.sourceAddr.raw ++ u16Bytes f.destAddr.raw ++ [f.dataLength] ++ f.tpduBytes

def extendedBytes (f : CemiFrame) : List UInt8 :=
  (f.extendedControlField.map fun c ↦ [c.toU8]).getD []

theorem serialize_eq (f : CemiFrame) :
    f.serialize = [f.messageCode.toU8, UInt8.ofNat (additionalInfoBytes f.additionalInfo).length] ++
      additionalInfoBytes f.additionalInfo ++ (u16Bytes f.controlField.toFlags ++
        f.extendedBytes ++ f.addressedBytes) := by
  simp only [serialize, extendedBytes, addressedBytes, tpduBytes, List.append_assoc]

variable {f : CemiFrame}

theorem tpduBytes_length (h : f.WellFormed) :
    f.tpduBytes.length = if f.dataLength = 0 then 0 else f.dataLength.toNat + 1 := by
  by_cases hz : f.dataLength = 0
  · simp [tpduBytes, hz]
  · simp [tpduBytes, hz, UInt8.pos_iff_ne_zero.mpr hz, h.data]

theorem parseTpdu_bytes (h : f.WellFormed) (front rest : List UInt8) :
    parseTpdu (front ++ f.tpduBytes ++ rest) f.dataLength front.length =
      .ok (f.tpci, f.apciData) := by
  by_cases hd : f.dataLength > 0
  · have hdata := slice_append (ε := KnxError) front (f.tpci :: (f.apciData ++ rest)) 1
      (1 + f.dataLength.toNat)
    have hin : (slice (f.tpci :: (f.apciData ++ rest)) 1 (1 + f.dataLength.toNat) : Result _) =
        .ok f.apciData := by
      rw [slice_of_le (by omega) (by simp [← h.data, Nat.add_comm])]
      simp [← h.data]
    rw [hin, ← Nat.add_assoc] at hdata
    simp [parseTpdu, tpduBytes, hd, index, hdata]
  · have hz : f.dataLength = 0 := by simpa using hd
    have hnil : f.apciData = [] := List.eq_nil_of_length_eq_zero (by simpa [hz] using h.data)
    simp [parseTpdu, hz, hnil, h.silent hz]

theorem parseAddressed_bytes (h : f.WellFormed) (front rest : List UInt8) :
    parseAddressed (front ++ f.addressedBytes ++ rest) f.messageCode f.additionalInfo
      f.controlField f.extendedControlField front.length = .ok f := by
  have hlen := tpduBytes_length h
  have htpdu := parseTpdu_bytes h
    (front ++ u16Bytes f.sourceAddr.raw ++ u16Bytes f.destAddr.raw ++ [f.dataLength]) rest
  simp only [u16Bytes_eq, List.append_assoc, List.cons_append, List.nil_append,
    List.length_append, List.length_cons, List.length_nil] at htpdu
  have hfits : (if f.dataLength = 0 then 0 else f.dataLength.toNat + 1) ≤
      (f.tpduBytes ++ rest).length := by
    rw [List.length_append]
    omega
  simp only [addressedBytes, u16Bytes_eq, List.append_assoc, List.cons_append, List.nil_append]
  generalize f.tpduBytes ++ rest = tail at htpdu hfits
  simp [parseAddressed, index, h.dest, parseDestination_raw, htpdu, hfits, Nat.add_assoc,
    Nat.add_comm 5]

theorem parseExtended_bytes (h : f.WellFormed) (front rest : List UInt8) :
    parseExtended (front ++ f.extendedBytes ++ rest) f.controlField front.length =
      .ok (f.controlField, f.extendedControlField, (front ++ f.extendedBytes).length) := by
  have hext := h.extended
  cases hx : f.extendedControlField with
  | none =>
    rw [hx] at hext
    simp [parseExtended, extendedBytes, hx, hext]
  | some c =>
    rw [hx] at hext
    obtain ⟨htype, hhop, hdest, hformat⟩ := hext
    have hc := ExtendedControlField.fromU8_toU8 c (hhop ▸ h.hop) hformat
    simp [parseExtended, extendedBytes, hx, htype, index, hc, hhop, hdest]
    rw [← htype]

theorem parseBody_bytes (h : f.WellFormed) (front rest : List UInt8) :
    parseBody (front ++ (u16Bytes f.controlField.toFlags ++ f.extendedBytes ++ f.addressedBytes) ++
      rest) f.messageCode f.additionalInfo front.length = .ok f := by
  have hflags := ControlField.fromFlags_toFlags _ h.hop
  have hext := parseExtended_bytes h (front ++ u16Bytes f.controlField.toFlags)
    (f.addressedBytes ++ rest)
  have haddr := parseAddressed_bytes h
    (front ++ u16Bytes f.controlField.toFlags ++ f.extendedBytes) rest
  have hlen : 5 ≤ f.addressedBytes.length := by simp [addressedBytes]; omega
  simp only [u16Bytes_eq, List.append_assoc, List.cons_append, List.nil_append,
    List.length_append, List.length_cons, List.length_nil] at hext haddr ⊢
  rw [parseBody, if_neg (by simp; omega)]
  simp [index, hflags, hext, haddr]

theorem parse_serialize_append (h : f.WellFormed) (rest : List UInt8) :
    parse (f.serialize ++ rest) = .ok f := by
  have hinfo := parseAdditionalInfo_bytes f.additionalInfo
    [f.messageCode.toU8, UInt8.ofNat (additionalInfoBytes f.additionalInfo).length]
    (u16Bytes f.controlField.toFlags ++ f.extendedBytes ++ f.addressedBytes ++ rest) h.info
  have hbody := parseBody_bytes h
    ([f.messageCode.toU8, UInt8.ofNat (additionalInfoBytes f.additionalInfo).length] ++
      additionalInfoBytes f.additionalInfo) rest
  rw [← List.append_assoc, ← serialize_eq] at hinfo
  rw [← serialize_eq] at hbody
  have hnat : (UInt8.ofNat (additionalInfoBytes f.additionalInfo).length).toNat =
      (additionalInfoBytes f.additionalInfo).length := UInt8.toNat_ofNat_of_lt h.info
  have hlen := congrArg List.length (serialize_eq f)
  simp only [List.length_append, List.length_cons, List.length_nil] at hinfo hbody hlen
  have hcode : (index (f.serialize ++ rest) 0 : Result _) = .ok f.messageCode.toU8 := by
    simp [serialize_eq, index]
  have hcount : (index (f.serialize ++ rest) 1 : Result _) =
      .ok (UInt8.ofNat (additionalInfoBytes f.additionalInfo).length) := by
    simp [serialize_eq, index]
  have hlength : 2 + (additionalInfoBytes f.additionalInfo).length ≤
      (f.serialize ++ rest).length := by
    rw [List.length_append]
    omega
  rw [parse, if_neg (by simp [serialize_eq]), if_neg (by omega)]
  simp only [hcode, hcount, Outcome.ok_bind, MessageCode.fromU8_toU8, hnat]
  rw [if_neg (by omega), hinfo]
  exact hbody

theorem parse_serialize (h : f.WellFormed) : parse f.serialize = .ok f := by
  simpa using parse_serialize_append h []

theorem new_wellFormed (code : MessageCode) (src : IndividualAddress) (dst : Address)
    {data : List UInt8} (hd : data.length < 256) : (new code src dst data).WellFormed where
  info := by simp [new, additionalInfoBytes]
  hop := by simp [new, newControlField]
  extended := rfl
  dest := rfl
  data := (UInt8.toNat_ofNat_of_lt hd).symm
  silent _ := rfl

theorem tpduBytes_length_le (f : CemiFrame) : f.tpduBytes.length ≤ f.apciData.length + 1 := by
  unfold tpduBytes
  split <;> simp

theorem serialize_new_length (code : MessageCode) (src : IndividualAddress) (dst : Address)
    (data : List UInt8) : (new code src dst data).serialize.length ≤ data.length + 10 := by
  have h := tpduBytes_length_le (new code src dst data)
  have hdata : (new code src dst data).apciData = data := rfl
  rw [hdata] at h
  simp [serialize_eq, new, additionalInfoBytes, extendedBytes, addressedBytes] at h ⊢
  omega

theorem parse_serialize_new (code : MessageCode) (src : IndividualAddress) (dst : Address)
    (data : List UInt8) (hd : data.length < 256) :
    parse (new code src dst data).serialize = .ok (new code src dst data) :=
  parse_serialize (new_wellFormed code src dst hd)

theorem ofNat_length_take (data : List UInt8) :
    UInt8.ofNat (data.take (data.length % 256)).length = UInt8.ofNat data.length := by
  have hle : data.length % 256 ≤ data.length := Nat.mod_le _ _
  rw [List.length_take_of_le hle, ← UInt8.toNat_inj, UInt8.toNat_ofNat', UInt8.toNat_ofNat']
  exact Nat.mod_mod _ _

/-- The length field holds the length of the data up to a multiple of 256. What lies beyond is
written behind the frame, or not at all when the field is zero. -/
theorem serialize_new_eq_append (code : MessageCode) (src : IndividualAddress) (dst : Address)
    (data : List UInt8) : ∃ rest, (new code src dst data).serialize =
      (new code src dst (data.take (data.length % 256))).serialize ++ rest := by
  have htpdu (data : List UInt8) : (new code src dst data).tpduBytes =
      if UInt8.ofNat data.length > 0 then 0 :: data else [] := rfl
  obtain ⟨rest, hrest⟩ : ∃ rest, (new code src dst data).tpduBytes =
      (new code src dst (data.take (data.length % 256))).tpduBytes ++ rest := by
    rw [htpdu, htpdu, ofNat_length_take]
    split
    · exact ⟨data.drop (data.length % 256), by simp⟩
    · exact ⟨[], rfl⟩
  refine ⟨rest, ?_⟩
  rw [serialize_eq, serialize_eq, addressedBytes, addressedBytes, hrest]
  simp only [new, ofNat_length_take, List.append_assoc]
  rfl

theorem parse_serialize_new_eq (code : MessageCode) (src : IndividualAddress) (dst : Address)
    (data : List UInt8) : parse (new code src dst data).serialize =
      .ok (new code src dst (data.take (data.length % 256))) := by
  obtain ⟨rest, hrest⟩ := serialize_new_eq_append code src dst data
  have hlt : (data.take (data.length % 256)).length < 256 :=
    (List.length_take_le _ _).trans_lt (Nat.mod_lt _ (by decide))
  rw [hrest]
  exact parse_serialize_append (new_wellFormed code src dst hlt) rest

/-- Data is read back as it was or refused exactly if its length fits the length field. -/
theorem delivered_or_refused_iff (code : MessageCode) (src : IndividualAddress) (dst : Address)
    (data : List UInt8) :
    ((∃ f, parse (new code src dst data).serialize = .ok f ∧ f.apciData = data) ∨
      ∃ e, parse (new code src dst data).serialize = .err e) ↔ data.length < 256 := by
  rw [parse_serialize_new_eq]
  constructor
  · intro h
    rcases h with ⟨f, hf, hdata⟩ | ⟨e, he⟩
    · cases hf
      have hlength := congrArg List.length hdata
      change (data.take (data.length % 256)).length = data.length at hlength
      rw [List.length_take] at hlength
      omega
    · cases he
  · intro h
    refine .inl ⟨_, rfl, ?_⟩
    change data.take (data.length % 256) = data
    rw [Nat.mod_eq_of_lt h, List.take_length]

/-- Of 256 bytes nothing is left, and of 257 bytes the first. -/
theorem long_data_lost :
    parse (new .lDataReq ⟨0x1101⟩ (.group .temperature) (List.replicate 256 7)).serialize =
      .ok (new .lDataReq ⟨0x1101⟩ (.group .temperature) []) ∧
    parse (new .lDataReq ⟨0x1101⟩ (.group .temperature) (List.replicate 257 7)).serialize =
      .ok (new .lDataReq ⟨0x1101⟩ (.group .temperature) [7]) := by
  simp only [parse_serialize_new_eq, List.length_replicate, List.take_replicate]
  exact ⟨rfl, rfl⟩

end CemiFrame

end Knust.Protocol
