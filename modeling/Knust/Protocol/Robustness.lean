import Knust.Protocol.Telegram

namespace Knust.Protocol

open Foundation Foundation.Outcome

theorem parseError_ne_panic {α : Type} (offset : ℕ) (reason : String) :
    (parseError offset reason : Result α) ≠ .panic := by simp [parseError]

namespace Hpai

theorem parse_ne_panic (data : List UInt8) : parse data ≠ .panic := by
  unfold parse length
  split
  · exact parseError_ne_panic _ _
  · refine bind_ne_panic (index_ne_panic (by omega)) fun structureLength _ ↦ ?_
    refine bind_ne_panic (index_ne_panic (by omega)) fun hostProtocolCode _ ↦ ?_
    refine bind_ne_panic (slice_ne_panic (by omega) (by omega)) fun octets hoctets ↦ ?_
    refine bind_ne_panic (toBlock_ne_panic (length_of_slice hoctets)) fun ipBytes _ ↦ ?_
    refine bind_ne_panic (index_ne_panic (by omega)) fun hi _ ↦ ?_
    refine bind_ne_panic (index_ne_panic (by omega)) fun lo _ ↦ ?_
    split
    · exact parseError_ne_panic _ _
    · simp

theorem length_of_parse {data : List UInt8} {hpai : Hpai} (h : parse data = .ok hpai) :
    8 ≤ data.length := by
  by_contra hlength
  rw [parse, if_pos (by rw [length]; omega)] at h
  cases h

end Hpai

theorem ConnectionRequestInfo.parse_ne_panic (data : List UInt8) : parse data ≠ .panic := by
  unfold parse
  split
  · exact parseError_ne_panic _ _
  · refine bind_ne_panic (index_ne_panic (by omega)) fun structureLength _ ↦ ?_
    refine bind_ne_panic (index_ne_panic (by omega)) fun connectionType _ ↦ ?_
    refine bind_ne_panic (index_ne_panic (by omega)) fun knxLayer _ ↦ ?_
    refine bind_ne_panic (index_ne_panic (by omega)) fun reserved _ ↦ ?_
    split
    · exact parseError_ne_panic _ _
    · simp

theorem ConnectRequest.parse_ne_panic (data : List UInt8) : parse data ≠ .panic := by
  unfold parse
  refine bind_ne_panic (sliceFrom_ne_panic (Nat.zero_le _)) fun rest hrest ↦ ?_
  refine bind_ne_panic (Hpai.parse_ne_panic rest) fun controlEndpoint hcontrol ↦ ?_
  have hlength : 8 ≤ data.length := by
    rw [sliceFrom_of_le (Nat.zero_le _)] at hrest
    cases hrest
    exact Hpai.length_of_parse hcontrol
  refine bind_ne_panic (sliceFrom_ne_panic hlength) fun rest' hrest' ↦ ?_
  refine bind_ne_panic (Hpai.parse_ne_panic rest') fun dataEndpoint hdata ↦ ?_
  have hlength' : 16 ≤ data.length := by
    rw [sliceFrom_of_le hlength] at hrest'
    cases hrest'
    have hrest' := Hpai.length_of_parse hdata
    simp only [List.length_drop] at hrest'
    omega
  refine bind_ne_panic (sliceFrom_ne_panic hlength') fun rest'' _ ↦ ?_
  refine bind_ne_panic (ConnectionRequestInfo.parse_ne_panic rest'') fun cri _ ↦ ?_
  simp

theorem SessionRequest.parse_ne_panic (data : List UInt8) : parse data ≠ .panic := by
  unfold parse
  split
  · exact parseError_ne_panic _ _
  · refine bind_ne_panic (Hpai.parse_ne_panic data) fun controlEndpoint _ ↦ ?_
    refine bind_ne_panic (slice_ne_panic (by omega) (by omega)) fun bytes hbytes ↦ ?_
    refine bind_ne_panic (toBlock_ne_panic (length_of_slice hbytes)) fun publicKey _ ↦ ?_
    simp

theorem SessionAuthenticate.parse_ne_panic (data : List UInt8) : parse data ≠ .panic := by
  unfold parse
  split
  · exact parseError_ne_panic _ _
  · refine bind_ne_panic (index_ne_panic (by omega)) fun userId _ ↦ ?_
    refine bind_ne_panic (slice_ne_panic (by omega) (by omega)) fun bytes hbytes ↦ ?_
    refine bind_ne_panic (toBlock_ne_panic (length_of_slice hbytes)) fun mac _ ↦ ?_
    simp

theorem ChannelRequest.parseNamed_ne_panic (name : String) (data : List UInt8) :
    parseNamed name data ≠ .panic := by
  unfold parseNamed
  split
  · exact parseError_ne_panic _ _
  · refine bind_ne_panic (index_ne_panic (by omega)) fun communicationChannelId _ ↦ ?_
    refine bind_ne_panic (sliceFrom_ne_panic (by omega)) fun rest _ ↦ ?_
    refine bind_ne_panic (Hpai.parse_ne_panic rest) fun controlEndpoint _ ↦ ?_
    simp

theorem ChannelResponse.parseNamed_ne_panic (name : String) (data : List UInt8) :
    parseNamed name data ≠ .panic := by
  unfold parseNamed
  split
  · exact parseError_ne_panic _ _
  · refine bind_ne_panic (index_ne_panic (by omega)) fun communicationChannelId _ ↦ ?_
    refine bind_ne_panic (index_ne_panic (by omega)) fun status _ ↦ ?_
    simp

theorem TunnellingRequest.parse_ne_panic (data : List UInt8) : parse data ≠ .panic := by
  unfold parse
  split
  · exact parseError_ne_panic _ _
  · refine bind_ne_panic (index_ne_panic (by omega)) fun structureLength _ ↦ ?_
    split
    · exact parseError_ne_panic _ _
    · refine bind_ne_panic (index_ne_panic (by omega)) fun communicationChannelId _ ↦ ?_
      refine bind_ne_panic (index_ne_panic (by omega)) fun sequenceCounter _ ↦ ?_
      refine bind_ne_panic (sliceFrom_ne_panic (by omega)) fun rawCemi _ ↦ ?_
      simp

theorem TunnellingAck.parse_ne_panic (data : List UInt8) : parse data ≠ .panic := by
  unfold parse
  split
  · exact parseError_ne_panic _ _
  · refine bind_ne_panic (index_ne_panic (by omega)) fun structureLength _ ↦ ?_
    split
    · exact parseError_ne_panic _ _
    · refine bind_ne_panic (index_ne_panic (by omega)) fun communicationChannelId _ ↦ ?_
      refine bind_ne_panic (index_ne_panic (by omega)) fun sequenceCounter _ ↦ ?_
      refine bind_ne_panic (index_ne_panic (by omega)) fun statusCode _ ↦ ?_
      simp

theorem MessageCode.fromU8_ne_panic (value : UInt8) : fromU8 value ≠ .panic := by
  unfold fromU8
  iterate 11 refine ite_ne_panic (ok_ne_panic _) ?_
  exact err_ne_panic _

namespace CemiFrame

theorem parseAdditionalInfo_ne_panic {data : List UInt8} {stop : ℕ} (hstop : stop ≤ data.length)
    (offset : ℕ) : parseAdditionalInfo data stop offset ≠ .panic := by
  fun_induction parseAdditionalInfo data stop offset with
  | case1 => exact parseError_ne_panic _ _
  | case2 offset hoffset hdata ih =>
    refine bind_ne_panic (index_ne_panic (by omega)) fun infoType _ ↦ ?_
    refine bind_ne_panic (index_ne_panic (by omega)) fun infoLen _ ↦ ?_
    dsimp only
    split
    · exact parseError_ne_panic _ _
    · refine bind_ne_panic (slice_ne_panic (by omega) (by omega)) fun infoData _ ↦ ?_
      refine bind_ne_panic (ih _ (by assumption)) fun rest _ ↦ ?_
      simp
  | case3 => simp

theorem parseExtended_ne_panic (data : List UInt8) (controlField : ControlField) (offset : ℕ) :
    parseExtended data controlField offset ≠ .panic := by
  unfold parseExtended
  split
  · split
    · exact parseError_ne_panic _ _
    · refine bind_ne_panic (index_ne_panic (by omega)) fun extCtrl _ ↦ ?_
      simp
  · simp

theorem parseDestination_ne_panic (addressType : AddressType) (destRaw : UInt16) :
    parseDestination addressType destRaw ≠ .panic := by
  unfold parseDestination
  split
  · split <;> simp
  · simp

theorem parseTpdu_ne_panic {data : List UInt8} {dataLength : UInt8} {offset : ℕ}
    (h : dataLength ≠ 0 → offset + (dataLength.toNat + 1) ≤ data.length) :
    parseTpdu data dataLength offset ≠ .panic := by
  unfold parseTpdu
  split
  · rename_i hpos
    have hlength := h (UInt8.pos_iff_ne_zero.mp hpos)
    refine bind_ne_panic (index_ne_panic (by omega)) fun tpci _ ↦ ?_
    refine bind_ne_panic (slice_ne_panic (by omega) (by omega)) fun apciData _ ↦ ?_
    simp
  · simp

theorem parseAddressed_ne_panic (data : List UInt8) (messageCode : MessageCode)
    (additionalInfo : List AdditionalInfo) (controlField : ControlField)
    (extendedControlField : Option ExtendedControlField) (offset : ℕ) :
    parseAddressed data messageCode additionalInfo controlField extendedControlField offset ≠
      .panic := by
  unfold parseAddressed
  split
  · exact parseError_ne_panic _ _
  refine bind_ne_panic (index_ne_panic (by omega)) fun sourceHi _ ↦ ?_
  refine bind_ne_panic (index_ne_panic (by omega)) fun sourceLo _ ↦ ?_
  dsimp only
  split
  · exact parseError_ne_panic _ _
  refine bind_ne_panic (index_ne_panic (by omega)) fun destHi _ ↦ ?_
  refine bind_ne_panic (index_ne_panic (by omega)) fun destLo _ ↦ ?_
  refine bind_ne_panic (parseDestination_ne_panic _ _) fun destAddr _ ↦ ?_
  split
  · exact parseError_ne_panic _ _
  refine bind_ne_panic (index_ne_panic (by omega)) fun dataLength _ ↦ ?_
  generalize htpdu : (if dataLength = 0 then 0 else dataLength.toNat + 1) = tpduLength
  split
  · exact parseError_ne_panic _ _
  · refine bind_ne_panic (parseTpdu_ne_panic fun hne ↦ ?_) fun tpdu _ ↦ by simp
    rw [if_neg hne] at htpdu
    omega

theorem parseBody_ne_panic (data : List UInt8) (messageCode : MessageCode)
    (additionalInfo : List AdditionalInfo) (offset : ℕ) :
    parseBody data messageCode additionalInfo offset ≠ .panic := by
  unfold parseBody
  split
  · exact parseError_ne_panic _ _
  · refine bind_ne_panic (index_ne_panic (by omega)) fun hi _ ↦ ?_
    refine bind_ne_panic (index_ne_panic (by omega)) fun lo _ ↦ ?_
    refine bind_ne_panic (parseExtended_ne_panic _ _ _) fun extended _ ↦ ?_
    exact parseAddressed_ne_panic _ _ _ _ _ _

theorem parse_ne_panic (data : List UInt8) : parse data ≠ .panic := by
  unfold parse
  split
  · exact parseError_ne_panic _ _
  split
  · exact parseError_ne_panic _ _
  · refine bind_ne_panic (index_ne_panic (by omega)) fun code _ ↦ ?_
    refine bind_ne_panic (MessageCode.fromU8_ne_panic code) fun messageCode _ ↦ ?_
    refine bind_ne_panic (index_ne_panic (by omega)) fun additionalInfoLen _ ↦ ?_
    dsimp only
    split
    · exact parseError_ne_panic _ _
    · refine bind_ne_panic (parseAdditionalInfo_ne_panic (by omega) 2) fun info _ ↦ ?_
      exact parseBody_ne_panic _ _ _ _

end CemiFrame

theorem decodePayload_ne_panic (firstApci : UInt8) {apciData : List UInt8} (h : apciData ≠ []) :
    decodePayload firstApci apciData ≠ .panic := by
  unfold decodePayload
  split
  · simp
  · exact sliceFrom_ne_panic (List.length_pos_of_ne_nil h)

theorem GroupValueService.decode_ne_panic (tpci : UInt8) (apciData : List UInt8) :
    decode tpci apciData ≠ .panic := by
  rcases apciData with _ | ⟨firstApci, rest⟩
  · simp [decode]
  simp only [decode, List.head?_cons]
  split
  · simp
  split
  · exact bind_ne_panic (decodePayload_ne_panic _ (by simp)) fun payload _ ↦ by simp
  split
  · exact bind_ne_panic (decodePayload_ne_panic _ (by simp)) fun payload _ ↦ by simp
  · simp

theorem parseCemiToTelegram_ne_panic (now : ℕ) (cemiData : List UInt8) :
    parseCemiToTelegram now cemiData ≠ .panic := by
  unfold parseCemiToTelegram
  refine bind_ne_panic (CemiFrame.parse_ne_panic cemiData) fun frame _ ↦ ?_
  have hdecode := GroupValueService.decode_ne_panic frame.tpci frame.apciData
  cases hservice : GroupValueService.decode frame.tpci frame.apciData with
  | ok service => simp
  | err e => simp [Outcome.toOption]
  | panic => exact absurd hservice hdecode

namespace KnxIpFrame

/-- The data starts with a header that is accepted, and that declares a total length
shorter than itself. -/
def Understated (data : List UInt8) : Prop :=
  ∃ (serviceType : ServiceType) (totalLength : UInt16) (rest : List UInt8),
    totalLength < 6 ∧
      data = [0x06, 0x10] ++ u16Bytes serviceType.toU16 ++ u16Bytes totalLength ++ rest

/-- The body is sliced from the end of the header to the declared length, which is
only compared with the length of the data. -/
theorem parse_eq_panic_iff {data : List UInt8} : parse data = .panic ↔ Understated data := by
  constructor
  · intro h
    unfold parse at h
    cases hheader : KnxIpHeader.parse data with
    | err e => simp [hheader] at h
    | panic => exact absurd hheader (KnxIpHeader.parse_ne_panic data)
    | ok header =>
      obtain ⟨hl, hv, rest, hdata⟩ := KnxIpHeader.parse_eq_ok_iff.mp hheader
      refine ⟨header.serviceType, header.totalLength, rest, ?_, ?_⟩
      · rw [hheader, ok_bind] at h
        by_contra hlength
        have hsix : KnxIpHeader.length ≤ header.totalLength.toNat :=
          UInt16.le_iff_toNat_le.mp (UInt16.not_lt.mp hlength)
        split at h
        · cases h
        · rw [slice_of_le hsix (by omega)] at h
          cases h
      · rw [hdata, KnxIpHeader.serialize, hl, hv]
  · rintro ⟨serviceType, totalLength, rest, hlength, rfl⟩
    have hshort : totalLength.toNat < 6 := UInt16.lt_iff_toNat_lt.mp hlength
    have hheader := KnxIpHeader.parse_serialize ⟨6, 0x10, serviceType, totalLength⟩ rest rfl rfl
    rw [KnxIpHeader.serialize] at hheader
    rw [parse, hheader, ok_bind, if_neg, slice, if_neg]
    · rfl
    · rw [KnxIpHeader.length]
      exact fun h ↦ absurd h.1 (Nat.not_le.mpr hshort)
    · show ¬ _ < totalLength.toNat
      simp only [List.length_append, List.length_cons, u16Bytes_length]
      omega

end KnxIpFrame

end Knust.Protocol
