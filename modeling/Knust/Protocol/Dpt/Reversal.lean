import Knust.Protocol.Dpt.Preservation
import Knust.Protocol.Dpt.TextRoundTrip

namespace Knust.Protocol.Dpt

open Foundation Text

def DateTimeView.flags (raw : Block 8) : UInt8 := raw.val.getD 6 0

def DptView.Documented (view : DptView) (d : DptType) : Prop :=
  match view with
  | .time raw => TimeView.hour raw ≤ 23 ∧ TimeView.minute raw ≤ 59 ∧ TimeView.second raw ≤ 59
  | .date raw =>
    (1 ≤ DateView.day raw ∧ DateView.day raw ≤ 31) ∧
      (1 ≤ DateView.month raw ∧ DateView.month raw ≤ 12) ∧ raw.val.getD 2 0 &&& 0x7F ≤ 99
  | .dateTime raw =>
    -- The flags 0x08 and 0x02 stand for a missing date and a missing time.
    (DateTimeView.flags raw &&& 0x08 = 0 →
      (1 ≤ DateTimeView.month raw ∧ DateTimeView.month raw ≤ 12) ∧
        1 ≤ DateTimeView.day raw ∧ DateTimeView.day raw ≤ 31) ∧
    (DateTimeView.flags raw &&& 0x02 = 0 →
      (DateTimeView.hour raw ≤ 23 ∨
        DateTimeView.hour raw = 24 ∧ DateTimeView.minute raw = 0 ∧ DateTimeView.second raw = 0) ∧
        DateTimeView.minute raw ≤ 59 ∧ DateTimeView.second raw ≤ 59)
  | .enum raw =>
    match d with
    | .hvacMode => EnumView.value raw ≤ 4
    | .hvacContrMode => EnumView.value raw ≤ 17 ∨ EnumView.value raw = 20
    | _ => True
  | _ => True

def DptView.Reversible (view : DptView) (d : DptType) : Prop :=
  ∃ again view', d.parse (view.formatted d) = .ok again ∧ d.decodeRef again = .ok view' ∧
    view'.formatted d = view.formatted d

def DptView.Understood : DptView → Prop
  | .control2 _ | .control _ | .i64 _ => False
  | .str raw =>
    (∀ c ∈ (StrView.asStr raw).head?, isWhitespace c = false) ∧
      ∀ c ∈ (StrView.asStr raw).getLast?, isWhitespace c = false
  | .dateTime raw =>
    ((1 ≤ DateTimeView.month raw ∧ DateTimeView.month raw ≤ 12) ∧
      1 ≤ DateTimeView.day raw ∧ DateTimeView.day raw ≤ 31) ∧
    DateTimeView.hour raw ≤ 23 ∧ DateTimeView.minute raw ≤ 59 ∧ DateTimeView.second raw ≤ 59
  | _ => True

namespace DptType

variable {d : DptType} {k n : ℕ} {mk : Block n → DptView}

def shown (d : DptType) : DptPayload → Text
  | .bool v => boolLabel v d
  | .unsignedInt v => formatNumeric (Binary.round binary64 v.toNat) d
  | .signedInt v => formatNumeric (Binary.round binary64 v.toInt) d
  | .string s => s
  | .time day hour minute second => withWeekday (formatTime hour minute second) day
  | .date day month year => formatDate year month day
  | .dateTime year month day dayOfWeek hour minute second =>
    withWeekday (formatDateTime year month day hour minute second) dayOfWeek
  | .scene number => formatScene number
  | .enum v => formatEnum v d
  | .colorRGB r g b => formatRgb r g b
  | .colorRGBW r g b w => formatRgbw r g b w
  | _ => []

theorem byteLength_pos (d : DptType) : 0 < d.byteLength := by
  rcases d.exists_layout with hk | ⟨n, mk, hlayout⟩
  · simp only [byteLength, hk]
    decide
  · rw [byteLength_of_layout rfl hlayout]
    generalize d.main = k at hlayout
    cases hlayout <;> decide

theorem exists_layout_of_decodeRef {bytes : List UInt8} {view : DptView}
    (h : d.decodeRef bytes = .ok view) :
    ∃ (n : ℕ) (mk : Block n → DptView) (raw : Block n),
      Layout d.main n mk ∧ view = mk raw ∧ bytes = raw.val := by
  have hlength : bytes.length = d.byteLength := by
    by_contra hne
    rw [decodeRef, if_pos ⟨d.byteLength_pos, hne⟩] at h
    cases h
  rcases d.exists_layout with hk | ⟨n, mk, hlayout⟩
  · obtain ⟨e, he⟩ := decodeRef_tariff hk hlength
    simp [he] at h
  · let raw : Block n := ⟨bytes, hlength.trans (byteLength_of_layout rfl hlayout)⟩
    have hraw : d.decodeRef bytes = .ok (mk raw) := decodeRef_of_layout rfl hlayout raw
    rw [hraw, Outcome.ok.injEq] at h
    exact ⟨n, mk, raw, hlayout, h.symm, rfl⟩

theorem toNat_unsigned (raw : Block n) (hn : n ≤ 8) :
    (UInt64.ofNat (unsigned raw)).toNat = unsigned raw := by
  have hlt := beDecode_lt raw.val
  rw [raw.property] at hlt
  exact UInt64.toNat_ofNat_of_lt' (hlt.trans_le (Nat.pow_le_pow_right (by decide) hn))

theorem signed_bounds (raw : Block n) :
    -((256 ^ n : ℕ) / 2 : ℤ) ≤ signed raw ∧ signed raw < ((256 ^ n : ℕ) + 1 : ℤ) / 2 :=
  ⟨Int.le_bmod (by positivity), Int.bmod_lt (by positivity)⟩

theorem toInt_signed (raw : Block n) (hn : n ≤ 8) :
    (Int64.ofInt (signed raw)).toInt = signed raw := by
  obtain ⟨hlo, hhi⟩ := signed_bounds raw
  have hsize : 256 ^ n ≤ Int64.size := Nat.le_of_dvd (by decide) (pow_dvd_word hn)
  rw [Int64.toInt_ofInt, Int.bmod_eq_of_le (by omega) (by omega)]

theorem parsePayload_unsigned {v : UInt64} (hk : d.main = 5 ∨ d.main = 7 ∨ d.main = 12)
    (hhi : (v.toNat : ℤ) ≤ (intRange d.main).2) :
    d.parsePayload (d.shown (.unsignedInt v)) = .ok (.unsignedInt v) := by
  have hlo : (intRange d.main).1 = 0 ∧ (intRange d.main).2 ≤ 4294967295 := by
    rcases hk with hk | hk | hk <;> rw [hk] <;> decide
  have hsmall : |(v.toNat : ℤ)| < 2 ^ 53 := by rw [abs_lt]; omega
  have hread : d.parseInteger (d.shown (.unsignedInt v)) =
      .ok (.finite ((v.toNat : ℤ) : ℚ)) := by
    rw [shown, ← Int.cast_natCast, formatNumeric_whole hsmall]
    exact parseInteger_withUnit hsmall (by omega) hhi
  have hparse : d.parsePayload (d.shown (.unsignedInt v)) =
      (fun value ↦ .unsignedInt (UInt64.ofInt (value.toInt 0 (2 ^ 64 - 1)))) <$>
        d.parseInteger (d.shown (.unsignedInt v)) := by
    unfold parsePayload
    rcases hk with hk | hk | hk <;> rw [hk] <;> rfl
  have hback : UInt64.ofInt (v.toNat : ℤ) = v := by
    rw [UInt64.ofInt, Int.emod_eq_of_lt (by omega) (by omega), Int.toNat_natCast,
      UInt64.ofNat_toNat]
  rw [hparse, hread, Outcome.map_ok, toInt_whole (by omega) (by omega), hback]

theorem parsePayload_signed {v : Int64} (hk : d.main = 6 ∨ d.main = 8 ∨ d.main = 13)
    (hlo : (intRange d.main).1 ≤ v.toInt) (hhi : v.toInt ≤ (intRange d.main).2) :
    d.parsePayload (d.shown (.signedInt v)) = .ok (.signedInt v) := by
  have hrange : -2147483648 ≤ (intRange d.main).1 ∧ (intRange d.main).2 ≤ 2147483647 := by
    rcases hk with hk | hk | hk <;> rw [hk] <;> decide
  have hsmall : |v.toInt| < 2 ^ 53 := by rw [abs_lt]; omega
  have hread : d.parseInteger (d.shown (.signedInt v)) = .ok (.finite (v.toInt : ℚ)) := by
    rw [shown, formatNumeric_whole hsmall]
    exact parseInteger_withUnit hsmall hlo hhi
  have hparse : d.parsePayload (d.shown (.signedInt v)) =
      (fun value ↦ .signedInt (Int64.ofInt (value.toInt (-2 ^ 63) (2 ^ 63 - 1)))) <$>
        d.parseInteger (d.shown (.signedInt v)) := by
    unfold parsePayload
    rcases hk with hk | hk | hk <;> rw [hk] <;> rfl
  rw [hparse, hread, Outcome.map_ok, toInt_whole (by omega) (by omega), Int64.ofInt_toInt]

theorem reversible_of_parse (hd : d.Exact) (hk : d.main = k) (hlayout : Layout k n mk)
    (h18 : k ≠ 18) (raw : Block n)
    (hshown : ∀ raw', (mk raw').formatted d = d.shown (mk raw').toPayload)
    (hsolid : (d.shown (mk raw).toPayload).trim = d.shown (mk raw).toPayload)
    (hparse : d.parsePayload (d.shown (mk raw).toPayload) = .ok (mk raw).toPayload) :
    (mk raw).Reversible d := by
  obtain ⟨again, hencode, hlength, view', hview', hpayload⟩ := encode_received hd hk hlayout h18 raw
  obtain ⟨raw', rfl⟩ : ∃ raw', view' = mk raw' := by
    rw [byteLength_of_layout hk hlayout] at hlength
    have hraw := decodeRef_of_layout hk hlayout ⟨again, hlength⟩
    rw [hview', Outcome.ok.injEq] at hraw
    exact ⟨_, hraw⟩
  refine ⟨again, mk raw', ?_, hview', ?_⟩
  · rw [hshown, parse, hsolid, hparse]
    exact hencode
  · rw [hshown, hshown, hpayload]

theorem not_reversible_of_parse (view : DptView) {details : String}
    (htrim : (view.formatted d).trim = view.formatted d)
    (hparse : d.parsePayload (view.formatted d) = d.dptError details) : ¬ view.Reversible d := by
  intro h
  obtain ⟨again, view', hagain, -⟩ := h
  rw [parse, htrim, hparse] at hagain
  cases hagain

theorem reversible_unsigned (hd : d.Exact) (hk : d.main = k) (hlayout : Layout k n mk)
    (hnumber : k = 5 ∨ k = 7 ∨ k = 12) (hn : n ≤ 8) (hmax : (256 ^ n : ℕ) ≤ (intRange k).2 + 1)
    (hpayload : ∀ raw, (mk raw).toPayload = .unsignedInt (UInt64.ofNat (unsigned raw)))
    (hformatted : ∀ raw, (mk raw).formatted d =
      formatNumeric (Binary.round binary64 (unsigned raw)) d) (raw : Block n) :
    (mk raw).Reversible d := by
  have hlt := beDecode_lt raw.val
  rw [raw.property] at hlt
  apply reversible_of_parse hd hk hlayout (by omega) raw
  · intro raw'
    rw [hformatted, hpayload, shown, toNat_unsigned raw' hn]
  · rw [hpayload]
    exact (solid_formatNumeric _).2
  · rw [hpayload]
    apply parsePayload_unsigned (hk ▸ hnumber)
    rw [toNat_unsigned raw hn, hk]
    have : unsigned raw < 256 ^ n := hlt
    omega

theorem reversible_signed (hd : d.Exact) (hk : d.main = k) (hlayout : Layout k n mk)
    (hnumber : k = 6 ∨ k = 8 ∨ k = 13) (hn : n ≤ 8)
    (hmin : (intRange k).1 ≤ -((256 ^ n : ℕ) / 2 : ℤ))
    (hmax : ((256 ^ n : ℕ) + 1 : ℤ) / 2 ≤ (intRange k).2 + 1)
    (hpayload : ∀ raw, (mk raw).toPayload = .signedInt (Int64.ofInt (signed raw)))
    (hformatted : ∀ raw, (mk raw).formatted d =
      formatNumeric (Binary.round binary64 (signed raw)) d) (raw : Block n) :
    (mk raw).Reversible d := by
  obtain ⟨hlo, hhi⟩ := signed_bounds raw
  apply reversible_of_parse hd hk hlayout (by omega) raw
  · intro raw'
    rw [hformatted, hpayload, shown, toInt_signed raw' hn]
  · rw [hpayload]
    exact (solid_formatNumeric _).2
  · rw [hpayload]
    apply parsePayload_signed (hk ▸ hnumber)
    · rw [toInt_signed raw hn, hk]
      omega
    · rw [toInt_signed raw hn, hk]
      omega

theorem not_reversible_control2 (hk : d.main = 2) (raw : Block 1) :
    ¬ (DptView.control2 raw).Reversible d := by
  apply not_reversible_of_parse (.control2 raw) (solid_wrapped solid_wrappers.1).2
  · unfold parsePayload
    rw [hk]
    exact congrArg (d.orElse _ ∘ Option.map (DptPayload.binaryControl true))
      (parseBool_formatBinaryControl ..)

theorem not_reversible_control (hk : d.main = 3) (raw : Block 1) :
    ¬ (DptView.control raw).Reversible d := by
  apply not_reversible_of_parse (.control raw) (solid_wrapped solid_wrappers.1).2
  · unfold parsePayload
    rw [hk]
    exact congrArg (d.orElse _) (parseControl3_formatStep (and_le_mask ..) _)

theorem unit_isSome (hk : d.main = 29) : d.unit.isSome := by
  cases d
  all_goals first | rfl | exact absurd hk (by decide)

theorem not_reversible_i64 (hk : d.main = 29) (raw : Block 8) :
    ¬ (DptView.i64 raw).Reversible d := by
  have hnone : parseI64 ((DptView.i64 raw).formatted d) = none :=
    parseI64_formatNumeric (unit_isSome hk) _
  apply not_reversible_of_parse (.i64 raw) (solid_formatNumeric _).2
  · unfold parsePayload
    rw [hk]
    dsimp only
    rw [hnone]
    rfl

theorem reversible_time (hd : d.Exact) (hk : d.main = 10) (raw : Block 3)
    (h : (DptView.time raw).Documented d) : (DptView.time raw).Reversible d := by
  obtain ⟨hhour, hminute, hsecond⟩ := h
  have hrange :
      ¬ (TimeView.hour raw > 23 ∨ TimeView.minute raw > 59 ∨ TimeView.second raw > 59) := by
    simp only [not_or, gt_iff_lt, UInt8.not_lt]
    exact ⟨hhour, hminute, hsecond⟩
  apply reversible_of_parse hd hk .time (by decide) raw (fun _ ↦ rfl)
  · exact (solid_withWeekday (solid_formatTime ..)).2
  · have hparse := parseTime_formatted (and_le_mask (raw.byte 0 >>> 5) 0x07)
      (TimeView.hour raw) (TimeView.minute raw) (TimeView.second raw)
    rw [if_neg hrange] at hparse
    unfold parsePayload
    rw [hk]
    exact congrArg (d.orElse _) hparse

theorem reversible_date (hd : d.Exact) (hk : d.main = 11) (raw : Block 3)
    (h : (DptView.date raw).Documented d) : (DptView.date raw).Reversible d := by
  obtain ⟨hday, hmonth, -⟩ := h
  apply reversible_of_parse hd hk .date (by decide) raw (fun _ ↦ rfl)
  · exact (solid_formatDate ..).2
  · have hparse := parseDate_formatted (DateView.year raw) (DateView.month raw) (DateView.day raw)
    rw [if_pos ⟨hmonth, hday⟩] at hparse
    unfold parsePayload
    rw [hk]
    exact congrArg (d.orElse _) hparse

theorem reversible_dateTime_iff (hd : d.Exact) (hk : d.main = 19) (raw : Block 8) :
    (DptView.dateTime raw).Reversible d ↔ (DptView.dateTime raw).Understood := by
  have hsolid : Solid ((DptView.dateTime raw).formatted d) :=
    solid_withWeekday (solid_formatDateTime ..)
  have hparse := parseDatetime_formatted (and_le_mask (raw.byte 3 >>> 5) 0x07)
    (DateTimeView.year raw) (DateTimeView.month raw) (DateTimeView.day raw)
    (DateTimeView.hour raw) (DateTimeView.minute raw) (DateTimeView.second raw)
  simp only [not_or, gt_iff_lt, UInt8.not_lt] at hparse
  by_cases h : (DptView.dateTime raw).Understood
  · refine iff_of_true ?_ h
    rw [if_pos (by exact h)] at hparse
    apply reversible_of_parse hd hk .dateTime (by decide) raw (fun _ ↦ rfl) hsolid.2
    unfold parsePayload
    rw [hk]
    exact congrArg (d.orElse _) hparse
  · refine iff_of_false ?_ h
    rw [if_neg (by exact h)] at hparse
    apply not_reversible_of_parse (.dateTime raw) hsolid.2
    · unfold parsePayload
      rw [hk]
      exact congrArg (d.orElse _) hparse

theorem reversible_str_iff (hd : d.Exact) (hk : d.main = 16) (raw : Block 14) :
    (DptView.str raw).Reversible d ↔ (DptView.str raw).Understood := by
  obtain ⟨hlength, hnull⟩ := asStr_spec raw
  have hshort {t : Text} (ht : t <:+: StrView.asStr raw) : t.bytes.length ≤ 14 := by
    obtain ⟨front, back, happend⟩ := ht
    have hcount := congrArg (fun t : Text ↦ t.bytes.length) happend
    simp only [Text.bytes, List.flatMap_append, List.length_append] at hcount hlength ⊢
    omega
  have hparse {t : Text} (ht : t <:+: StrView.asStr raw) : d.parsePayload t = .ok (.string t) := by
    unfold parsePayload
    rw [hk]
    exact if_neg (not_lt.mpr (hshort ht))
  rw [DptView.Understood, ← trim_eq_self_iff]
  constructor
  · intro h
    obtain ⟨again, view', hagain, hview', htext⟩ := h
    have hwritten : d.parse (StrView.asStr raw) = .ok (encodeStr (StrView.asStr raw).trim) := by
      rw [parse, hparse isInfix_trim]
      change d.encode _ = _
      unfold encode
      rw [hk]
      rfl
    obtain rfl := Outcome.ok.inj (hwritten.symm.trans hagain)
    have hread := decodeRef_of_layout hk .str ⟨_, encodeStr_length (StrView.asStr raw).trim⟩
    obtain rfl := Outcome.ok.inj (hread.symm.trans hview')
    have hkept := DptPayload.string.inj (str_fields (StrView.asStr raw).trim)
    rw [(text_kept_iff (hshort isInfix_trim)).mpr fun h ↦ hnull (isInfix_trim.subset h)] at hkept
    exact hkept.symm.trans htext
  · intro htrim
    exact reversible_of_parse hd hk .str (by decide) raw (fun _ ↦ rfl) htrim
      (hparse List.infix_rfl)

theorem reversible_scene (hd : d.Exact) (hk : d.main = 17) (raw : Block 1) :
    (DptView.scene raw).Reversible d := by
  have hne : d ≠ .sceneControl := by
    rintro rfl
    exact absurd hk (by decide)
  apply reversible_of_parse hd hk .scene (by decide) raw
  · exact fun _ ↦ if_neg hne
  · exact (solid_formatScene _).2
  · unfold parsePayload
    rw [hk]
    exact congrArg (d.orElse _ ∘ Option.map DptPayload.scene)
      (parseSceneNumber_formatScene (sceneNumber_inRange raw))

theorem eq_sceneControl (hk : d.main = 18) : d = .sceneControl := by
  cases d
  all_goals first | rfl | exact absurd hk (by decide)

theorem reversible_sceneControl (raw : Block 1) :
    (DptView.scene raw).Reversible .sceneControl := by
  have hback : ∀ b : UInt8,
      let number := (b &&& 0x3F) + 1
      let learn := decide (b &&& 0x80 ≠ 0)
      let again := (if learn then 0x80 else 0) ||| (UInt8.ofNat (number.toNat - 1) &&& 0x3F)
      (again &&& 0x3F) + 1 = number ∧ decide (again &&& 0x80 ≠ 0) = learn := by
    decide +kernel
  have hparse := parseSceneControl_formatSceneControl (sceneNumber_inRange raw)
    (SceneView.learn raw)
  obtain ⟨hnumber, hlearn⟩ := hback (raw.byte 0)
  refine ⟨[_], .scene ⟨[_], rfl⟩, ?_, rfl, congrArg₂ formatSceneControl hnumber hlearn⟩
  change DptType.parse _ (formatSceneControl _ _) = _
  rw [parse, (solid_formatSceneControl ..).2]
  change DptType.orElse _ _ (parseSceneControl _) >>= _ = _
  rw [hparse]
  rfl

theorem reversible_enum (hd : d.Exact) (hk : d.main = 20) (raw : Block 1)
    (h : (DptView.enum raw).Documented d) : (DptView.enum raw).Reversible d := by
  have hspec : Solid (formatEnum (EnumView.value raw) d) ∧
      parseEnum (formatEnum (EnumView.value raw) d) d = some (EnumView.value raw) := by
    cases d
    case hvacMode => exact parseEnum_hvacMode h
    case hvacContrMode => exact parseEnum_hvacContrMode h
    all_goals exact absurd hk (by decide)
  apply reversible_of_parse hd hk .enum (by decide) raw (fun _ ↦ rfl) hspec.1.2
  · unfold parsePayload
    rw [hk]
    exact congrArg (d.orElse _ ∘ Option.map DptPayload.enum) hspec.2

theorem reversible_rgb (hd : d.Exact) (hk : d.main = 232) (raw : Block 3) :
    (DptView.rgb raw).Reversible d := by
  apply reversible_of_parse hd hk .rgb (by decide) raw (fun _ ↦ rfl)
  · exact (solid_wrapped solid_wrappers.2.1).2
  · unfold parsePayload
    rw [hk]
    exact congrArg (d.orElse _) (parseRgb_formatRgb ..)

theorem reversible_rgbw (hd : d.Exact) (hk : d.main = 251) (raw : Block 6) :
    (DptView.rgbw raw).Reversible d := by
  apply reversible_of_parse hd hk .rgbw (by decide) raw (fun _ ↦ rfl)
  · exact (solid_wrapped solid_wrappers.2.2).2
  · unfold parsePayload
    rw [hk]
    exact congrArg (d.orElse _) (parseRgbw_formatRgbw ..)

theorem reversible_bool (hd : d.Exact) (hk : d.main = 1) (raw : Block 1) :
    (DptView.bool raw).Reversible d := by
  apply reversible_of_parse hd hk .bool (by decide) raw (fun _ ↦ rfl) (solid_boolLabel _).2
  · unfold parsePayload
    rw [hk]
    exact congrArg (d.orElse _ ∘ Option.map DptPayload.bool) (parseBool_boolLabel _)

theorem reversible_iff {bytes : List UInt8} {view : DptView} (hd : d.Exact)
    (hview : d.decodeRef bytes = .ok view) (hdocumented : view.Documented d) :
    view.Reversible d ↔ view.Understood := by
  obtain ⟨n, mk, raw, hlayout, rfl, -⟩ := exists_layout_of_decodeRef hview
  generalize hk : d.main = k at hlayout
  cases hlayout with
  | bool => exact iff_of_true (reversible_bool hd hk raw) trivial
  | control2 => exact iff_of_false (not_reversible_control2 hk raw) id
  | control => exact iff_of_false (not_reversible_control hk raw) id
  | u8 =>
    exact iff_of_true (reversible_unsigned hd hk .u8 (by decide) (by decide) (by decide)
      (fun _ ↦ rfl) (fun _ ↦ rfl) raw) trivial
  | u16 =>
    exact iff_of_true (reversible_unsigned hd hk .u16 (by decide) (by decide) (by decide)
      (fun _ ↦ rfl) (fun _ ↦ rfl) raw) trivial
  | u32 =>
    exact iff_of_true (reversible_unsigned hd hk .u32 (by decide) (by decide) (by decide)
      (fun _ ↦ rfl) (fun _ ↦ rfl) raw) trivial
  | i8 =>
    exact iff_of_true (reversible_signed hd hk .i8 (by decide) (by decide) (by decide) (by decide)
      (fun _ ↦ rfl) (fun _ ↦ rfl) raw) trivial
  | i16 =>
    exact iff_of_true (reversible_signed hd hk .i16 (by decide) (by decide) (by decide) (by decide)
      (fun _ ↦ rfl) (fun _ ↦ rfl) raw) trivial
  | i32 =>
    exact iff_of_true (reversible_signed hd hk .i32 (by decide) (by decide) (by decide) (by decide)
      (fun _ ↦ rfl) (fun _ ↦ rfl) raw) trivial
  | i64 => exact iff_of_false (not_reversible_i64 hk raw) id
  | float2Byte => exact absurd hk hd.1
  | float4Byte => exact absurd hk hd.2.1
  | xyy => exact absurd hk hd.2.2
  | time => exact iff_of_true (reversible_time hd hk raw hdocumented) trivial
  | date => exact iff_of_true (reversible_date hd hk raw hdocumented) trivial
  | dateTime => exact reversible_dateTime_iff hd hk raw
  | str => exact reversible_str_iff hd hk raw
  | scene => exact iff_of_true (reversible_scene hd hk raw) trivial
  | sceneControl =>
    obtain rfl := eq_sceneControl hk
    exact iff_of_true (reversible_sceneControl raw) trivial
  | enum => exact iff_of_true (reversible_enum hd hk raw hdocumented) trivial
  | rgb => exact iff_of_true (reversible_rgb hd hk raw) trivial
  | rgbw => exact iff_of_true (reversible_rgbw hd hk raw) trivial

theorem time_reversed : (DptView.time ⟨[0x2D, 30, 15], rfl⟩).Reversible .timeOfDay := by
  have hview : timeOfDay.decodeRef [0x2D, 30, 15] = .ok (.time ⟨[0x2D, 30, 15], rfl⟩) := rfl
  have hdocumented : (DptView.time ⟨[0x2D, 30, 15], rfl⟩).Documented .timeOfDay :=
    ⟨by decide, by decide, by decide⟩
  exact (reversible_iff (by decide) hview hdocumented).mpr trivial

/-- A switch under control is shown as `Control(true, On)`, which is no boolean. -/
theorem switchControl_not_reversible :
    (∃ bytes, switchControl.decodeRef bytes = .ok (.control2 ⟨[0x03], rfl⟩)) ∧
      (DptView.control2 ⟨[0x03], rfl⟩).Documented .switchControl ∧
      ¬ (DptView.control2 ⟨[0x03], rfl⟩).Reversible .switchControl :=
  ⟨⟨[0x03], rfl⟩, trivial, not_reversible_control2 rfl _⟩

end DptType

end Knust.Protocol.Dpt
