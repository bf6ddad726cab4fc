import Mathlib.Data.FinEnum
import Knust.Protocol.Dpt.Codec

namespace Knust.Protocol.Dpt

open Foundation

variable {n : ℕ}

inductive Layout : ℕ → (n : ℕ) → (Block n → DptView) → Prop
  | bool : Layout 1 1 .bool
  | control2 : Layout 2 1 .control2
  | control : Layout 3 1 .control
  | u8 : Layout 5 1 .u8
  | i8 : Layout 6 1 .i8
  | u16 : Layout 7 2 .u16
  | i16 : Layout 8 2 .i16
  | float2Byte : Layout 9 2 .float2Byte
  | time : Layout 10 3 .time
  | date : Layout 11 3 .date
  | u32 : Layout 12 4 .u32
  | i32 : Layout 13 4 .i32
  | float4Byte : Layout 14 4 .float4Byte
  | str : Layout 16 14 .str
  | scene : Layout 17 1 .scene
  | sceneControl : Layout 18 1 .scene
  | dateTime : Layout 19 8 .dateTime
  | enum : Layout 20 1 .enum
  | i64 : Layout 29 8 .i64
  | rgb : Layout 232 3 .rgb
  | xyy : Layout 242 6 .xyy
  | rgbw : Layout 251 6 .rgbw

def narrowUnsigned (n : ℕ) (v : UInt64) : UInt64 := UInt64.ofNat (v.toNat % 256 ^ n)

def narrowSigned (n : ℕ) (v : Int64) : Int64 := Int64.ofInt (Int.bmod v.toInt (256 ^ n))

theorem narrowUnsigned_eq_self {v : UInt64} (h : v.toNat < 256 ^ n) : narrowUnsigned n v = v := by
  rw [narrowUnsigned, Nat.mod_eq_of_lt h, UInt64.ofNat_toNat]

theorem narrowSigned_eq_self {v : Int64} (hlo : -(256 ^ n : ℕ) ≤ v.toInt * 2)
    (hhi : v.toInt * 2 < (256 ^ n : ℕ)) : narrowSigned n v = v := by
  rw [narrowSigned, Int.bmod_eq_of_le_mul_two hlo hhi, Int64.ofInt_toInt]

theorem unsigned_beEncode (n x : ℕ) : unsigned ⟨beEncode n x, beEncode_length n x⟩ = x % 256 ^ n :=
  beDecode_beEncode n x

theorem pow_dvd_word (hn : n ≤ 8) : 256 ^ n ∣ 2 ^ 64 := by
  rw [show 2 ^ 64 = 256 ^ 8 by norm_num]
  exact pow_dvd_pow _ hn

theorem signed_beEncode (hn : n ≤ 8) (v : Int64) :
    signed ⟨beEncode n v.toUInt64.toNat, beEncode_length n _⟩ = Int.bmod v.toInt (256 ^ n) := by
  have htoInt : v.toInt = Int.bmod v.toUInt64.toNat (2 ^ 64) :=
    BitVec.toInt_eq_toNat_bmod v.toBitVec
  rw [signed, beDecode_beEncode, htoInt, Int.bmod_bmod_of_dvd (pow_dvd_word hn),
    Int.natCast_mod, Int.emod_bmod]

namespace DptType

variable {d : DptType} {k : ℕ} {view : Block n → DptView}

theorem exists_layout (d : DptType) : d.main = 235 ∨ ∃ n view, Layout d.main n view := by
  cases d
  all_goals first | exact .inl rfl | exact .inr ⟨_, _, by constructor⟩

theorem byteLength_of_layout (hk : d.main = k) (hlayout : Layout k n view) : d.byteLength = n := by
  cases hlayout <;> simp only [byteLength, hk]

theorem decodeRef_of_layout (hk : d.main = k) (hlayout : Layout k n view) (raw : Block n) :
    d.decodeRef raw.val = .ok (view raw) := by
  have hlength : raw.val.length = d.byteLength := by
    rw [byteLength_of_layout hk hlayout, raw.property]
  rw [decodeRef]
  simp only [hlength, ne_eq, not_true, and_false, if_false]
  cases hlayout <;> simp only [hk, toBlock_val] <;> rfl

def Reads (d : DptType) (bytes : List UInt8) (payload : DptPayload) : Prop :=
  bytes.length = d.byteLength ∧ ∃ view, d.decodeRef bytes = .ok view ∧ view.toPayload = payload

theorem Reads.of_layout (hk : d.main = k) (hlayout : Layout k n view) (raw : Block n)
    {p : DptPayload} (hp : (view raw).toPayload = p) : d.Reads raw.val p :=
  ⟨by rw [byteLength_of_layout hk hlayout, raw.property], _, decodeRef_of_layout hk hlayout raw,
    hp⟩

theorem Reads.unique {bytes : List UInt8} {p q : DptPayload} (hp : d.Reads bytes p)
    (hq : d.Reads bytes q) : p = q := by
  obtain ⟨-, view, hview, rfl⟩ := hp
  obtain ⟨-, view', hview', rfl⟩ := hq
  rw [hview, Outcome.ok.injEq] at hview'
  rw [hview']

def stored (d : DptType) (payload : DptPayload) : Option DptPayload :=
  match d.main, payload with
  | 1, .bool v => some (.bool v)
  | 2, .binaryControl control value => some (.binaryControl control value)
  | 3, .control increase stepCode => some (.control increase (stepCode &&& 0x07))
  | 5, .unsignedInt v => some (.unsignedInt (narrowUnsigned 1 v))
  | 7, .unsignedInt v => some (.unsignedInt (narrowUnsigned 2 v))
  | 12, .unsignedInt v => some (.unsignedInt (narrowUnsigned 4 v))
  | 6, .signedInt v => some (.signedInt (narrowSigned 1 v))
  | 8, .signedInt v => some (.signedInt (narrowSigned 2 v))
  | 13, .signedInt v => some (.signedInt (narrowSigned 4 v))
  | 29, .signedInt v => some (.signedInt (narrowSigned 8 v))
  | 10, .time day hour minute second =>
    some (.time (day &&& 0x07) (hour &&& 0x1F) (minute &&& 0x3F) (second &&& 0x3F))
  | 11, .date day month year =>
    if 1990 ≤ year ∧ year ≤ 2089 then some (.date (day &&& 0x1F) (month &&& 0x0F) year) else none
  | 16, .string s => some (.string ((Text.fromUtf8 ((s.bytes.take 14).takeWhile (· ≠ 0))).getD []))
  | 17, .scene number => some (.scene ((UInt8.ofNat (number.toNat - 1) &&& 0x3F) + 1))
  | 18, .sceneControl number _ => some (.scene ((UInt8.ofNat (number.toNat - 1) &&& 0x3F) + 1))
  | 19, .dateTime year month day dayOfWeek hour minute second =>
    if 1900 ≤ year ∧ year ≤ 2155 then
      some (.dateTime year (month &&& 0x0F) (day &&& 0x1F) (dayOfWeek &&& 0x07) (hour &&& 0x1F)
        (minute &&& 0x3F) (second &&& 0x3F))
    else none
  | 20, .enum v => some (.enum v)
  | 232, .colorRGB r g b => some (.colorRGB r g b)
  | 251, .colorRGBW r g b w => some (.colorRGBW r g b w)
  | _, _ => none

def Exact (d : DptType) : Prop := d.main ≠ 9 ∧ d.main ≠ 14 ∧ d.main ≠ 242

instance : Decidable d.Exact := inferInstanceAs (Decidable (_ ∧ _))

theorem Reads.unsigned (hk : d.main = k) (hlayout : Layout k n view)
    (hview : ∀ raw, (view raw).toPayload = .unsignedInt (UInt64.ofNat (unsigned raw)))
    (v : UInt64) : d.Reads (beEncode n v.toNat) (.unsignedInt (narrowUnsigned n v)) := by
  apply Reads.of_layout hk hlayout ⟨_, beEncode_length n _⟩
  rw [hview, unsigned_beEncode, narrowUnsigned]

theorem Reads.signed (hk : d.main = k) (hlayout : Layout k n view) (hn : n ≤ 8)
    (hview : ∀ raw, (view raw).toPayload = .signedInt (Int64.ofInt (signed raw)))
    (v : Int64) : d.Reads (beEncode n v.toUInt64.toNat) (.signedInt (narrowSigned n v)) := by
  apply Reads.of_layout hk hlayout ⟨_, beEncode_length n _⟩
  rw [hview, signed_beEncode hn, narrowSigned]

theorem beEncode_one_uInt64 (v : UInt64) : beEncode 1 v.toNat = [v.toUInt8] := by
  simp [beEncode]

theorem mask_mask (x m : UInt8) : x &&& m &&& m = x &&& m := by
  rw [UInt8.and_assoc, UInt8.and_self]

theorem and_le_mask (x m : UInt8) : x &&& m ≤ m := by
  rw [UInt8.le_iff_toNat_le, UInt8.toNat_and]
  exact Nat.and_le_right

theorem control_fields (increase : Bool) (stepCode : UInt8) :
    (DptView.control ⟨[(if increase then 0x08 else 0) ||| (stepCode &&& 0x07)], rfl⟩).toPayload =
      .control increase (stepCode &&& 0x07) := by
  have hfields : ∀ (increase : Bool) (stepCode : UInt8),
      decide (((if increase then 0x08 else 0) ||| (stepCode &&& 0x07)) &&& 0x08 ≠ 0) = increase ∧
        ((if increase then 0x08 else 0) ||| (stepCode &&& 0x07)) &&& 0x07 = stepCode &&& 0x07 := by
    decide +kernel
  obtain ⟨hincrease, hcode⟩ := hfields increase stepCode
  exact congrArg₂ DptPayload.control hincrease hcode

theorem day_hour_fields (day hour : UInt8) :
    (((day <<< 5) ||| (hour &&& 0x1F)) >>> 5) &&& 0x07 = day &&& 0x07 ∧
      ((day <<< 5) ||| (hour &&& 0x1F)) &&& 0x1F = hour &&& 0x1F := by
  have hday : (day <<< 5).toNat = 2 ^ 5 * (day.toNat % 8) := by
    simp [Nat.shiftLeft_eq]
    omega
  have hhour : (hour &&& 0x1F).toNat = hour.toNat % 2 ^ 5 := by
    rw [UInt8.toNat_and, ← Nat.and_two_pow_sub_one_eq_mod]
    rfl
  have hbyte : ((day <<< 5) ||| (hour &&& 0x1F)).toNat =
      2 ^ 5 * (day.toNat % 8) + hour.toNat % 2 ^ 5 := by
    rw [UInt8.toNat_or, hday, hhour, Nat.two_pow_add_eq_or_of_lt (Nat.mod_lt _ (by decide))]
  constructor
  · rw [← UInt8.toNat_inj, UInt8.toNat_and, UInt8.toNat_shiftRight, hbyte, UInt8.toNat_and,
      show (0x07 : UInt8).toNat = 2 ^ 3 - 1 from rfl, Nat.and_two_pow_sub_one_eq_mod,
      Nat.and_two_pow_sub_one_eq_mod, show (5 : UInt8).toNat % 8 = 5 from rfl,
      Nat.shiftRight_eq_div_pow]
    omega
  · rw [← UInt8.toNat_inj, UInt8.toNat_and, hbyte, hhour,
      show (0x1F : UInt8).toNat = 2 ^ 5 - 1 from rfl, Nat.and_two_pow_sub_one_eq_mod]
    omega

theorem time_fields (day hour minute second : UInt8) :
    (DptView.time ⟨[(day <<< 5) ||| (hour &&& 0x1F), minute &&& 0x3F, second &&& 0x3F],
        rfl⟩).toPayload =
      .time (day &&& 0x07) (hour &&& 0x1F) (minute &&& 0x3F) (second &&& 0x3F) := by
  obtain ⟨hday, hhour⟩ := day_hour_fields day hour
  simp [DptView.toPayload, TimeView.day, TimeView.hour, TimeView.minute, TimeView.second,
    Block.byte, hday, hhour, mask_mask]

theorem exists_offset {year : UInt16} (lo len : ℕ) (hlo : lo ≤ year.toNat)
    (hhi : year.toNat < lo + len) : ∃ i < len, year = UInt16.ofNat (lo + i) :=
  ⟨year.toNat - lo, by omega, by rw [Nat.add_sub_cancel' hlo, UInt16.ofNat_toNat]⟩

theorem date_fields {year : UInt16} (day month : UInt8) (hlo : 1990 ≤ year) (hhi : year ≤ 2089) :
    (DptView.date ⟨[day &&& 0x1F, month &&& 0x0F,
        (if year ≥ 2000 then (year - 2000).toUInt8 else (year - 1900).toUInt8) &&& 0x7F],
        rfl⟩).toPayload =
      .date (day &&& 0x1F) (month &&& 0x0F) year := by
  obtain ⟨i, hi, rfl⟩ := exists_offset 1990 100 (UInt16.le_iff_toNat_le.mp hlo)
    (Nat.lt_succ_of_le (UInt16.le_iff_toNat_le.mp hhi))
  have hyear : ∀ i < 100, DateView.year ⟨[0, 0,
      (if UInt16.ofNat (1990 + i) ≥ 2000 then (UInt16.ofNat (1990 + i) - 2000).toUInt8
        else (UInt16.ofNat (1990 + i) - 1900).toUInt8) &&& 0x7F], rfl⟩ =
      UInt16.ofNat (1990 + i) := by
    decide +kernel
  change DptPayload.date (day &&& 0x1F &&& 0x1F) (month &&& 0x0F &&& 0x0F) _ = _
  rw [mask_mask, mask_mask]
  exact congrArg (DptPayload.date _ _) (hyear i hi)

theorem dateTime_fields {year : UInt16} (month day dayOfWeek hour minute second : UInt8)
    (hlo : 1900 ≤ year) (hhi : year ≤ 2155) :
    (DptView.dateTime ⟨[(year - 1900).toUInt8, month &&& 0x0F, day &&& 0x1F,
        ((dayOfWeek &&& 0x07) <<< 5) ||| (hour &&& 0x1F), minute &&& 0x3F, second &&& 0x3F, 0x00,
        0x00], rfl⟩).toPayload =
      .dateTime year (month &&& 0x0F) (day &&& 0x1F) (dayOfWeek &&& 0x07) (hour &&& 0x1F)
        (minute &&& 0x3F) (second &&& 0x3F) := by
  obtain ⟨hday, hhour⟩ := day_hour_fields (dayOfWeek &&& 0x07) hour
  obtain ⟨i, hi, rfl⟩ := exists_offset 1900 256 (UInt16.le_iff_toNat_le.mp hlo)
    (Nat.lt_succ_of_le (UInt16.le_iff_toNat_le.mp hhi))
  have hyear : ∀ i < 256, (UInt16.ofNat (1900 + i) - 1900).toUInt8.toUInt16 + 1900 =
      UInt16.ofNat (1900 + i) := by
    decide +kernel
  change DptPayload.dateTime ((UInt16.ofNat (1900 + i) - 1900).toUInt8.toUInt16 + 1900)
    (month &&& 0x0F &&& 0x0F) (day &&& 0x1F &&& 0x1F)
    ((((dayOfWeek &&& 0x07) <<< 5) ||| (hour &&& 0x1F)) >>> 5 &&& 0x07)
    ((((dayOfWeek &&& 0x07) <<< 5) ||| (hour &&& 0x1F)) &&& 0x1F) (minute &&& 0x3F &&& 0x3F)
    (second &&& 0x3F &&& 0x3F) = _
  rw [hyear i hi, hday, hhour]
  simp only [mask_mask]

theorem encodeStr_length (s : Text) : (encodeStr s).length = 14 := by
  simp [encodeStr]

theorem takeWhile_padded (front : List UInt8) (m : ℕ) :
    (front ++ List.replicate m 0).takeWhile (· ≠ 0) = front.takeWhile (· ≠ 0) := by
  induction front with
  | nil => cases m <;> simp [List.replicate_succ]
  | cons b front ih =>
    by_cases hb : b = 0
    · simp [hb]
    · simp only [List.cons_append, List.takeWhile_cons, ih]

theorem str_fields (s : Text) :
    (DptView.str ⟨encodeStr s, encodeStr_length s⟩).toPayload =
      .string ((Text.fromUtf8 ((s.bytes.take 14).takeWhile (· ≠ 0))).getD []) := by
  simp only [DptView.toPayload, StrView.asStr, encodeStr, takeWhile_padded]

theorem scene_field (number : UInt8) :
    (DptView.scene ⟨[number &&& 0x3F], rfl⟩).toPayload = .scene ((number &&& 0x3F) + 1) := by
  change DptPayload.scene ((number &&& 0x3F &&& 0x3F) + 1) = _
  rw [mask_mask]

theorem scene_fields (number : UInt8) (learn : Bool) :
    (DptView.scene ⟨[(if learn then 0x80 else 0) ||| (number &&& 0x3F)], rfl⟩).toPayload =
      .scene ((number &&& 0x3F) + 1) := by
  have hnumber : ∀ (learn : Bool) (number : UInt8),
      ((if learn then 0x80 else 0) ||| (number &&& 0x3F)) &&& 0x3F = number &&& 0x3F := by
    decide +kernel
  exact congrArg (fun x ↦ DptPayload.scene (x + 1)) (hnumber learn number)

/-- A value is refused, or it is written as bytes that are read as the given value. -/
inductive Written (d : DptType) : Result (List UInt8) → Option DptPayload → Prop
  | refused (e : KnxError) : Written d (.err e) none
  | reads {bytes : List UInt8} {payload : DptPayload} (h : d.Reads bytes payload) :
    Written d (.ok bytes) (some payload)

theorem encode_written (hd : d.Exact) (p : DptPayload) : d.Written (d.encode p) (d.stored p) := by
  obtain ⟨h9, h14, h242⟩ := hd
  rcases d.exists_layout with hk | ⟨n, view, hlayout⟩
  · unfold encode stored
    rw [hk]
    cases p <;> exact .refused _
  · generalize hk : d.main = k at hlayout
    unfold encode stored
    rw [hk]
    cases hlayout with
    | bool =>
      cases p with
      | bool v => exact .reads (.of_layout hk .bool ⟨[u8From v], rfl⟩ (by cases v <;> rfl))
      | _ => exact .refused _
    | control2 =>
      cases p with
      | binaryControl control value =>
        exact .reads (.of_layout hk .control2 ⟨[_], rfl⟩ (by cases control <;> cases value <;> rfl))
      | _ => exact .refused _
    | control =>
      cases p with
      | control increase stepCode =>
        exact .reads (.of_layout hk .control ⟨[_], rfl⟩ (control_fields increase stepCode))
      | _ => exact .refused _
    | u8 =>
      cases p with
      | unsignedInt v =>
        apply Written.reads
        rw [← beEncode_one_uInt64]
        exact Reads.unsigned hk .u8 (fun _ ↦ rfl) v
      | _ => exact .refused _
    | i8 =>
      cases p with
      | signedInt v =>
        apply Written.reads
        rw [← beEncode_one_uInt64]
        exact Reads.signed hk .i8 (by decide) (fun _ ↦ rfl) v
      | _ => exact .refused _
    | u16 =>
      cases p with
      | unsignedInt v => exact .reads (.unsigned hk .u16 (fun _ ↦ rfl) v)
      | _ => exact .refused _
    | i16 =>
      cases p with
      | signedInt v => exact .reads (.signed hk .i16 (by decide) (fun _ ↦ rfl) v)
      | _ => exact .refused _
    | float2Byte => exact absurd hk h9
    | time =>
      cases p with
      | time day hour minute second =>
        exact .reads (.of_layout hk .time ⟨[_, _, _], rfl⟩ (time_fields ..))
      | _ => exact .refused _
    | date =>
      cases p with
      | date day month year =>
        change d.Written (if _ then _ else _) (if _ then _ else _)
        by_cases hyear : 1990 ≤ year ∧ year ≤ 2089
        · rw [if_pos hyear, if_pos hyear]
          exact .reads (.of_layout hk .date ⟨[_, _, _], rfl⟩ (date_fields _ _ hyear.1 hyear.2))
        · rw [if_neg hyear, if_neg hyear]
          exact .refused _
      | _ => exact .refused _
    | u32 =>
      cases p with
      | unsignedInt v => exact .reads (.unsigned hk .u32 (fun _ ↦ rfl) v)
      | _ => exact .refused _
    | i32 =>
      cases p with
      | signedInt v => exact .reads (.signed hk .i32 (by decide) (fun _ ↦ rfl) v)
      | _ => exact .refused _
    | float4Byte => exact absurd hk h14
    | str =>
      cases p with
      | string s => exact .reads (.of_layout hk .str ⟨_, encodeStr_length s⟩ (str_fields s))
      | _ => exact .refused _
    | scene =>
      cases p with
      | scene number => exact .reads (.of_layout hk .scene ⟨[_], rfl⟩ (scene_field _))
      | _ => exact .refused _
    | sceneControl =>
      cases p with
      | sceneControl number learn =>
        exact .reads (.of_layout hk .sceneControl ⟨[_], rfl⟩ (scene_fields _ learn))
      | _ => exact .refused _
    | dateTime =>
      cases p with
      | dateTime year month day dayOfWeek hour minute second =>
        change d.Written (if _ then _ else _) (if _ then _ else _)
        by_cases hyear : 1900 ≤ year ∧ year ≤ 2155
        · rw [if_pos hyear, if_pos hyear]
          exact .reads (.of_layout hk .dateTime ⟨[_, _, _, _, _, _, _, _], rfl⟩
            (dateTime_fields _ _ _ _ _ _ hyear.1 hyear.2))
        · rw [if_neg hyear, if_neg hyear]
          exact .refused _
      | _ => exact .refused _
    | enum =>
      cases p with
      | enum v => exact .reads (.of_layout hk .enum ⟨[v], rfl⟩ rfl)
      | _ => exact .refused _
    | i64 =>
      cases p with
      | signedInt v => exact .reads (.signed hk .i64 (by decide) (fun _ ↦ rfl) v)
      | _ => exact .refused _
    | rgb =>
      cases p with
      | colorRGB r g b => exact .reads (.of_layout hk .rgb ⟨[r, g, b], rfl⟩ rfl)
      | _ => exact .refused _
    | xyy => exact absurd hk h242
    | rgbw =>
      cases p with
      | colorRGBW r g b w => exact .reads (.of_layout hk .rgbw ⟨[r, g, b, w, 0, 0x0F], rfl⟩ rfl)
      | _ => exact .refused _

end DptType

end Knust.Protocol.Dpt
