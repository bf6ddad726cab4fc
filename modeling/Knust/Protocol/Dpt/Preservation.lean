import Mathlib.Data.List.TakeWhile
import Knust.Protocol.Dpt.CodecRoundTrip

namespace Knust.Protocol.Dpt

open Foundation

namespace DptType

variable {d : DptType}

def InRange (d : DptType) (payload : DptPayload) : Prop :=
  match d.main, payload with
  | 3, .control _ stepCode => stepCode ≤ 7
  | 5, .unsignedInt v => v.toNat ≤ 255
  | 6, .signedInt v => -128 ≤ v.toInt ∧ v.toInt ≤ 127
  | 7, .unsignedInt v => v.toNat ≤ 65535
  | 8, .signedInt v => -32768 ≤ v.toInt ∧ v.toInt ≤ 32767
  | 10, .time day hour minute second => day ≤ 7 ∧ hour ≤ 23 ∧ minute ≤ 59 ∧ second ≤ 59
  | 11, .date day month year =>
    (1 ≤ day ∧ day ≤ 31) ∧ (1 ≤ month ∧ month ≤ 12) ∧ 1990 ≤ year ∧ year ≤ 2089
  | 12, .unsignedInt v => v.toNat ≤ 4294967295
  | 13, .signedInt v => -2147483648 ≤ v.toInt ∧ v.toInt ≤ 2147483647
  | 16, .string s => s.bytes.length ≤ 14
  | 17, .scene number => 1 ≤ number ∧ number ≤ 64
  | 18, .sceneControl number _ => 1 ≤ number ∧ number ≤ 64
  | 19, .dateTime year month day dayOfWeek hour minute second =>
    (1900 ≤ year ∧ year ≤ 2155) ∧ (1 ≤ month ∧ month ≤ 12) ∧ (1 ≤ day ∧ day ≤ 31) ∧
      dayOfWeek ≤ 7 ∧ (hour ≤ 23 ∨ hour = 24 ∧ minute = 0 ∧ second = 0) ∧ minute ≤ 59 ∧
      second ≤ 59
  | _, _ => True

def Preserves (d : DptType) (payload : DptPayload) : Prop :=
  (∀ bytes, d.encode payload = .ok bytes → d.Reads bytes payload) ∧
    (¬ d.InRange payload → ∃ e, d.encode payload = .err e)

/-- The values in range, without null characters and scene controls. The range does not
matter where the year is refused. -/
def Faithful (d : DptType) (payload : DptPayload) : Prop :=
  match d.main, payload with
  | 11, .date _ _ year => 1990 ≤ year ∧ year ≤ 2089 → d.InRange payload
  | 16, .string s => d.InRange payload ∧ Char.ofNat 0 ∉ s
  | 18, .sceneControl .. => False
  | 19, .dateTime year .. => 1900 ≤ year ∧ year ≤ 2155 → d.InRange payload
  | _, _ => d.InRange payload

theorem preserves_iff_stored (hd : d.Exact) (p : DptPayload) :
    d.Preserves p ↔ ∀ q, d.stored p = some q → q = p ∧ d.InRange p := by
  have hwritten := encode_written hd p
  rw [Preserves]
  generalize d.encode p = result, d.stored p = after at hwritten
  cases hwritten with
  | refused e => simp
  | reads h =>
    simp only [Outcome.ok.injEq, forall_eq', reduceCtorEq, exists_false, imp_false, not_not,
      Option.some.injEq]
    exact and_congr_left fun _ ↦ ⟨fun hp ↦ h.unique hp, fun hp ↦ hp ▸ h⟩

theorem forall_stored {p q : DptPayload} {R : Prop} :
    (∀ q', some q = some q' → q' = p ∧ R) ↔ q = p ∧ R := by
  simp

theorem stored_row {p q : DptPayload} {R : Prop} (h : R → q = p) :
    (∀ q', some q = some q' → q' = p ∧ R) ↔ R :=
  forall_stored.trans (and_iff_right_of_imp h)

theorem unstored_row {p : DptPayload} {R F : Prop} (h : F) :
    (∀ q, (none : Option DptPayload) = some q → q = p ∧ R) ↔ F :=
  ⟨fun _ ↦ h, by simp⟩

theorem mask_eq_self {x m b : UInt8} (k : ℕ) (hm : m.toNat = 2 ^ k - 1) (hx : x ≤ b)
    (hb : b ≤ m) : x &&& m = x := by
  have hle : x.toNat ≤ 2 ^ k - 1 := hm ▸ UInt8.le_iff_toNat_le.mp (UInt8.le_trans hx hb)
  have hlt : x.toNat < 2 ^ k := Nat.lt_of_le_pred (Nat.two_pow_pos k) hle
  rw [← UInt8.toNat_inj, UInt8.toNat_and, hm, Nat.and_two_pow_sub_one_of_lt_two_pow hlt]

theorem text_kept_iff {s : Text} (hlength : s.bytes.length ≤ 14) :
    (Text.fromUtf8 ((s.bytes.take 14).takeWhile (· ≠ 0))).getD [] = s ↔ Char.ofNat 0 ∉ s := by
  rw [List.take_of_length_le hlength]
  constructor
  · intro hkept hnull
    cases hread : Text.fromUtf8 (s.bytes.takeWhile (· ≠ 0)) with
    | none =>
      rw [hread, Option.getD_none] at hkept
      rw [← hkept] at hnull
      exact List.not_mem_nil hnull
    | some t =>
      rw [hread, Option.getD_some] at hkept
      have hbytes := Text.bytes_of_fromUtf8 hread
      rw [hkept] at hbytes
      have hzero := Text.zero_mem_bytes.mpr hnull
      rw [hbytes] at hzero
      simpa using List.mem_takeWhile_imp hzero
  · intro hnull
    have hnonzero : s.bytes.takeWhile (· ≠ 0) = s.bytes := by
      rw [List.takeWhile_eq_self_iff]
      intro b hb
      rw [decide_eq_true_iff]
      rintro rfl
      exact hnull (Text.zero_mem_bytes.mp hb)
    rw [hnonzero, Text.fromUtf8_bytes, Option.getD_some]

theorem scene_kept {number : UInt8} (h : 1 ≤ number ∧ number ≤ 64) :
    (UInt8.ofNat (number.toNat - 1) &&& 0x3F) + 1 = number := by
  have hkept : ∀ number : UInt8, 1 ≤ number ∧ number ≤ 64 →
      (UInt8.ofNat (number.toNat - 1) &&& 0x3F) + 1 = number := by
    decide +kernel
  exact hkept number h

theorem preserves_iff_faithful (hd : d.Exact) (p : DptPayload) :
    d.Preserves p ↔ d.Faithful p := by
  rw [preserves_iff_stored hd]
  obtain ⟨h9, h14, h242⟩ := hd
  rcases d.exists_layout with hk | ⟨n, view, hlayout⟩
  · unfold stored Faithful InRange
    rw [hk]
    cases p <;> exact unstored_row trivial
  · generalize hk : d.main = k at hlayout
    unfold stored Faithful InRange
    rw [hk]
    cases hlayout with
    | bool =>
      cases p with
      | bool v => exact stored_row fun _ ↦ rfl
      | _ => exact unstored_row trivial
    | control2 =>
      cases p with
      | binaryControl control value => exact stored_row fun _ ↦ rfl
      | _ => exact unstored_row trivial
    | control =>
      cases p with
      | control increase stepCode =>
        apply stored_row
        intro (h : stepCode ≤ 7)
        rw [mask_eq_self 3 rfl h (by decide)]
      | _ => exact unstored_row trivial
    | u8 =>
      cases p with
      | unsignedInt v =>
        apply stored_row
        intro (h : v.toNat ≤ 255)
        rw [narrowUnsigned_eq_self (by omega)]
      | _ => exact unstored_row trivial
    | i8 =>
      cases p with
      | signedInt v =>
        apply stored_row
        intro (h : -128 ≤ v.toInt ∧ v.toInt ≤ 127)
        rw [narrowSigned_eq_self (by omega) (by omega)]
      | _ => exact unstored_row trivial
    | u16 =>
      cases p with
      | unsignedInt v =>
        apply stored_row
        intro (h : v.toNat ≤ 65535)
        rw [narrowUnsigned_eq_self (by omega)]
      | _ => exact unstored_row trivial
    | i16 =>
      cases p with
      | signedInt v =>
        apply stored_row
        intro (h : -32768 ≤ v.toInt ∧ v.toInt ≤ 32767)
        rw [narrowSigned_eq_self (by omega) (by omega)]
      | _ => exact unstored_row trivial
    | float2Byte => exact absurd hk h9
    | time =>
      cases p with
      | time day hour minute second =>
        apply stored_row
        intro ⟨hday, hhour, hminute, hsecond⟩
        rw [mask_eq_self 3 rfl hday (by decide), mask_eq_self 5 rfl hhour (by decide),
          mask_eq_self 6 rfl hminute (by decide), mask_eq_self 6 rfl hsecond (by decide)]
      | _ => exact unstored_row trivial
    | date =>
      cases p with
      | date day month year =>
        change (∀ q, (if 1990 ≤ year ∧ year ≤ 2089 then _ else _) = some q → _) ↔ (1990 ≤ year ∧ year ≤ 2089 → _)
        by_cases hyear : 1990 ≤ year ∧ year ≤ 2089
        · rw [if_pos hyear, imp_iff_right hyear]
          apply stored_row
          intro ⟨⟨_, hday⟩, ⟨_, hmonth⟩, _⟩
          rw [mask_eq_self 5 rfl hday (by decide), mask_eq_self 4 rfl hmonth (by decide)]
        · rw [if_neg hyear]
          exact unstored_row fun h ↦ absurd h hyear
      | _ => exact unstored_row trivial
    | u32 =>
      cases p with
      | unsignedInt v =>
        apply stored_row
        intro (h : v.toNat ≤ 4294967295)
        rw [narrowUnsigned_eq_self (by omega)]
      | _ => exact unstored_row trivial
    | i32 =>
      cases p with
      | signedInt v =>
        apply stored_row
        intro (h : -2147483648 ≤ v.toInt ∧ v.toInt ≤ 2147483647)
        rw [narrowSigned_eq_self (by omega) (by omega)]
      | _ => exact unstored_row trivial
    | float4Byte => exact absurd hk h14
    | str =>
      cases p with
      | string s =>
        apply forall_stored.trans
        rw [DptPayload.string.injEq, and_comm]
        exact and_congr_right text_kept_iff
      | _ => exact unstored_row trivial
    | scene =>
      cases p with
      | scene number =>
        apply stored_row
        intro h
        rw [scene_kept h]
      | _ => exact unstored_row trivial
    | sceneControl =>
      cases p with
      | sceneControl number learn =>
        exact forall_stored.trans ⟨fun h ↦ absurd h.1 (by simp), False.elim⟩
      | _ => exact unstored_row trivial
    | dateTime =>
      cases p with
      | dateTime year month day dayOfWeek hour minute second =>
        change (∀ q, (if 1900 ≤ year ∧ year ≤ 2155 then _ else _) = some q → _) ↔ (1900 ≤ year ∧ year ≤ 2155 → _)
        by_cases hyear : 1900 ≤ year ∧ year ≤ 2155
        · rw [if_pos hyear, imp_iff_right hyear]
          apply stored_row
          intro ⟨_, ⟨_, hmonth⟩, ⟨_, hday⟩, hweekday, hhour, hminute, hsecond⟩
          have hhour' : hour ≤ 24 := by
            rcases hhour with hhour | ⟨rfl, _⟩
            · exact UInt8.le_trans hhour (by decide)
            · exact UInt8.le_refl _
          rw [mask_eq_self 4 rfl hmonth (by decide), mask_eq_self 5 rfl hday (by decide),
            mask_eq_self 3 rfl hweekday (by decide), mask_eq_self 5 rfl hhour' (by decide),
            mask_eq_self 6 rfl hminute (by decide), mask_eq_self 6 rfl hsecond (by decide)]
        · rw [if_neg hyear]
          exact unstored_row fun h ↦ absurd h hyear
      | _ => exact unstored_row trivial
    | enum =>
      cases p with
      | enum v => exact stored_row fun _ ↦ rfl
      | _ => exact unstored_row trivial
    | i64 =>
      cases p with
      | signedInt v =>
        have hlo := v.le_toInt
        have hhi := v.toInt_lt
        apply stored_row
        intro _
        rw [narrowSigned_eq_self (by omega) (by omega)]
      | _ => exact unstored_row trivial
    | rgb =>
      cases p with
      | colorRGB r g b => exact stored_row fun _ ↦ rfl
      | _ => exact unstored_row trivial
    | xyy => exact absurd hk h242
    | rgbw =>
      cases p with
      | colorRGBW r g b w => exact stored_row fun _ ↦ rfl
      | _ => exact unstored_row trivial

theorem count_kept :
    DptType.Exact .value1Ucount ∧
      (DptType.Preserves .value1Ucount (.unsignedInt 200) ↔
        DptType.Faithful .value1Ucount (.unsignedInt 200)) :=
  ⟨by decide, preserves_iff_faithful (by decide) _⟩

/-- The number 256 is written as zero. -/
theorem count_wrapped : ¬ DptType.Preserves .value1Ucount (.unsignedInt 256) := by
  intro h
  obtain ⟨-, view, hview, hpayload⟩ := h.1 [0] rfl
  cases hview
  exact absurd hpayload (by decide)

def Resendable (d : DptType) (bytes : List UInt8) : Prop :=
  ∃ view, d.decodeRef bytes = .ok view ∧
    (d.Exact → ∃ again, d.encode view.toPayload = .ok again ∧
      ∃ view', d.decodeRef again = .ok view' ∧ view'.toPayload = view.toPayload)

theorem narrowUnsigned_unsigned {n : ℕ} (raw : Block n) (hn : n ≤ 8) :
    narrowUnsigned n (UInt64.ofNat (unsigned raw)) = UInt64.ofNat (unsigned raw) := by
  have hlt : unsigned raw < 256 ^ n := by
    have h := beDecode_lt raw.val
    rwa [raw.property] at h
  rw [narrowUnsigned, UInt64.toNat_ofNat', Nat.mod_mod_of_dvd _ (pow_dvd_word hn),
    Nat.mod_eq_of_lt hlt]

theorem narrowSigned_signed {n : ℕ} (raw : Block n) (hn : n ≤ 8) :
    narrowSigned n (Int64.ofInt (signed raw)) = Int64.ofInt (signed raw) := by
  rw [narrowSigned, Int64.toInt_ofInt, show Int64.size = 2 ^ 64 from rfl,
    Int.bmod_bmod_of_dvd (pow_dvd_word hn), signed, Int.bmod_bmod]

theorem dateView_year (raw : Block 3) : 1990 ≤ DateView.year raw ∧ DateView.year raw ≤ 2089 := by
  have hyear : ∀ b : UInt8, 1990 ≤ DateView.year ⟨[0, 0, b], rfl⟩ ∧
      DateView.year ⟨[0, 0, b], rfl⟩ ≤ 2089 := by
    decide +kernel
  exact hyear (raw.byte 2)

theorem dateTimeView_year (raw : Block 8) :
    1900 ≤ DateTimeView.year raw ∧ DateTimeView.year raw ≤ 2155 := by
  have hyear : ∀ b : UInt8, 1900 ≤ b.toUInt16 + 1900 ∧ b.toUInt16 + 1900 ≤ 2155 := by
    decide +kernel
  exact hyear (raw.byte 0)

theorem sceneNumber_inRange (raw : Block 1) :
    1 ≤ SceneView.sceneNumber raw ∧ SceneView.sceneNumber raw ≤ 64 := by
  have hnumber : ∀ b : UInt8, 1 ≤ (b &&& 0x3F) + 1 ∧ (b &&& 0x3F) + 1 ≤ 64 := by
    decide +kernel
  exact hnumber (raw.byte 0)

theorem asStr_spec (raw : Block 14) :
    (StrView.asStr raw).bytes.length ≤ 14 ∧ Char.ofNat 0 ∉ StrView.asStr raw := by
  cases hread : Text.fromUtf8 (raw.val.takeWhile (· ≠ 0)) with
  | none =>
    rw [StrView.asStr, hread]
    exact ⟨by decide, List.not_mem_nil⟩
  | some t =>
    have hbytes := Text.bytes_of_fromUtf8 hread
    rw [StrView.asStr, hread, Option.getD_some, ← Text.zero_mem_bytes, hbytes]
    refine ⟨(List.takeWhile_prefix _).length_le.trans_eq raw.property, ?_⟩
    intro hzero
    simpa using List.mem_takeWhile_imp hzero

theorem stored_received {k n : ℕ} {view : Block n → DptView} (hd : d.Exact) (hk : d.main = k)
    (hlayout : Layout k n view) (h18 : k ≠ 18) (raw : Block n) :
    d.stored (view raw).toPayload = some (view raw).toPayload := by
  unfold stored
  rw [hk]
  cases hlayout with
  | bool => rfl
  | control2 => rfl
  | control => exact congrArg (some ∘ DptPayload.control _) (mask_mask _ _)
  | u8 => exact congrArg (some ∘ DptPayload.unsignedInt) (narrowUnsigned_unsigned raw (by decide))
  | i8 => exact congrArg (some ∘ DptPayload.signedInt) (narrowSigned_signed raw (by decide))
  | u16 => exact congrArg (some ∘ DptPayload.unsignedInt) (narrowUnsigned_unsigned raw (by decide))
  | i16 => exact congrArg (some ∘ DptPayload.signedInt) (narrowSigned_signed raw (by decide))
  | float2Byte => exact absurd hk hd.1
  | time =>
    change some (DptPayload.time _ _ _ _) = some (DptPayload.time _ _ _ _)
    simp only [TimeView.day, TimeView.hour, TimeView.minute, TimeView.second, mask_mask]
  | date =>
    change (if _ then some (DptPayload.date _ _ _) else none) = some (DptPayload.date _ _ _)
    rw [if_pos (dateView_year raw)]
    simp only [DateView.day, DateView.month, mask_mask]
  | u32 => exact congrArg (some ∘ DptPayload.unsignedInt) (narrowUnsigned_unsigned raw (by decide))
  | i32 => exact congrArg (some ∘ DptPayload.signedInt) (narrowSigned_signed raw (by decide))
  | float4Byte => exact absurd hk hd.2.1
  | str =>
    obtain ⟨hlength, hnull⟩ := asStr_spec raw
    exact congrArg (some ∘ DptPayload.string) ((text_kept_iff hlength).mpr hnull)
  | scene => exact congrArg (some ∘ DptPayload.scene) (scene_kept (sceneNumber_inRange raw))
  | sceneControl => exact absurd rfl h18
  | dateTime =>
    change (if _ then some (DptPayload.dateTime _ _ _ _ _ _ _) else none) =
      some (DptPayload.dateTime _ _ _ _ _ _ _)
    rw [if_pos (dateTimeView_year raw)]
    simp only [DateTimeView.month, DateTimeView.day, DateTimeView.dayOfWeek, DateTimeView.hour,
      DateTimeView.minute, DateTimeView.second, mask_mask]
  | enum => rfl
  | i64 => exact congrArg (some ∘ DptPayload.signedInt) (narrowSigned_signed raw (by decide))
  | rgb => rfl
  | xyy => exact absurd hk hd.2.2
  | rgbw => rfl

theorem encode_received {k n : ℕ} {view : Block n → DptView} (hd : d.Exact) (hk : d.main = k)
    (hlayout : Layout k n view) (h18 : k ≠ 18) (raw : Block n) :
    ∃ again, d.encode (view raw).toPayload = .ok again ∧ d.Reads again (view raw).toPayload := by
  have hwritten := encode_written hd (view raw).toPayload
  rw [stored_received hd hk hlayout h18 raw] at hwritten
  generalize d.encode (view raw).toPayload = result at hwritten ⊢
  cases hwritten with
  | reads h => exact ⟨_, rfl, h⟩

theorem decodeRef_tariff (hk : d.main = 235) {bytes : List UInt8}
    (hlength : bytes.length = d.byteLength) : ∃ e, d.decodeRef bytes = .err e := by
  have hsix : d.byteLength = 6 := by simp only [byteLength, hk]
  rw [hsix] at hlength
  simp [decodeRef, hk, hsix, hlength, dptError]

theorem resendable_iff {bytes : List UInt8} (hlength : bytes.length = d.byteLength) :
    d.Resendable bytes ↔ d.main ≠ 18 ∧ d.main ≠ 235 := by
  rcases d.exists_layout with hk | ⟨n, view, hlayout⟩
  · refine iff_of_false ?_ (fun h ↦ h.2 hk)
    intro ⟨view, hview, _⟩
    obtain ⟨e, he⟩ := decodeRef_tariff hk hlength
    simp [he] at hview
  generalize hk : d.main = k at hlayout
  let raw : Block n := ⟨bytes, hlength.trans (byteLength_of_layout hk hlayout)⟩
  have hdecode : d.decodeRef bytes = .ok (view raw) := decodeRef_of_layout hk hlayout raw
  by_cases h18 : k = 18
  · refine iff_of_false ?_ (fun h ↦ h.1 h18)
    intro ⟨view', hview', hagain⟩
    rw [hdecode, Outcome.ok.injEq] at hview'
    subst h18 hview'
    obtain ⟨again, hencode, -⟩ := hagain ⟨by omega, by omega, by omega⟩
    -- The view of a scene control is the one of a scene number, which is not taken back.
    cases hlayout
    unfold encode at hencode
    rw [hk] at hencode
    cases hencode
  · refine iff_of_true ⟨_, hdecode, fun hd ↦ ?_⟩ ⟨h18, ?_⟩
    · obtain ⟨again, hencode, -, hreads⟩ := encode_received hd hk hlayout h18 raw
      exact ⟨again, hencode, hreads⟩
    · rintro rfl
      cases hlayout

theorem switch_resendable :
    [1].length = DptType.byteLength .switch ∧
      (DptType.Resendable .switch [1] ↔
        DptType.main .switch ≠ 18 ∧ DptType.main .switch ≠ 235) :=
  ⟨rfl, resendable_iff rfl⟩

/-- A scene control is read as a scene number, and its type does not write scene numbers. -/
theorem scene_not_resendable : ¬ DptType.Resendable .sceneControl [0x83] := by
  intro ⟨view, hview, hagain⟩
  cases hview
  obtain ⟨again, hencode, -⟩ := hagain (by decide)
  cases hencode

end DptType

end Knust.Protocol.Dpt
