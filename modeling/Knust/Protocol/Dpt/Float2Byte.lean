import Mathlib.Data.Nat.Bitwise
import Knust.Protocol.Dpt.Codec

namespace Knust.Protocol.Dpt

open Foundation

theorem absI32_of_le {m : ℤ} (h : |m| < 2 ^ 31) : absI32 m = |m| := by
  rw [absI32, if_neg]
  rintro rfl
  simp at h

theorem scaleMantissa_spec (j : ℕ) {m : ℤ} (e : ℕ) (hm : |m| < 2 ^ 31)
    (hj : |m / 2 ^ j| ≤ 2047) :
    ∃ k ≤ j, scaleMantissa m e = (m / 2 ^ k, e + k) ∧ |m / 2 ^ k| ≤ 2047 := by
  induction j generalizing m e with
  | zero =>
    rw [pow_zero, Int.ediv_one] at hj
    refine ⟨0, le_rfl, ?_, by simpa using hj⟩
    rw [scaleMantissa, absI32_of_le hm, if_neg (not_lt.mpr hj)]
    simp
  | succ j ih =>
    by_cases hfits : |m| ≤ 2047
    · refine ⟨0, Nat.zero_le _, ?_, by simpa using hfits⟩
      rw [scaleMantissa, absI32_of_le hm, if_neg (not_lt.mpr hfits)]
      simp
    · have hhalf : m >>> (1 : ℕ) = m / 2 := by rw [Int.shiftRight_eq_div_pow]; rfl
      have hdiv (i : ℕ) : m / 2 / 2 ^ i = m / 2 ^ (i + 1) := by
        rw [Int.ediv_ediv_of_nonneg (by norm_num), ← pow_succ']
      have hsmall : |m / 2| < 2 ^ 31 := by
        rcases abs_cases m with h | h <;> rcases abs_cases (m / 2) with h' | h' <;> omega
      obtain ⟨k, hk, hrun, hbound⟩ := ih (e + 1) hsmall (by rw [hdiv]; exact hj)
      refine ⟨k + 1, Nat.succ_le_succ hk, ?_, by rw [← hdiv]; exact hbound⟩
      rw [scaleMantissa, absI32_of_le hm, if_pos (not_le.mp hfits), hhalf, hrun, hdiv]
      congr 1
      omega

theorem float2_word {s e m : ℕ} (hs : s < 2) (he : e < 16) (hm : m < 2048) :
    (UInt16.ofNat (s * 32768) ||| ((UInt16.ofNat e &&& 0x0F) <<< 11) |||
      (UInt16.ofNat m &&& 0x07FF)).toNat = s * 32768 + e * 2048 + m := by
  have hsign : (UInt16.ofNat (s * 32768)).toNat = 2 ^ 15 * s := by
    rw [UInt16.toNat_ofNat_of_lt' (by simp only [UInt16.size]; omega)]
    omega
  have hexp : ((UInt16.ofNat e &&& 0x0F) <<< 11).toNat = 2 ^ 11 * e := by
    have hmask : e &&& 15 = e := Nat.and_two_pow_sub_one_of_lt_two_pow (n := 4) he
    simp [UInt16.toNat_ofNat', Nat.mod_eq_of_lt (show e < 65536 by omega), hmask,
      Nat.shiftLeft_eq]
    omega
  have hman : (UInt16.ofNat m &&& 0x07FF).toNat = m := by
    have hmask : m &&& 2047 = m := Nat.and_two_pow_sub_one_of_lt_two_pow (n := 11) hm
    simp [UInt16.toNat_ofNat', Nat.mod_eq_of_lt (show m < 65536 by omega), hmask]
  have hhigh : 2 ^ 15 * s ||| 2 ^ 11 * e = 2 ^ 11 * (16 * s + e) := by
    rw [← Nat.two_pow_add_eq_or_of_lt (show 2 ^ 11 * e < 2 ^ 15 by omega)]
    ring
  rw [UInt16.toNat_or, UInt16.toNat_or, hsign, hexp, hman, hhigh,
    ← Nat.two_pow_add_eq_or_of_lt (show m < 2 ^ 11 by omega)]
  ring

namespace Float2ByteView

theorem word_u16Bytes (x : UInt16) : word ⟨u16Bytes x, u16Bytes_length x⟩ = x := by
  have hx : x.toNat < 65536 := x.toNat_lt
  have hbytes : word ⟨u16Bytes x, u16Bytes_length x⟩ =
      ((hiByte x).toUInt16 <<< 8) ||| (loByte x).toUInt16 := by
    simp [word, Block.byte, u16Bytes_eq]
  have hhi : ((hiByte x).toUInt16 <<< 8).toNat = 2 ^ 8 * (x.toNat / 256) := by
    simp [hiByte, Nat.shiftLeft_eq]
    omega
  have hlo : (loByte x).toUInt16.toNat = x.toNat % 256 := by
    simp [loByte]
  apply UInt16.toNat_inj.mp
  rw [hbytes, UInt16.toNat_or, hhi, hlo,
    ← Nat.two_pow_add_eq_or_of_lt (show x.toNat % 256 < 2 ^ 8 by omega)]
  omega

theorem fields_of_word {raw : Block 2} {s e m : ℕ} (hs : s < 2) (he : e < 16) (hm : m < 2048)
    (hraw : (word raw).toNat = s * 32768 + e * 2048 + m) :
    mantissa raw = (m : ℤ) - 2048 * s ∧ exponent raw = e := by
  have hlow : (word raw &&& 0x07FF).toNat = m := by
    rw [UInt16.toNat_and, hraw, show (0x07FF : UInt16).toNat = 2 ^ 11 - 1 from rfl,
      Nat.and_two_pow_sub_one_eq_mod]
    omega
  have hexp : exponent raw = e := by
    rw [exponent, UInt16.toNat_and, UInt16.toNat_shiftRight, hraw,
      show (0x0F : UInt16).toNat = 2 ^ 4 - 1 from rfl, Nat.and_two_pow_sub_one_eq_mod,
      show (11 : UInt16).toNat % 16 = 11 from rfl, Nat.shiftRight_eq_div_pow]
    omega
  have hsign : word raw &&& 0x8000 ≠ 0 ↔ s = 1 := by
    rw [Ne, ← UInt16.toNat_inj, UInt16.toNat_and, hraw,
      show (0x8000 : UInt16).toNat = 2 ^ 15 from rfl, Nat.and_two_pow, Nat.testBit_eq_decide_div_mod_eq]
    rw [show (s * 32768 + e * 2048 + m) / 2 ^ 15 % 2 = s by omega]
    have : s = 0 ∨ s = 1 := by omega
    rcases this with rfl | rfl <;> decide
  refine ⟨?_, hexp⟩
  rw [mantissa, hlow]
  by_cases h : s = 1
  · rw [if_pos (hsign.mpr h), h]
    simp
  · rw [if_neg (mt hsign.mp h), show s = 0 by omega]
    simp

end Float2ByteView

theorem packFloat2_fields {m : ℤ} {e : ℕ} (hm : |m| ≤ 2047) (he : e ≤ 15) :
    Float2ByteView.mantissa (packFloat2 m e) = m ∧
      Float2ByteView.exponent (packFloat2 m e) = e := by
  obtain ⟨hlo, hhi⟩ := abs_le.mp hm
  have he' : e < 16 := by omega
  by_cases hneg : m < 0
  · have hm' : (m + 2048).toNat < 2048 := by omega
    have hfield : UInt16.ofInt ((m + 2048) % 2048) = UInt16.ofNat (m + 2048).toNat := by
      rw [UInt16.ofInt, show (m + 2048) % 2048 % 2 ^ 16 = m + 2048 by omega]
    have hclear (x : UInt16) : (x ||| 0x8000) &&& 0x07FF = x &&& 0x07FF := by
      rw [← UInt16.toNat_inj, UInt16.toNat_and, UInt16.toNat_or, Nat.and_or_distrib_right]
      simp
    have hword : (Float2ByteView.word (packFloat2 m e)).toNat =
        1 * 32768 + e * 2048 + (m + 2048).toNat := by
      rw [packFloat2, Float2ByteView.word_u16Bytes]
      simp only [if_pos hneg, hfield, hclear]
      exact float2_word (s := 1) (by decide) he' hm'
    obtain ⟨hmant, hexp⟩ := Float2ByteView.fields_of_word (by decide) he' hm' hword
    exact ⟨by omega, hexp⟩
  · have hm' : m.toNat < 2048 := by omega
    have hfield : UInt16.ofInt (m % 2048) = UInt16.ofNat m.toNat := by
      rw [UInt16.ofInt, show m % 2048 % 2 ^ 16 = m by omega]
    have hword : (Float2ByteView.word (packFloat2 m e)).toNat =
        0 * 32768 + e * 2048 + m.toNat := by
      rw [packFloat2, Float2ByteView.word_u16Bytes]
      simp only [if_neg hneg, hfield]
      exact float2_word (s := 0) (by decide) he' hm'
    obtain ⟨hmant, hexp⟩ := Float2ByteView.fields_of_word (by decide) he' hm' hword
    exact ⟨by omega, hexp⟩

/-- The value that is read back from the bytes lies within one step below `h`. -/
def WithinStep (h : ℤ) : Prop :=
  (scaleMantissa h 0).2 ≤ 15 ∧
    let raw := encodeFloat2 h
    let m := Float2ByteView.mantissa raw
    let e := Float2ByteView.exponent raw
    e = (scaleMantissa h 0).2 ∧ m * 2 ^ e ≤ h ∧ h < (m + 1) * 2 ^ e

/-- The loop reaches exponent 16 on the lowest values of the admitted range, where the field
has room for 15. -/
theorem scaleMantissa_overflow {h : ℤ} (hlo : -67108864 ≤ h) (hhi : h < -67076096) :
    (scaleMantissa h 0).2 = 16 := by
  have hbound : |h| < 2 ^ 31 := by rw [abs_lt]; omega
  obtain ⟨k, hk, hrun, hfits⟩ := scaleMantissa_spec 16 0 hbound (by rw [abs_le]; omega)
  rw [hrun, Nat.zero_add]
  by_contra hne
  have hle : k ≤ 15 := by omega
  rw [abs_le] at hfits
  have hsteps : h / 2 ^ 15 = h / 2 ^ k / 2 ^ (15 - k) := by
    rw [Int.ediv_ediv_of_nonneg (by positivity), ← pow_add, Nat.add_sub_cancel' hle]
  have hlow : -2047 ≤ h / 2 ^ 15 := by
    rw [hsteps]
    have hpow : (1 : ℤ) ≤ 2 ^ (15 - k) := one_le_pow₀ (by norm_num)
    exact Int.le_ediv_of_mul_le (by positivity) (by nlinarith only [hfits.1, hpow])
  omega

theorem withinStep_iff {h : ℤ} (hlo : -67108864 ≤ h) (hhi : h ≤ 67076096) :
    WithinStep h ↔ -67076096 ≤ h := by
  constructor
  · intro hstep
    by_contra hlt
    have hexp := scaleMantissa_overflow hlo (not_le.mp hlt)
    have := hstep.1
    omega
  · intro hmin
    have hbound : |h| < 2 ^ 31 := by rw [abs_lt]; omega
    obtain ⟨k, hk, hrun, hfits⟩ := scaleMantissa_spec 15 0 hbound (by rw [abs_le]; omega)
    obtain ⟨hmant, hexp⟩ := packFloat2_fields hfits hk
    rw [Nat.zero_add] at hrun
    have hraw : encodeFloat2 h = packFloat2 (h / 2 ^ k) k := by rw [encodeFloat2, hrun]
    have hpos : (0 : ℤ) < 2 ^ k := by positivity
    rw [WithinStep, hrun, hraw]
    simp only [hmant, hexp]
    exact ⟨hk, trivial, Int.ediv_mul_le h hpos.ne', Int.lt_ediv_add_one_mul_self h hpos⟩

theorem withinStep_least : -67108864 ≤ -67076096 ∧ (WithinStep (-67076096) ↔ -67076096 ≤ -67076096) :=
  ⟨by decide, withinStep_iff (by decide) (by decide)⟩

/-- The least value of the range of parsing is -2048 times 2 ^ 15, but the loop goes on. -/
theorem least_parsed_not_withinStep : ¬ WithinStep (-67108864) := by
  intro hstep
  have hexp := scaleMantissa_overflow (h := -67108864) (by decide) (by decide)
  have := hstep.1
  omega

end Knust.Protocol.Dpt
