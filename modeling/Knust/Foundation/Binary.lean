import Mathlib.Data.Int.Log
import Mathlib.Data.Rat.Floor
import Mathlib.Tactic.FieldSimp

namespace Knust.Foundation

/-- A binary floating-point format: how many bits are significant, the exponent of the
smallest positive number, and the exponent from which on numbers are infinite. -/
structure Format where
  precision : ℕ
  least : ℤ
  overflow : ℤ

def binary64 : Format := ⟨53, -1074, 1024⟩

def binary32 : Format := ⟨24, -149, 128⟩

/-- A floating-point number. A zero keeps no sign. -/
inductive Binary (F : Format)
  | finite (value : ℚ)
  | infinite (negative : Bool)
  | nan
  deriving DecidableEq

def roundHalfEven (x : ℚ) : ℤ :=
  if x - ⌊x⌋ < 1 / 2 ∨ x - ⌊x⌋ = 1 / 2 ∧ ⌊x⌋ % 2 = 0 then ⌊x⌋ else ⌊x⌋ + 1

theorem roundHalfEven_intCast (n : ℤ) : roundHalfEven n = n := by
  simp [roundHalfEven]

theorem abs_roundHalfEven_sub_le (x : ℚ) : |roundHalfEven x - x| ≤ 1 / 2 := by
  have hfloor := Int.floor_le x
  have hlt := Int.lt_floor_add_one x
  unfold roundHalfEven
  split
  case isTrue h =>
    rw [abs_le]
    obtain h | h := h <;> constructor <;> linarith
  case isFalse h =>
    have hhalf : 1 / 2 ≤ x - ⌊x⌋ := not_lt.mp fun hlt ↦ h (.inl hlt)
    rw [abs_le]
    push_cast
    constructor <;> linarith

/-- The distance of neighbouring numbers in the range of a given one. -/
def Format.spacing (F : Format) (x : ℚ) : ℚ :=
  2 ^ max (Int.log 2 |x| - (F.precision - 1)) F.least

namespace Binary

variable {F G : Format}

def round (F : Format) (x : ℚ) : Binary F :=
  let y := roundHalfEven (x / F.spacing x) * F.spacing x
  if 2 ^ F.overflow ≤ |y| then .infinite (x < 0) else .finite y

theorem round_eq_self {x : ℚ} {k : ℤ} (hx : x = k * F.spacing x) (hlt : |x| < 2 ^ F.overflow) :
    round F x = .finite x := by
  have hspacing : F.spacing x ≠ 0 := zpow_ne_zero _ (by norm_num)
  have hquotient : x / F.spacing x = k := (div_eq_iff hspacing).mpr hx
  rw [round, hquotient, roundHalfEven_intCast, ← hx, if_neg (not_le.mpr hlt)]

theorem spacing_le_abs {x : ℚ} (hprecision : 1 ≤ F.precision) (hx : x ≠ 0)
    (hleast : 2 ^ F.least ≤ |x|) : F.spacing x ≤ |x| := by
  have hpos : 0 < |x| := abs_pos.mpr hx
  have hlog : F.least ≤ Int.log 2 |x| := (Int.zpow_le_iff_le_log (by decide) hpos).mp hleast
  calc F.spacing x ≤ 2 ^ Int.log 2 |x| := zpow_le_zpow_right₀ (by norm_num) (by omega)
    _ ≤ |x| := Int.zpow_log_le_self (by decide) hpos

theorem abs_le_of_round {x y : ℚ} (hprecision : 1 ≤ F.precision) (hx : x ≠ 0)
    (hleast : 2 ^ F.least ≤ |x|) (h : round F x = .finite y) : |y| ≤ 3 / 2 * |x| := by
  have hspacing : 0 < F.spacing x := zpow_pos (by norm_num) _
  have hle := spacing_le_abs hprecision hx hleast
  have hy : y = roundHalfEven (x / F.spacing x) * F.spacing x := by
    simp only [round] at h
    split at h
    · cases h
    · exact (Binary.finite.inj h).symm
  have hdistance : |y - x| ≤ 1 / 2 * F.spacing x := by
    have hround := abs_roundHalfEven_sub_le (x / F.spacing x)
    calc |y - x| = |(roundHalfEven (x / F.spacing x) - x / F.spacing x) * F.spacing x| := by
          rw [hy, sub_mul, div_mul_cancel₀ _ hspacing.ne']
      _ ≤ 1 / 2 * F.spacing x := by
          rw [abs_mul, abs_of_pos hspacing]
          exact mul_le_mul_of_nonneg_right hround hspacing.le
  have htriangle := abs_sub_abs_le_abs_sub y x
  linarith

theorem round_intCast (hleast : F.least ≤ 0) (hoverflow : (F.precision : ℤ) ≤ F.overflow) {n : ℤ}
    (hn : |n| < 2 ^ F.precision) : round F n = .finite n := by
  by_cases hzero : n = 0
  · subst hzero
    have hlt : |((0 : ℤ) : ℚ)| < 2 ^ F.overflow := by
      rw [Int.cast_zero, abs_zero]
      exact zpow_pos (by norm_num) _
    exact round_eq_self (k := 0) (by simp) hlt
  have habs : |(n : ℚ)| < 2 ^ (F.precision : ℤ) := by exact_mod_cast hn
  have hpos : 0 < |(n : ℚ)| := abs_pos.mpr (Int.cast_ne_zero.mpr hzero)
  have hlog : Int.log 2 |(n : ℚ)| < F.precision := by
    rw [← Int.lt_zpow_iff_log_lt (by decide) hpos]
    exact habs
  -- The spacing is a power of two that divides one.
  obtain ⟨j, hj⟩ : ∃ j : ℕ, max (Int.log 2 |(n : ℚ)| - (F.precision - 1)) F.least = -j :=
    Int.exists_eq_neg_ofNat (by omega)
  apply round_eq_self (k := n * 2 ^ j)
  · rw [Format.spacing, hj, zpow_neg, zpow_natCast]
    push_cast
    field_simp
  · exact habs.trans_le (zpow_le_zpow_right₀ (by norm_num) hoverflow)

def scale (c : ℚ) : Binary F → Binary F
  | .finite x => round F (x * c)
  | .infinite negative => .infinite negative
  | .nan => .nan

theorem scale_ne_self {x c : ℚ} (hprecision : 1 ≤ F.precision) (hx : 1 ≤ |x|)
    (hlo : 2 ^ F.least ≤ c) (hhi : c ≤ 1 / 2) :
    (Binary.finite x : Binary F).scale c ≠ .finite x := by
  intro h
  have hc : 0 < c := lt_of_lt_of_le (zpow_pos (by norm_num) _) hlo
  have habs : |x * c| = |x| * c := by rw [abs_mul, abs_of_pos hc]
  have hleast : 2 ^ F.least ≤ |x * c| := by
    rw [habs]
    exact hlo.trans (le_mul_of_one_le_left hc.le hx)
  have hne : x * c ≠ 0 := abs_pos.mp (lt_of_lt_of_le (zpow_pos (by norm_num) _) hleast)
  have hle := abs_le_of_round hprecision hne hleast h
  have hhalf : |x| * c ≤ |x| * (1 / 2) := mul_le_mul_of_nonneg_left hhi (abs_nonneg x)
  rw [habs] at hle
  linarith

def floor : Binary F → Binary F
  | .finite x => .finite ⌊x⌋
  | .infinite negative => .infinite negative
  | .nan => .nan

def equals : Binary F → Binary F → Bool
  | .finite x, .finite y => x = y
  | .infinite n, .infinite m => n = m
  | _, _ => false

def below (c : ℚ) : Binary F → Bool
  | .finite x => x < c
  | .infinite negative => negative
  | .nan => false

def above (c : ℚ) : Binary F → Bool
  | .finite x => c < x
  | .infinite negative => !negative
  | .nan => false

def within (lo hi : ℚ) : Binary F → Bool
  | .finite x => lo ≤ x ∧ x ≤ hi
  | _ => false

def isFinite : Binary F → Bool
  | .finite _ => true
  | _ => false

/-- The conversion to an integer type rounds to zero and saturates. -/
def toInt (lo hi : ℤ) : Binary F → ℤ
  | .finite x => max lo (min hi (if x < 0 then ⌈x⌉ else ⌊x⌋))
  | .infinite negative => if negative then lo else hi
  | .nan => 0

def convert (G : Format) : Binary F → Binary G
  | .finite x => round G x
  | .infinite negative => .infinite negative
  | .nan => .nan

def toBits32 : Binary binary32 → UInt32
  | .finite x =>
    let exponent := max (Int.log 2 |x| - 23) (-149)
    let significand := (⌊|x| / 2 ^ exponent⌋).toNat
    let sign := if x < 0 then 2 ^ 31 else 0
    UInt32.ofNat (sign + if significand < 2 ^ 23 then significand
      else (exponent + 149).toNat * 2 ^ 23 + significand)
  | .infinite negative => if negative then 0xFF800000 else 0x7F800000
  | .nan => 0x7FC00000

def ofBits32 (bits : UInt32) : Binary binary32 :=
  let sign : ℚ := if bits.toNat / 2 ^ 31 = 0 then 1 else -1
  let exponent : ℕ := bits.toNat / 2 ^ 23 % 2 ^ 8
  let fraction : ℕ := bits.toNat % 2 ^ 23
  if exponent = 255 then
    if fraction = 0 then .infinite (sign < 0) else .nan
  else if exponent = 0 then .finite (sign * fraction * 2 ^ (-149 : ℤ))
  else .finite (sign * (2 ^ 23 + fraction) * 2 ^ ((exponent : ℤ) - 150))

end Binary

end Knust.Foundation
