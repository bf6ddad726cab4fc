import Mathlib.Data.List.TakeWhile
import Knust.Foundation.Binary
import Knust.Foundation.Numerals

namespace Knust.Foundation.Decimal

open Text

variable {F : Format}

def exponent (t : Text) : Option ℤ :=
  match stripPrefix ['-'] t with
  | some rest => (number 10 rest).map fun n ↦ -(n : ℤ)
  | none => (number 10 ((stripPrefix ['+'] t).getD t)).map fun n ↦ (n : ℤ)

def fraction (t : Text) : Text × Text :=
  match stripPrefix ['.'] t with
  | some rest => (rest.takeWhile Char.isDigit, rest.dropWhile Char.isDigit)
  | none => ([], t)

def magnitude (t : Text) : Option ℚ := do
  let (fraction, rest) := fraction (t.dropWhile Char.isDigit)
  let value ← number 10 (t.takeWhile Char.isDigit ++ fraction)
  let shift ← match rest with
    | [] => some 0
    | c :: rest => if c.toLower = 'e' then exponent rest else none
  return value * 10 ^ (shift - fraction.length)

/-- Reading a floating-point number, which is the nearest one to the written value. -/
def parse (F : Format) (t : Text) : Option (Binary F) :=
  let negative : Bool := t.head? = some '-'
  let body := if negative ∨ t.head? = some '+' then t.tail else t
  let word := toAsciiLowercase body
  if word = lit "inf" ∨ word = lit "infinity" then some (.infinite negative)
  else if word = lit "nan" then some .nan
  else (magnitude body).map fun x ↦ Binary.round F (if negative then -x else x)

def signed (negative : Bool) (t : Text) : Text := if negative then '-' :: t else t

def withPlaces (places n : ℕ) : Text :=
  digits (n / 10 ^ places) ++ if places = 0 then [] else '.' :: padded places (n % 10 ^ places)

def fixed (places : ℕ) : Binary F → Text
  | .finite x => signed (x < 0) (withPlaces places (roundHalfEven (|x| * 10 ^ places)).natAbs)
  | .infinite negative => signed negative (lit "inf")
  | .nan => lit "NaN"

def lastPosition (x : ℚ) (count : ℕ) : ℤ := Int.log 10 |x| + 1 - count

def significand (x : ℚ) (count : ℕ) : ℕ := (roundHalfEven (|x| / 10 ^ lastPosition x count)).natAbs

/-- How many digits tell the number from every other one of its format. The number next to
a power of ten may need none. -/
def significantDigits (F : Format) (x : ℚ) : ℕ :=
  ((List.range 18).find? fun count ↦ Binary.round F
    (significand x count * 10 ^ lastPosition x count) = .finite |x|).getD 17

/-- The shortest text that is read as the same number. -/
def display : Binary F → Text
  | .finite x =>
    let count := significantDigits F x
    signed (x < 0) <|
      if x = 0 then lit "0"
      else withPlaces (-lastPosition x count).toNat
        (significand x count * 10 ^ (lastPosition x count).toNat)
  | .infinite negative => signed negative (lit "inf")
  | .nan => lit "NaN"

theorem solid_signed {t : Text} (ht : Solid t) (negative : Bool) : Solid (signed negative t) := by
  cases negative with
  | true => exact Solid.append (s := ['-']) (by decide) ht []
  | false => exact ht

theorem solid_withPlaces (places n : ℕ) : Solid (withPlaces places n) := by
  rw [withPlaces, digits_eq_padded]
  split
  · rw [List.append_nil]
    exact solid_padded
  · exact solid_padded.append solid_padded ['.']

theorem solid_fixed (places : ℕ) (x : Binary F) : Solid (fixed places x) := by
  cases x with
  | finite x => exact solid_signed (solid_withPlaces _ _) _
  | infinite negative => exact solid_signed (by decide +kernel) negative
  | nan => exact (by decide +kernel : Solid (lit "NaN"))

section padded

variable {width n : ℕ}

theorem magnitude_padded : magnitude (padded width n) = some (n : ℚ) := by
  have hdigits : ∀ c ∈ padded width n, c.isDigit := fun _ ↦ isDigit_of_mem_padded
  have htake : (padded width n).takeWhile Char.isDigit = padded width n :=
    List.takeWhile_eq_self_iff.mpr hdigits
  have hdrop : (padded width n).dropWhile Char.isDigit = [] := List.dropWhile_eq_nil_iff.mpr hdigits
  have hfraction : fraction [] = ([], []) := rfl
  simp [magnitude, htake, hdrop, hfraction, number_padded]

theorem toAsciiLowercase_padded_ne {c : Char} {t : Text} (hc : c.isDigit = false) :
    toAsciiLowercase (padded width n) ≠ c :: t := by
  intro h
  obtain ⟨d, rest, hpadded, rfl, -⟩ := List.map_eq_cons_iff.mp h
  have hd : d.isDigit := isDigit_of_mem_padded (by rw [hpadded]; exact List.mem_cons_self)
  rw [toLower_of_isDigit hd, hd] at hc
  exact Bool.noConfusion hc

theorem head?_padded_ne {c : Char} (hc : c.isDigit = false) : (padded width n).head? ≠ some c :=
  fun h ↦ not_mem_padded hc (List.mem_of_mem_head? h)

theorem parse_padded : parse F (padded width n) = some (Binary.round F n) := by
  have hminus : (padded width n).head? ≠ some '-' := head?_padded_ne rfl
  have hplus : (padded width n).head? ≠ some '+' := head?_padded_ne rfl
  have hword {c : Char} {t : Text} (hc : c.isDigit = false) :
      toAsciiLowercase (padded width n) ≠ c :: t := toAsciiLowercase_padded_ne hc
  simp [parse, lit, hminus, hplus, hword, magnitude_padded]

theorem parse_minus_padded : parse F ('-' :: padded width n) = some (Binary.round F (-n)) := by
  have hword {c : Char} {t : Text} (hc : c.isDigit = false) :
      toAsciiLowercase (padded width n) ≠ c :: t := toAsciiLowercase_padded_ne hc
  simp [parse, lit, hword, magnitude_padded]

theorem parse_integer (v : ℤ) : parse F (integer v) = some (Binary.round F v) := by
  rw [integer, digits_eq_padded]
  by_cases hneg : v < 0
  · have hcast : -(v.natAbs : ℚ) = v := by
      rw [← Int.cast_natCast, Int.ofNat_natAbs_of_nonpos hneg.le, Int.cast_neg, neg_neg]
    rw [if_pos hneg, parse_minus_padded, hcast]
  · have hcast : (v.natAbs : ℚ) = v := by
      rw [← Int.cast_natCast, Int.natAbs_of_nonneg (not_lt.mp hneg)]
    rw [if_neg hneg, parse_padded, hcast]

end padded

end Knust.Foundation.Decimal
