import Mathlib.Data.List.Nodup
import Knust.Foundation.Numerals
import Knust.Protocol.Dpt.DptType

namespace Knust.Protocol.Dpt

open Foundation Foundation.Text

/-- A value computed with wrapping arithmetic, and whether it overflowed. In that case a
build with overflow checks aborts. -/
structure Computed (α : Type) where
  value : α
  overflow : Bool
  deriving DecidableEq

namespace DptType

def all : List DptType := (List.range 210).map DptType.ofNat

def fromRepr (n : ℕ) : Option DptType := all.find? fun d ↦ d.discriminant = n

def fromNumber (main sub : UInt16) : Computed (Option DptType) :=
  let number := main.toNat * 100_000 + sub.toNat
  ⟨fromRepr (number % 2 ^ 32), 2 ^ 32 ≤ number⟩

def fromNumbers : Option (UInt16 × UInt16) → Computed (Option DptType)
  | none => ⟨none, false⟩
  | some (main, sub) => fromNumber main sub

def fromStr (s : Text) : Computed (Option DptType) :=
  fromNumbers do
    let (mainS, subS) ← splitOnce (· = '.') s
    let main ← parseU16 mainS
    let sub ← parseU16 subS
    some (main, sub)

def written (t : Text) : Option ℕ := number 10 ((stripPrefix ['+'] t).getD t)

def dottedNumbers (s : Text) : Option (ℕ × ℕ) := do
  let (mainS, subS) ← splitOnce (· = '.') s
  let main ← written mainS
  let sub ← written subS
  some (main, sub)

structure ExactLookup (numbers : Option (ℕ × ℕ)) (r : Computed (Option DptType)) : Prop where
  no_overflow : r.overflow = false
  found : ∀ d, r.value = some d → numbers = some (d.main, d.sub)
  missing : (∀ d : DptType, numbers ≠ some (d.main, d.sub)) → r.value = none

theorem mem_all (d : DptType) : d ∈ all := by
  have hlt : d.ctorIdx < 210 := by cases d <;> decide
  exact List.mem_map.mpr ⟨d.ctorIdx, List.mem_range.mpr hlt, by cases d <;> rfl⟩

theorem discriminant_of_fromRepr {n : ℕ} {d : DptType} (h : fromRepr n = some d) :
    d.discriminant = n := by
  simpa using List.find?_some h

theorem exists_fromRepr (d : DptType) : ∃ d', fromRepr d.discriminant = some d' := by
  rw [← Option.isSome_iff_exists, fromRepr, List.find?_isSome]
  exact ⟨d, mem_all d, by simp⟩

theorem parseU16_eq_some_iff {t : Text} {v : UInt16} :
    parseU16 t = some v ↔ written t = some v.toNat := by
  have hparse : parseU16 t = ((written t).filter (· ≤ 65535)).map UInt16.ofNat := rfl
  rw [hparse]
  cases written t with
  | none => simp
  | some n =>
    by_cases hn : n ≤ 65535
    · have hlt : n < 2 ^ 16 := by omega
      rw [Option.filter_some_pos (by simpa using hn), Option.map_some, Option.some_inj,
        Option.some_inj, ← UInt16.toNat_inj, UInt16.toNat_ofNat_of_lt' hlt]
    · rw [Option.filter_some_neg (by simpa using hn), Option.map_none, Option.some_inj]
      have hv := v.toNat_lt
      constructor
      · intro h
        cases h
      · intro h
        omega

theorem parseU16_eq_none_iff {t : Text} :
    parseU16 t = none ↔ ∀ n, written t = some n → 65535 < n := by
  constructor
  · intro hparse n hn
    by_contra hle
    have hlt : n < 2 ^ 16 := by omega
    have hsome : parseU16 t = some (UInt16.ofNat n) := by
      rw [parseU16_eq_some_iff, UInt16.toNat_ofNat_of_lt' hlt, hn]
    rw [hparse] at hsome
    cases hsome
  · intro hlarge
    by_contra hsome
    obtain ⟨v, hv⟩ := Option.ne_none_iff_exists'.mp hsome
    have hn := hlarge v.toNat (parseU16_eq_some_iff.mp hv)
    have hlt := v.toNat_lt
    omega

theorem ExactLookup.absent (numbers : Option (ℕ × ℕ)) : ExactLookup numbers ⟨none, false⟩ :=
  ⟨rfl, by simp, fun _ ↦ rfl⟩

theorem overflow_fromNumber (main sub : UInt16) :
    (fromNumber main sub).overflow = false ↔ main.toNat < 42950 := by
  have hsub := sub.toNat_lt
  simp only [fromNumber, decide_eq_false_iff_not]
  omega

theorem numbers_of_fromNumber {main sub : UInt16} (hmain : main.toNat < 42950) {d : DptType}
    (hd : (fromNumber main sub).value = some d) : d.main = main.toNat ∧ d.sub = sub.toNat := by
  have hsub := sub.toNat_lt
  have hlt : main.toNat * 100_000 + sub.toNat < 2 ^ 32 := by omega
  have hdiscriminant := discriminant_of_fromRepr hd
  rw [Nat.mod_eq_of_lt hlt] at hdiscriminant
  rw [DptType.main, DptType.sub, hdiscriminant]
  omega

theorem exact_fromNumber_iff (main sub : UInt16) :
    ExactLookup (some (main.toNat, sub.toNat)) (fromNumber main sub) ↔ main.toNat < 42950 := by
  constructor
  · intro hexact
    exact (overflow_fromNumber main sub).mp hexact.no_overflow
  · intro hmain
    have hfound (d : DptType) (hd : (fromNumber main sub).value = some d) :
        some (main.toNat, sub.toNat) = some (d.main, d.sub) := by
      obtain ⟨hm, hs⟩ := numbers_of_fromNumber hmain hd
      rw [hm, hs]
    refine ⟨(overflow_fromNumber main sub).mpr hmain, hfound, fun hmissing ↦ ?_⟩
    by_contra hvalue
    obtain ⟨d, hd⟩ := Option.ne_none_iff_exists'.mp hvalue
    exact hmissing d (hfound d hd)

theorem main_lt (d : DptType) : d.main < 42950 := by cases d <;> decide

theorem sub_lt (d : DptType) : d.sub < 65536 := by cases d <;> decide

theorem exact_of_unnamed_iff {numbers : Option (ℕ × ℕ)}
    (hnumbers : ∀ d : DptType, numbers ≠ some (d.main, d.sub)) (main sub : UInt16) :
    ExactLookup numbers (fromNumber main sub) ↔ main.toNat < 42950 ∧
      ∀ d : DptType, ¬ (d.main = main.toNat ∧ d.sub = sub.toNat) := by
  constructor
  · intro hexact
    have hmain := (overflow_fromNumber main sub).mp hexact.no_overflow
    refine ⟨hmain, fun d hd ↦ ?_⟩
    have hdiscriminant : (main.toNat * 100_000 + sub.toNat) % 2 ^ 32 = d.discriminant := by
      have hsub := sub.toNat_lt
      have hlt : main.toNat * 100_000 + sub.toNat < 2 ^ 32 := by omega
      rw [Nat.mod_eq_of_lt hlt, ← hd.1, ← hd.2, DptType.main, DptType.sub]
      omega
    obtain ⟨d', hd'⟩ := exists_fromRepr d
    have hvalue : (fromNumber main sub).value = some d' := by
      simp only [fromNumber, hdiscriminant, hd']
    rw [hexact.missing hnumbers] at hvalue
    cases hvalue
  · intro h
    obtain ⟨hmain, hnone⟩ := h
    have hvalue : (fromNumber main sub).value = none := by
      by_contra hsome
      obtain ⟨d, hd⟩ := Option.ne_none_iff_exists'.mp hsome
      exact hnone d (numbers_of_fromNumber hmain hd)
    refine ⟨(overflow_fromNumber main sub).mpr hmain, fun d hd ↦ ?_, fun _ ↦ hvalue⟩
    rw [hvalue] at hd
    cases hd

def TooLarge (m : ℕ) : Prop := 42950 ≤ m ∧ m ≤ 65535

theorem exact_fromStr_iff (s : Text) :
    ExactLookup (dottedNumbers s) (fromStr s) ↔
      ∀ m n, dottedNumbers s = some (m, n) → n ≤ 65535 → ¬ TooLarge m := by
  unfold fromStr dottedNumbers
  cases splitOnce (· = '.') s with
  | none => exact iff_of_true (ExactLookup.absent none) fun _ _ h ↦ by cases h
  | some parts =>
    obtain ⟨mainS, subS⟩ := parts
    simp only [Option.bind_eq_bind, Option.bind_some]
    cases hmain : parseU16 mainS with
    | none =>
      refine iff_of_true (ExactLookup.absent _) fun m n h hn hlarge ↦ ?_
      obtain ⟨m', hm', h⟩ := Option.bind_eq_some_iff.mp h
      obtain ⟨n', hn', h⟩ := Option.bind_eq_some_iff.mp h
      obtain ⟨rfl, rfl⟩ := Prod.mk.inj (Option.some.inj h)
      have hm := parseU16_eq_none_iff.mp hmain m' hm'
      have hle := hlarge.2
      omega
    | some main =>
      have hm := parseU16_eq_some_iff.mp hmain
      simp only [hm, Option.bind_some]
      cases hsub : parseU16 subS with
      | none =>
        refine iff_of_true (ExactLookup.absent _) fun m n h hn _ ↦ ?_
        obtain ⟨n', hn', h⟩ := Option.bind_eq_some_iff.mp h
        obtain ⟨rfl, rfl⟩ := Prod.mk.inj (Option.some.inj h)
        have hlarge := parseU16_eq_none_iff.mp hsub n' hn'
        omega
      | some sub =>
        have hs := parseU16_eq_some_iff.mp hsub
        simp only [hs, Option.bind_some]
        have hmlt := main.toNat_lt
        have hslt := sub.toNat_lt
        refine (exact_fromNumber_iff main sub).trans ⟨fun hlt m n h _ hlarge ↦ ?_, fun h ↦ ?_⟩
        · obtain ⟨rfl, rfl⟩ := Prod.mk.inj (Option.some.inj h)
          have hge := hlarge.1
          omega
        · by_contra hge
          exact h main.toNat sub.toNat rfl (by omega) ⟨by omega, by omega⟩

end DptType

end Knust.Protocol.Dpt
