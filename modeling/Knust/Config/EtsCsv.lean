import Knust.Protocol.Address
import Knust.Protocol.Dpt.Lookup

namespace Knust.Config

open Foundation Foundation.Text Protocol Protocol.Dpt

structure GroupAddressConfig where
  dpt : DptType
  name : Text
  description : Option Text
  deriving DecidableEq

def unquote (field : Text) : Text := (trimMatches '"' field).trim

def parseGroupAddress (s : Text) : Option GroupAddress :=
  match s.splitOn '/' with
  | [mainS, middleS, subS] => do
    let main ← parseU8 mainS
    let middle ← parseU8 middleS
    let sub ← parseU8 subS
    (GroupAddress.tryNew main middle sub).toOption
  | _ => none

def parseDptString (s : Text) : Computed (Option DptType) :=
  if s = [] then ⟨none, false⟩
  else match stripPrefix (lit "DPST-") s with
    | some rest =>
      let parts := rest.splitOn '-'
      DptType.fromNumbers do
        let main ← parts[0]?.bind parseU16
        -- A sub number that cannot be read counts as omitted.
        some (main, (parts[1]?.bind parseU16).getD 1)
    | none =>
      match stripPrefix (lit "DPT-") s with
      | some rest => DptType.fromNumbers do some (← parseU16 rest, 1)
      | none => DptType.fromStr s

structure Columns where
  name : Option ℕ
  addr : ℕ
  dpt : Option ℕ
  desc : Option ℕ
  deriving DecidableEq

def column (cols : List Text) (i : ℕ) : Option Text := cols[i]?.map unquote

def parseRow (columns : Columns) (cols : List Text) : Option (GroupAddress × GroupAddressConfig) := do
  let address ← parseGroupAddress ((column cols columns.addr).getD [])
  let name := (columns.name.bind (column cols)).getD []
  let dpt ← (parseDptString ((columns.dpt.bind (column cols)).getD [])).value
  let description := (columns.desc.bind (column cols)).filter (· ≠ [])
  some (address, { dpt, name, description })

def partNumbers : List Text → Option (ℕ × ℕ)
  | [mainS] => do some (← DptType.written mainS, 1)
  | [mainS, subS] => do some (← DptType.written mainS, ← DptType.written subS)
  | _ => none

def namedNumbers (s : Text) : Option (ℕ × ℕ) :=
  match stripPrefix (lit "DPST-") s with
  | some rest => partNumbers (rest.splitOn '-')
  | none =>
    match stripPrefix (lit "DPT-") s with
    | some rest => partNumbers [rest]
    | none => DptType.dottedNumbers s

def Overlarge (s : Text) : Prop :=
  match stripPrefix (lit "DPST-") s with
  | some rest => ∃ mainS ∈ (rest.splitOn '-').head?, ∃ m ∈ DptType.written mainS, DptType.TooLarge m
  | none =>
    match stripPrefix (lit "DPT-") s with
    | some rest => ∃ m ∈ DptType.written rest, DptType.TooLarge m
    | none => ∃ m n, DptType.dottedNumbers s = some (m, n) ∧ n ≤ 65535 ∧ DptType.TooLarge m

/-- What stands behind the main number is not a sub number of 16 bits and nothing else, but the
main number and what is taken for the sub number belong to a datapoint type. -/
def Misleading (s : Text) : Prop :=
  ∃ rest mainS subS more, stripPrefix (lit "DPST-") s = some rest ∧
    rest.splitOn '-' = mainS :: subS :: more ∧ (more ≠ [] ∨ parseU16 subS = none) ∧
    ∃ d : DptType, DptType.written mainS = some d.main ∧
      d.sub = ((parseU16 subS).map UInt16.toNat).getD 1

section

variable {mainS : Text} {main : UInt16}

theorem tooLarge_iff (hmain : parseU16 mainS = some main) :
    (∃ m ∈ DptType.written mainS, DptType.TooLarge m) ↔ ¬ main.toNat < 42950 := by
  have hlt := main.toNat_lt
  rw [DptType.parseU16_eq_some_iff.mp hmain]
  simp only [Option.mem_some_iff, exists_eq_left', DptType.TooLarge]
  omega

theorem not_tooLarge (hmain : parseU16 mainS = none) :
    ¬ ∃ m ∈ DptType.written mainS, DptType.TooLarge m := by
  intro h
  obtain ⟨m, hm, hlarge⟩ := h
  have hgt := DptType.parseU16_eq_none_iff.mp hmain m hm
  have hle := hlarge.2
  omega

end

theorem exact_parts_iff (mainS : Text) (tail : List Text) :
    DptType.ExactLookup (partNumbers (mainS :: tail))
        (DptType.fromNumbers do
          let main ← parseU16 mainS
          some (main, (tail[0]?.bind parseU16).getD 1)) ↔
      (¬ ∃ m ∈ DptType.written mainS, DptType.TooLarge m) ∧
        ¬ ∃ subS more, tail = subS :: more ∧ (more ≠ [] ∨ parseU16 subS = none) ∧
          ∃ d : DptType, DptType.written mainS = some d.main ∧
            d.sub = ((parseU16 subS).map UInt16.toNat).getD 1 := by
  cases hmain : parseU16 mainS with
  | none =>
    refine iff_of_true (.absent _) ⟨not_tooLarge hmain, fun h ↦ ?_⟩
    obtain ⟨subS, more, -, -, d, hd, -⟩ := h
    have hgt := DptType.parseU16_eq_none_iff.mp hmain d.main hd
    have hlt := d.main_lt
    omega
  | some main =>
    have hm := DptType.parseU16_eq_some_iff.mp hmain
    rw [tooLarge_iff hmain, not_not, hm]
    cases tail with
    | nil =>
      have hnumbers : partNumbers [mainS] = some (main.toNat, (1 : UInt16).toNat) := by
        simp [partNumbers, hm]
      rw [hnumbers]
      exact (DptType.exact_fromNumber_iff main 1).trans (by simp)
    | cons subS more =>
      by_cases hproper : more = [] ∧ ∃ sub, parseU16 subS = some sub
      · obtain ⟨rfl, sub, hsub⟩ := hproper
        have hnumbers : partNumbers [mainS, subS] = some (main.toNat, sub.toNat) := by
          simp [partNumbers, hm, DptType.parseU16_eq_some_iff.mp hsub]
        have hlookup : (DptType.fromNumbers do
            let main ← some main
            some (main, (([subS] : List Text)[0]?.bind parseU16).getD 1)) =
              DptType.fromNumber main sub := by
          simp [hsub, DptType.fromNumbers]
        rw [hnumbers, hlookup, DptType.exact_fromNumber_iff]
        simp [hsub]
      · have hunnamed (d : DptType) :
            partNumbers (mainS :: subS :: more) ≠ some (d.main, d.sub) := by
          intro hnumbers
          cases more with
          | cons => cases hnumbers
          | nil =>
            have hnone : parseU16 subS = none := by
              by_contra hsome
              exact hproper ⟨rfl, Option.ne_none_iff_exists'.mp hsome⟩
            simp only [partNumbers, hm, Option.bind_eq_bind, Option.bind_some] at hnumbers
            obtain ⟨n, hn, hnumbers⟩ := Option.bind_eq_some_iff.mp hnumbers
            obtain ⟨-, hsub⟩ := Prod.mk.inj (Option.some.inj hnumbers)
            have hgt := DptType.parseU16_eq_none_iff.mp hnone n hn
            have hlt := d.sub_lt
            omega
        have htorn : more ≠ [] ∨ parseU16 subS = none := by
          by_contra h
          rw [not_or, not_not] at h
          exact hproper ⟨h.1, Option.ne_none_iff_exists'.mp h.2⟩
        refine (DptType.exact_of_unnamed_iff hunnamed main ((parseU16 subS).getD 1)).trans
          (and_congr_right fun _ ↦ ?_)
        have hsub : ((parseU16 subS).map UInt16.toNat).getD 1 = ((parseU16 subS).getD 1).toNat := by
          cases parseU16 subS <;> rfl
        constructor
        · intro hnone h
          obtain ⟨subS', more', heq, -, d, hmain', hsub'⟩ := h
          obtain ⟨rfl, rfl⟩ := List.cons.inj heq
          exact hnone d ⟨(Option.some.inj hmain').symm, hsub'.trans hsub⟩
        · intro hnone d hd
          exact hnone ⟨subS, more, rfl, htorn, d, congrArg some hd.1.symm, hd.2.trans hsub.symm⟩

/-- Both lookups compute without overflow and find exactly what a text names, if and only if its
main number is not too large and nothing in it is taken for a sub number by mistake. -/
theorem exact_lookup_iff (s : Text) :
    (DptType.ExactLookup (DptType.dottedNumbers s) (DptType.fromStr s) ↔
      ∀ m n, DptType.dottedNumbers s = some (m, n) → n ≤ 65535 → ¬ DptType.TooLarge m) ∧
    (DptType.ExactLookup (namedNumbers s) (parseDptString s) ↔
      ¬ Overlarge s ∧ ¬ Misleading s) := by
  refine ⟨DptType.exact_fromStr_iff s, ?_⟩
  have hempty {t : String} (ht : lit t ≠ []) {rest : Text} (h : stripPrefix (lit t) s = some rest) :
      s ≠ [] := by
    intro hs
    rw [hs, stripPrefix, if_neg (by simpa [List.isPrefixOf_iff_prefix] using ht)] at h
    cases h
  unfold namedNumbers parseDptString Overlarge Misleading
  cases hdpst : stripPrefix (lit "DPST-") s with
  | some rest =>
    rw [if_neg (hempty (by simp only [lit, String.reduceToList]; decide) hdpst)]
    obtain ⟨mainS, tail, hparts⟩ := List.exists_cons_of_ne_nil (List.splitOn_ne_nil '-' rest)
    simp only [hparts, List.getElem?_cons_zero, Option.bind_some, List.getElem?_cons_succ,
      List.head?_cons, Option.mem_some_iff, exists_eq_left']
    rw [exact_parts_iff]
    refine and_congr_right fun _ ↦ not_congr ⟨fun h ↦ ?_, fun h ↦ ?_⟩
    · obtain ⟨subS, more, rfl, h⟩ := h
      exact ⟨rest, mainS, subS, more, rfl, hparts, h⟩
    · obtain ⟨rest', mainS', subS, more, hrest, hsplit, h⟩ := h
      obtain rfl := Option.some.inj hrest
      obtain ⟨rfl, rfl⟩ := List.cons.inj (hparts.symm.trans hsplit)
      exact ⟨subS, more, rfl, h⟩
  | none =>
    have hnot : ¬ ∃ rest mainS subS more, (none : Option Text) = some rest ∧
        rest.splitOn '-' = mainS :: subS :: more ∧ (more ≠ [] ∨ parseU16 subS = none) ∧
        ∃ d : DptType, DptType.written mainS = some d.main ∧
          d.sub = ((parseU16 subS).map UInt16.toNat).getD 1 := by
      intro h
      obtain ⟨_, _, _, _, h, -⟩ := h
      cases h
    rw [and_iff_left hnot]
    cases hdpt : stripPrefix (lit "DPT-") s with
    | some rest =>
      rw [if_neg (hempty (by simp only [lit, String.reduceToList]; decide) hdpt)]
      exact (exact_parts_iff rest []).trans (and_iff_left (by simp))
    | none =>
      have hstr : (if s = [] then ⟨none, false⟩ else DptType.fromStr s) = DptType.fromStr s := by
        split
        next hs => rw [hs]; rfl
        next => rfl
      rw [hstr, DptType.exact_fromStr_iff]
      simp only [not_exists, not_and]

/-- An overflow finds a type under numbers that are not its own, and a sub number that is none
counts as 1. -/
theorem inexact_lookups :
    DptType.fromStr (lit "42959.27296") = ⟨some .enthalpy, true⟩ ∧
    parseDptString (lit "DPST-9-x") = ⟨some .temperature, false⟩ ∧
    namedNumbers (lit "DPST-9-x") = none ∧ Misleading (lit "DPST-9-x") ∧
    ¬ DptType.ExactLookup (DptType.dottedNumbers (lit "42959.27296"))
      (DptType.fromStr (lit "42959.27296")) ∧
    ¬ DptType.ExactLookup (namedNumbers (lit "DPST-9-x")) (parseDptString (lit "DPST-9-x")) := by
  have hoverflow : DptType.fromStr (lit "42959.27296") = ⟨some .enthalpy, true⟩ := by
    simp only [lit, String.reduceToList]
    decide +kernel
  have hwrong : parseDptString (lit "DPST-9-x") = ⟨some .temperature, false⟩ := by
    simp only [parseDptString, lit, String.reduceToList]
    decide +kernel
  have hnumbers : namedNumbers (lit "DPST-9-x") = none := by
    simp only [namedNumbers, lit, String.reduceToList]
    decide
  refine ⟨hoverflow, hwrong, hnumbers, ?_, fun hexact ↦ ?_, fun hexact ↦ ?_⟩
  · refine ⟨['9', '-', 'x'], ['9'], ['x'], [], ?_, by decide, .inr (by decide), .temperature,
      by decide, by decide⟩
    simp only [lit, String.reduceToList]
    decide
  · have hno := hexact.no_overflow
    rw [hoverflow] at hno
    cases hno
  · have hfound := hexact.found .temperature (by rw [hwrong])
    rw [hnumbers] at hfound
    cases hfound

end Knust.Config
