import Mathlib.Algebra.Order.Ring.Nat
import Mathlib.Data.List.Basic

namespace Knust.Foundation.LengthBlocks

/-- The length of the block at the front: it is in the first byte, covers it and the next one, and
the block must be there in full. -/
def blockLength (l : List UInt8) : Option ℕ :=
  match l with
  | n :: _ :: _ => if 2 ≤ n.toNat ∧ n.toNat ≤ l.length then some n.toNat else none
  | _ => none

def splitWithin : ℕ → List UInt8 → List (List UInt8) × List UInt8
  | 0, l => ([], l)
  | rounds + 1, l =>
    match blockLength l with
    | some n =>
      let later := splitWithin rounds (l.drop n)
      (l.take n :: later.1, later.2)
    | none => ([], l)

def split (l : List UInt8) : List (List UInt8) × List UInt8 := splitWithin l.length l

abbrev blocks (l : List UInt8) : List (List UInt8) := (split l).1

/-- The blocks are followed by a length that no block has. -/
def Terminated (l : List UInt8) : Prop := ∃ n ∈ (split l).2.head?, n < 2

instance (l : List UInt8) : Decidable (Terminated l) :=
  inferInstanceAs (Decidable (∃ n ∈ (split l).2.head?, n < 2))

variable {l : List UInt8} {n : ℕ}

theorem blockLength_eq_some (h : blockLength l = some n) :
    2 ≤ n ∧ n ≤ l.length ∧ ∃ m rest, l = m :: rest ∧ m.toNat = n := by
  unfold blockLength at h
  split at h
  · split at h
    · rename_i m t rest hm
      cases h
      exact ⟨hm.1, hm.2, m, t :: rest, rfl, rfl⟩
    · cases h
  · cases h

theorem splitWithin_nil (rounds : ℕ) : splitWithin rounds [] = ([], []) := by
  cases rounds <;> rfl

theorem splitWithin_congr {rounds rounds' : ℕ} (h : l.length ≤ rounds) (h' : l.length ≤ rounds') :
    splitWithin rounds l = splitWithin rounds' l := by
  induction rounds generalizing rounds' l with
  | zero =>
    obtain rfl : l = [] := List.length_eq_zero_iff.mp (Nat.le_zero.mp h)
    rw [splitWithin_nil, splitWithin_nil]
  | succ rounds ih =>
    cases rounds' with
    | zero =>
      obtain rfl : l = [] := List.length_eq_zero_iff.mp (Nat.le_zero.mp h')
      rw [splitWithin_nil, splitWithin_nil]
    | succ rounds' =>
      simp only [splitWithin]
      cases hn : blockLength l with
      | none => rfl
      | some n =>
        obtain ⟨htwo, -, -⟩ := blockLength_eq_some hn
        have hdrop : (l.drop n).length + 2 ≤ max 2 l.length := by
          rw [List.length_drop]
          omega
        have hlater : splitWithin rounds (l.drop n) = splitWithin rounds' (l.drop n) :=
          ih (by omega) (by omega)
        simp only [hlater]

theorem split_of_none (h : blockLength l = none) : split l = ([], l) := by
  unfold split
  cases l.length with
  | zero => rfl
  | succ rounds => rw [splitWithin, h]

theorem split_of_some (h : blockLength l = some n) :
    split l = (l.take n :: blocks (l.drop n), (split (l.drop n)).2) := by
  obtain ⟨htwo, hle, -⟩ := blockLength_eq_some h
  obtain ⟨rounds, hrounds⟩ := Nat.exists_eq_add_of_lt (show 0 < l.length by omega)
  rw [Nat.zero_add] at hrounds
  have hlater : splitWithin rounds (l.drop n) = split (l.drop n) :=
    splitWithin_congr (by rw [List.length_drop]; omega) le_rfl
  rw [split, hrounds, splitWithin, h]
  simp only [hlater]

theorem blocks_induction {motive : List UInt8 → Prop}
    (none : ∀ l, blockLength l = none → motive l)
    (some : ∀ l n, blockLength l = some n → motive (l.drop n) → motive l) (l : List UInt8) :
    motive l := by
  induction hlength : l.length using Nat.strong_induction_on generalizing l with
  | h length ih =>
    cases hn : blockLength l with
    | none => exact none l hn
    | some n =>
      obtain ⟨htwo, hle, -⟩ := blockLength_eq_some hn
      refine some l n hn (ih (l.drop n).length ?_ _ rfl)
      rw [List.length_drop]
      omega

theorem blockLength_append (h : blockLength l = some n) (x : List UInt8) :
    blockLength (l ++ x) = some n := by
  obtain ⟨htwo, hle, m, rest, rfl, rfl⟩ := blockLength_eq_some h
  cases rest with
  | nil => cases h
  | cons t rest =>
    have hlength : m.toNat ≤ (m :: t :: (rest ++ x)).length := by
      simp only [List.length_cons, List.length_append] at hle ⊢
      omega
    exact if_pos ⟨htwo, hlength⟩

theorem blocks_append_of_terminated (h : Terminated l) (x : List UInt8) :
    blocks (l ++ x) = blocks l := by
  induction l using blocks_induction with
  | none l hn =>
    rw [Terminated, split_of_none hn] at h
    obtain ⟨m, hm, htwo⟩ := h
    have hnone : blockLength (l ++ x) = none := by
      cases l with
      | nil => cases hm
      | cons m' rest =>
        cases hm
        have hshort : ¬ (2 ≤ m.toNat ∧ m.toNat ≤ (m :: (rest ++ x)).length) :=
          fun hlong ↦ absurd (UInt8.lt_iff_toNat_lt.mp htwo) (Nat.not_lt.mpr hlong.1)
        cases hrest : rest ++ x with
        | nil => rw [List.cons_append, hrest]; rfl
        | cons t rest' =>
          rw [hrest] at hshort
          rw [List.cons_append, hrest]
          exact if_neg hshort
    rw [blocks, blocks, split_of_none hn, split_of_none hnone]
  | some l n hn ih =>
    obtain ⟨-, hle, -⟩ := blockLength_eq_some hn
    rw [Terminated, split_of_some hn] at h
    rw [blocks, blocks, split_of_some hn, split_of_some (blockLength_append hn x),
      List.take_append_of_le_length hle, List.drop_append_of_le_length hle]
    simp only [ih h]

theorem blockLength_self {m : UInt8} {rest : List UInt8} (htwo : 2 ≤ m.toNat)
    (hlength : (m :: rest).length = m.toNat) :
    blockLength (m :: rest) = some (m :: rest).length := by
  cases rest with
  | nil =>
    rw [List.length_singleton] at hlength
    omega
  | cons t rest =>
    rw [hlength]
    exact if_pos ⟨htwo, hlength.ge⟩

theorem blocks_block_append {b : List UInt8} (hb : blockLength b = some b.length)
    (x : List UInt8) : blocks (b ++ x) = b :: blocks x := by
  rw [blocks, split_of_some (blockLength_append hb x), List.take_left, List.drop_left]

theorem lt_of_blockLength_eq_none {m : UInt8} {rest : List UInt8}
    (h : blockLength (m :: rest) = none) (htwo : 2 ≤ m.toNat) : (m :: rest).length < m.toNat := by
  cases rest with
  | nil => exact htwo
  | cons t rest =>
    by_contra hle
    rw [blockLength, if_pos ⟨htwo, Nat.le_of_not_lt hle⟩] at h
    cases h

theorem exists_blocks_append (h : ¬ Terminated l) {b : List UInt8}
    (hb : blockLength b = some b.length) : ∃ x before, blocks (l ++ x) = before ++ [b] := by
  have hblock : blocks b = [b] := by
    have hnil := blocks_block_append hb []
    rw [List.append_nil] at hnil
    exact hnil
  induction l using blocks_induction with
  | none l hn =>
    rw [Terminated, split_of_none hn] at h
    cases l with
    | nil => exact ⟨b, [], hblock⟩
    | cons m rest =>
      -- The block that has been begun is filled up.
      have htwo : 2 ≤ m.toNat := by
        by_contra hlt
        exact h ⟨m, rfl, UInt8.lt_iff_toNat_lt.mpr (Nat.lt_of_not_le hlt)⟩
      have hlt := lt_of_blockLength_eq_none hn htwo
      let missing := List.replicate (m.toNat - (m :: rest).length) (0 : UInt8)
      have hfull : blockLength (m :: (rest ++ missing)) = some (m :: (rest ++ missing)).length := by
        apply blockLength_self htwo
        simp only [missing, List.length_cons, List.length_append, List.length_replicate] at hlt ⊢
        omega
      refine ⟨missing ++ b, [m :: (rest ++ missing)], ?_⟩
      have hparts : m :: rest ++ (missing ++ b) = m :: (rest ++ missing) ++ b := by simp
      rw [hparts, blocks_block_append hfull, hblock, List.singleton_append]
  | some l n hn ih =>
    obtain ⟨-, hle, -⟩ := blockLength_eq_some hn
    rw [Terminated, split_of_some hn] at h
    obtain ⟨x, before, hx⟩ := ih h
    refine ⟨x, l.take n :: before, ?_⟩
    rw [blocks, split_of_some (blockLength_append hn x), List.take_append_of_le_length hle,
      List.drop_append_of_le_length hle]
    simp only [hx, List.cons_append]

end Knust.Foundation.LengthBlocks
