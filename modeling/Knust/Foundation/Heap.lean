import Mathlib.Data.List.Perm.Basic

namespace Knust.Foundation

/-- The pop of a heap, as a function on the collection of its elements, given in any
order: it removes a greatest one. -/
structure HeapPop (α : Type) (cmp : α → α → Ordering) where
  pop : List α → Option (α × List α)
  pop_nil : pop [] = none
  exists_pop : ∀ {l}, l ≠ [] → ∃ x rest, pop l = some (x, rest)
  perm : ∀ {l x rest}, pop l = some (x, rest) → l.Perm (x :: rest)
  greatest : ∀ {l x rest}, pop l = some (x, rest) → ∀ y ∈ rest, cmp x y ≠ .lt

namespace HeapPop

variable {α : Type} {cmp : α → α → Ordering}

theorem eq_nil_of_pop_eq_none (heap : HeapPop α cmp) {l : List α} (h : heap.pop l = none) :
    l = [] := by
  by_contra hl
  obtain ⟨x, rest, hp⟩ := heap.exists_pop hl
  rw [h] at hp
  cases hp

def scan (cmp : α → α → Ordering) : List α → Option (α × List α)
  | [] => none
  | x :: l =>
    match scan cmp l with
    | none => some (x, [])
    | some (y, rest) => if cmp x y = .lt then some (y, x :: rest) else some (x, y :: rest)

theorem scan_cons (x : α) (l : List α) : ∃ y rest, scan cmp (x :: l) = some (y, rest) := by
  simp only [scan]
  split
  · exact ⟨_, _, rfl⟩
  · split <;> exact ⟨_, _, rfl⟩

theorem scan_perm {l rest : List α} {x : α} (h : scan cmp l = some (x, rest)) :
    l.Perm (x :: rest) := by
  induction l generalizing x rest with
  | nil => cases h
  | cons a l ih =>
    simp only [scan] at h
    split at h
    · rename_i hnone
      cases l with
      | nil =>
        cases h
        exact .refl _
      | cons b l =>
        obtain ⟨y, r, hs⟩ : ∃ y r, scan cmp (b :: l) = some (y, r) := scan_cons b l
        rw [hs] at hnone
        cases hnone
    · rename_i y r hsome
      split at h
      · cases h
        exact ((ih hsome).cons a).trans (.swap ..)
      · cases h
        exact (ih hsome).cons a

theorem scan_greatest (hasymm : ∀ x y, cmp x y = .lt → cmp y x ≠ .lt)
    (htrans : ∀ x y z, cmp x y ≠ .lt → cmp y z ≠ .lt → cmp x z ≠ .lt) {l rest : List α} {x : α}
    (h : scan cmp l = some (x, rest)) : ∀ y ∈ rest, cmp x y ≠ .lt := by
  induction l generalizing x rest with
  | nil => cases h
  | cons a l ih =>
    simp only [scan] at h
    split at h
    · cases h
      simp
    · rename_i y r hsome
      split at h
      · rename_i hlt
        cases h
        intro z hz
        rcases List.mem_cons.mp hz with rfl | hz
        · exact hasymm _ _ hlt
        · exact ih hsome z hz
      · rename_i hge
        cases h
        intro z hz
        rcases List.mem_cons.mp hz with rfl | hz
        · exact hge
        · exact htrans _ _ _ hge (ih hsome z hz)

def ofScan (hasymm : ∀ x y, cmp x y = .lt → cmp y x ≠ .lt)
    (htrans : ∀ x y z, cmp x y ≠ .lt → cmp y z ≠ .lt → cmp x z ≠ .lt) : HeapPop α cmp where
  pop := scan cmp
  pop_nil := rfl
  exists_pop := by
    intro l hl
    cases l with
    | nil => exact absurd rfl hl
    | cons x l => exact scan_cons x l
  perm := scan_perm
  greatest := scan_greatest hasymm htrans

end HeapPop

end Knust.Foundation
