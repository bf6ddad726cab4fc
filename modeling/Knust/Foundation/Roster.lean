import Mathlib.Data.List.Nodup

namespace Knust.Foundation

variable {α K : Type} [DecidableEq K] (key : α → K)

inductive Change (α K : Type)
  | add (entry : α)
  | remove (k : K)
  | clear

def removeFirst (k : K) (entries : List α) : List α :=
  match entries.findIdx? (key · = k) with
  | some pos => entries.eraseIdx pos
  | none => entries

namespace Change

def apply (entries : List α) : Change α K → List α
  | .add entry => entries ++ [entry]
  | .remove k => removeFirst key k entries
  | .clear => []

def takes (k : K) : Change α K → Bool
  | .add _ => false
  | .remove k' => k' = k
  | .clear => true

@[simp] theorem takes_add (k : K) (entry : α) : (Change.add entry : Change α K).takes k = false := rfl

@[simp] theorem takes_remove (k k' : K) :
    (Change.remove k' : Change α K).takes k = decide (k' = k) := rfl

@[simp] theorem takes_clear (k : K) : (Change.clear : Change α K).takes k = true := rfl

def entry? : Change α K → Option α
  | .add entry => some entry
  | .remove _ => none
  | .clear => none

end Change

/-- The entries that are added and that no later change takes away. -/
def remaining : List (Change α K) → List α
  | [] => []
  | .add entry :: changes =>
    if changes.any (·.takes (key entry)) then remaining changes else entry :: remaining changes
  | .remove _ :: changes => remaining changes
  | .clear :: changes => remaining changes

section

variable {key} {entries : List α} {changes : List (Change α K)} {k : K}

theorem removeFirst_eq_filter (h : (entries.map key).Nodup) :
    removeFirst key k entries = entries.filter (key · ≠ k) := by
  induction entries with
  | nil => rfl
  | cons e entries ih =>
    rw [List.map_cons, List.nodup_cons] at h
    by_cases he : key e = k
    · have hothers : entries.filter (key · ≠ k) = entries := by
        rw [List.filter_eq_self]
        intro e' he'
        rw [decide_eq_true_iff, ← he]
        intro hsame
        exact h.1 (hsame ▸ List.mem_map_of_mem he')
      rw [List.filter_cons_of_neg (by simp [he]), hothers]
      simp [removeFirst, List.findIdx?_cons, he]
    · rw [List.filter_cons_of_pos (by simp [he]), ← ih h.2]
      cases hfind : entries.findIdx? (key · = k) with
      | none => simp [removeFirst, List.findIdx?_cons, he, hfind]
      | some pos => simp [removeFirst, List.findIdx?_cons, he, hfind]

theorem remaining_sublist (changes : List (Change α K)) :
    (remaining key changes).Sublist (changes.filterMap Change.entry?) := by
  induction changes with
  | nil => exact .slnil
  | cons change changes ih =>
    cases change with
    | add entry =>
      have hadd : (Change.add entry :: changes).filterMap Change.entry? =
          entry :: changes.filterMap Change.entry? := rfl
      rw [remaining, hadd]
      split
      · exact ih.cons _
      · exact ih.cons_cons _
    | remove k => exact ih
    | clear => exact ih

theorem foldl_apply (h : ((entries ++ changes.filterMap Change.entry?).map key).Nodup) :
    changes.foldl (Change.apply key) entries =
      entries.filter (fun e ↦ ! changes.any (·.takes (key e))) ++ remaining key changes := by
  induction changes generalizing entries with
  | nil => simp [remaining]
  | cons change changes ih =>
    cases change with
    | add entry =>
      rw [List.foldl_cons, Change.apply, ih (by simpa [Change.entry?] using h), List.filter_append,
        List.append_assoc]
      simp only [List.any_cons, Change.takes_add, Bool.false_or, remaining]
      by_cases htaken : changes.any (·.takes (key entry))
      · simp only [htaken, if_true, Bool.not_true, Bool.false_eq_true, not_false_eq_true,
          List.filter_cons_of_neg, List.filter_nil, List.nil_append]
      · rw [if_neg htaken, List.filter_cons_of_pos (by simpa using htaken), List.filter_nil]
        rfl
    | remove k =>
      have hsub : (entries.filter (key · ≠ k) ++ changes.filterMap Change.entry?).Sublist
          (entries ++ changes.filterMap Change.entry?) := List.filter_sublist.append_right _
      have hentries : (entries.map key).Nodup := by
        rw [List.map_append] at h
        exact h.of_append_left
      rw [List.foldl_cons, Change.apply, removeFirst_eq_filter hentries,
        ih (h.sublist (hsub.map key)), List.filter_filter]
      simp only [List.any_cons, Change.takes_remove, Bool.not_or, remaining]
      congr 2
      funext e
      rw [Bool.and_comm]
      by_cases he : key e = k
      · simp [he]
      · simp [he, Ne.symm he]
    | clear =>
      have hrest : ((([] : List α) ++ changes.filterMap Change.entry?).map key).Nodup := by
        rw [List.map_append] at h
        exact h.of_append_right
      rw [List.foldl_cons, Change.apply, ih hrest]
      simp [remaining]

end

end Knust.Foundation
