import Mathlib.Data.List.Infix
import Mathlib.Order.Lattice
import Mathlib.Order.BoundedOrder.Basic

namespace Knust.Foundation

variable {α : Type} [LinearOrder α] [OrderBot α]

/-- A number is admitted if it exceeds the last admitted one. The least number
stands for the absence of a last one, so after it everything is admitted. -/
def Fresh (last q : α) : Prop := ¬ (q ≤ last ∧ last ≠ ⊥)

instance (last q : α) : Decidable (Fresh last q) := inferInstanceAs (Decidable (¬ _))

theorem fresh_bot (q : α) : Fresh ⊥ q := fun h ↦ h.2 rfl

theorem fresh_iff_lt {last q : α} (h : last ≠ ⊥) : Fresh last q ↔ last < q := by
  simp [Fresh, h]

theorem Fresh.mono {last q q' : α} (h : Fresh last q) (hq : q ≤ q') : Fresh last q' :=
  fun h' ↦ h ⟨hq.trans h'.1, h'.2⟩

theorem fresh_of_lt {last q : α} (h : last < q) : Fresh last q := fun h' ↦ h'.1.not_gt h

def admitted (last : α) : List α → List α
  | [] => []
  | q :: qs => if Fresh last q then q :: admitted q qs else admitted last qs

theorem lt_of_mem_admitted {last : α} (h : last ≠ ⊥) {qs : List α} {q : α}
    (hq : q ∈ admitted last qs) : last < q := by
  induction qs generalizing last with
  | nil => simp [admitted] at hq
  | cons q' qs ih =>
    unfold admitted at hq
    split at hq
    · rename_i hf
      have hlt := (fresh_iff_lt h).mp hf
      rcases List.mem_cons.mp hq with rfl | hq
      · exact hlt
      · exact hlt.trans (ih (bot_lt_iff_ne_bot.mp (bot_le.trans_lt hlt)) hq)
    · exact ih h hq

theorem pairwise_admitted {last : α} (h : last ≠ ⊥) (qs : List α) :
    (admitted last qs).Pairwise (· < ·) := by
  induction qs generalizing last with
  | nil => simp [admitted]
  | cons q qs ih =>
    unfold admitted
    split
    · rename_i hf
      have hq : q ≠ ⊥ := bot_lt_iff_ne_bot.mp (bot_le.trans_lt ((fresh_iff_lt h).mp hf))
      exact List.pairwise_cons.mpr ⟨fun q' hq' ↦ lt_of_mem_admitted hq hq', ih hq⟩
    · exact ih h

theorem pairwise_admitted_bot_iff (qs : List α) :
    (admitted ⊥ qs).Pairwise (· < ·) ↔ ¬ [⊥, ⊥] <+: qs := by
  -- Once a number above the least one is admitted, `pairwise_admitted` takes over.
  match qs with
  | [] => simp [admitted]
  | [q] => simp [admitted, fresh_bot]
  | q :: q' :: qs =>
    by_cases hq : q = ⊥
    · subst hq
      by_cases hq' : q' = ⊥
      · subst hq'
        simp [admitted, fresh_bot]
      · have hlt : ⊥ < q' := bot_lt_iff_ne_bot.mpr hq'
        have hrest : ∀ q ∈ admitted q' qs, ⊥ < q :=
          fun q h ↦ hlt.trans (lt_of_mem_admitted hq' h)
        have hfar : ∀ q ∈ admitted q' qs, q' < q := fun q h ↦ lt_of_mem_admitted hq' h
        simpa [admitted, fresh_bot, hlt, Ne.symm hq', pairwise_admitted hq' qs] using
          ⟨hrest, hfar⟩
    · have hfar : ∀ p ∈ admitted q (q' :: qs), q < p := fun p h ↦ lt_of_mem_admitted hq h
      have hpre : ¬ [⊥, ⊥] <+: q :: q' :: qs := by simp [Ne.symm hq]
      rw [admitted, if_pos (fresh_bot q), List.pairwise_cons]
      exact iff_of_true ⟨hfar, pairwise_admitted hq _⟩ hpre

end Knust.Foundation
