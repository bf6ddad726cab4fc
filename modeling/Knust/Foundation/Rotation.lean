import Mathlib.Data.Finset.Card
import Mathlib.Order.WithBot

namespace Knust.Foundation

variable {α : Type}

def minBy (cmp : α → α → Ordering) : List α → Option α
  | [] => none
  | x :: xs => some (xs.foldl (fun least y ↦ if cmp least y = .gt then y else least) x)

section

variable {cmp : α → α → Ordering} {xs : List α}

theorem foldl_minBy_mem (x : α) (xs : List α) :
    xs.foldl (fun least y ↦ if cmp least y = .gt then y else least) x ∈ x :: xs := by
  induction xs generalizing x with
  | nil => exact List.mem_singleton_self x
  | cons y xs ih =>
    rw [List.foldl_cons]
    split
    next => exact List.mem_cons_of_mem x (ih y)
    next =>
      rcases List.mem_cons.mp (ih x) with h | h
      · rw [h]
        exact List.mem_cons_self
      · exact List.mem_cons_of_mem x (List.mem_cons_of_mem y h)

theorem minBy_mem {x : α} (h : minBy cmp xs = some x) : x ∈ xs := by
  cases xs with
  | nil => cases h
  | cons y ys =>
    rw [← Option.some.inj h]
    exact foldl_minBy_mem y ys

theorem minBy_eq_none (h : minBy cmp xs = none) : xs = [] := by
  cases xs with
  | nil => rfl
  | cons y ys => cases h

theorem minBy_le {β : Type} [LinearOrder β] {key : α → β}
    (hcmp : ∀ x y, cmp x y = .gt ↔ key y < key x) {x : α} (h : minBy cmp xs = some x) :
    ∀ y ∈ xs, key x ≤ key y := by
  have hfold (x : α) (xs : List α) : ∀ y ∈ x :: xs,
      key (xs.foldl (fun least y ↦ if cmp least y = .gt then y else least) x) ≤ key y := by
    induction xs generalizing x with
    | nil =>
      intro y hy
      rw [List.mem_singleton.mp hy]
      exact le_rfl
    | cons z zs ih =>
      have hstep : ∀ y ∈ [x, z], key (if cmp x z = .gt then z else x) ≤ key y := by
        intro y hy
        simp only [List.mem_cons, List.not_mem_nil, or_false] at hy
        split
        next hgt => rcases hy with rfl | rfl <;> simp [((hcmp _ _).mp hgt).le]
        next hle =>
          rw [hcmp, not_lt] at hle
          rcases hy with rfl | rfl <;> simp [hle]
      intro y hy
      rw [List.foldl_cons]
      have hleast := ih (if cmp x z = .gt then z else x)
      rcases List.mem_cons.mp hy with rfl | hy
      · exact (hleast _ List.mem_cons_self).trans (hstep y (by simp))
      · rcases List.mem_cons.mp hy with rfl | hy
        · exact (hleast _ List.mem_cons_self).trans (hstep y (by simp))
        · exact hleast y (List.mem_cons_of_mem _ hy)
  cases xs with
  | nil => cases h
  | cons z zs =>
    intro y hy
    rw [← Option.some.inj h]
    exact hfold z zs y hy

end

structure Turn (α : Type) where
  candidates : Set α
  served : Option α

variable [DecidableEq α]

/-- In each turn the candidate is served whose last service is the longest ago. The stamps say
when that was. -/
inductive Rotates : (α → WithBot ℕ) → List (Turn α) → Prop
  | nil (stamps : α → WithBot ℕ) : Rotates stamps []
  | idle {stamps : α → WithBot ℕ} {turns : List (Turn α)} :
      Rotates stamps turns → Rotates stamps (⟨∅, none⟩ :: turns)
  | serve {stamps : α → WithBot ℕ} {turns : List (Turn α)} {candidates : Set α} {a : α} {time : ℕ} :
      a ∈ candidates → (∀ b ∈ candidates, stamps a ≤ stamps b) →
      (∀ b, stamps b < WithBot.some time) →
      Rotates (Function.update stamps a (WithBot.some time)) turns →
      Rotates stamps (⟨candidates, some a⟩ :: turns)

namespace Rotates

variable {stamps : α → WithBot ℕ} {first last : Turn α} {before middle after turns : List (Turn α)}
  {x y : α}

theorem of_append (h : Rotates stamps (before ++ turns)) : ∃ stamps', Rotates stamps' turns := by
  induction before generalizing stamps with
  | nil => exact ⟨stamps, h⟩
  | cons turn before ih =>
    cases h with
    | idle h => exact ih h
    | serve _ _ _ h => exact ih h

theorem of_append_left (h : Rotates stamps (turns ++ after)) : Rotates stamps turns := by
  induction turns generalizing stamps with
  | nil => exact .nil stamps
  | cons turn turns ih =>
    cases h with
    | idle h => exact .idle (ih h)
    | serve ha hleast htime h => exact .serve ha hleast htime (ih h)

theorem served_before (h : Rotates stamps (middle ++ last :: after)) (hlast : last.served = some x)
    (hy : y ∈ last.candidates) (hlt : stamps y < stamps x) : some y ∈ middle.map Turn.served := by
  induction middle generalizing stamps with
  | nil =>
    cases h with
    | idle => cases hlast
    | serve _ hleast =>
      obtain rfl := Option.some.inj hlast
      exact absurd (hleast y hy) hlt.not_ge
  | cons turn middle ih =>
    cases h with
    | idle h => exact List.mem_cons_of_mem _ (ih h hlt)
    | @serve _ _ _ a time _ _ htime h =>
      by_cases hay : a = y
      · simp [hay]
      · refine List.mem_cons_of_mem _ (ih h ?_)
        rw [Function.update_of_ne (Ne.symm hay)]
        by_cases hax : a = x
        · rw [hax, Function.update_self]
          exact htime y
        · rwa [Function.update_of_ne (Ne.symm hax)]

theorem served_between (h : Rotates stamps (before ++ first :: (middle ++ last :: after)))
    (hfirst : first.served = some x) (hlast : last.served = some x) (hy : y ∈ last.candidates)
    (hne : y ≠ x) : some y ∈ middle.map Turn.served := by
  obtain ⟨stamps, h⟩ := h.of_append
  cases h with
  | idle => cases hfirst
  | serve _ _ htime h =>
    obtain rfl := Option.some.inj hfirst
    refine h.served_before hlast hy ?_
    rw [Function.update_self, Function.update_of_ne hne]
    exact htime y

theorem exists_served (h : Rotates stamps turns) :
    ∀ turn ∈ turns, turn.candidates.Nonempty → ∃ a ∈ turn.candidates, turn.served = some a := by
  induction h with
  | nil => simp
  | idle _ ih => simpa using ih
  | serve ha _ _ _ ih =>
    intro turn hturn hne
    rcases List.mem_cons.mp hturn with rfl | hturn
    · exact ⟨_, ha, rfl⟩
    · exact ih turn hturn hne

omit [DecidableEq α] in
theorem exists_served_twice (h : ¬ (turns.map Turn.served).Nodup) :
    ∃ before first middle last after, turns = before ++ first :: (middle ++ last :: after) ∧
      first.served = last.served := by
  induction turns with
  | nil => simp at h
  | cons turn turns ih =>
    rw [List.map_cons, List.nodup_cons, not_and_or, not_not] at h
    rcases h with hmem | h
    · obtain ⟨last, hlast, hserved⟩ := List.mem_map.mp hmem
      obtain ⟨middle, after, rfl⟩ := List.append_of_mem hlast
      exact ⟨[], turn, middle, last, after, rfl, hserved.symm⟩
    · obtain ⟨before, first, middle, last, after, rfl, hserved⟩ := ih h
      exact ⟨turn :: before, first, middle, last, after, rfl, hserved⟩

section

variable {S : Finset α}

theorem nodup_served (h : Rotates stamps turns) (hturns : ∀ turn ∈ turns, turn.candidates = S)
    (hlength : turns.length ≤ S.card) : (turns.map Turn.served).Nodup := by
  by_contra hdup
  obtain ⟨before, first, middle, last, after, rfl, hserved⟩ := exists_served_twice hdup
  rw [List.length_append, List.length_cons, List.length_append, List.length_cons] at hlength
  have hne : S.Nonempty := Finset.card_pos.mp (by omega)
  have hlast : last.candidates = S := hturns last (by simp)
  obtain ⟨x, hx, hlast_served⟩ := h.exists_served last (by simp) (hlast ▸ hne)
  -- The others are all served in between, for which there are too few turns.
  have hsub : (S.erase x).image some ⊆ (middle.map Turn.served).toFinset := by
    intro served hserved'
    obtain ⟨y, hy, rfl⟩ := Finset.mem_image.mp hserved'
    obtain ⟨hyx, hyS⟩ := Finset.mem_erase.mp hy
    rw [List.mem_toFinset]
    exact h.served_between (hserved.trans hlast_served) hlast_served (hlast ▸ hyS) hyx
  have hxS : x ∈ S := by rwa [hlast] at hx
  have hcard := (Finset.card_le_card hsub).trans (List.toFinset_card_le _)
  rw [Finset.card_image_of_injective _ (Option.some_injective α), Finset.card_erase_of_mem hxS,
    List.length_map] at hcard
  omega

theorem count_served (h : Rotates stamps turns) (hturns : ∀ turn ∈ turns, turn.candidates = S)
    (hlength : turns.length = S.card) {a : α} (ha : a ∈ S) :
    (turns.map Turn.served).count (some a) = 1 := by
  have hnodup := h.nodup_served hturns hlength.le
  have hsub : (turns.map Turn.served).toFinset ⊆ S.image some := by
    intro served hserved
    obtain ⟨turn, hturn, rfl⟩ := List.mem_map.mp (List.mem_toFinset.mp hserved)
    have hcandidates := hturns turn hturn
    obtain ⟨b, hb, hb'⟩ := h.exists_served turn hturn (hcandidates ▸ ⟨a, ha⟩)
    rw [hcandidates] at hb
    exact Finset.mem_image.mpr ⟨b, hb, hb'.symm⟩
  have hall : (turns.map Turn.served).toFinset = S.image some := by
    apply Finset.eq_of_subset_of_card_le hsub
    rw [Finset.card_image_of_injective _ (Option.some_injective α),
      List.toFinset_card_of_nodup hnodup, List.length_map, hlength]
  apply List.count_eq_one_of_mem hnodup
  rw [← List.mem_toFinset, hall]
  exact Finset.mem_image_of_mem some ha

end

end Rotates

end Knust.Foundation
