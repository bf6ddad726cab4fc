import Mathlib.Data.List.DropRight
import Mathlib.Data.Nat.Find

namespace Knust.Foundation.Search

variable {α : Type*} {pat s t k : List α} {q : α}

theorem append_cons_inj {s' t' : List α} (hs : q ∉ s) (hs' : q ∉ s')
    (h : s ++ q :: t = s' ++ q :: t') : s = s' ∧ t = t' := by
  induction s generalizing s' with
  | nil =>
    cases s' with
    | nil => simpa using h
    | cons x s' =>
      rw [List.nil_append, List.cons_append, List.cons.injEq] at h
      exact absurd (by simp [h.1]) hs'
  | cons x s ih =>
    cases s' with
    | nil =>
      rw [List.nil_append, List.cons_append, List.cons.injEq] at h
      exact absurd (by simp [h.1]) hs
    | cons x' s' =>
      rw [List.cons_append, List.cons_append, List.cons.injEq] at h
      obtain ⟨rfl, h⟩ := h
      rw [List.mem_cons, not_or] at hs hs'
      obtain ⟨rfl, rfl⟩ := ih hs.2 hs'.2 h
      exact ⟨rfl, rfl⟩

theorem occurrence_cases {s' t' : List α} (hk : q ∉ k) (hs : q ∉ s)
    (h : s ++ q :: t = s' ++ (k ++ [q]) ++ t') :
    (s = s' ++ k ∧ t = t') ∨ ∃ u, s' = s ++ q :: u ∧ t = u ++ (k ++ [q]) ++ t' := by
  rw [List.append_assoc, List.append_assoc, List.singleton_append] at h
  rcases List.append_eq_append_iff.mp h with ⟨u, rfl, hu⟩ | ⟨u, rfl, hu⟩
  · cases u with
    | nil =>
      obtain ⟨rfl, rfl⟩ := append_cons_inj List.not_mem_nil hk hu
      exact .inl ⟨by simp, rfl⟩
    | cons x u =>
      rw [List.cons_append, List.cons.injEq] at hu
      obtain ⟨rfl, rfl⟩ := hu
      exact .inr ⟨u, rfl, by simp⟩
  · have hu' : q ∉ u := fun hq ↦ hs (List.mem_append_right s' hq)
    obtain ⟨rfl, rfl⟩ := append_cons_inj hk hu' hu
    exact .inl ⟨rfl, rfl⟩

theorem suffix_of_suffix_cons (hk : q ∉ k) (h : k <:+ s ++ q :: t) : k <:+ t := by
  have ht : q :: t <:+ s ++ q :: t := List.suffix_append s (q :: t)
  rcases Nat.lt_or_ge t.length k.length with hlt | hle
  · exact absurd ((List.suffix_of_suffix_length_le ht h hlt).subset List.mem_cons_self) hk
  · exact List.suffix_of_suffix_length_le h ((List.suffix_cons q t).trans ht) hle

variable [DecidableEq α]

theorem dropInfix_append (h : ¬ pat <:+: s ++ pat.dropLast) :
    (s ++ pat ++ t).dropInfix? pat = some (s, t) := by
  rw [List.dropInfix?_eq_some_iff]
  refine ⟨⟨pat, rfl, beq_self_eq_true _⟩, ?_⟩
  intro s' pat' t' heq hbeq
  obtain rfl := eq_of_beq hbeq
  by_contra hlt
  apply h
  have hlength : (s' ++ pat').length ≤ (s ++ pat'.dropLast).length := by
    rw [List.length_append, List.length_append, List.length_dropLast]
    omega
  have hleft : s' ++ pat' <+: s ++ pat' ++ t := ⟨t', heq.symm⟩
  have hright : s ++ pat'.dropLast <+: s ++ pat' ++ t := by
    rw [List.append_assoc, List.prefix_append_right_inj]
    exact (List.dropLast_prefix pat').trans (List.prefix_append pat' t)
  have hfront := List.prefix_of_prefix_length_le hleft hright hlength
  exact (List.suffix_append s' pat').isInfix.trans hfront.isInfix

theorem isInfix_of_dropInfix {r : List α × List α} (h : t.dropInfix? pat = some r) :
    t = r.1 ++ pat ++ r.2 := by
  obtain ⟨⟨pat', heq, hbeq⟩, -⟩ := List.dropInfix?_eq_some_iff.mp h
  rwa [eq_of_beq hbeq] at heq

theorem dropInfix_eq_none_iff : t.dropInfix? pat = none ↔ ¬ pat <:+: t := by
  constructor
  · intro hnone hin
    -- Of all occurrences, take the one with the shortest text in front.
    have hex : ∃ n, ∃ s u, s.length = n ∧ s ++ pat ++ u = t := by
      obtain ⟨s, u, h⟩ := hin
      exact ⟨s.length, s, u, rfl, h⟩
    classical
    obtain ⟨s, u, hlength, heq⟩ := Nat.find_spec hex
    have hsome : t.dropInfix? pat = some (s, u) := by
      rw [List.dropInfix?_eq_some_iff]
      refine ⟨⟨pat, heq.symm, beq_self_eq_true _⟩, ?_⟩
      intro s' pat' u' heq' hbeq
      obtain rfl := eq_of_beq hbeq
      rw [ge_iff_le, hlength]
      exact Nat.find_min' hex ⟨s', u', rfl, heq'.symm⟩
    rw [hnone] at hsome
    cases hsome
  · intro hin
    cases hfind : t.dropInfix? pat with
    | none => rfl
    | some r => exact absurd ⟨r.1, r.2, (isInfix_of_dropInfix hfind).symm⟩ hin

theorem dropInfix_mark (hs : q ∉ s) (hends : k <:+ s) :
    ∃ s', s = s' ++ k ∧ (s ++ q :: t).dropInfix? (k ++ [q]) = some (s', t) := by
  obtain ⟨s', rfl⟩ := hends
  refine ⟨s', rfl, ?_⟩
  have hfirst : ¬ k ++ [q] <:+: s' ++ (k ++ [q]).dropLast := by
    rw [List.dropLast_concat]
    intro hin
    exact hs (hin.subset (by simp))
  simpa using dropInfix_append (t := t) hfirst

theorem dropInfix_skip (hk : q ∉ k) (hs : q ∉ s) (hends : ¬ k <:+ s) :
    (s ++ q :: t).dropInfix? (k ++ [q]) =
      (t.dropInfix? (k ++ [q])).map fun r ↦ (s ++ q :: r.1, r.2) := by
  cases hfind : t.dropInfix? (k ++ [q]) with
  | none =>
    rw [Option.map_none, dropInfix_eq_none_iff]
    rintro ⟨s', t', heq⟩
    rcases occurrence_cases hk hs heq.symm with ⟨rfl, -⟩ | ⟨u, -, rfl⟩
    · exact hends (List.suffix_append s' k)
    · exact dropInfix_eq_none_iff.mp hfind ⟨u, t', rfl⟩
  | some r =>
    rw [Option.map_some, List.dropInfix?_eq_some_iff]
    have ht := isInfix_of_dropInfix hfind
    refine ⟨⟨k ++ [q], by rw [ht]; simp, beq_self_eq_true _⟩, ?_⟩
    intro s' pat' t' heq hbeq
    rw [eq_of_beq hbeq] at heq
    rcases occurrence_cases hk hs heq with ⟨rfl, -⟩ | ⟨u, rfl, hu⟩
    · exact absurd (List.suffix_append s' k) hends
    · have hmin := (List.dropInfix?_eq_some_iff.mp hfind).2 u _ t' hu (beq_self_eq_true _)
      simp only [List.length_append, List.length_cons]
      omega

/-- The text up to the next mark behind the first occurrence of a word with a mark. -/
def quoted (q : α) (k t : List α) : Option (List α) := do
  let found ← t.dropInfix? (k ++ [q])
  let value ← found.2.dropInfix? [q]
  some value.1

theorem quoted_mark {value : List α} (hs : q ∉ s) (hends : k <:+ s) (hvalue : q ∉ value) :
    quoted q k (s ++ q :: (value ++ q :: t)) = some value := by
  obtain ⟨s', -, hfind⟩ := dropInfix_mark (t := value ++ q :: t) hs hends
  obtain ⟨value', hvalue', hfind'⟩ := dropInfix_mark (t := t) hvalue List.nil_suffix
  rw [List.append_nil] at hvalue'
  rw [List.nil_append, ← hvalue'] at hfind'
  rw [quoted, hfind]
  change (do let value ← List.dropInfix? _ [q]; some value.1) = _
  rw [hfind']
  rfl

theorem quoted_skip (hk : q ∉ k) (hs : q ∉ s) (hends : ¬ k <:+ s) :
    quoted q k (s ++ q :: t) = quoted q k t := by
  rw [quoted, dropInfix_skip hk hs hends, quoted]
  cases t.dropInfix? (k ++ [q]) <;> rfl

section Replace

variable {new : List α}

def replaceFrom (pat new : List α) : ℕ → List α → List α
  | _, [] => []
  | skip + 1, _ :: t => replaceFrom pat new skip t
  | 0, a :: t =>
    if pat.isPrefixOf (a :: t) then new ++ replaceFrom pat new (pat.length - 1) t
    else a :: replaceFrom pat new 0 t

def replace (pat new t : List α) : List α := replaceFrom pat new 0 t

theorem replaceFrom_append (s : List α) :
    replaceFrom pat new s.length (s ++ t) = replace pat new t := by
  induction s with
  | nil => cases t <;> rfl
  | cons a s ih => exact ih

theorem replace_append (hpat : pat ≠ []) :
    replace pat new (pat ++ t) = new ++ replace pat new t := by
  obtain ⟨a, s, rfl⟩ := List.exists_cons_of_ne_nil hpat
  have hfront : (a :: s).isPrefixOf (a :: (s ++ t)) :=
    List.isPrefixOf_iff_prefix.mpr (List.prefix_append (a :: s) t)
  rw [replace, List.cons_append, replaceFrom, if_pos hfront, List.length_cons,
    Nat.add_sub_cancel, replaceFrom_append]

theorem replace_cons {a : α} (h : ¬ pat <+: a :: t) :
    replace pat new (a :: t) = a :: replace pat new t := by
  rw [replace, replaceFrom, if_neg (by rwa [List.isPrefixOf_iff_prefix]), replace]

theorem replace_skip {p : List α} (hs : q ∉ s) :
    replace (q :: p) new (s ++ t) = s ++ replace (q :: p) new t := by
  induction s with
  | nil => rfl
  | cons a s ih =>
    rw [List.mem_cons, not_or] at hs
    rw [List.cons_append, replace_cons (by rw [List.cons_prefix_cons]; exact fun h ↦ hs.1 h.1),
      ih hs.2, List.cons_append]

theorem replace_flatMap {β : Type*} {f g : β → List α} {l : List β}
    (h : ∀ b ∈ l, ∀ rest, replace pat new (f b ++ rest) = g b ++ replace pat new rest) :
    replace pat new (l.flatMap f) = l.flatMap g := by
  induction l with
  | nil => rfl
  | cons b l ih =>
    rw [List.flatMap_cons, List.flatMap_cons, h b List.mem_cons_self,
      ih fun b' hb' ↦ h b' (List.mem_cons_of_mem b hb')]

end Replace

end Knust.Foundation.Search
