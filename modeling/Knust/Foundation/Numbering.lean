import Mathlib.Algebra.Order.Ring.Nat
import Mathlib.Data.List.Sort

namespace Knust.Foundation.Numbering

inductive Verdict
  | accepted
  | repeated
  | rejected
  deriving DecidableEq

variable (m : ℕ)

/-- The verdict of a receiver that sees positions modulo `m` only, on a message at
`p`. The last message that it accepted stood right before `next`. -/
def judge (next p : ℕ) : Verdict :=
  if p % m = next % m then .accepted
  else if (p + 1) % m = next % m then .repeated
  else .rejected

def advance (next p : ℕ) : ℕ := if judge m next p = .accepted then p + 1 else next

def verdicts : ℕ → List ℕ → List (ℕ × Verdict)
  | _, [] => []
  | next, p :: ps => (p, judge m next p) :: verdicts (advance m next p) ps

def accepted (log : List (ℕ × Verdict)) : List ℕ :=
  (log.filter fun entry ↦ entry.2 = .accepted).map Prod.fst

/-- What stands before this position has been accepted, and it has not. -/
structure FirstMissing (log : List (ℕ × Verdict)) (d : ℕ) : Prop where
  missing : d ∉ accepted log
  before : ∀ q < d, q ∈ accepted log

variable {m} {next p d : ℕ} {ps : List ℕ}

theorem judge_eq_accepted : judge m next p = .accepted ↔ p % m = next % m := by
  unfold judge
  split
  · simp [*]
  · split <;> simp [*]

theorem judge_succ (hm : 2 ≤ m) : judge m (p + 1) p = .repeated := by
  have hne : p % m ≠ (p + 1) % m := by
    intro h
    have h₁ : (p + 1 - p) % m = 0 := Nat.sub_mod_eq_zero_of_mod_eq h.symm
    rw [Nat.add_sub_cancel_left, Nat.mod_eq_of_lt (by omega)] at h₁
    omega
  rw [judge, if_neg hne, if_pos rfl]

theorem judge_after (hlt : d < p) (hle : p + 2 ≤ d + m) : judge m d p = .rejected := by
  have hne : p % m ≠ d % m := by
    intro h
    have h₁ := Nat.sub_mod_eq_zero_of_mod_eq h
    rw [Nat.mod_eq_of_lt (by omega)] at h₁
    omega
  have hne' : (p + 1) % m ≠ d % m := by
    intro h
    have h₁ := Nat.sub_mod_eq_zero_of_mod_eq h
    rw [Nat.mod_eq_of_lt (by omega)] at h₁
    omega
  rw [judge, if_neg hne, if_neg hne']

theorem accepted_cons (p : ℕ) (v : Verdict) (log : List (ℕ × Verdict)) :
    accepted ((p, v) :: log) = if v = .accepted then p :: accepted log else accepted log := by
  by_cases hv : v = .accepted <;> simp [accepted, hv]

theorem accepted_verdicts_cons (next p : ℕ) (ps : List ℕ) :
    accepted (verdicts m next (p :: ps)) =
      if p % m = next % m then p :: accepted (verdicts m (p + 1) ps)
      else accepted (verdicts m next ps) := by
  rw [verdicts, accepted_cons, advance]
  simp only [judge_eq_accepted]
  split <;> rfl

theorem map_fst_verdicts (next : ℕ) (ps : List ℕ) : (verdicts m next ps).map Prod.fst = ps := by
  induction ps generalizing next with
  | nil => rfl
  | cons p ps ih => rw [verdicts, List.map_cons, ih]

theorem length_verdicts (next : ℕ) (ps : List ℕ) : (verdicts m next ps).length = ps.length := by
  rw [← List.length_map Prod.fst, map_fst_verdicts]

theorem verdicts_append (next : ℕ) (ps qs : List ℕ) :
    verdicts m next (ps ++ qs) = verdicts m next ps ++ verdicts m (ps.foldl (advance m) next) qs := by
  induction ps generalizing next with
  | nil => rfl
  | cons p ps ih => rw [List.cons_append, verdicts, ih, verdicts, List.foldl_cons, List.cons_append]

theorem mem_of_mem_accepted {q : ℕ} (hq : q ∈ accepted (verdicts m next ps)) : q ∈ ps := by
  obtain ⟨entry, he, rfl⟩ := List.mem_map.mp hq
  rw [← map_fst_verdicts (m := m) next ps]
  exact List.mem_map_of_mem (List.mem_of_mem_filter he)

/-- Messages that do not overtake each other: none is older than the last accepted
one. -/
structure InOrder (next : ℕ) (ps : List ℕ) : Prop where
  sorted : ps.Pairwise (· ≤ ·)
  reached : ∀ p ∈ ps, next ≤ p + 1

theorem InOrder.tail (h : InOrder next (p :: ps)) : InOrder next ps :=
  ⟨(List.pairwise_cons.mp h.sorted).2, fun q hq ↦ h.reached q (List.mem_cons_of_mem p hq)⟩

theorem InOrder.advance (h : InOrder next (p :: ps)) : InOrder (p + 1) ps :=
  ⟨(List.pairwise_cons.mp h.sorted).2,
    fun q hq ↦ Nat.succ_le_succ ((List.pairwise_cons.mp h.sorted).1 q hq)⟩

theorem InOrder.eq_or_le (h : InOrder next (p :: ps)) (hm : 2 ≤ m) (hp : p % m = next % m) :
    p = next ∨ next + m ≤ p := by
  have hr := h.reached p List.mem_cons_self
  rcases Nat.lt_or_ge p next with hlt | hge
  · have h₁ := Nat.sub_mod_eq_zero_of_mod_eq hp.symm
    rw [show next - p = 1 by omega, Nat.mod_eq_of_lt (by omega)] at h₁
    omega
  · have h₁ : m ∣ p - next := Nat.dvd_of_mod_eq_zero (Nat.sub_mod_eq_zero_of_mod_eq hp)
    rcases Nat.eq_zero_or_pos (p - next) with h₀ | h₀
    · exact .inl (by omega)
    · have h₂ := Nat.le_of_dvd h₀ h₁
      exact .inr (by omega)

theorem le_of_mem_accepted (hm : 2 ≤ m) (h : InOrder next ps) {q : ℕ}
    (hq : q ∈ accepted (verdicts m next ps)) : next ≤ q := by
  induction ps generalizing next with
  | nil => cases hq
  | cons p ps ih =>
    rw [accepted_verdicts_cons] at hq
    split at hq
    · rename_i hp
      have hle : next ≤ p := by
        rcases h.eq_or_le hm hp with h₁ | h₁ <;> omega
      rcases List.mem_cons.mp hq with rfl | hq
      · exact hle
      · have := ih h.advance hq
        omega
    · exact ih h.tail hq

theorem accepted_pairwise (hm : 2 ≤ m) (h : InOrder next ps) :
    (accepted (verdicts m next ps)).Pairwise (· < ·) := by
  induction ps generalizing next with
  | nil => exact .nil
  | cons p ps ih =>
    rw [accepted_verdicts_cons]
    split
    · exact .cons (fun q hq ↦ le_of_mem_accepted hm h.advance hq) (ih h.advance)
    · exact ih h.tail

theorem accepted_sublist (hm : 2 ≤ m) (h : InOrder next ps) {n : ℕ} (hn : ∀ p ∈ ps, p < n) :
    (accepted (verdicts m next ps)).Sublist (List.range n) := by
  have hsorted := accepted_pairwise hm h
  refine List.sublist_of_subperm_of_pairwise (List.subperm_of_subset hsorted.nodup ?_) hsorted
    List.pairwise_lt_range
  intro q hq
  exact List.mem_range.mpr (hn q (mem_of_mem_accepted hq))

theorem accepted_of_complete (hm : 2 ≤ m) (h : InOrder next ps) {n : ℕ}
    (hall : ∀ q, next ≤ q → q < n → q ∈ ps) {q : ℕ} (hq : next ≤ q) (hqn : q < n) :
    q ∈ accepted (verdicts m next ps) := by
  induction ps generalizing next with
  | nil => exact absurd (hall q hq hqn) (by simp)
  | cons p ps ih =>
    have hr := h.reached p List.mem_cons_self
    -- The next message is still to come, so nothing after it can be first.
    have hle : p ≤ next := by
      rcases List.mem_cons.mp (hall next le_rfl (by omega)) with hp | hp
      · exact hp.ge
      · exact (List.pairwise_cons.mp h.sorted).1 next hp
    have htail (r : ℕ) (hr : p < r) (hrn : r < n) : r ∈ ps := by
      rcases List.mem_cons.mp (hall r (by omega) hrn) with rfl | hps
      · omega
      · exact hps
    rw [accepted_verdicts_cons]
    rcases Nat.lt_or_ge p next with hlt | hge
    · have hpn : ¬ p % m = next % m := by
        intro hp
        rcases h.eq_or_le hm hp with h₁ | h₁ <;> omega
      rw [if_neg hpn]
      exact ih h.tail (fun r hr hrn ↦ htail r (by omega) hrn) hq
    · obtain rfl : p = next := Nat.le_antisymm hle hge
      rw [if_pos rfl]
      rcases Nat.lt_or_ge p q with hlt | hge
      · exact List.mem_cons_of_mem _
          (ih h.advance (fun r hr hrn ↦ htail r (by omega) hrn) (by omega))
      · obtain rfl : q = p := by omega
        exact List.mem_cons_self

theorem accepted_eq_range (hm : 2 ≤ m) (h : InOrder 0 ps) {n : ℕ} (hn : ∀ p ∈ ps, p < n)
    (hall : ∀ q < n, q ∈ ps) : accepted (verdicts m 0 ps) = List.range n := by
  refine (accepted_pairwise hm h).eq_of_mem_iff List.pairwise_lt_range fun q ↦ ?_
  rw [List.mem_range]
  constructor
  · intro hq
    exact hn q (mem_of_mem_accepted hq)
  · intro hq
    exact accepted_of_complete hm h (fun r _ hr ↦ hall r hr) (Nat.zero_le q) hq

theorem foldl_advance_eq (hm : 2 ≤ m) (h : InOrder next ps) (hle : next ≤ d)
    (hturn : ∀ p ∈ ps, p < d + m) (hmissing : d ∉ accepted (verdicts m next ps))
    (hbefore : ∀ q, next ≤ q → q < d → q ∈ accepted (verdicts m next ps)) :
    ps.foldl (advance m) next = d := by
  induction ps generalizing next with
  | nil =>
    rcases Nat.eq_or_lt_of_le hle with h₁ | h₁
    · exact h₁
    · exact absurd (hbefore next le_rfl h₁) (by simp [verdicts, accepted])
  | cons p ps ih =>
    have hturn' : ∀ q ∈ ps, q < d + m := fun q hq ↦ hturn q (List.mem_cons_of_mem p hq)
    rw [accepted_verdicts_cons] at hmissing hbefore
    rw [List.foldl_cons, advance]
    simp only [judge_eq_accepted]
    by_cases hp : p % m = next % m
    · rw [if_pos hp] at hmissing hbefore ⊢
      have hpd : p ≠ d := fun he ↦ hmissing (he ▸ List.mem_cons_self)
      have hfirst : p = next := by
        rcases h.eq_or_le hm hp with h₁ | h₁
        · exact h₁
        rcases Nat.eq_or_lt_of_le hle with h₂ | h₂
        · have := hturn p List.mem_cons_self
          omega
        · rcases List.mem_cons.mp (hbefore next le_rfl h₂) with h₃ | h₃
          · exact h₃.symm
          · have := le_of_mem_accepted hm h.advance h₃
            omega
      subst hfirst
      refine ih h.advance (by omega) hturn' (fun hd ↦ hmissing (List.mem_cons_of_mem _ hd)) ?_
      intro q hq hqd
      rcases List.mem_cons.mp (hbefore q (by omega) hqd) with rfl | h₃
      · omega
      · exact h₃
    · rw [if_neg hp] at hmissing hbefore ⊢
      exact ih h.tail hle hturn' hmissing hbefore

theorem FirstMissing.judge_eq (hm : 2 ≤ m) (h : InOrder 0 (ps ++ [p]))
    (hd : FirstMissing (verdicts m 0 ps) d) (hlt : d < p) (hle : p + 2 ≤ d + m) :
    judge m (ps.foldl (advance m) 0) p = .rejected := by
  have hsorted := List.pairwise_append.mp h.sorted
  have hps : InOrder 0 ps := ⟨hsorted.1, fun q _ ↦ Nat.zero_le _⟩
  have hturn : ∀ q ∈ ps, q < d + m := by
    intro q hq
    have := hsorted.2.2 q hq p (List.mem_singleton.mpr rfl)
    omega
  rw [foldl_advance_eq hm hps (Nat.zero_le d) hturn hd.missing fun q _ hq ↦ hd.before q hq]
  exact judge_after hlt hle

theorem foldl_advance_eq_getLast (next : ℕ) (ps : List ℕ) :
    ps.foldl (advance m) next =
      ((accepted (verdicts m next ps)).getLast?.map (· + 1)).getD next := by
  induction ps generalizing next with
  | nil => rfl
  | cons q ps ih =>
    rw [accepted_verdicts_cons, List.foldl_cons, advance]
    simp only [judge_eq_accepted]
    split
    · rw [ih, List.getLast?_cons]
      cases (accepted (verdicts m (q + 1) ps)).getLast? <;> rfl
    · exact ih next

theorem accepted_append (log log' : List (ℕ × Verdict)) :
    accepted (log ++ log') = accepted log ++ accepted log' := by
  rw [accepted, List.filter_append, List.map_append]
  rfl

theorem foldl_advance_range (d : ℕ) : (List.range d).foldl (advance m) 0 = d := by
  induction d with
  | zero => rfl
  | succ d ih =>
    rw [List.range_succ, List.foldl_append, ih, List.foldl_cons, advance,
      if_pos (judge_eq_accepted.mpr rfl), List.foldl_nil]

theorem succ_not_mem_accepted (hm : 2 ≤ m) (hrest : d + 1 ∉ ps) :
    d + 1 ∉ accepted (verdicts m 0 (List.range d ++ (d + 1) :: ps)) := by
  have hne : ¬ (d + 1) % m = d % m := by
    intro h
    have hj := judge_succ (m := m) (p := d) hm
    rw [judge, if_pos h.symm] at hj
    cases hj
  rw [verdicts_append, accepted_append, foldl_advance_range, accepted_verdicts_cons, if_neg hne]
  intro h
  rcases List.mem_append.mp h with h | h
  · have := List.mem_range.mp (mem_of_mem_accepted h)
    omega
  · exact hrest (mem_of_mem_accepted h)

section

variable {S E : Type}

/-- A run of a receiver: what it handles, one message after the other, and how. In
between anything may happen that does not change what it waits for. -/
inductive Receives (Serving : ℕ → S → Prop) (Handles : ℕ → S → E → S → Prop) :
    S → List (ℕ × E) → Prop
  | nil (s : S) : Receives Serving Handles s []
  | cons {s s₁ s' : S} {p : ℕ} {e : E} {log : List (ℕ × E)}
    (hquiet : ∀ next, Serving next s → Serving next s₁) (hhandles : Handles p s₁ e s')
    (hrest : Receives Serving Handles s' log) : Receives Serving Handles s ((p, e) :: log)

theorem Receives.exists_log {Serving : ℕ → S → Prop} {Handles : ℕ → S → E → S → Prop}
    {n : ℕ} (next : ℕ) (hstep : ∀ next p s, p < n → Serving next s →
      ∃ e s' next', Handles p s e s' ∧ Serving next' s')
    {ps : List ℕ} {s : S} (hs : Serving next s) (hn : ∀ p ∈ ps, p < n) :
    ∃ log, Receives Serving Handles s log ∧ log.map Prod.fst = ps := by
  induction ps generalizing next s with
  | nil => exact ⟨[], .nil s, rfl⟩
  | cons p ps ih =>
    obtain ⟨hp, hn⟩ := List.forall_mem_cons.mp hn
    obtain ⟨e, s', next', hh, hs'⟩ := hstep next p s hp hs
    obtain ⟨log, hlog, hps⟩ := ih next' hs' hn
    exact ⟨(p, e) :: log, .cons (fun _ ↦ id) hh hlog, by rw [List.map_cons, hps]⟩

theorem Receives.eq_map {Serving : ℕ → S → Prop} {Handles : ℕ → S → E → S → Prop}
    {answer : ℕ → Verdict → E} {s : S} {log : List (ℕ × E)} {n : ℕ} (next : ℕ)
    (hstep : ∀ next p s e s', p < n → Serving next s → Handles p s e s' →
      Serving (advance m next p) s' ∧ e = answer p (judge m next p))
    (hr : Receives Serving Handles s log) (hs : Serving next s)
    (hn : ∀ p ∈ log.map Prod.fst, p < n) :
    log = (verdicts m next (log.map Prod.fst)).map fun x ↦ (x.1, answer x.1 x.2) := by
  induction hr generalizing next with
  | nil => rfl
  | @cons s s₁ s' p e log hquiet hhandles _ ih =>
    obtain ⟨hp, hn⟩ := List.forall_mem_cons.mp hn
    obtain ⟨hs', he⟩ := hstep next p s₁ e s' hp (hquiet next hs) hhandles
    rw [List.map_cons, verdicts, List.map_cons, ← ih _ hs' hn, he]

end

end Knust.Foundation.Numbering
