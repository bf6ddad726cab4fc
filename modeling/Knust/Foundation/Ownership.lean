import Knust.Foundation.Concurrent

namespace Knust.Foundation

variable {C D : Type} {R : C → Type} {R' : D → Type} {S W I T ε δ α β : Type}

namespace Task

/-- Issue other commands instead, whose responses stand for the original ones. -/
def relabel (f : C → D) (g : (c : C) → R' (f c) → R c) : Task C R ε α → Task D R' ε α
  | .done r => .done r
  | .call c next => .call (f c) fun r ↦ (next (g c r)).relabel f g

section

variable (f : C → D) (g : (c : C) → R' (f c) → R c)

end

variable (exec : Machine C R S I) (Fair : C → I → S → Prop) (Inv : S → Prop) (Rule : C → S → Prop)
  (view : ℕ → S → W)

/-- The task with the number alone changes its view of the state. As long as its steps are
fair, it keeps the invariant and its commands obey the rule; the postcondition says what its
view is in the end. -/
def Owns (k : ℕ) (Q : W → Outcome ε α → Prop) : W → Task C R ε α → Prop
  | w, .done r => Q w r
  | w, .call c next => ∀ i s r s', view k s = w → Inv s → Fair c i s → exec c i s = some (r, s') →
      Rule c s ∧ Inv s' ∧ (∀ j ≠ k, view j s' = view j s) ∧ Owns k Q (view k s') (next r)

variable {exec Fair Inv Rule view} {k : ℕ} {w : W} {Q : W → Outcome ε α → Prop} {p : Task C R ε α}

theorem Owns.bind {Q' : W → Outcome ε β → Prop} {q : α → Task C R ε β}
    (hp : p.Owns exec Fair Inv Rule view k Q w)
    (hok : ∀ w a, Q w (.ok a) → (q a).Owns exec Fair Inv Rule view k Q' w)
    (herr : ∀ w e, Q w (.err e) → Q' w (.err e)) (hpanic : ∀ w, Q w .panic → Q' w .panic) :
    (p >>= q).Owns exec Fair Inv Rule view k Q' w := by
  induction p generalizing w with
  | done r =>
    cases r with
    | ok a => exact hok w a hp
    | err e => exact herr w e hp
    | panic => exact hpanic w hp
  | call c next ih =>
    intro i s r s' hw hs hfair hr
    obtain ⟨hrule, hs', hothers, hnext⟩ := hp i s r s' hw hs hfair hr
    exact ⟨hrule, hs', hothers, ih r hnext⟩

theorem Owns.attempt {Q' : W → Outcome δ (Except ε α) → Prop}
    (hp : p.Owns exec Fair Inv Rule view k Q w) (hok : ∀ w a, Q w (.ok a) → Q' w (.ok (.ok a)))
    (herr : ∀ w e, Q w (.err e) → Q' w (.ok (.error e))) (hpanic : ∀ w, Q w .panic → Q' w .panic) :
    p.attempt.Owns exec Fair Inv Rule view k Q' w := by
  induction p generalizing w with
  | done r =>
    cases r with
    | ok a => exact hok w a hp
    | err e => exact herr w e hp
    | panic => exact hpanic w hp
  | call c next ih =>
    intro i s r s' hw hs hfair hr
    obtain ⟨hrule, hs', hothers, hnext⟩ := hp i s r s' hw hs hfair hr
    exact ⟨hrule, hs', hothers, ih r hnext⟩

def Yields (A : W → α → Prop) : W → Outcome ε α → Prop
  | w, .ok a => A w a
  | _, .err _ => False
  | _, .panic => True

theorem Owns.seq {A : W → α → Prop} {Q' : W → Outcome ε β → Prop} {q : α → Task C R ε β}
    (hp : p.Owns exec Fair Inv Rule view k (Yields A) w)
    (hq : ∀ w a, A w a → (q a).Owns exec Fair Inv Rule view k Q' w) (hpanic : ∀ w, Q' w .panic) :
    (p >>= q).Owns exec Fair Inv Rule view k Q' w :=
  hp.bind hq (fun _ _ h ↦ h.elim) fun w _ ↦ hpanic w

theorem Owns.mono {Q' : W → Outcome ε α → Prop} (hp : p.Owns exec Fair Inv Rule view k Q w)
    (hQ : ∀ w r, Q w r → Q' w r) : p.Owns exec Fair Inv Rule view k Q' w := by
  induction p generalizing w with
  | done r => exact hQ w r hp
  | call c next ih =>
    intro i s r s' hw hs hfair hr
    obtain ⟨hrule, hs', hothers, hnext⟩ := hp i s r s' hw hs hfair hr
    exact ⟨hrule, hs', hothers, ih r hnext⟩

end Task

namespace Config

def Fairly (Fair : C → I → S → Prop) (x : Config C R S ε) : Move T I → Prop
  | .spawn _ => True
  | .resume k i => ∀ c ∈ x.next k, Fair c i x.state

instance decidableFairly {Fair : C → I → S → Prop} [∀ c i s, Decidable (Fair c i s)]
    (x : Config C R S ε) : (m : Move T I) → Decidable (x.Fairly Fair m)
  | .spawn _ => .isTrue trivial
  | .resume k i => inferInstanceAs (Decidable (∀ c ∈ x.next k, Fair c i x.state))

variable (exec : Machine C R S I) (Fair : C → I → S → Prop) (Inv : S → Prop) (Rule : C → S → Prop)
  (view : ℕ → S → W)

structure Owned (x : Config C R S ε) : Prop where
  inv : Inv x.state
  owns : ∀ (k : ℕ) (p : Task C R ε Unit), x.pool[k]? = some p →
    p.Owns exec Fair Inv Rule view k (fun _ _ ↦ True) (view k x.state)
  obeyed : ∀ r ∈ x.trace, Rule r.command r.before

variable {exec Fair Inv Rule view} {x : Config C R S ε}

theorem Owned.resume (hx : Owned exec Fair Inv Rule view x) {k : ℕ} {i : I}
    (hfair : ∀ c ∈ x.next k, Fair c i x.state) :
    Owned exec Fair Inv Rule view (x.resume exec k i) := by
  obtain h | ⟨c, next, r, s, hp, he, h⟩ := resume_cases exec x k i
  · rw [h]
    exact hx
  rw [h]
  have hk : k < x.pool.length := (List.getElem?_eq_some_iff.mp hp).1
  obtain ⟨hrule, hinv, hothers, hnext⟩ :=
    hx.owns k _ hp i x.state r s rfl hx.inv (hfair c (next_of_call hp)) he
  refine ⟨hinv, fun j q hq ↦ ?_, fun r' hr ↦ ?_⟩
  · by_cases hj : k = j
    · subst hj
      obtain rfl : next r = q := by simpa [List.getElem?_set_self hk] using hq
      exact hnext
    · rw [List.getElem?_set_ne hj] at hq
      simp only [hothers j (Ne.symm hj)]
      exact hx.owns j q hq
  · rcases List.mem_cons.mp hr with rfl | hr
    · exact hrule
    · exact hx.obeyed r' hr

end Config

end Knust.Foundation
