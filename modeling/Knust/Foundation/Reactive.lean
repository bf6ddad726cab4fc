import Mathlib.Data.List.Basic

namespace Knust.Foundation

/-- A machine answers an action with its next state and an event, or is not ready for it. -/
abbrev Reactor (A E S : Type) := A → S → Option (S × E)

/-- A state and the events that have led to it, the latest first. -/
structure Journal (S E : Type) where
  state : S
  log : List E

namespace Journal

variable {A E S : Type} (react : Reactor A E S)

/-- An action that the machine is not ready for changes nothing. -/
def step (x : Journal S E) (a : A) : Journal S E :=
  match react a x.state with
  | some (s, e) => ⟨s, e :: x.log⟩
  | none => x

def run (x : Journal S E) (actions : List A) : Journal S E := actions.foldl (step react) x

/-- Every action is taken in a state that allows it. -/
def Along (Allowed : S → A → Prop) : Journal S E → List A → Prop
  | _, [] => True
  | x, a :: actions => Allowed x.state a ∧ Along Allowed (x.step react a) actions

instance decidableAlong {Allowed : S → A → Prop} [∀ s a, Decidable (Allowed s a)] :
    (x : Journal S E) → (actions : List A) → Decidable (Along react Allowed x actions)
  | _, [] => .isTrue trivial
  | x, a :: actions => @instDecidableAnd _ _ inferInstance (decidableAlong (x.step react a) actions)

theorem step_cases (x : Journal S E) (a : A) :
    (react a x.state = none ∧ x.step react a = x) ∨
      ∃ s e, react a x.state = some (s, e) ∧ x.step react a = ⟨s, e :: x.log⟩ := by
  cases h : react a x.state with
  | none => exact .inl ⟨rfl, by simp [step, h]⟩
  | some next => exact .inr ⟨next.1, next.2, rfl, by simp [step, h]⟩

variable {react} {x : Journal S E} {Inv : S → List E → Prop}

theorem run_append (x : Journal S E) (actions more : List A) :
    x.run react (actions ++ more) = (x.run react actions).run react more := List.foldl_append

variable {Allowed : S → A → Prop}

theorem run_along
    (hstep : ∀ a s log s' e, Inv s log → Allowed s a → react a s = some (s', e) → Inv s' (e :: log))
    {actions : List A} (hx : Inv x.state x.log) (hactions : Along react Allowed x actions) :
    Inv (x.run react actions).state (x.run react actions).log := by
  induction actions generalizing x with
  | nil => exact hx
  | cons a actions ih =>
    refine ih ?_ hactions.2
    obtain ⟨-, h⟩ | ⟨s, e, hreact, h⟩ := step_cases react x a
    · rw [h]
      exact hx
    · rw [h]
      exact hstep a _ _ _ _ hx hactions.1 hreact

theorem along_true (x : Journal S E) (actions : List A) :
    Along react (fun _ _ ↦ True) x actions := by
  induction actions generalizing x with
  | nil => trivial
  | cons a actions ih => exact ⟨trivial, ih _⟩

/-- Two conditions that agree wherever the invariant holds agree along a run, if the invariant is
kept where the second holds. -/
theorem along_iff {Fine : S → A → Prop} {Inv : S → Prop}
    (hiff : ∀ s a, Inv s → (Allowed s a ↔ Fine s a))
    (hstep : ∀ a s s' e, Inv s → Fine s a → react a s = some (s', e) → Inv s') (hx : Inv x.state)
    (actions : List A) : Along react Allowed x actions ↔ Along react Fine x actions := by
  induction actions generalizing x with
  | nil => exact Iff.rfl
  | cons a actions ih =>
    rw [Along, Along, hiff _ _ hx]
    refine and_congr_right fun ha ↦ ih ?_
    obtain ⟨-, h⟩ | ⟨s, e, hreact, h⟩ := step_cases react x a
    · rw [h]
      exact hx
    · rw [h]
      exact hstep a _ _ _ hx ha hreact

theorem run_invariant
    (hstep : ∀ a s log s' e, Inv s log → react a s = some (s', e) → Inv s' (e :: log))
    (hx : Inv x.state x.log) (actions : List A) :
    Inv (x.run react actions).state (x.run react actions).log :=
  run_along (fun a s log s' e h _ ↦ hstep a s log s' e h) hx (along_true x actions)

/-- Each event of a run of allowed actions from the start has the property at the time it
happens. -/
theorem run_along_always {Good : E → List E → Prop} {start : S}
    (hstep : ∀ a s log s' e, Inv s log → Allowed s a → react a s = some (s', e) →
      Inv s' (e :: log) ∧ Good e log)
    (hstart : Inv start []) {actions : List A}
    (hactions : Along react Allowed ⟨start, []⟩ actions) {e : E} {earlier : List E}
    (he : e :: earlier <:+ (run react ⟨start, []⟩ actions).log) : Good e earlier := by
  -- The property of the past is kept together with the invariant.
  let All : S → List E → Prop := fun s log ↦
    Inv s log ∧ ∀ e earlier, e :: earlier <:+ log → Good e earlier
  have hall : ∀ a s log s' e, All s log → Allowed s a → react a s = some (s', e) →
      All s' (e :: log) := by
    intro a s log s' e h ha hreact
    obtain ⟨hinv, hgood⟩ := hstep a s log s' e h.1 ha hreact
    refine ⟨hinv, fun e' earlier hsuffix ↦ ?_⟩
    rcases List.suffix_cons_iff.mp hsuffix with heq | hsuffix
    · cases heq
      exact hgood
    · exact h.2 e' earlier hsuffix
  have hnil : All start [] := ⟨hstart, fun e earlier h ↦ absurd h.length_le (by simp)⟩
  have hrun : All (run react ⟨start, []⟩ actions).state (run react ⟨start, []⟩ actions).log :=
    run_along hall hnil hactions
  exact hrun.2 e earlier he

theorem run_always {Good : E → List E → Prop} {start : S}
    (hstep : ∀ a s log s' e, Inv s log → react a s = some (s', e) →
      Inv s' (e :: log) ∧ Good e log)
    (hstart : Inv start []) (actions : List A) {e : E} {earlier : List E}
    (he : e :: earlier <:+ (run react ⟨start, []⟩ actions).log) : Good e earlier :=
  run_along_always (fun a s log s' e h _ ↦ hstep a s log s' e h) hstart (along_true _ actions) he

end Journal

end Knust.Foundation
