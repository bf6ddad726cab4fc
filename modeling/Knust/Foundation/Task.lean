import Knust.Foundation.Outcome

namespace Knust.Foundation

/-- A task is the tree of the commands that it issues, branching on their
responses. It is suspended before every command. -/
inductive Task (C : Type) (R : C → Type) (ε α : Type)
  | done (r : Outcome ε α)
  | call (c : C) (next : R c → Task C R ε α)

namespace Task

variable {C : Type} {R : C → Type} {ε δ α β : Type}

def bind : Task C R ε α → (α → Task C R ε β) → Task C R ε β
  | .done (.ok a), f => f a
  | .done (.err e), _ => .done (.err e)
  | .done .panic, _ => .done .panic
  | .call c next, f => .call c fun r ↦ (next r).bind f

instance : Monad (Task C R ε) where
  pure a := .done (.ok a)
  bind := bind

instance : MonadLift (Outcome ε) (Task C R ε) := ⟨.done⟩

def perform (c : C) : Task C R ε (R c) := .call c fun r ↦ .done (.ok r)

def attempt : Task C R ε α → Task C R δ (Except ε α)
  | .done (.ok a) => .done (.ok (.ok a))
  | .done (.err e) => .done (.ok (.error e))
  | .done .panic => .done .panic
  | .call c next => .call c fun r ↦ (next r).attempt

@[simp] theorem pure_def (a : α) : (pure a : Task C R ε α) = .done (.ok a) := rfl

@[simp] theorem ok_bind (a : α) (f : α → Task C R ε β) : (.done (.ok a) >>= f) = f a := rfl

/-- What a task has done so far: its commands with their responses, the latest
first. -/
abbrev History (C : Type) (R : C → Type) := List ((c : C) × R c)

/-- After the given history, every command that the task issues is allowed by the
rule, and the postcondition holds when it ends. -/
def Obeys (rule : History C R → C → Prop) (Q : History C R → Outcome ε α → Prop) :
    History C R → Task C R ε α → Prop
  | h, .done r => Q h r
  | h, .call c next => rule h c ∧ ∀ r, Obeys rule Q (⟨c, r⟩ :: h) (next r)

section

variable {rule : History C R → C → Prop} {h : History C R} {Q : History C R → Outcome ε α → Prop}
  {p : Task C R ε α} {f : α → Task C R ε β}

theorem Obeys.bind {T : History C R → Outcome ε β → Prop} (hp : Obeys rule Q h p)
    (hok : ∀ h a, Q h (.ok a) → Obeys rule T h (f a)) (herr : ∀ h e, Q h (.err e) → T h (.err e))
    (hpanic : ∀ h, Q h .panic → T h .panic) : Obeys rule T h (p >>= f) := by
  induction p generalizing h with
  | done r =>
    cases r with
    | ok a => exact hok h a hp
    | err e => exact herr h e hp
    | panic => exact hpanic h hp
  | call c next ih => exact ⟨hp.1, fun r ↦ ih r (hp.2 r)⟩

theorem Obeys.done_bind {r : Outcome ε α}
    (hok : ∀ a, r = .ok a → (f a).Obeys rule (fun _ _ ↦ True) h) :
    (.done r >>= f).Obeys rule (fun _ _ ↦ True) h := by
  cases r with
  | ok a => exact hok a rfl
  | err e => trivial
  | panic => trivial

theorem Obeys.attempt {T : History C R → Outcome δ (Except ε α) → Prop} (hp : Obeys rule Q h p)
    (hok : ∀ h a, Q h (.ok a) → T h (.ok (.ok a)))
    (herr : ∀ h e, Q h (.err e) → T h (.ok (.error e))) (hpanic : ∀ h, Q h .panic → T h .panic) :
    Obeys rule T h p.attempt := by
  induction p generalizing h with
  | done r =>
    cases r with
    | ok a => exact hok h a hp
    | err e => exact herr h e hp
    | panic => exact hpanic h hp
  | call c next ih => exact ⟨hp.1, fun r ↦ ih r (hp.2 r)⟩

theorem Obeys.bind_true (hp : Obeys rule Q h p)
    (hf : ∀ h a, Q h (.ok a) → Obeys rule (fun _ _ ↦ True) h (f a)) :
    Obeys rule (fun _ _ ↦ True) h (p >>= f) :=
  hp.bind hf (fun _ _ _ ↦ trivial) (fun _ _ ↦ trivial)

theorem Obeys.attempt_true (hp : Obeys rule Q h p) :
    Obeys rule (fun _ _ ↦ True) h (p.attempt : Task C R δ _) :=
  hp.attempt (fun _ _ _ ↦ trivial) (fun _ _ _ ↦ trivial) (fun _ _ ↦ trivial)

theorem Obeys.mono {T : History C R → Outcome ε α → Prop} (hp : Obeys rule Q h p)
    (hQ : ∀ h r, Q h r → T h r) : Obeys rule T h p := by
  induction p generalizing h with
  | done r => exact hQ h r hp
  | call c next ih => exact ⟨hp.1, fun r ↦ ih r (hp.2 r)⟩

theorem Obeys.imp {rule' : History C R → C → Prop} (hp : Obeys rule Q h p)
    (himp : ∀ h c, rule h c → rule' h c) : Obeys rule' Q h p := by
  induction p generalizing h with
  | done r => exact hp
  | call c next ih => exact ⟨himp h c hp.1, fun r ↦ ih r (hp.2 r)⟩

theorem Obeys.and {rule' : History C R → C → Prop} {T : History C R → Outcome ε α → Prop}
    (hp : Obeys rule Q h p) (hp' : Obeys rule' T h p) :
    Obeys rule (fun h r ↦ Q h r ∧ T h r) h p := by
  induction p generalizing h with
  | done r => exact ⟨hp, hp'⟩
  | call c next ih => exact ⟨hp.1, fun r ↦ ih r (hp.2 r) (hp'.2 r)⟩

/-- A fact about the history that the issued commands keep, and that allows all of
them, carries a task through to its end. -/
theorem Obeys.carry {S : C → Prop} {A : History C R → Prop} {g : History C R}
    (hp : p.Obeys (fun _ c ↦ S c) (fun _ _ ↦ True) g) (hrule : ∀ h c, A h → S c → rule h c)
    (hkeep : ∀ h c r, A h → S c → A (⟨c, r⟩ :: h)) (ha : A h) : p.Obeys rule (fun h _ ↦ A h) h := by
  induction p generalizing h g with
  | done r => exact ha
  | call c next ih =>
    refine ⟨hrule h c ha hp.1, fun r ↦ ?_⟩
    exact ih r (hp.2 r) (hkeep h c r ha hp.1)

theorem Obeys.unrestricted {A : History C R → Prop} (hrule : ∀ h c, A h → rule h c)
    (hkeep : ∀ h e, A h → A (e :: h)) (ha : A h) (p : Task C R ε α) :
    p.Obeys rule (fun h _ ↦ A h) h := by
  induction p generalizing h with
  | done r => exact ha
  | call c next ih => exact ⟨hrule h c ha, fun r ↦ ih r (hkeep h _ ha)⟩

theorem obeys_true (p : Task C R ε α) (h : History C R) :
    p.Obeys (fun _ _ ↦ True) (fun _ _ ↦ True) h :=
  .unrestricted (A := fun _ ↦ True) (fun _ _ _ ↦ trivial) (fun _ _ _ ↦ trivial) trivial p

end

/-- The task obeys the rule whatever happened before. -/
def Follows (rule : History C R → C → Prop) (p : Task C R ε α) : Prop :=
  ∀ h, p.Obeys rule (fun _ _ ↦ True) h

section

variable {rule : History C R → C → Prop}

theorem Follows.done (r : Outcome ε α) : (.done r : Task C R ε α).Follows rule := fun _ ↦ trivial

theorem Follows.perform {c : C} (hc : ∀ h, rule h c) :
    (perform c : Task C R ε (R c)).Follows rule := fun h ↦ ⟨hc h, fun _ ↦ trivial⟩

theorem Follows.bind {p : Task C R ε α} {f : α → Task C R ε β} (hp : p.Follows rule)
    (hf : ∀ a, (f a).Follows rule) : (p >>= f).Follows rule :=
  fun h ↦ (hp h).bind_true fun h a _ ↦ hf a h

theorem Follows.imp {rule' : History C R → C → Prop} {p : Task C R ε α} (hp : p.Follows rule)
    (himp : ∀ h c, rule h c → rule' h c) : p.Follows rule' := fun h ↦ (hp h).imp himp

theorem Follows.attempt {p : Task C R ε α} (hp : p.Follows rule) :
    (p.attempt : Task C R δ _).Follows rule := fun h ↦ (hp h).attempt_true

end

/-- The task aborts only if something in its history was not as it should be. -/
def Tame (Fine : History C R → Prop) (p : Task C R ε α) : Prop :=
  ∀ h, p.Obeys (fun _ _ ↦ True) (fun h r ↦ Fine h → r ≠ .panic) h

section

variable {Fine : History C R → Prop}

theorem Tame.done {r : Outcome ε α} (hr : r ≠ .panic) : (.done r : Task C R ε α).Tame Fine :=
  fun _ _ ↦ hr

theorem Tame.perform (c : C) : (perform c : Task C R ε (R c)).Tame Fine :=
  fun _ ↦ ⟨trivial, fun r _ ↦ Outcome.ok_ne_panic r⟩

theorem Tame.bind {p : Task C R ε α} {f : α → Task C R ε β} (hp : p.Tame Fine)
    (hf : ∀ a, (f a).Tame Fine) : (p >>= f).Tame Fine :=
  fun h ↦ (hp h).bind (fun h a _ ↦ hf a h) (fun _ e _ _ ↦ Outcome.err_ne_panic e)
    (fun _ h hfine ↦ absurd rfl (h hfine))

theorem Tame.attempt {p : Task C R ε α} (hp : p.Tame Fine) :
    (p.attempt : Task C R δ _).Tame Fine :=
  fun h ↦ (hp h).attempt (fun _ _ _ _ ↦ Outcome.ok_ne_panic _)
    (fun _ _ _ _ ↦ Outcome.ok_ne_panic _) (fun _ h hfine ↦ absurd rfl (h hfine))

end

/-- Two tasks issue the same commands and end in the same way, as long as the responses
are among the ones given. -/
inductive Agrees (Among : (c : C) × R c → Prop) : Task C R ε α → Task C R ε α → Prop
  | done (r : Outcome ε α) : Agrees Among (.done r) (.done r)
  | call (c : C) {next next' : R c → Task C R ε α}
      (h : ∀ r, Among ⟨c, r⟩ → Agrees Among (next r) (next' r)) :
      Agrees Among (.call c next) (.call c next')

section

variable {Among : (c : C) × R c → Prop}

theorem Agrees.refl (p : Task C R ε α) : Agrees Among p p := by
  induction p with
  | done r => exact .done r
  | call c next ih => exact .call c fun r _ ↦ ih r

theorem Agrees.bind {p q : Task C R ε α} (h : Agrees Among p q) (f : α → Task C R ε β) :
    Agrees Among (p >>= f) (q >>= f) := by
  induction h with
  | done r => exact .refl _
  | call c _ ih => exact .call c ih

end

end Task

end Knust.Foundation
