import Knust.Foundation.Concurrent

namespace Knust.Foundation

variable {C : Type} {R : C → Type} {S I T ε δ α β : Type}

namespace Task

variable (exec : Machine C R S I) (Inv : S → Prop)

/-- Among tasks that keep the invariant, the task keeps it with each of its commands,
and its outcome meets the postcondition. The state may change between the commands. -/
def Maintains (Q : Outcome ε α → Prop) : Task C R ε α → Prop
  | .done r => Q r
  | .call c next =>
    ∀ i s r s', Inv s → exec c i s = some (r, s') → Inv s' ∧ Maintains Q (next r)

abbrev Survives (p : Task C R ε α) : Prop := p.Maintains exec Inv (· ≠ .panic)

variable {exec Inv} {p : Task C R ε α}

theorem Maintains.bind {Q : Outcome ε α → Prop} {Q' : Outcome ε β → Prop} {f : α → Task C R ε β}
    (hp : p.Maintains exec Inv Q) (hok : ∀ a, Q (.ok a) → (f a).Maintains exec Inv Q')
    (herr : ∀ e, Q (.err e) → Q' (.err e)) (hpanic : Q .panic → Q' .panic) :
    (p >>= f).Maintains exec Inv Q' := by
  induction p with
  | done r =>
    cases r with
    | ok a => exact hok a hp
    | err e => exact herr e hp
    | panic => exact hpanic hp
  | call c next ih =>
    intro i s r s' hs he
    obtain ⟨hs', hnext⟩ := hp i s r s' hs he
    exact ⟨hs', ih r hnext⟩

theorem Survives.done {r : Outcome ε α} (hr : r ≠ .panic) :
    (.done r : Task C R ε α).Survives exec Inv := hr

theorem Survives.perform {c : C}
    (hc : ∀ i s r s', Inv s → exec c i s = some (r, s') → Inv s') :
    (perform c : Task C R ε (R c)).Survives exec Inv :=
  fun i s r s' hs he ↦ ⟨hc i s r s' hs he, Outcome.ok_ne_panic r⟩

theorem Survives.bind {f : α → Task C R ε β} (hp : p.Survives exec Inv)
    (hf : ∀ a, (f a).Survives exec Inv) : (p >>= f).Survives exec Inv :=
  Maintains.bind hp (fun a _ ↦ hf a) (fun e _ ↦ Outcome.err_ne_panic e) (fun h ↦ absurd rfl h)

theorem Survives.attempt (hp : p.Survives exec Inv) :
    (p.attempt : Task C R δ _).Survives exec Inv := by
  induction p with
  | done r =>
    cases r with
    | ok a => exact Outcome.ok_ne_panic _
    | err e => exact Outcome.ok_ne_panic _
    | panic => exact absurd rfl hp
  | call c next ih =>
    intro i s r s' hs he
    obtain ⟨hs', hnext⟩ := hp i s r s' hs he
    exact ⟨hs', ih r hnext⟩

theorem Survives.of_obeys {Fine : (c : C) × R c → Prop} {allowed : C → Prop} {h : History C R}
    (hp : p.Obeys (fun h c ↦ (∀ e ∈ h, Fine e) → allowed c)
      (fun h r ↦ (∀ e ∈ h, Fine e) → r ≠ .panic) h)
    (hexec : ∀ c, allowed c → ∀ i s r s', Inv s → exec c i s = some (r, s') → Inv s' ∧ Fine ⟨c, r⟩)
    (hh : ∀ e ∈ h, Fine e) : p.Survives exec Inv := by
  induction p generalizing h with
  | done r => exact hp hh
  | call c next ih =>
    intro i s r s' hs he
    obtain ⟨hs', hfine⟩ := hexec c (hp.1 hh) i s r s' hs he
    exact ⟨hs', ih r (hp.2 r) (List.forall_mem_cons.mpr ⟨hfine, hh⟩)⟩

end Task

end Knust.Foundation
