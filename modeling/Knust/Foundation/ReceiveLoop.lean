import Knust.Foundation.Sequential

namespace Knust.Foundation.Task

variable {C : Type} {R : C → Type} {S I D ε δ α β γ : Type}

section

variable (stop : Task C R ε Bool) (close : Task C R ε Unit) (recv : Task C R ε (Option D))
  (serve : D → Task C R ε Unit)

end

variable {stop : Task C R ε Bool} {close : Task C R ε Unit} {recv : Task C R ε (Option D)}
  {serve : D → Task C R ε Unit} {exec : Machine C R S I} {s : S} {h : History C R}

theorem Survives.discard {Inv : S → Prop} {p : Task C R ε α} (hp : p.Survives exec Inv) :
    (p.attempt >>= fun _ ↦ (pure () : Task C R δ Unit)).Maintains exec Inv (· = .ok ()) := by
  induction p with
  | done r =>
    cases r with
    | ok a => rfl
    | err e => rfl
    | panic => exact absurd rfl hp
  | call c next ih =>
    intro i s r s' hs he
    obtain ⟨hs', hnext⟩ := hp i s r s' hs he
    exact ⟨hs', ih r hnext⟩

end Knust.Foundation.Task
