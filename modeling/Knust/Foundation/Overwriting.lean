import Mathlib.Data.List.Induction
import Mathlib.Logic.Function.Basic

namespace Knust.Foundation

variable {α K V : Type} [DecidableEq K]

variable {k : K} {v : V} {entries : List (Option (K × V))}

section

variable (read : α → Option (K × V)) (want : α → K × V) (Torn : α → Prop)

variable {read want Torn} {rows : List α}

end

end Knust.Foundation
