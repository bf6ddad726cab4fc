import Knust.Foundation.Outcome

namespace Knust.Foundation

variable {ε : Type} {n : ℕ}

abbrev Block (n : ℕ) := {l : List UInt8 // l.length = n}

namespace Block

@[simp] theorem length (b : Block n) : b.val.length = n := b.property

def zero (n : ℕ) : Block n := ⟨List.replicate n 0, List.length_replicate⟩

def byte (b : Block n) (i : Fin n) : UInt8 := b.val.get (i.cast b.property.symm)

theorem exists_append {l : List UInt8} (h : n ≤ l.length) :
    ∃ (b : Block n) (rest : List UInt8), l = b.val ++ rest :=
  ⟨⟨l.take n, List.length_take_of_le h⟩, l.drop n, (List.take_append_drop n l).symm⟩

end Block

/-- Copying a slice into an array aborts unless the sizes agree. -/
def toBlock (n : ℕ) (l : List UInt8) : Outcome ε (Block n) :=
  if h : l.length = n then .ok ⟨l, h⟩ else .panic

theorem toBlock_of_length {l : List UInt8} (h : l.length = n) :
    (toBlock n l : Outcome ε (Block n)) = .ok ⟨l, h⟩ := dif_pos h

theorem toBlock_ne_panic {l : List UInt8} (h : l.length = n) :
    (toBlock n l : Outcome ε (Block n)) ≠ .panic := by
  simp [toBlock_of_length h]

@[simp] theorem toBlock_val (b : Block n) : (toBlock n b.val : Outcome ε (Block n)) = .ok b :=
  toBlock_of_length b.property

end Knust.Foundation
