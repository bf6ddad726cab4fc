import Knust.Transport.QueueOrder

namespace Knust.Transport.Queue

open Foundation Foundation.Task Protocol

/-- The outgoing telegrams that have been accepted and not returned, in the order of their
arrival. -/
def waiting : History Command Command.Response → List Telegram
  | ⟨.push .outgoing telegram, .ok ()⟩ :: h => waiting h ++ [telegram]
  | ⟨.pop .outgoing, .telegram telegram⟩ :: h => (waiting h).erase telegram
  | _ :: h => waiting h
  | [] => []

variable {maxSize : ℕ} {h : Past} {queued : Direction → List Telegram} {closed : Bool}
  {e : (c : Command) × c.Response}

theorem IsNext.erase {earlier later : List Telegram} {telegram : Telegram}
    (hnext : IsNext earlier telegram later .outgoing) :
    (earlier ++ telegram :: later).erase telegram = earlier ++ later := by
  have hnot : telegram ∉ earlier := fun hmem ↦ Nat.lt_irrefl _ (hnext.1 telegram hmem)
  rw [List.erase_append_right _ hnot, List.erase_cons_head]

namespace Serves

end Serves

namespace Reference

end Reference

end Knust.Transport.Queue
