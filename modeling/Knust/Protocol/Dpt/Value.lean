import Knust.Protocol.Dpt.Lookup
import Knust.Protocol.Dpt.Parse
import Knust.Protocol.Telegram

namespace Knust.Protocol

open Foundation Foundation.Text

namespace Dpt

/-- A typed value. All types encode to the bytes that they keep. -/
class DptValue (T : Type) where
  dptNumber : String
  decode : List UInt8 → Result T
  asBytes : T → List UInt8
  validate : T → Result Unit

namespace DptValue

def dptType (T : Type) [DptValue T] : Result DptType :=
  match (DptType.fromStr (lit (dptNumber T))).value with
  | some d => .ok d
  | none => .err (.protocol (.dptError (dptNumber T)
      "no runtime DptType registered for this DPT number"))

end DptValue

class WriteValue (V T : Type) where
  resolve : V → DptType → Result T

instance (T : Type) [DptValue T] : WriteValue T T where
  resolve value _ := .ok value

instance (T : Type) [DptValue T] : WriteValue Text T where
  resolve s d := d.parse s >>= DptValue.decode

end Dpt

open Dpt

def Telegram.groupWriteValue (T : Type) {V : Type} [DptValue T] [WriteValue V T] (now : ℕ)
    (destination : GroupAddress) (value : V) : Result Telegram := do
  let d ← DptValue.dptType T
  let value : T ← WriteValue.resolve value d
  DptValue.validate value
  .ok (.groupWrite now destination (DptValue.asBytes value))

end Knust.Protocol
