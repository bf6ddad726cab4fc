import Knust.Error
import Mathlib.Data.FinEnum

namespace Knust.Protocol

open Foundation

inductive GroupValueService
  | read
  | response (payload : List UInt8)
  | write (payload : List UInt8)
  deriving Repr, DecidableEq

def encodePayload (serviceBits : UInt8) (payload : List UInt8) : List UInt8 :=
  if payload.length ≤ 1 then [serviceBits ||| (payload.head?.getD 0 &&& 0x3F)]
  else serviceBits :: payload

def decodePayload (firstApci : UInt8) (apciData : List UInt8) : Result (List UInt8) :=
  if apciData.length = 1 then .ok [firstApci &&& 0x3F] else sliceFrom apciData 1

namespace GroupValueService

def encode : GroupValueService → List UInt8
  | .read => [0x00]
  | .response payload => encodePayload 0x40 payload
  | .write payload => encodePayload 0x80 payload

def decode (tpci : UInt8) (apciData : List UInt8) : Result GroupValueService :=
  match apciData.head? with
  | none => .err (.protocol (.dptError "APCI" "Missing APCI data"))
  | some firstApci =>
    let service : UInt16 := ((tpci &&& 0x03).toUInt16 <<< 8) ||| (firstApci &&& 0xC0).toUInt16
    if service = 0x0000 then .ok .read
    else if service = 0x0040 then do .ok (.response (← decodePayload firstApci apciData))
    else if service = 0x0080 then do .ok (.write (← decodePayload firstApci apciData))
    else .err (.protocol (.dptError "APCI"
      s!"Unsupported group value APCI service: 0x{hex 4 service.toNat}"))

def payload : GroupValueService → Option (List UInt8)
  | .read => none
  | .response payload | .write payload => some payload

end GroupValueService

inductive DataService
  | response
  | write
  deriving Repr, DecidableEq

def DataService.service : DataService → List UInt8 → GroupValueService
  | .response => .response
  | .write => .write

/-- What the receiver recovers from a payload: the short form keeps only the low
six bits of a single byte. -/
def carried : List UInt8 → List UInt8
  | [b] => [b &&& 0x3F]
  | p => p

theorem short_form_service : ∀ b : UInt8,
    (0x40 ||| (b &&& 0x3F)) &&& 0xC0 = 0x40 ∧ (0x80 ||| (b &&& 0x3F)) &&& 0xC0 = 0x80 ∧
    (0x40 ||| (b &&& 0x3F)) &&& 0x3F = b &&& 0x3F ∧
    (0x80 ||| (b &&& 0x3F)) &&& 0x3F = b &&& 0x3F := by
  decide +kernel

theorem masked_eq_iff : ∀ b : UInt8, b &&& 0x3F = b ↔ b < 64 := by decide +kernel

theorem encodePayload_length (bits : UInt8) (p : List UInt8) :
    (encodePayload bits p).length ≤ p.length + 1 := by
  unfold encodePayload
  split <;> simp

theorem carried_eq_iff {p : List UInt8} (hp : p ≠ []) :
    carried p = p ↔ 2 ≤ p.length ∨ ∃ b, p = [b] ∧ b < 64 := by
  match p with
  | [] => exact absurd rfl hp
  | [b] => simp [carried, masked_eq_iff]
  | a :: b :: l => simp [carried]

theorem DataService.encode_length (d : DataService) (p : List UInt8) :
    (d.service p).encode.length ≤ p.length + 1 := by
  cases d <;> exact encodePayload_length _ p

theorem DataService.decode_encode (d : DataService) {p : List UInt8} (hp : p ≠ []) :
    GroupValueService.decode 0x00 (d.service p).encode = .ok (d.service (carried p)) := by
  match p with
  | [] => exact absurd rfl hp
  | [b] =>
    obtain ⟨h₁, h₂, h₃, h₄⟩ := short_form_service b
    cases d
    · simp [service, GroupValueService.encode, encodePayload, GroupValueService.decode,
        decodePayload, carried, h₁, h₃]
    · simp [service, GroupValueService.encode, encodePayload, GroupValueService.decode,
        decodePayload, carried, h₂, h₄]
  | a :: b :: l => cases d <;> rfl

end Knust.Protocol
