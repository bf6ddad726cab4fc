import Knust.Protocol.Dpt.Structured

namespace Knust.Protocol.Dpt

open Foundation Foundation.Text

namespace Switch

def new (value : Bool) : Block 1 := ⟨[u8From value], rfl⟩

def value (v : Block 1) : Bool := firstByte v &&& 0x01 ≠ 0

end Switch

namespace BinaryControl

def new (control value : Bool) : Block 1 := ⟨[(u8From control <<< 1) ||| u8From value], rfl⟩

def control (v : Block 1) : Bool := firstByte v &&& 0x02 ≠ 0

def value (v : Block 1) : Bool := firstByte v &&& 0x01 ≠ 0

end BinaryControl

def newStep (dptNumber : String) (control : Bool) (stepCode : UInt8) : Result (Block 1) :=
  if stepCode > 7 then typedError dptNumber s!"Step code {stepCode} out of range [0-7]"
  else
    let controlBit := if control then 0x08 else 0x00
    let stepCode := stepCode &&& 0x07
    .ok ⟨[controlBit ||| stepCode], rfl⟩

def stepControl (v : Block 1) : Bool := firstByte v &&& 0x08 ≠ 0

def stepCode (v : Block 1) : UInt8 := firstByte v &&& 0x07

def ControlDimming.new : Bool → UInt8 → Result (Block 1) := newStep "3.007"

def ControlBlinds.new : Bool → UInt8 → Result (Block 1) := newStep "3.008"

namespace Scaling

def new (value : UInt8) : Block 1 := ⟨[value], rfl⟩

def value (v : Block 1) : UInt8 := firstByte v

end Scaling

namespace PercentV8

def new (value : Int8) : Block 1 := ⟨[value.toUInt8], rfl⟩

def value (v : Block 1) : Int8 := (firstByte v).toInt8

end PercentV8

def Value1Count.new : Int8 → Block 1 := PercentV8.new

def Value1Count.value : Block 1 → Int8 := PercentV8.value

namespace Value2ByteUnsigned

def new (value : UInt16) : Block 2 := ⟨beEncode 2 value.toNat, beEncode_length 2 _⟩

def value (v : Block 2) : UInt16 := UInt16.ofNat (beDecode v.val)

end Value2ByteUnsigned

def Brightness.new : UInt16 → Block 2 := Value2ByteUnsigned.new

def Brightness.value : Block 2 → UInt16 := Value2ByteUnsigned.value

namespace Value2ByteSigned

def new (value : Int16) : Block 2 := ⟨beEncode 2 value.toUInt16.toNat, beEncode_length 2 _⟩

def value (v : Block 2) : Int16 := (UInt16.ofNat (beDecode v.val)).toInt16

end Value2ByteSigned

namespace DPTPercentV16

def dptNumber : String := "8.010"

def new (value : Binary binary64) : Result (Block 2) :=
  if ¬ value.isFinite then typedError dptNumber "Value must be finite"
  else
    let raw := (value.scale (1 / Float2ByteView.hundredth)).toInt (-2 ^ 31) (2 ^ 31 - 1)
    let shown := String.ofList (Decimal.display value)
    if ¬ (-2 ^ 15 ≤ raw ∧ raw ≤ 2 ^ 15 - 1) then
      typedError dptNumber s!"Percent V16 {shown} out of range [-327.68, 327.67]"
    else .ok (Value2ByteSigned.new (Int16.ofInt raw))

def value (v : Block 2) : Binary binary64 :=
  (Binary.finite (Value2ByteSigned.value v).toInt).scale Float2ByteView.hundredth

end DPTPercentV16

namespace Value4ByteUnsigned

def new (value : UInt32) : Block 4 := ⟨beEncode 4 value.toNat, beEncode_length 4 _⟩

def value (v : Block 4) : UInt32 := UInt32.ofNat (beDecode v.val)

end Value4ByteUnsigned

namespace Value4ByteSigned

def new (value : Int32) : Block 4 := ⟨beEncode 4 value.toUInt32.toNat, beEncode_length 4 _⟩

def value (v : Block 4) : Int32 := (UInt32.ofNat (beDecode v.val)).toInt32

end Value4ByteSigned

def ActiveEnergy.new : Int32 → Block 4 := Value4ByteSigned.new

def ActiveEnergy.value : Block 4 → Int32 := Value4ByteSigned.value

def ActiveEnergy8Byte.new (value : Int64) : Held Int64 :=
  ⟨value, beEncode 8 value.toUInt64.toNat⟩

def SceneNumber.new (sceneNumber : UInt8) : Result (Held UInt8) :=
  if ¬ (1 ≤ sceneNumber ∧ sceneNumber ≤ 64) then
    typedError "17.001" s!"Scene number {sceneNumber} out of range [1-64]"
  else .ok ⟨sceneNumber, [sceneNumber - 1]⟩

def HVACMode.new (value : UInt8) : Result (Held UInt8) :=
  if value > 4 then typedError "20.102" s!"HVAC mode {value} out of range [0-4]"
  else .ok ⟨value, [value]⟩

def HVACControllerMode.new (value : UInt8) : Result (Held UInt8) :=
  if value > 17 ∧ value ≠ 20 then
    typedError "20.105" s!"HVAC controller mode {value} out of Python-compatible range [0-17, 20]"
  else .ok ⟨value, [value]⟩

structure ColorRGB where
  red : UInt8
  green : UInt8
  blue : UInt8

def ColorRGB.new (red green blue : UInt8) : Held ColorRGB :=
  ⟨{ red, green, blue }, [red, green, blue]⟩

def validateStringLength (value : Text) (dptNumber : String) : Result Unit :=
  if value.length > 14 then typedError dptNumber s!"String too long: {value.length} > {14}"
  else .ok ()

def encodePayload (byte : Char → UInt8) (dptNumber : String) (value : Text) :
    Result (List UInt8) := do
  validateStringLength value dptNumber
  .ok (value.map byte ++ List.replicate (14 - value.length) 0)

structure StringAscii where
  value : Text
  payload : List UInt8

namespace StringAscii

def dptNumber : String := "16.000"

def byte (c : Char) : UInt8 := if c.toNat < 128 then UInt8.ofNat c.toNat else 0x3F

def new (value : Text) : Result StringAscii := do
  let payload ← encodePayload byte dptNumber value
  .ok { value, payload }

def decodeValue (bytes : List UInt8) : Text :=
  (bytes.filter (· ≠ 0)).map fun b ↦ if b < 128 then Char.ofNat b.toNat else Char.ofNat 0xFFFD

def decode (bytes : List UInt8) : Result StringAscii :=
  if bytes.length ≠ 14 then invalidLength dptNumber 14 bytes
  else .ok { value := decodeValue bytes, payload := bytes }

end StringAscii

instance : DptValue StringAscii where
  dptNumber := StringAscii.dptNumber
  decode := StringAscii.decode
  asBytes := StringAscii.payload
  validate v := validateStringLength v.value StringAscii.dptNumber

structure StringLatin1 where
  value : Text
  payload : List UInt8

namespace StringLatin1

def dptNumber : String := "16.001"

def byte (c : Char) : UInt8 := if c.toNat ≤ 0xFF then UInt8.ofNat c.toNat else 0x3F

def new (value : Text) : Result StringLatin1 := do
  let payload ← encodePayload byte dptNumber value
  .ok { value, payload }

def decodeValue (bytes : List UInt8) : Text :=
  (bytes.filter (· ≠ 0)).map fun b ↦ Char.ofNat b.toNat

def decode (bytes : List UInt8) : Result StringLatin1 :=
  if bytes.length ≠ 14 then invalidLength dptNumber 14 bytes
  else .ok { value := decodeValue bytes, payload := bytes }

end StringLatin1

instance : DptValue StringLatin1 where
  dptNumber := StringLatin1.dptNumber
  decode := StringLatin1.decode
  asBytes := StringLatin1.payload
  validate v := validateStringLength v.value StringLatin1.dptNumber

inductive TypedDpt
  | switch
  | binaryControl
  | controlDimming
  | controlBlinds
  | scaling
  | percentV8
  | value1Count
  | value2ByteUnsigned
  | brightness
  | value2ByteSigned
  | percentV16
  | timeOfDay
  | date
  | value4ByteUnsigned
  | value4ByteSigned
  | activeEnergy
  | stringAscii
  | stringLatin1
  | sceneNumber
  | sceneControl
  | dateTime
  | hvacMode
  | hvacControllerMode
  | activeEnergy8Byte
  | colorRGB
  | tariffActiveEnergy
  | colorRGBW

namespace TypedDpt

/-- The number of each type, and those of its aliases, whose values are values of the type. -/
def numbers : TypedDpt → List String
  | .switch => ["1.001", "1.002", "1.003", "1.004", "1.005", "1.006", "1.007", "1.008", "1.009",
      "1.010", "1.011", "1.012", "1.013", "1.014", "1.015", "1.016", "1.017", "1.018", "1.019",
      "1.021", "1.022", "1.023", "1.024", "1.100", "1.1200", "1.1201"]
  | .binaryControl => ["2.001", "2.002", "2.003", "2.004", "2.005", "2.006", "2.007", "2.008",
      "2.009", "2.010", "2.011", "2.012"]
  | .controlDimming => ["3.007"]
  | .controlBlinds => ["3.008"]
  | .scaling => ["5.001", "5.003", "5.004", "5.005", "5.006", "5.010"]
  | .percentV8 => ["6.001"]
  | .value1Count => ["6.010"]
  | .value2ByteUnsigned => ["7.001", "7.002", "7.003", "7.004", "7.005", "7.006", "7.007", "7.010",
      "7.011", "7.012", "7.600"]
  | .brightness => ["7.013"]
  | .value2ByteSigned => ["8.001", "8.002", "8.003", "8.004", "8.005", "8.006", "8.007", "8.011",
      "8.012"]
  | .percentV16 => [DPTPercentV16.dptNumber]
  | .timeOfDay => [TimeOfDay.dptNumber]
  | .date => [Date.dptNumber]
  | .value4ByteUnsigned => ["12.001", "12.100", "12.101", "12.102", "12.1200", "12.1201"]
  | .value4ByteSigned => ["13.001", "13.002", "13.011", "13.012", "13.013", "13.014", "13.015",
      "13.016", "13.100", "13.1200", "13.1201"]
  | .activeEnergy => ["13.010"]
  | .stringAscii => [StringAscii.dptNumber]
  | .stringLatin1 => [StringLatin1.dptNumber]
  | .sceneNumber => ["17.001"]
  | .sceneControl => [SceneControl.dptNumber]
  | .dateTime => [DateTime.dptNumber]
  | .hvacMode => ["20.102"]
  | .hvacControllerMode => ["20.105"]
  | .activeEnergy8Byte => ["29.010", "29.011", "29.012"]
  | .colorRGB => ["232.600"]
  | .tariffActiveEnergy => [TariffActiveEnergy.dptNumber]
  | .colorRGBW => [ColorRGBW.dptNumber]

end TypedDpt

end Knust.Protocol.Dpt
