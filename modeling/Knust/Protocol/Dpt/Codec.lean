import Knust.Foundation.BigEndian
import Knust.Foundation.Binary
import Knust.Foundation.Block
import Knust.Foundation.Text
import Knust.Protocol.Dpt.DptType

namespace Knust.Protocol.Dpt

open Foundation

inductive DptPayload
  | bool (v : Bool)
  | binaryControl (control value : Bool)
  | control (step : Bool) (stepCode : UInt8)
  | unsignedInt (v : UInt64)
  | signedInt (v : Int64)
  | float (v : Binary binary64)
  | string (s : Text)
  | time (day hour minute second : UInt8)
  | date (day month : UInt8) (year : UInt16)
  | dateTime (year : UInt16) (month day dayOfWeek hour minute second : UInt8)
  | scene (n : UInt8)
  | sceneControl (scene : UInt8) (learn : Bool)
  | enum (v : UInt8)
  | colorRGB (r g b : UInt8)
  | colorRGBW (r g b w : UInt8)
  | colorXYY (x y : Binary binary32) (brightness : UInt8)
  deriving DecidableEq

def DptPayload.discriminant : DptPayload → ℕ
  | .bool .. => 0
  | .binaryControl .. => 1
  | .control .. => 2
  | .unsignedInt .. => 3
  | .signedInt .. => 4
  | .float .. => 5
  | .string .. => 6
  | .time .. => 7
  | .date .. => 8
  | .dateTime .. => 9
  | .scene .. => 10
  | .sceneControl .. => 11
  | .enum .. => 12
  | .colorRGB .. => 13
  | .colorRGBW .. => 14
  | .colorXYY .. => 15

/-- The bytes of a value, with the layout that its datapoint type gives them. -/
inductive DptView
  | bool (raw : Block 1)
  | control2 (raw : Block 1)
  | control (raw : Block 1)
  | u8 (raw : Block 1)
  | i8 (raw : Block 1)
  | u16 (raw : Block 2)
  | i16 (raw : Block 2)
  | float2Byte (raw : Block 2)
  | u32 (raw : Block 4)
  | i32 (raw : Block 4)
  | float4Byte (raw : Block 4)
  | i64 (raw : Block 8)
  | str (raw : Block 14)
  | time (raw : Block 3)
  | date (raw : Block 3)
  | dateTime (raw : Block 8)
  | scene (raw : Block 1)
  | enum (raw : Block 1)
  | rgb (raw : Block 3)
  | rgbw (raw : Block 6)
  | xyy (raw : Block 6)
  deriving DecidableEq

def unsigned {n : ℕ} (raw : Block n) : ℕ := beDecode raw.val

def signed {n : ℕ} (raw : Block n) : ℤ := Int.bmod (beDecode raw.val) (256 ^ n)

namespace BoolView

def value (raw : Block 1) : Bool := raw.byte 0 &&& 0x01 ≠ 0

end BoolView

def firstByte (raw : Block 1) : UInt8 := raw.byte 0

namespace ControlView

def step (raw : Block 1) : Bool := raw.byte 0 &&& 0x08 ≠ 0

def stepCode (raw : Block 1) : UInt8 := raw.byte 0 &&& 0x07

end ControlView

namespace Control2View

def control (raw : Block 1) : Bool := raw.byte 0 &&& 0x02 ≠ 0

def value (raw : Block 1) : Bool := raw.byte 0 &&& 0x01 ≠ 0

end Control2View

namespace Float2ByteView

def word (raw : Block 2) : UInt16 := ((raw.byte 0).toUInt16 <<< 8) ||| (raw.byte 1).toUInt16

def mantissa (raw : Block 2) : ℤ :=
  let m := (word raw &&& 0x07FF).toNat
  if word raw &&& 0x8000 ≠ 0 then m - 2048 else m

def exponent (raw : Block 2) : ℕ := ((word raw >>> 11) &&& 0x0F).toNat

def hundredth : ℚ := 5764607523034235 / 2 ^ 59

def asF64 (raw : Block 2) : Binary binary64 :=
  ((Binary.round binary64 (mantissa raw)).scale hundredth).scale (2 ^ exponent raw)

end Float2ByteView

namespace Float4ByteView

def asF64 (raw : Block 4) : Binary binary64 :=
  (Binary.ofBits32 (UInt32.ofNat (unsigned raw))).convert binary64

end Float4ByteView

namespace StrView

def asStr (raw : Block 14) : Text :=
  (Text.fromUtf8 (raw.val.takeWhile (· ≠ 0))).getD []

end StrView

namespace TimeView

def day (raw : Block 3) : UInt8 := (raw.byte 0 >>> 5) &&& 0x07

def hour (raw : Block 3) : UInt8 := raw.byte 0 &&& 0x1F

def minute (raw : Block 3) : UInt8 := raw.byte 1 &&& 0x3F

def second (raw : Block 3) : UInt8 := raw.byte 2 &&& 0x3F

end TimeView

namespace DateView

def day (raw : Block 3) : UInt8 := raw.byte 0 &&& 0x1F

def month (raw : Block 3) : UInt8 := raw.byte 1 &&& 0x0F

def year (raw : Block 3) : UInt16 :=
  let y := (raw.byte 2 &&& 0x7F).toUInt16
  if y ≥ 90 then 1900 + y else 2000 + y

end DateView

namespace DateTimeView

def year (raw : Block 8) : UInt16 := (raw.byte 0).toUInt16 + 1900

def month (raw : Block 8) : UInt8 := raw.byte 1 &&& 0x0F

def day (raw : Block 8) : UInt8 := raw.byte 2 &&& 0x1F

def dayOfWeek (raw : Block 8) : UInt8 := (raw.byte 3 >>> 5) &&& 0x07

def hour (raw : Block 8) : UInt8 := raw.byte 3 &&& 0x1F

def minute (raw : Block 8) : UInt8 := raw.byte 4 &&& 0x3F

def second (raw : Block 8) : UInt8 := raw.byte 5 &&& 0x3F

end DateTimeView

namespace SceneView

def sceneNumber (raw : Block 1) : UInt8 := (raw.byte 0 &&& 0x3F) + 1

def learn (raw : Block 1) : Bool := raw.byte 0 &&& 0x80 ≠ 0

end SceneView

namespace EnumView

def value (raw : Block 1) : UInt8 := raw.byte 0

end EnumView

namespace RgbView

def r (raw : Block 3) : UInt8 := raw.byte 0

def g (raw : Block 3) : UInt8 := raw.byte 1

def b (raw : Block 3) : UInt8 := raw.byte 2

end RgbView

namespace RgbwView

def r (raw : Block 6) : UInt8 := raw.byte 0

def g (raw : Block 6) : UInt8 := raw.byte 1

def b (raw : Block 6) : UInt8 := raw.byte 2

def w (raw : Block 6) : UInt8 := raw.byte 3

end RgbwView

namespace XyyView

def coordinate (hi lo : UInt8) : Binary binary32 :=
  (Binary.finite (u16OfBytes hi lo).toNat).scale (1 / 65535)

def x (raw : Block 6) : Binary binary32 := coordinate (raw.byte 0) (raw.byte 1)

def y (raw : Block 6) : Binary binary32 := coordinate (raw.byte 2) (raw.byte 3)

def brightness (raw : Block 6) : UInt8 := raw.byte 4

end XyyView

def DptView.toPayload : DptView → DptPayload
  | .bool raw => .bool (BoolView.value raw)
  | .control2 raw => .binaryControl (Control2View.control raw) (Control2View.value raw)
  | .control raw => .control (ControlView.step raw) (ControlView.stepCode raw)
  | .u8 raw => .unsignedInt (UInt64.ofNat (unsigned raw))
  | .i8 raw => .signedInt (Int64.ofInt (signed raw))
  | .u16 raw => .unsignedInt (UInt64.ofNat (unsigned raw))
  | .i16 raw => .signedInt (Int64.ofInt (signed raw))
  | .float2Byte raw => .float (Float2ByteView.asF64 raw)
  | .u32 raw => .unsignedInt (UInt64.ofNat (unsigned raw))
  | .i32 raw => .signedInt (Int64.ofInt (signed raw))
  | .float4Byte raw => .float (Float4ByteView.asF64 raw)
  | .i64 raw => .signedInt (Int64.ofInt (signed raw))
  | .str raw => .string (StrView.asStr raw)
  | .time raw =>
    .time (TimeView.day raw) (TimeView.hour raw) (TimeView.minute raw) (TimeView.second raw)
  | .date raw => .date (DateView.day raw) (DateView.month raw) (DateView.year raw)
  | .dateTime raw =>
    .dateTime (DateTimeView.year raw) (DateTimeView.month raw) (DateTimeView.day raw)
      (DateTimeView.dayOfWeek raw) (DateTimeView.hour raw) (DateTimeView.minute raw)
      (DateTimeView.second raw)
  | .scene raw => .scene (SceneView.sceneNumber raw)
  | .enum raw => .enum (EnumView.value raw)
  | .rgb raw => .colorRGB (RgbView.r raw) (RgbView.g raw) (RgbView.b raw)
  | .rgbw raw =>
    .colorRGBW (RgbwView.r raw) (RgbwView.g raw) (RgbwView.b raw) (RgbwView.w raw)
  | .xyy raw => .colorXYY (XyyView.x raw) (XyyView.y raw) (XyyView.brightness raw)

/-- The absolute value of a 32-bit integer. It wraps at the least one. -/
def absI32 (m : ℤ) : ℤ := if m = -2 ^ 31 then m else |m|

def scaleMantissa (m : ℤ) (e : ℕ) : ℤ × ℕ :=
  if absI32 m > 2047 then scaleMantissa (m >>> (1 : ℕ)) (e + 1) else (m, e)
termination_by m.natAbs
decreasing_by
  have habs : 2047 < |m| := by
    unfold absI32 at *
    split at *
    · omega
    · assumption
  rw [Int.shiftRight_eq_div_pow]
  rcases abs_cases m with h | h <;> omega

def packFloat2 (m : ℤ) (e : ℕ) : Block 2 :=
  let sign : UInt16 := if m < 0 then 0x8000 else 0
  let m : UInt16 :=
    if m < 0 then UInt16.ofInt ((m + 2048) % 2048) ||| 0x8000 else UInt16.ofInt (m % 2048)
  let raw := sign ||| ((UInt16.ofNat e &&& 0x0F) <<< 11) ||| (m &&& 0x07FF)
  ⟨u16Bytes raw, u16Bytes_length raw⟩

def encodeFloat2 (hundredths : ℤ) : Block 2 :=
  let (m, e) := scaleMantissa hundredths 0
  packFloat2 m e

def u8From (v : Bool) : UInt8 := if v then 1 else 0

def encodeStr (s : Text) : List UInt8 :=
  let front := s.bytes.take 14
  front ++ List.replicate (14 - front.length) 0

namespace DptType

def dptError {α : Type} (d : DptType) (details : String) : Result α :=
  .err (.protocol (.dptError d.numberStr details))

def decodeRef (d : DptType) (bytes : List UInt8) : Result DptView :=
  let expectedLen := d.byteLength
  if expectedLen > 0 ∧ bytes.length ≠ expectedLen then
    d.dptError s!"expected {expectedLen} bytes, got {bytes.length}"
  else
    match d.main with
    | 1 => .bool <$> toBlock 1 bytes
    | 2 => .control2 <$> toBlock 1 bytes
    | 3 => .control <$> toBlock 1 bytes
    | 5 => .u8 <$> toBlock 1 bytes
    | 6 => .i8 <$> toBlock 1 bytes
    | 7 => .u16 <$> toBlock 2 bytes
    | 8 => .i16 <$> toBlock 2 bytes
    | 9 => .float2Byte <$> toBlock 2 bytes
    | 10 => .time <$> toBlock 3 bytes
    | 11 => .date <$> toBlock 3 bytes
    | 12 => .u32 <$> toBlock 4 bytes
    | 13 => .i32 <$> toBlock 4 bytes
    | 14 => .float4Byte <$> toBlock 4 bytes
    | 16 => .str <$> toBlock 14 bytes
    | 17 => .scene <$> toBlock 1 bytes
    | 18 => .scene <$> toBlock 1 bytes
    | 19 => .dateTime <$> toBlock 8 bytes
    | 20 => .enum <$> toBlock 1 bytes
    | 29 => .i64 <$> toBlock 8 bytes
    | 232 => .rgb <$> toBlock 3 bytes
    | 235 =>
      if bytes.length ≥ 8 then .i64 <$> toBlock 8 (bytes.take 8)
      else d.dptError "insufficient bytes for DPT 235"
    | 242 => .xyy <$> toBlock 6 bytes
    | 251 => .rgbw <$> toBlock 6 bytes
    | _ => d.dptError "unsupported DPT main number"

def encode (d : DptType) (payload : DptPayload) : Result (List UInt8) :=
  match d.main, payload with
  | 1, .bool v => .ok [u8From v]
  | 2, .binaryControl control value => .ok [(if control then 0x02 else 0) ||| u8From value]
  | 3, .control increase stepCode => .ok [(if increase then 0x08 else 0) ||| (stepCode &&& 0x07)]
  | 5, .unsignedInt v => .ok [v.toUInt8]
  | 6, .signedInt v => .ok [v.toUInt64.toUInt8]
  | 7, .unsignedInt v => .ok (beEncode 2 v.toNat)
  | 8, .signedInt v => .ok (beEncode 2 v.toUInt64.toNat)
  | 9, .float v => .ok (encodeFloat2 ((v.scale 100).toInt (-2 ^ 31) (2 ^ 31 - 1))).val
  | 10, .time day hour minute second =>
    .ok [(day <<< 5) ||| (hour &&& 0x1F), minute &&& 0x3F, second &&& 0x3F]
  | 11, .date day month year =>
    if 1990 ≤ year ∧ year ≤ 2089 then
      let y := if year ≥ 2000 then (year - 2000).toUInt8 else (year - 1900).toUInt8
      .ok [day &&& 0x1F, month &&& 0x0F, y &&& 0x7F]
    else d.dptError s!"year {year} out of range 1990-2089 for DPT 11"
  | 19, .dateTime year month day dayOfWeek hour minute second =>
    if 1900 ≤ year ∧ year ≤ 2155 then
      .ok [(year - 1900).toUInt8, month &&& 0x0F, day &&& 0x1F,
        ((dayOfWeek &&& 0x07) <<< 5) ||| (hour &&& 0x1F), minute &&& 0x3F, second &&& 0x3F, 0x00, 0x00]
    else d.dptError s!"year {year} out of range 1900-2155 for DPT 19"
  | 12, .unsignedInt v => .ok (beEncode 4 v.toNat)
  | 13, .signedInt v => .ok (beEncode 4 v.toUInt64.toNat)
  | 14, .float v => .ok (beEncode 4 (v.convert binary32).toBits32.toNat)
  | 16, .string s => .ok (encodeStr s)
  -- The subtraction saturates at zero.
  | 17, .scene n => .ok [UInt8.ofNat (n.toNat - 1) &&& 0x3F]
  | 18, .sceneControl scene learn =>
    .ok [(if learn then 0x80 else 0) ||| (UInt8.ofNat (scene.toNat - 1) &&& 0x3F)]
  | 20, .enum v => .ok [v]
  | 29, .signedInt v => .ok (beEncode 8 v.toUInt64.toNat)
  | 232, .colorRGB r g b => .ok [r, g, b]
  | 242, .colorXYY x y bright =>
    let xr := (x.scale 65535).toInt 0 65535
    let yr := (y.scale 65535).toInt 0 65535
    .ok (beEncode 2 xr.toNat ++ beEncode 2 yr.toNat ++ [bright, 0x03])
  | 251, .colorRGBW r g b w => .ok [r, g, b, w, 0x00, 0x0F]
  | _, _ =>
    let number := d.numberStr
    d.dptError s!"cannot encode Discriminant({payload.discriminant}) for DPT {number}"

end DptType

end Knust.Protocol.Dpt
