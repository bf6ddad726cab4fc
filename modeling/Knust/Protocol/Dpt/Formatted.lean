import Knust.Foundation.Decimal
import Knust.Protocol.Dpt.Codec

namespace Knust.Protocol.Dpt

open Foundation Text

def boolLabels : DptType → String × String
  | .switch => ("On", "Off")
  | .enable => ("Enable", "Disable")
  | .ramp => ("Ramp", "No Ramp")
  | .alarm => ("Alarm", "No Alarm")
  | .binaryValue => ("High", "Low")
  | .step => ("Increase", "Decrease")
  | .upDown => ("Down", "Up")
  | .openClose | .windowDoor => ("Open", "Closed")
  | .start => ("Start", "Stop")
  | .state => ("Active", "Inactive")
  | .invert => ("Inverted", "Not Inverted")
  | .dimSendStyle => ("Cyclically", "Start/Stop")
  | .inputSource => ("Calculated", "Fixed")
  | .reset => ("Reset", "No Action")
  | .ack => ("Acknowledge", "No Action")
  | .trigger => ("Trigger", "Trigger 0")
  | .occupancy => ("Occupied", "Not Occupied")
  | .logicalFunction => ("And", "Or")
  | .sceneAB => ("Scene B", "Scene A")
  | .shutterBlindsMode => ("Step/Stop Mode", "Up/Down Mode")
  | .dayNight => ("Night", "Day")
  | .heatCool => ("Heat", "Cool")
  | .consumerProducer => ("Producer", "Consumer")
  | .energyDirection => ("Negative", "Positive")
  | _ => ("True", "False")

def boolLabel (value : Bool) (dpt : DptType) : Text :=
  if value then lit (boolLabels dpt).1 else lit (boolLabels dpt).2

def control2Underlying : DptType → DptType
  | .switchControl => .switch
  | .enableControl => .enable
  | .rampControl => .ramp
  | .alarmControl => .alarm
  | .binaryValueControl => .binaryValue
  | .stepControl => .step
  | .direction1Control | .direction2Control => .upDown
  | .startControl => .start
  | .stateControl => .state
  | .invertControl => .invert
  | _ => .bool

def formatControl2 (value : Bool) (dpt : DptType) : Text := boolLabel value (control2Underlying dpt)

def withUnit (number : Text) (dpt : DptType) : Text :=
  match dpt.unit with
  | some unit => number ++ ' ' :: lit unit.symbol
  | none => number

def formatNumeric (value : Binary binary64) (dpt : DptType) : Text :=
  if value.equals value.floor then withUnit (integer (value.toInt (-2 ^ 63) (2 ^ 63 - 1))) dpt
  else withUnit (Decimal.fixed 1 value) dpt

def weekdayName (day : UInt8) : Option Text :=
  match day.toNat with
  | 1 => some (lit "Monday")
  | 2 => some (lit "Tuesday")
  | 3 => some (lit "Wednesday")
  | 4 => some (lit "Thursday")
  | 5 => some (lit "Friday")
  | 6 => some (lit "Saturday")
  | 7 => some (lit "Sunday")
  | _ => none

def formatHvacMode (value : UInt8) : Text :=
  match value.toNat with
  | 0 => lit "Auto"
  | 1 => lit "Comfort"
  | 2 => lit "Standby"
  | 3 => lit "Economy"
  | 4 => lit "Building Protection"
  | n => lit "HVAC Mode " ++ digits n

def formatHvacContrMode (value : UInt8) : Text :=
  match value.toNat with
  | 0 => lit "Auto"
  | 1 => lit "Heat"
  | 2 => lit "Morning Warmup"
  | 3 => lit "Cool"
  | 4 => lit "Night Purge"
  | 5 => lit "Precool"
  | 6 => lit "Off"
  | 7 => lit "Test"
  | 8 => lit "Emergency Heat"
  | 9 => lit "Fan Only"
  | 10 => lit "Free Cool"
  | 11 => lit "Ice"
  | 12 => lit "Maximum Heating Mode"
  | 13 => lit "Economic Heat/Cool Mode"
  | 14 => lit "Dehumidification"
  | 15 => lit "Calibration Mode"
  | 16 => lit "Emergency Cool Mode"
  | 17 => lit "Emergency Steam Mode"
  | 20 => lit "No Demand"
  | n => lit "HVAC Controller Mode " ++ digits n

def formatEnum (value : UInt8) : DptType → Text
  | .hvacMode => formatHvacMode value
  | .hvacContrMode => formatHvacContrMode value
  | _ => lit "Enum(" ++ digits value.toNat ++ lit ")"

def formatTime (hour minute second : UInt8) : Text :=
  padded 2 hour.toNat ++ ':' :: (padded 2 minute.toNat ++ ':' :: padded 2 second.toNat)

def formatDate (year : UInt16) (month day : UInt8) : Text :=
  padded 4 year.toNat ++ '-' :: (padded 2 month.toNat ++ '-' :: padded 2 day.toNat)

def formatDateTime (year : UInt16) (month day hour minute second : UInt8) : Text :=
  formatDate year month day ++ ' ' :: formatTime hour minute second

def withWeekday (base : Text) (day : UInt8) : Text :=
  match weekdayName day with
  | some name => base ++ lit " (" ++ name ++ lit ")"
  | none => base

def commaList : List Text → Text
  | [] => []
  | [t] => t
  | t :: rest => t ++ lit ", " ++ commaList rest

def formatBinaryControl (control value : Bool) (dpt : DptType) : Text :=
  let control : String := if control then "true" else "false"
  lit "Control(" ++ (lit control ++ lit ", " ++ formatControl2 value dpt) ++ lit ")"

def formatStep (increase : Bool) (stepCode : UInt8) : Text :=
  let direction : String := if increase then "increase" else "decrease"
  lit "Control(" ++ (lit direction ++ lit ", step=" ++ digits stepCode.toNat) ++
    lit ")"

def formatScene (number : UInt8) : Text := lit "Scene " ++ digits number.toNat

def formatSceneControl (number : UInt8) (learn : Bool) : Text :=
  let action : String := if learn then "learn" else "activate"
  formatScene number ++ lit " (" ++ lit action ++ lit ")"

def formatRgb (r g b : UInt8) : Text :=
  lit "RGB(" ++ commaList [digits r.toNat, digits g.toNat, digits b.toNat] ++ lit ")"

def formatRgbw (r g b w : UInt8) : Text :=
  lit "RGBW(" ++ commaList [digits r.toNat, digits g.toNat, digits b.toNat, digits w.toNat] ++
    lit ")"

def formatXyy (x y : Binary binary32) (brightness : UInt8) : Text :=
  lit "XYY(" ++ commaList [Decimal.fixed 3 x, Decimal.fixed 3 y, digits brightness.toNat] ++
    lit ")"

def DptView.formatted (view : DptView) (dpt : DptType) : Text :=
  match view with
  | .bool raw => boolLabel (BoolView.value raw) dpt
  | .control2 raw => formatBinaryControl (Control2View.control raw) (Control2View.value raw) dpt
  | .control raw => formatStep (ControlView.step raw) (ControlView.stepCode raw)
  | .u8 raw => formatNumeric (Binary.round binary64 (unsigned raw)) dpt
  | .i8 raw => formatNumeric (Binary.round binary64 (signed raw)) dpt
  | .u16 raw => formatNumeric (Binary.round binary64 (unsigned raw)) dpt
  | .i16 raw => formatNumeric (Binary.round binary64 (signed raw)) dpt
  | .float2Byte raw => formatNumeric (Float2ByteView.asF64 raw) dpt
  | .u32 raw => formatNumeric (Binary.round binary64 (unsigned raw)) dpt
  | .i32 raw => formatNumeric (Binary.round binary64 (signed raw)) dpt
  | .float4Byte raw => formatNumeric (Float4ByteView.asF64 raw) dpt
  | .i64 raw => formatNumeric (Binary.round binary64 (signed raw)) dpt
  | .str raw => StrView.asStr raw
  | .time raw =>
    withWeekday (formatTime (TimeView.hour raw) (TimeView.minute raw) (TimeView.second raw))
      (TimeView.day raw)
  | .date raw => formatDate (DateView.year raw) (DateView.month raw) (DateView.day raw)
  | .dateTime raw =>
    withWeekday
      (formatDateTime (DateTimeView.year raw) (DateTimeView.month raw) (DateTimeView.day raw)
        (DateTimeView.hour raw) (DateTimeView.minute raw) (DateTimeView.second raw))
      (DateTimeView.dayOfWeek raw)
  | .scene raw =>
    if dpt = .sceneControl then
      formatSceneControl (SceneView.sceneNumber raw) (SceneView.learn raw)
    else formatScene (SceneView.sceneNumber raw)
  | .enum raw => formatEnum (EnumView.value raw) dpt
  | .rgb raw => formatRgb (RgbView.r raw) (RgbView.g raw) (RgbView.b raw)
  | .rgbw raw => formatRgbw (RgbwView.r raw) (RgbwView.g raw) (RgbwView.b raw) (RgbwView.w raw)
  | .xyy raw => formatXyy (XyyView.x raw) (XyyView.y raw) (XyyView.brightness raw)

end Knust.Protocol.Dpt
