import Knust.Protocol.Dpt.Formatted

namespace Knust.Protocol.Dpt

open Foundation Text

/-- A Boolean value is given by its label in either case, or by a synonym. -/
def parseBool (s : Text) (dpt : DptType) : Option Bool :=
  let lower := toAsciiLowercase s
  if lower = toAsciiLowercase (boolLabel true dpt) then some true
  else if lower = toAsciiLowercase (boolLabel false dpt) then some false
  else if lower ∈ [lit "true", lit "1", lit "on", lit "yes"] then some true
  else if lower ∈ [lit "false", lit "0", lit "off", lit "no"] then some false
  else none

def parseControl3 (s : Text) : Option DptPayload :=
  let lower := toAsciiLowercase s.trim
  if lower = lit "stop" ∨ lower = lit "break" then some (.control false 0)
  else
    match splitOnce isWhitespace lower with
    | some (word, rest) => do
      let step ←
        if word = lit "increase" ∨ word = lit "up" then some true
        else if word = lit "decrease" ∨ word = lit "down" then some false
        else none
      let stepCode ← parseU8 rest.trim
      if stepCode ≤ 7 then some (.control step stepCode) else none
    | none => do
      let n ← parseSigned 8 lower
      let stepCode := UInt8.ofNat n.natAbs
      if stepCode ≤ 7 then some (.control (0 ≤ n) stepCode) else none

def intRange : ℕ → ℤ × ℤ
  | 5 => (0, 255)
  | 6 => (-128, 127)
  | 7 => (0, 65535)
  | 8 => (-32768, 32767)
  | 12 => (0, 4294967295)
  | 13 => (-2147483648, 2147483647)
  | _ => (-(2 ^ 53 - 1) * 2 ^ 971, (2 ^ 53 - 1) * 2 ^ 971)

def parseNumber (s : Text) (dpt : DptType) : Option (Binary binary64) :=
  let s := match dpt.unit with
    | some unit => ((stripSuffix (lit unit.symbol) s).map trim).getD s
    | none => s
  Decimal.parse binary64 s.trim

def weekdayNumber (name : Text) : Option UInt8 :=
  [1, 2, 3, 4, 5, 6, 7].find? fun day ↦ weekdayName day = some name

def splitWeekdaySuffix (s : Text) : Text × UInt8 :=
  let day := do
    let (front, back) ← rsplitOnce '(' s
    let (name, _) ← splitOnce (· == ')') back
    let day ← weekdayNumber name.trim
    return (front.trim, day)
  day.getD (s.trim, 0)

def parseClock (s : Text) : Option (UInt8 × UInt8 × UInt8) :=
  match splitn 3 ':' s with
  | [hour, minute, second] => do
    let hour ← parseU8 hour.trim
    let minute ← parseU8 minute.trim
    let second ← parseU8 second.trim
    if hour > 23 ∨ minute > 59 ∨ second > 59 then none else some (hour, minute, second)
  | _ => none

def parseTime (s : Text) : Option DptPayload := do
  let (timePart, day) := splitWeekdaySuffix s
  let (hour, minute, second) ← parseClock timePart
  return .time day hour minute second

def parseCalendar (s : Text) : Option (UInt16 × UInt8 × UInt8) :=
  match splitn 3 '-' s.trim with
  | [year, month, day] => do
    let year ← parseU16 year
    let month ← parseU8 month
    let day ← parseU8 day
    if (1 ≤ month ∧ month ≤ 12) ∧ 1 ≤ day ∧ day ≤ 31 then some (year, month, day) else none
  | _ => none

def parseDate (s : Text) : Option DptPayload := do
  let (year, month, day) ← parseCalendar s
  return .date day month year

def parseDatetime (s : Text) : Option DptPayload := do
  let (mainPart, dayOfWeek) := splitWeekdaySuffix s
  let (datePart, timePart) ← splitOnce (· == ' ') mainPart
  let (year, month, day) ← parseCalendar datePart
  let (hour, minute, second) ← parseClock timePart.trim
  return .dateTime year month day dayOfWeek hour minute second

def parseSceneNumber (s : Text) : Option UInt8 := do
  let s := s.trim
  let number := ((stripPrefix (lit "Scene ") s).or (stripPrefix (lit "scene ") s)).getD s
  let n ← parseU8 number.trim
  if 1 ≤ n ∧ n ≤ 64 then some n else none

def parseSceneControl (s : Text) : Option DptPayload := do
  let s := s.trim
  let (numPart, learn) := match (stripSuffix [')'] s).bind (rsplitOnce '(') with
    | some (numPart, mode) => (numPart.trim, decide (toAsciiLowercase mode.trim = lit "learn"))
    | none => (s, false)
  let scene ← parseSceneNumber numPart
  return .sceneControl scene learn

def hvacModes : List (String × UInt8) :=
  [("auto", 0), ("comfort", 1), ("standby", 2), ("economy", 3), ("building protection", 4)]

def hvacContrModes : List (String × UInt8) :=
  [("auto", 0), ("heat", 1), ("morning warmup", 2), ("cool", 3), ("night purge", 4),
    ("precool", 5), ("off", 6), ("test", 7), ("emergency heat", 8), ("fan only", 9),
    ("free cool", 10), ("ice", 11), ("maximum heating mode", 12), ("economic heat/cool mode", 13),
    ("dehumidification", 14), ("calibration mode", 15), ("emergency cool mode", 16),
    ("emergency steam mode", 17), ("no demand", 20)]

def named (table : List (String × UInt8)) (name : Text) : Option UInt8 :=
  (table.find? fun entry ↦ lit entry.1 = name).map Prod.snd

def parseEnum (s : Text) (dpt : DptType) : Option UInt8 :=
  match parseU8 s.trim with
  | some n => some n
  | none =>
    let lower := toAsciiLowercase s.trim
    match dpt with
    | .hvacMode => named hvacModes lower
    | .hvacContrMode => named hvacContrModes lower
    | _ => none

def stripWrapper (s wrapper : Text) : Text :=
  let s := s.trim
  ((stripPrefix wrapper s).bind (stripSuffix [')'])).getD s

def parseHexByte (t : Text) : Option UInt8 := (parseUnsigned 16 255 t).map UInt8.ofNat

def parseRgb (s : Text) : Option DptPayload :=
  let inner := stripWrapper s (lit "RGB(")
  match stripPrefix ['#'] inner with
  | some hex => do
    let r ← (hex.get 0 2).bind parseHexByte
    let g ← (hex.get 2 4).bind parseHexByte
    let b ← (hex.get 4 6).bind parseHexByte
    return .colorRGB r g b
  | none =>
    match (inner.splitOn ',').map trim with
    | [r, g, b] => do
      return .colorRGB (← parseU8 r) (← parseU8 g) (← parseU8 b)
    | _ => none

def parseRgbw (s : Text) : Option DptPayload :=
  let inner := stripWrapper s (lit "RGBW(")
  match stripPrefix ['#'] inner with
  | some hex => do
    let red ← (hex.get 0 2).bind parseHexByte
    let green ← (hex.get 2 4).bind parseHexByte
    let blue ← (hex.get 4 6).bind parseHexByte
    let white ← (hex.get 6 8).bind parseHexByte
    return .colorRGBW red green blue white
  | none =>
    match (inner.splitOn ',').map trim with
    | [red, green, blue, white] => do
      return .colorRGBW (← parseU8 red) (← parseU8 green) (← parseU8 blue) (← parseU8 white)
    | _ => none

def parseXyy (s : Text) : Option DptPayload :=
  let inner := stripWrapper s (lit "XYY(")
  match (inner.splitOn ',').map trim with
  | [x, y, brightness] => do
    return .colorXYY (← Decimal.parse binary32 x) (← Decimal.parse binary32 y)
      (← parseU8 brightness)
  | _ => none

namespace DptType

def orElse {α : Type} (d : DptType) (details : String) : Option α → Result α
  | some a => .ok a
  | none => d.dptError details

/-- The bounds of two-byte floats are the nearest numbers to the written ones. -/
def float2Bound (hundredths : ℤ) : ℚ :=
  match Binary.round binary64 (hundredths / 100) with
  | .finite x => x
  | _ => 0

def displayed (x : ℚ) : String := String.ofList (Decimal.display (Binary.finite (F := binary64) x))

def parseInteger (d : DptType) (s : Text) : Result (Binary binary64) :=
  let quoted := s.debug
  let (min, max) := intRange d.main
  match parseNumber s d with
  | none => d.dptError s!"cannot parse {quoted} as a number"
  | some value =>
    if value.below min || value.above max then
      let shown := String.ofList (Decimal.display value)
      let lo := displayed min
      let hi := displayed max
      d.dptError s!"{shown} out of range {lo}..={hi}"
    else .ok value

def parseFloat2 (d : DptType) (s : Text) : Result DptPayload :=
  let quoted := s.debug
  match parseNumber s d with
  | none => d.dptError s!"cannot parse {quoted} as a number"
  | some value =>
    if value.within (float2Bound (-67108864)) (float2Bound 67076096) then .ok (.float value)
    else
      let shown := String.ofList (Decimal.display value)
      d.dptError s!"{shown} out of range -671088.64..=670760.96"

def parseFloat4 (d : DptType) (s : Text) : Result DptPayload :=
  let quoted := s.debug
  match parseNumber s d with
  | none => d.dptError s!"cannot parse {quoted} as a number"
  | some value =>
    if value.isFinite && !(value.convert binary32).isFinite then
      let shown := String.ofList (Decimal.display value)
      d.dptError s!"{shown} out of range for a 4-byte float"
    else .ok (.float value)

def parsePayload (d : DptType) (s : Text) : Result DptPayload :=
  let quoted := s.debug
  match d.main with
  | 1 =>
    d.orElse s!"cannot parse {quoted} as a boolean" ((parseBool s d).map DptPayload.bool)
  | 2 =>
    d.orElse s!"cannot parse {quoted} as a boolean"
      ((parseBool s (control2Underlying d)).map (DptPayload.binaryControl true))
  | 3 =>
    let examples := "(try \"increase 3\", \"decrease 3\", or \"stop\")"
    d.orElse s!"cannot parse {quoted} as a control step {examples}" (parseControl3 s)
  | 6 | 8 | 13 =>
    (fun value ↦ .signedInt (Int64.ofInt (value.toInt (-2 ^ 63) (2 ^ 63 - 1)))) <$>
      d.parseInteger s
  | 5 | 7 | 12 =>
    (fun value ↦ .unsignedInt (UInt64.ofInt (value.toInt 0 (2 ^ 64 - 1)))) <$> d.parseInteger s
  | 9 => d.parseFloat2 s
  | 14 => d.parseFloat4 s
  | 29 => d.orElse s!"cannot parse {quoted} as an integer" ((parseI64 s).map DptPayload.signedInt)
  | 10 => d.orElse s!"cannot parse {quoted} as a time (expected \"HH:MM:SS\")" (parseTime s)
  | 11 => d.orElse s!"cannot parse {quoted} as a date (expected \"YYYY-MM-DD\")" (parseDate s)
  | 19 =>
    d.orElse s!"cannot parse {quoted} as a date/time (expected \"YYYY-MM-DD HH:MM:SS\")"
      (parseDatetime s)
  | 16 =>
    let length := s.bytes.length
    if length > 14 then d.dptError s!"string too long for DPT 16 (max 14 bytes, got {length})"
    else .ok (.string s)
  | 17 =>
    d.orElse s!"cannot parse {quoted} as a scene number (1-64)"
      ((parseSceneNumber s).map DptPayload.scene)
  | 18 => d.orElse s!"cannot parse {quoted} as a scene control value" (parseSceneControl s)
  | 20 => d.orElse s!"cannot parse {quoted} as an enum value" ((parseEnum s d).map DptPayload.enum)
  | 232 =>
    d.orElse s!"cannot parse {quoted} as RGB (try \"RGB(r, g, b)\" or \"#RRGGBB\")" (parseRgb s)
  | 242 =>
    d.orElse s!"cannot parse {quoted} as XYY (try \"XYY(x, y, brightness)\")" (parseXyy s)
  | 251 =>
    d.orElse s!"cannot parse {quoted} as RGBW (try \"RGBW(r, g, b, w)\" or \"#RRGGBBWW\")"
      (parseRgbw s)
  | _ => d.dptError "unsupported DPT main number"

def parse (d : DptType) (input : Text) : Result (List UInt8) :=
  d.parsePayload input.trim >>= d.encode

end DptType

end Knust.Protocol.Dpt
