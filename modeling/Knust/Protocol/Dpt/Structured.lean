import Knust.Protocol.Dpt.Preservation
import Knust.Protocol.Dpt.Value

namespace Knust.Protocol.Dpt

open Foundation Foundation.Text
open DptType (mask_eq_self day_hour_fields)

/-- A typed value: its public fields, and the bytes that were made of them when it was built. -/
structure Held (F : Type) where
  fields : F
  data : List UInt8
  deriving DecidableEq

def typedError {α : Type} (dptNumber details : String) : Result α :=
  .err (.protocol (.dptError dptNumber details))

def invalidLength {α : Type} (dptNumber : String) (byteLength : ℕ) (bytes : List UInt8) :
    Result α :=
  typedError dptNumber s!"Invalid length: expected {byteLength}, got {bytes.length}"

structure TimeOfDay where
  day : UInt8
  hour : UInt8
  minute : UInt8
  second : UInt8
  deriving DecidableEq

namespace TimeOfDay

def dptNumber : String := "10.001"

def validate (v : TimeOfDay) : Result Unit :=
  if v.day > 7 then typedError dptNumber s!"Day {v.day} out of range [0-7]"
  else if v.hour > 23 then typedError dptNumber s!"Hour {v.hour} out of range [0-23]"
  else if v.minute > 59 then typedError dptNumber s!"Minute {v.minute} out of range [0-59]"
  else if v.second > 59 then typedError dptNumber s!"Second {v.second} out of range [0-59]"
  else .ok ()

def new (day hour minute second : UInt8) : Result (Held TimeOfDay) := do
  let value : TimeOfDay := { day, hour, minute, second }
  validate value
  .ok ⟨value, [(day <<< 5) ||| hour, minute, second]⟩

def decode : List UInt8 → Result (Held TimeOfDay)
  | [b₀, b₁, b₂] => new ((b₀ >>> 5) &&& 0x07) (b₀ &&& 0x1F) (b₁ &&& 0x3F) (b₂ &&& 0x3F)
  | bytes => invalidLength dptNumber 3 bytes

end TimeOfDay

structure Date where
  day : UInt8
  month : UInt8
  year : UInt8
  deriving DecidableEq

namespace Date

def dptNumber : String := "11.001"

def validate (v : Date) : Result Unit :=
  if v.day = 0 ∨ v.day > 31 then typedError dptNumber s!"Day {v.day} out of range [1-31]"
  else if v.month = 0 ∨ v.month > 12 then
    typedError dptNumber s!"Month {v.month} out of range [1-12]"
  else if v.year > 99 then typedError dptNumber s!"Year {v.year} out of range [0-99]"
  else .ok ()

def new (day month year : UInt8) : Result (Held Date) := do
  let value : Date := { day, month, year }
  validate value
  .ok ⟨value, [day, month, year]⟩

def decode : List UInt8 → Result (Held Date)
  | [b₀, b₁, b₂] => new (b₀ &&& 0x1F) (b₁ &&& 0x0F) (b₂ &&& 0x7F)
  | bytes => invalidLength dptNumber 3 bytes

end Date

structure SceneControl where
  sceneNumber : UInt8
  learn : Bool
  deriving DecidableEq

namespace SceneControl

def dptNumber : String := "18.001"

def validate (v : SceneControl) : Result Unit :=
  if ¬ (1 ≤ v.sceneNumber ∧ v.sceneNumber ≤ 64) then
    typedError dptNumber s!"Scene number {v.sceneNumber} out of range [1-64]"
  else .ok ()

def new (sceneNumber : UInt8) (learn : Bool) : Result (Held SceneControl) :=
  if ¬ (1 ≤ sceneNumber ∧ sceneNumber ≤ 64) then
    typedError dptNumber s!"Scene number {sceneNumber} out of range [1-64]"
  else
    let byte := sceneNumber - 1
    .ok ⟨{ sceneNumber, learn }, [if learn then byte ||| 0x80 else byte]⟩

def decode : List UInt8 → Result (Held SceneControl)
  | [byte] => .ok ⟨⟨(byte &&& 0x3F) + 1, byte &&& 0x80 ≠ 0⟩, [byte]⟩
  | bytes => invalidLength dptNumber 1 bytes

end SceneControl

structure DateTimeParts where
  year : UInt8
  month : UInt8
  day : UInt8
  dayOfWeek : UInt8
  hour : UInt8
  minute : UInt8
  second : UInt8
  deriving DecidableEq

structure DateTimeFlags where
  fault : Bool
  workingDay : Bool
  noWd : Bool
  noYear : Bool
  noDate : Bool
  noDow : Bool
  noTime : Bool
  suti : Bool
  externalSync : Bool
  sourceReliable : Bool
  deriving DecidableEq

structure DateTime extends DateTimeParts, DateTimeFlags
  deriving DecidableEq

namespace DateTime

def dptNumber : String := "19.001"

def validate (v : DateTime) : Result Unit :=
  if ¬ v.noDate ∧ (v.month = 0 ∨ v.month > 12) then
    typedError dptNumber s!"Month {v.month} out of range [1-12]"
  else if ¬ v.noDate ∧ (v.day = 0 ∨ v.day > 31) then
    typedError dptNumber s!"Day {v.day} out of range [1-31]"
  else if ¬ v.noDow ∧ v.dayOfWeek > 7 then
    typedError dptNumber s!"Day of week {v.dayOfWeek} out of range [0-7]"
  else if ¬ v.noTime ∧ v.hour > 24 then
    typedError dptNumber s!"Hour {v.hour} out of range [0-24]"
  else if ¬ v.noTime ∧ v.minute > 59 then
    typedError dptNumber s!"Minute {v.minute} out of range [0-59]"
  else if ¬ v.noTime ∧ v.second > 59 then
    typedError dptNumber s!"Second {v.second} out of range [0-59]"
  else if ¬ v.noTime ∧ v.hour = 24 ∧ (v.minute ≠ 0 ∨ v.second ≠ 0) then
    typedError dptNumber "When hour is 24, minute and second must be 0"
  else .ok ()

def encodeFlags (f : DateTimeFlags) : UInt8 :=
  (u8From f.fault <<< 7) ||| (u8From f.workingDay <<< 6) ||| (u8From f.noWd <<< 5) |||
    (u8From f.noYear <<< 4) ||| (u8From f.noDate <<< 3) ||| (u8From f.noDow <<< 2) |||
    (u8From f.noTime <<< 1) ||| u8From f.suti

def encodeQuality (f : DateTimeFlags) : UInt8 :=
  (u8From f.externalSync <<< 7) ||| (u8From f.sourceReliable <<< 6)

def encodeData (v : DateTime) : List UInt8 :=
  let year := if v.noYear then 0 else v.year
  let month := if v.noDate then 0 else v.month
  let day := if v.noDate then 0 else v.day
  let dayOfWeek := if v.noDow then 0 else v.dayOfWeek
  let hour := if v.noTime then 0 else v.hour
  let minute := if v.noTime then 0 else v.minute
  let second := if v.noTime then 0 else v.second
  [year, month, day, (dayOfWeek <<< 5) ||| hour, minute, second, encodeFlags v.toDateTimeFlags,
    encodeQuality v.toDateTimeFlags]

def newWithFlags (parts : DateTimeParts) (flags : DateTimeFlags) : Result (Held DateTime) := do
  let value : DateTime := ⟨parts, flags⟩
  validate value
  .ok ⟨value, encodeData value⟩

def new (parts : DateTimeParts) : Result (Held DateTime) :=
  newWithFlags parts ⟨false, false, false, false, false, false, false, false, false, false⟩

def decodeFlags (flags quality : UInt8) : DateTimeFlags where
  fault := flags &&& 0x80 ≠ 0
  workingDay := flags &&& 0x40 ≠ 0
  noWd := flags &&& 0x20 ≠ 0
  noYear := flags &&& 0x10 ≠ 0
  noDate := flags &&& 0x08 ≠ 0
  noDow := flags &&& 0x04 ≠ 0
  noTime := flags &&& 0x02 ≠ 0
  suti := flags &&& 0x01 ≠ 0
  externalSync := quality &&& 0x80 ≠ 0
  sourceReliable := quality &&& 0x40 ≠ 0

def decode : List UInt8 → Result (Held DateTime)
  | [b₀, b₁, b₂, b₃, b₄, b₅, b₆, b₇] => do
    let value : DateTime :=
      ⟨⟨b₀, b₁ &&& 0x0F, b₂ &&& 0x1F, (b₃ >>> 5) &&& 0x07, b₃ &&& 0x1F, b₄ &&& 0x3F,
        b₅ &&& 0x3F⟩, decodeFlags b₆ b₇⟩
    validate value
    .ok ⟨value, encodeData value⟩
  | bytes => invalidLength dptNumber 8 bytes

end DateTime

structure TariffActiveEnergy where
  tariff : UInt8
  energy : Int32
  tariffValid : Bool
  energyValid : Bool
  deriving DecidableEq

namespace TariffActiveEnergy

def dptNumber : String := "235.001"

def newWithValidity (energy : Int32) (tariff : UInt8) (energyValid tariffValid : Bool) :
    Held TariffActiveEnergy :=
  let energyBytes := if energyValid then beEncode 4 energy.toUInt32.toNat else [0, 0, 0, 0]
  let encodedTariff := if tariffValid then tariff else 0
  ⟨{ tariff, energy, tariffValid, energyValid },
    energyBytes ++ [encodedTariff, (u8From (!energyValid) <<< 1) ||| u8From (!tariffValid)]⟩

def new (energy : Int32) (tariff : UInt8) : Held TariffActiveEnergy :=
  newWithValidity energy tariff true true

def decode : List UInt8 → Result (Held TariffActiveEnergy)
  | [b₀, b₁, b₂, b₃, b₄, b₅] =>
    .ok (newWithValidity (UInt32.ofNat (beDecode [b₀, b₁, b₂, b₃])).toInt32 b₄
      ((b₅ >>> 1) &&& 0x01 = 0) (b₅ &&& 0x01 = 0))
  | bytes => invalidLength dptNumber 6 bytes

end TariffActiveEnergy

structure ColorXYY where
  x : UInt16
  y : UInt16
  brightness : UInt8
  colorValid : Bool
  brightnessValid : Bool
  deriving DecidableEq

namespace ColorXYY

def dptNumber : String := "242.600"

def newWithValidity (x y : UInt16) (brightness : UInt8) (colorValid brightnessValid : Bool) :
    Held ColorXYY :=
  let xBytes := if colorValid then u16Bytes x else [0, 0]
  let yBytes := if colorValid then u16Bytes y else [0, 0]
  let encodedBrightness := if brightnessValid then brightness else 0
  ⟨{ x, y, brightness, colorValid, brightnessValid },
    xBytes ++ yBytes ++
      [encodedBrightness, (u8From colorValid <<< 1) ||| u8From brightnessValid]⟩

def new (x y : UInt16) (brightness : UInt8) : Held ColorXYY :=
  newWithValidity x y brightness true true

def decode : List UInt8 → Result (Held ColorXYY)
  | [b₀, b₁, b₂, b₃, b₄, b₅] =>
    .ok (newWithValidity (u16OfBytes b₀ b₁) (u16OfBytes b₂ b₃) b₄ ((b₅ >>> 1) &&& 0x01 ≠ 0)
      (b₅ &&& 0x01 ≠ 0))
  | bytes => invalidLength dptNumber 6 bytes

end ColorXYY

structure ColorRGBWValidity where
  red : Bool
  green : Bool
  blue : Bool
  white : Bool
  deriving DecidableEq

structure ColorRGBW where
  red : UInt8
  green : UInt8
  blue : UInt8
  white : UInt8
  redValid : Bool
  greenValid : Bool
  blueValid : Bool
  whiteValid : Bool
  deriving DecidableEq

namespace ColorRGBW

def dptNumber : String := "251.600"

def newWithValidity (red green blue white : UInt8) (validity : ColorRGBWValidity) :
    Held ColorRGBW :=
  ⟨⟨red, green, blue, white, validity.red, validity.green, validity.blue, validity.white⟩,
    [if validity.red then red else 0, if validity.green then green else 0,
      if validity.blue then blue else 0, if validity.white then white else 0, 0,
      (u8From validity.red <<< 3) ||| (u8From validity.green <<< 2) |||
        (u8From validity.blue <<< 1) ||| u8From validity.white]⟩

def new (red green blue white : UInt8) : Held ColorRGBW :=
  newWithValidity red green blue white ⟨true, true, true, true⟩

def decode : List UInt8 → Result (Held ColorRGBW)
  | [b₀, b₁, b₂, b₃, _, b₅] =>
    .ok (newWithValidity b₀ b₁ b₂ b₃ ⟨(b₅ >>> 3) &&& 0x01 ≠ 0, (b₅ >>> 2) &&& 0x01 ≠ 0,
      (b₅ >>> 1) &&& 0x01 ≠ 0, b₅ &&& 0x01 ≠ 0⟩)
  | bytes => invalidLength dptNumber 6 bytes

end ColorRGBW

class Structured (F : Type) where
  dptNumber : String
  validate : F → Result Unit
  decode : List UInt8 → Result (Held F)
  /-- What a constructor has returned. -/
  Constructed : Held F → Prop
  /-- The fields with those blanked that the flags among them mark as absent or invalid. -/
  visible : F → F

instance (F : Type) [Structured F] : DptValue (Held F) where
  dptNumber := Structured.dptNumber F
  decode := Structured.decode
  asBytes := Held.data
  validate v := Structured.validate v.fields

instance : Structured TimeOfDay where
  dptNumber := TimeOfDay.dptNumber
  validate := TimeOfDay.validate
  decode := TimeOfDay.decode
  Constructed v := ∃ day hour minute second, TimeOfDay.new day hour minute second = .ok v
  visible := id

instance : Structured Date where
  dptNumber := Date.dptNumber
  validate := Date.validate
  decode := Date.decode
  Constructed v := ∃ day month year, Date.new day month year = .ok v
  visible := id

instance : Structured SceneControl where
  dptNumber := SceneControl.dptNumber
  validate := SceneControl.validate
  decode := SceneControl.decode
  Constructed v := ∃ sceneNumber learn, SceneControl.new sceneNumber learn = .ok v
  visible := id

def DateTime.blanked (v : DateTime) : DateTime :=
  { v with
    year := if v.noYear then 0 else v.year
    month := if v.noDate then 0 else v.month
    day := if v.noDate then 0 else v.day
    dayOfWeek := if v.noDow then 0 else v.dayOfWeek
    hour := if v.noTime then 0 else v.hour
    minute := if v.noTime then 0 else v.minute
    second := if v.noTime then 0 else v.second }

instance : Structured DateTime where
  dptNumber := DateTime.dptNumber
  validate := DateTime.validate
  decode := DateTime.decode
  Constructed v := (∃ parts, DateTime.new parts = .ok v) ∨
    ∃ parts flags, DateTime.newWithFlags parts flags = .ok v
  visible v := { v.blanked with workingDay := v.workingDay && !v.noWd }

instance : Structured TariffActiveEnergy where
  dptNumber := TariffActiveEnergy.dptNumber
  validate _ := .ok ()
  decode := TariffActiveEnergy.decode
  Constructed v := (∃ energy tariff, TariffActiveEnergy.new energy tariff = v) ∨
    ∃ energy tariff energyValid tariffValid,
      TariffActiveEnergy.newWithValidity energy tariff energyValid tariffValid = v
  visible v :=
    { v with
      energy := if v.energyValid then v.energy else 0
      tariff := if v.tariffValid then v.tariff else 0 }

instance : Structured ColorXYY where
  dptNumber := ColorXYY.dptNumber
  validate _ := .ok ()
  decode := ColorXYY.decode
  Constructed v := (∃ x y brightness, ColorXYY.new x y brightness = v) ∨
    ∃ x y brightness colorValid brightnessValid,
      ColorXYY.newWithValidity x y brightness colorValid brightnessValid = v
  visible v :=
    { v with
      x := if v.colorValid then v.x else 0
      y := if v.colorValid then v.y else 0
      brightness := if v.brightnessValid then v.brightness else 0 }

instance : Structured ColorRGBW where
  dptNumber := ColorRGBW.dptNumber
  validate _ := .ok ()
  decode := ColorRGBW.decode
  Constructed v := (∃ red green blue white, ColorRGBW.new red green blue white = v) ∨
    ∃ red green blue white validity, ColorRGBW.newWithValidity red green blue white validity = v
  visible v :=
    { v with
      red := if v.redValid then v.red else 0
      green := if v.greenValid then v.green else 0
      blue := if v.blueValid then v.blue else 0
      white := if v.whiteValid then v.white else 0 }

section

variable {F : Type} [Structured F]

/-- A value that was built by a constructor or by a decoder. -/
def Held.Made (v : Held F) : Prop :=
  Structured.Constructed v ∨ ∃ bytes, Structured.decode bytes = .ok v

/-- A type with a number that is known at run time, whose values are read back from their bytes. -/
structure ReadsBack (F : Type) [Structured F] : Prop where
  known : ∃ d, (DptType.fromStr (lit (Structured.dptNumber F))).value = some d
  decode_data : ∀ v : Held F, v.Made → ∃ w, Structured.decode v.data = .ok w ∧
    Structured.visible w.fields = Structured.visible v.fields

theorem typed_eq_ok {α : Type} {p : Prop} [Decidable p] {dptNumber details : String}
    {x : Result α} {a : α} :
    (if p then typedError dptNumber details else x) = .ok a ↔ ¬ p ∧ x = .ok a := by
  by_cases hp : p
  · simp [hp, typedError]
  · simp [hp]

theorem known_numbers : ∀ number ∈ [TimeOfDay.dptNumber, Date.dptNumber, SceneControl.dptNumber,
      DateTime.dptNumber, TariffActiveEnergy.dptNumber, ColorXYY.dptNumber, ColorRGBW.dptNumber],
    ∃ d, (DptType.fromStr (lit number)).value = some d := by
  simp only [← Option.isSome_iff_exists]
  decide +kernel

theorem TimeOfDay.decode_new {day hour minute second : UInt8} {v : Held TimeOfDay}
    (h : TimeOfDay.new day hour minute second = .ok v) : TimeOfDay.decode v.data = .ok v := by
  obtain ⟨_, hvalid, heq⟩ := Outcome.bind_eq_ok.mp h
  cases heq
  simp only [TimeOfDay.validate, typed_eq_ok, UInt8.not_lt, gt_iff_lt] at hvalid
  obtain ⟨hday, hhour, hminute, hsecond, -⟩ := hvalid
  have hhour' : hour &&& 0x1F = hour := mask_eq_self 5 rfl hhour (by decide)
  have hbyte := day_hour_fields day hour
  rw [hhour', mask_eq_self 3 rfl hday (by decide)] at hbyte
  rw [TimeOfDay.decode, hbyte.1, hbyte.2, mask_eq_self 6 rfl hminute (by decide),
    mask_eq_self 6 rfl hsecond (by decide), h]

theorem TimeOfDay.readsBack : ReadsBack TimeOfDay := by
  refine ⟨known_numbers _ (by simp [Structured.dptNumber]), fun v hv ↦ ⟨v, ?_, rfl⟩⟩
  obtain ⟨day, hour, minute, second, h⟩ | ⟨bytes, h⟩ := hv
  · exact TimeOfDay.decode_new h
  · change TimeOfDay.decode bytes = _ at h
    unfold TimeOfDay.decode at h
    split at h
    · exact TimeOfDay.decode_new h
    · cases h

theorem Date.decode_new {day month year : UInt8} {v : Held Date}
    (h : Date.new day month year = .ok v) : Date.decode v.data = .ok v := by
  obtain ⟨_, hvalid, heq⟩ := Outcome.bind_eq_ok.mp h
  cases heq
  simp only [Date.validate, typed_eq_ok, not_or, UInt8.not_lt, gt_iff_lt] at hvalid
  obtain ⟨⟨-, hday⟩, ⟨-, hmonth⟩, hyear, -⟩ := hvalid
  rw [Date.decode, mask_eq_self 5 rfl hday (by decide), mask_eq_self 4 rfl hmonth (by decide),
    mask_eq_self 7 rfl hyear (by decide), h]

theorem Date.readsBack : ReadsBack Date := by
  refine ⟨known_numbers _ (by simp [Structured.dptNumber]), fun v hv ↦ ⟨v, ?_, rfl⟩⟩
  obtain ⟨day, month, year, h⟩ | ⟨bytes, h⟩ := hv
  · exact Date.decode_new h
  · change Date.decode bytes = _ at h
    unfold Date.decode at h
    split at h
    · exact Date.decode_new h
    · cases h

theorem SceneControl.decode_new {sceneNumber : UInt8} {learn : Bool} {v : Held SceneControl}
    (h : SceneControl.new sceneNumber learn = .ok v) : SceneControl.decode v.data = .ok v := by
  obtain ⟨hvalid, heq⟩ := typed_eq_ok.mp h
  cases heq
  have hbyte : ∀ (sceneNumber : UInt8) (learn : Bool), 1 ≤ sceneNumber ∧ sceneNumber ≤ 64 →
      let byte := if learn then (sceneNumber - 1) ||| 0x80 else sceneNumber - 1
      (byte &&& 0x3F) + 1 = sceneNumber ∧ decide (byte &&& 0x80 ≠ 0) = learn := by
    decide +kernel
  obtain ⟨hnumber, hlearn⟩ := hbyte sceneNumber learn (not_not.mp hvalid)
  simp only [SceneControl.decode, hnumber, hlearn]

theorem SceneControl.readsBack : ReadsBack SceneControl := by
  refine ⟨known_numbers _ (by simp [Structured.dptNumber]), fun v hv ↦ ⟨v, ?_, rfl⟩⟩
  obtain ⟨sceneNumber, learn, h⟩ | ⟨bytes, h⟩ := hv
  · exact SceneControl.decode_new h
  · change SceneControl.decode bytes = _ at h
    unfold SceneControl.decode at h
    split at h
    · cases h
      rfl
    · cases h

theorem DateTime.decodeFlags_encode (f : DateTimeFlags) :
    decodeFlags (encodeFlags f) (encodeQuality f) = f := by
  have hflags : ∀ a b c d e f g h : Bool,
      let flags := (u8From a <<< 7) ||| (u8From b <<< 6) ||| (u8From c <<< 5) |||
        (u8From d <<< 4) ||| (u8From e <<< 3) ||| (u8From f <<< 2) ||| (u8From g <<< 1) ||| u8From h
      decide (flags &&& 0x80 ≠ 0) = a ∧ decide (flags &&& 0x40 ≠ 0) = b ∧
        decide (flags &&& 0x20 ≠ 0) = c ∧ decide (flags &&& 0x10 ≠ 0) = d ∧
        decide (flags &&& 0x08 ≠ 0) = e ∧ decide (flags &&& 0x04 ≠ 0) = f ∧
        decide (flags &&& 0x02 ≠ 0) = g ∧ decide (flags &&& 0x01 ≠ 0) = h := by
    decide +kernel
  have hquality : ∀ a b : Bool,
      let quality := (u8From a <<< 7) ||| (u8From b <<< 6)
      decide (quality &&& 0x80 ≠ 0) = a ∧ decide (quality &&& 0x40 ≠ 0) = b := by
    decide +kernel
  obtain ⟨h₁, h₂, h₃, h₄, h₅, h₆, h₇, h₈⟩ := hflags f.fault f.workingDay f.noWd f.noYear f.noDate
    f.noDow f.noTime f.suti
  obtain ⟨h₉, h₁₀⟩ := hquality f.externalSync f.sourceReliable
  rw [encodeFlags, encodeQuality, decodeFlags, h₁, h₂, h₃, h₄, h₅, h₆, h₇, h₈, h₉, h₁₀]

theorem DateTime.validate_blanked (v : DateTime) : v.blanked.validate = v.validate := by
  obtain ⟨parts, flags⟩ := v
  cases hdate : flags.noDate <;> cases hdow : flags.noDow <;> cases htime : flags.noTime <;>
    simp [validate, blanked, hdate, hdow, htime]

theorem blank_le {absent : Bool} {x m : UInt8} (h : ¬ (absent = false ∧ m < x)) :
    (if absent then 0 else x) ≤ m := by
  cases absent with
  | false => exact UInt8.not_lt.mp fun hlt ↦ h ⟨rfl, hlt⟩
  | true => exact UInt8.zero_le

theorem DateTime.decode_encodeData {v : DateTime} (h : v.validate = .ok ()) :
    DateTime.decode v.encodeData = .ok ⟨v.blanked, v.blanked.encodeData⟩ := by
  have hvalid := h
  simp only [validate, typed_eq_ok, gt_iff_lt, Bool.not_eq_true] at hvalid
  obtain ⟨hmonth, hday, hdow, hhour, hminute, hsecond, -⟩ := hvalid
  have hmonth' : (if v.noDate then 0 else v.month) &&& 0x0F = if v.noDate then 0 else v.month :=
    mask_eq_self 4 rfl (blank_le fun hno ↦ hmonth ⟨hno.1, .inr hno.2⟩) (by decide)
  have hday' : (if v.noDate then 0 else v.day) &&& 0x1F = if v.noDate then 0 else v.day :=
    mask_eq_self 5 rfl (blank_le fun hno ↦ hday ⟨hno.1, .inr hno.2⟩) (by decide)
  have hdow' : (if v.noDow then 0 else v.dayOfWeek) &&& 0x07 = if v.noDow then 0 else v.dayOfWeek :=
    mask_eq_self 3 rfl (blank_le hdow) (by decide)
  have hhour' : (if v.noTime then 0 else v.hour) &&& 0x1F = if v.noTime then 0 else v.hour :=
    mask_eq_self 5 rfl (blank_le hhour) (by decide)
  have hminute' : (if v.noTime then 0 else v.minute) &&& 0x3F = if v.noTime then 0 else v.minute :=
    mask_eq_self 6 rfl (blank_le hminute) (by decide)
  have hsecond' : (if v.noTime then 0 else v.second) &&& 0x3F = if v.noTime then 0 else v.second :=
    mask_eq_self 6 rfl (blank_le hsecond) (by decide)
  have hbyte := day_hour_fields (if v.noDow then 0 else v.dayOfWeek) (if v.noTime then 0 else v.hour)
  rw [hhour', hdow'] at hbyte
  rw [encodeData, decode, hmonth', hday', hbyte.1, hbyte.2, hminute', hsecond', decodeFlags_encode]
  change (do DateTime.validate v.blanked; _) = _
  rw [validate_blanked, h]
  rfl

theorem DateTime.encoded_of_made {v : Held DateTime} (hv : v.Made) :
    v.fields.validate = .ok () ∧ v.data = v.fields.encodeData := by
  have hbuilt {value : DateTime} (h : (do value.validate; .ok ⟨value, value.encodeData⟩) =
      (.ok v : Result (Held DateTime))) :
      v.fields.validate = .ok () ∧ v.data = v.fields.encodeData := by
    obtain ⟨_, hvalid, heq⟩ := Outcome.bind_eq_ok.mp h
    cases heq
    exact ⟨hvalid, rfl⟩
  obtain (⟨parts, h⟩ | ⟨parts, flags, h⟩) | ⟨bytes, h⟩ := hv
  · exact hbuilt h
  · exact hbuilt h
  · change DateTime.decode bytes = _ at h
    unfold DateTime.decode at h
    split at h
    · exact hbuilt h
    · cases h

theorem DateTime.readsBack : ReadsBack DateTime := by
  refine ⟨known_numbers _ (by simp [Structured.dptNumber]), fun v hv ↦ ?_⟩
  obtain ⟨hvalid, hdata⟩ := encoded_of_made hv
  refine ⟨_, hdata ▸ decode_encodeData hvalid, ?_⟩
  change ({ v.fields.blanked.blanked with
    workingDay := v.fields.workingDay && !v.fields.noWd } : DateTime) = _
  obtain ⟨⟨parts, flags⟩, data⟩ := v
  cases hyear : flags.noYear <;> cases hdate : flags.noDate <;> cases hdow : flags.noDow <;>
    cases htime : flags.noTime <;> simp [blanked, Structured.visible, hyear, hdate, hdow, htime]

theorem exists_four {l : List UInt8} (h : l.length = 4) : ∃ a b c d, l = [a, b, c, d] := by
  match l, h with
  | [a, b, c, d], _ => exact ⟨a, b, c, d, rfl⟩

theorem TariffActiveEnergy.decode_newWithValidity (energy : Int32) (tariff : UInt8)
    (energyValid tariffValid : Bool) :
    TariffActiveEnergy.decode (newWithValidity energy tariff energyValid tariffValid).data =
      .ok (newWithValidity (if energyValid then energy else 0) (if tariffValid then tariff else 0)
        energyValid tariffValid) := by
  have hflags : ∀ energyValid tariffValid : Bool,
      let flags := (u8From (!energyValid) <<< 1) ||| u8From (!tariffValid)
      decide ((flags >>> 1) &&& 0x01 = 0) = energyValid ∧
        decide (flags &&& 0x01 = 0) = tariffValid := by
    decide +kernel
  obtain ⟨henergyValid, htariffValid⟩ := hflags energyValid tariffValid
  have hlt := energy.toUInt32.toNat_lt
  obtain ⟨a, b, c, d, hbytes⟩ := exists_four (beEncode_length 4 energy.toUInt32.toNat)
  have henergy : (UInt32.ofNat (beDecode [a, b, c, d])).toInt32 = energy := by
    rw [← hbytes, beDecode_beEncode, Nat.mod_eq_of_lt (by omega), UInt32.ofNat_toNat]
    rfl
  cases energyValid with
  | false =>
    simp only [newWithValidity, decode, henergyValid, htariffValid, List.cons_append,
      List.nil_append, Bool.false_eq_true, if_false]
    rfl
  | true =>
    simp only [newWithValidity, decode, hbytes, henergyValid, htariffValid, henergy,
      List.cons_append, List.nil_append, if_true]

theorem TariffActiveEnergy.readsBack : ReadsBack TariffActiveEnergy := by
  refine ⟨known_numbers _ (by simp [Structured.dptNumber]), fun v hv ↦ ?_⟩
  obtain ⟨energy, tariff, energyValid, tariffValid, rfl⟩ :
      ∃ energy tariff energyValid tariffValid,
        v = newWithValidity energy tariff energyValid tariffValid := by
    obtain (⟨energy, tariff, rfl⟩ | ⟨energy, tariff, energyValid, tariffValid, rfl⟩) | ⟨bytes, h⟩ :=
      hv
    · exact ⟨energy, tariff, true, true, rfl⟩
    · exact ⟨energy, tariff, energyValid, tariffValid, rfl⟩
    · change TariffActiveEnergy.decode bytes = _ at h
      unfold TariffActiveEnergy.decode at h
      split at h
      · cases h
        exact ⟨_, _, _, _, rfl⟩
      · cases h
  refine ⟨_, decode_newWithValidity .., ?_⟩
  cases energyValid <;> cases tariffValid <;> simp [newWithValidity, Structured.visible]

theorem ColorXYY.decode_newWithValidity (x y : UInt16) (brightness : UInt8)
    (colorValid brightnessValid : Bool) :
    ColorXYY.decode (newWithValidity x y brightness colorValid brightnessValid).data =
      .ok (newWithValidity (if colorValid then x else 0) (if colorValid then y else 0)
        (if brightnessValid then brightness else 0) colorValid brightnessValid) := by
  have hflags : ∀ colorValid brightnessValid : Bool,
      let flags := (u8From colorValid <<< 1) ||| u8From brightnessValid
      decide ((flags >>> 1) &&& 0x01 ≠ 0) = colorValid ∧
        decide (flags &&& 0x01 ≠ 0) = brightnessValid := by
    decide +kernel
  obtain ⟨hcolor, hbrightness⟩ := hflags colorValid brightnessValid
  cases colorValid with
  | false =>
    simp only [newWithValidity, decode, hcolor, hbrightness, List.cons_append, List.nil_append,
      Bool.false_eq_true, if_false]
    rfl
  | true =>
    simp only [newWithValidity, decode, u16Bytes_eq, hcolor, hbrightness, List.cons_append,
      List.nil_append, if_true, u16OfBytes_hiByte_loByte]

theorem ColorXYY.readsBack : ReadsBack ColorXYY := by
  refine ⟨known_numbers _ (by simp [Structured.dptNumber]), fun v hv ↦ ?_⟩
  obtain ⟨x, y, brightness, colorValid, brightnessValid, rfl⟩ :
      ∃ x y brightness colorValid brightnessValid,
        v = newWithValidity x y brightness colorValid brightnessValid := by
    obtain (⟨x, y, brightness, rfl⟩ | ⟨x, y, brightness, color, bright, rfl⟩) | ⟨bytes, h⟩ := hv
    · exact ⟨x, y, brightness, true, true, rfl⟩
    · exact ⟨x, y, brightness, color, bright, rfl⟩
    · change ColorXYY.decode bytes = _ at h
      unfold ColorXYY.decode at h
      split at h
      · cases h
        exact ⟨_, _, _, _, _, rfl⟩
      · cases h
  refine ⟨_, decode_newWithValidity .., ?_⟩
  cases colorValid <;> cases brightnessValid <;> simp [newWithValidity, Structured.visible]

theorem ColorRGBW.decode_newWithValidity (red green blue white : UInt8)
    (validity : ColorRGBWValidity) :
    ColorRGBW.decode (newWithValidity red green blue white validity).data =
      .ok (newWithValidity (if validity.red then red else 0) (if validity.green then green else 0)
        (if validity.blue then blue else 0) (if validity.white then white else 0) validity) := by
  have hflags : ∀ red green blue white : Bool,
      let flags := (u8From red <<< 3) ||| (u8From green <<< 2) ||| (u8From blue <<< 1) |||
        u8From white
      decide ((flags >>> 3) &&& 0x01 ≠ 0) = red ∧ decide ((flags >>> 2) &&& 0x01 ≠ 0) = green ∧
        decide ((flags >>> 1) &&& 0x01 ≠ 0) = blue ∧ decide (flags &&& 0x01 ≠ 0) = white := by
    decide +kernel
  obtain ⟨hred, hgreen, hblue, hwhite⟩ :=
    hflags validity.red validity.green validity.blue validity.white
  simp only [newWithValidity, decode, hred, hgreen, hblue, hwhite]

theorem ColorRGBW.readsBack : ReadsBack ColorRGBW := by
  refine ⟨known_numbers _ (by simp [Structured.dptNumber]), fun v hv ↦ ?_⟩
  obtain ⟨red, green, blue, white, validity, rfl⟩ :
      ∃ red green blue white validity, v = newWithValidity red green blue white validity := by
    obtain (⟨red, green, blue, white, rfl⟩ | ⟨red, green, blue, white, validity, rfl⟩) |
      ⟨bytes, h⟩ := hv
    · exact ⟨red, green, blue, white, _, rfl⟩
    · exact ⟨red, green, blue, white, validity, rfl⟩
    · change ColorRGBW.decode bytes = _ at h
      unfold ColorRGBW.decode at h
      split at h
      · cases h
        exact ⟨_, _, _, _, _, rfl⟩
      · cases h
  refine ⟨_, decode_newWithValidity .., ?_⟩
  obtain ⟨r, g, b, w⟩ := validity
  cases r <;> cases g <;> cases b <;> cases w <;> simp [newWithValidity, Structured.visible]

theorem ReadsBack.written (h : ReadsBack F) {origin v : Held F} (horigin : origin.Made)
    (hdata : v.data = origin.data) (hvalid : Structured.validate v.fields = .ok ()) (now : ℕ)
    (destination : GroupAddress) :
    ∃ telegram w, Telegram.groupWriteValue (Held F) now destination v = .ok telegram ∧
      Structured.decode telegram.payload = .ok w ∧
      Structured.visible w.fields = Structured.visible origin.fields := by
  obtain ⟨d, hd⟩ := h.known
  obtain ⟨w, hw, hvisible⟩ := h.decode_data origin horigin
  have hnumber : (DptType.fromStr (lit (DptValue.dptNumber (Held F)))).value = some d := hd
  have htype : DptValue.dptType (Held F) = .ok d := by rw [DptValue.dptType, hnumber]
  refine ⟨.groupWrite now destination v.data, w, ?_, ?_, hvisible⟩
  · rw [Telegram.groupWriteValue, htype, Outcome.ok_bind]
    change (do Structured.validate v.fields; _) = _
    rw [hvalid]
    rfl
  · change Structured.decode v.data = _
    rw [hdata, hw]

end

inductive StructuredType
  | timeOfDay
  | date
  | sceneControl
  | dateTime
  | tariffActiveEnergy
  | colorXYY
  | colorRGBW

namespace StructuredType

abbrev Fields : StructuredType → Type
  | .timeOfDay => TimeOfDay
  | .date => Date
  | .sceneControl => SceneControl
  | .dateTime => DateTime
  | .tariffActiveEnergy => TariffActiveEnergy
  | .colorXYY => ColorXYY
  | .colorRGBW => ColorRGBW

instance : (t : StructuredType) → Structured t.Fields
  | .timeOfDay => inferInstanceAs (Structured TimeOfDay)
  | .date => inferInstanceAs (Structured Date)
  | .sceneControl => inferInstanceAs (Structured SceneControl)
  | .dateTime => inferInstanceAs (Structured DateTime)
  | .tariffActiveEnergy => inferInstanceAs (Structured TariffActiveEnergy)
  | .colorXYY => inferInstanceAs (Structured ColorXYY)
  | .colorRGBW => inferInstanceAs (Structured ColorRGBW)

theorem readsBack : (t : StructuredType) → ReadsBack t.Fields
  | .timeOfDay => TimeOfDay.readsBack
  | .date => Date.readsBack
  | .sceneControl => SceneControl.readsBack
  | .dateTime => DateTime.readsBack
  | .tariffActiveEnergy => TariffActiveEnergy.readsBack
  | .colorXYY => ColorXYY.readsBack
  | .colorRGBW => ColorRGBW.readsBack

end StructuredType

/-- A value has the bytes that it was built with, whatever was assigned to its fields since. If it
is valid, they are sent, and what is read from them agrees with the value on all fields that its
flags do not mark exactly if the value as it was built does. -/
theorem written_agrees_iff (t : StructuredType) (origin v : Held t.Fields)
    (horigin : origin.Made) (hassigned : v.data = origin.data)
    (hvalid : Structured.validate v.fields = .ok ()) (now : ℕ) (destination : GroupAddress) :
    ∃ telegram w, Telegram.groupWriteValue (Held t.Fields) now destination v = .ok telegram ∧
      Structured.decode telegram.payload = .ok w ∧
      (Structured.visible w.fields = Structured.visible v.fields ↔
        Structured.visible origin.fields = Structured.visible v.fields) := by
  obtain ⟨telegram, w, hsent, hread, hvisible⟩ :=
    t.readsBack.written horigin hassigned hvalid now destination
  exact ⟨telegram, w, hsent, hread, by rw [hvisible]⟩

theorem noon_agrees :
    let noon : Held TimeOfDay := ⟨⟨1, 12, 0, 0⟩, [0x2C, 0, 0]⟩
    ∃ telegram w, Telegram.groupWriteValue (Held TimeOfDay) 0 ⟨0, by decide⟩ noon = .ok telegram ∧
      TimeOfDay.decode telegram.payload = .ok w ∧ w.fields = noon.fields := by
  intro noon
  have hnoon : TimeOfDay.new 1 12 0 0 = .ok noon := by decide +kernel
  obtain ⟨telegram, w, hsent, hread, hagrees⟩ := written_agrees_iff .timeOfDay noon noon
    (.inl ⟨1, 12, 0, 0, hnoon⟩) rfl (by decide +kernel) 0 ⟨0, by decide⟩
  exact ⟨telegram, w, hsent, hread, hagrees.mpr rfl⟩

/-- A time that was built as midnight and whose hour was then assigned is sent as midnight. -/
theorem assigned_hour_not_written :
    ∃ midnight noon : Held TimeOfDay, TimeOfDay.new 1 0 0 0 = .ok midnight ∧
      noon = { midnight with fields := { midnight.fields with hour := 12 } } ∧
      noon.fields.validate = .ok () ∧
      Telegram.groupWriteValue (Held TimeOfDay) 0 ⟨0, by decide⟩ noon =
        .ok (.groupWrite 0 ⟨0, by decide⟩ [0x20, 0, 0]) ∧
      TimeOfDay.decode [0x20, 0, 0] = .ok midnight ∧ midnight.fields.hour ≠ noon.fields.hour := by
  refine ⟨⟨⟨1, 0, 0, 0⟩, [0x20, 0, 0]⟩, ⟨⟨1, 12, 0, 0⟩, [0x20, 0, 0]⟩, ?_, rfl, ?_, ?_, ?_, ?_⟩
  all_goals decide +kernel

end Knust.Protocol.Dpt
