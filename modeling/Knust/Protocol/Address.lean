import Knust.Error

namespace Knust.Protocol

inductive AddressError
  | invalidRange (component : String) (value max : ℕ)
  | invalidFormat (input expected : String)
  deriving Repr, DecidableEq

def AddressError.toString : AddressError → String
  | .invalidRange component value max => s!"Invalid {component} value: {value} (max: {max})"
  | .invalidFormat input expected => s!"Invalid address format: '{input}' (expected: {expected})"

theorem toNat_pack {width : UInt16} {x y : UInt8} (hwidth : width.toNat < 16)
    (hx : x.toNat < 2 ^ (16 - width.toNat)) (hy : y.toNat * 2 ^ 8 + 2 ^ 8 ≤ 2 ^ width.toNat)
    (z : UInt8) :
    ((x.toUInt16 <<< width) ||| (y.toUInt16 <<< 8) ||| z.toUInt16).toNat =
      x.toNat * 2 ^ width.toNat + y.toNat * 2 ^ 8 + z.toNat := by
  have hz := z.toNat_lt
  have hhigh : (x.toUInt16 <<< width).toNat = x.toNat <<< width.toNat := by
    have hlt : x.toNat * 2 ^ width.toNat < 2 ^ (16 - width.toNat) * 2 ^ width.toNat :=
      Nat.mul_lt_mul_of_pos_right hx (Nat.two_pow_pos _)
    rw [← Nat.pow_add, Nat.sub_add_cancel hwidth.le] at hlt
    rw [UInt16.toNat_shiftLeft, UInt8.toNat_toUInt16, Nat.mod_eq_of_lt hwidth, Nat.shiftLeft_eq,
      Nat.mod_eq_of_lt hlt]
  have hmiddle : (y.toUInt16 <<< 8).toNat = y.toNat <<< 8 := by
    have hlt : y.toNat * 2 ^ 8 < 2 ^ 16 := by
      have := Nat.pow_le_pow_right (n := 2) (by decide) hwidth.le
      omega
    rw [UInt16.toNat_shiftLeft, UInt8.toNat_toUInt16, Nat.shiftLeft_eq, Nat.shiftLeft_eq]
    exact Nat.mod_eq_of_lt hlt
  have hlow : y.toNat <<< 8 + z.toNat < 2 ^ width.toNat := by
    rw [Nat.shiftLeft_eq]
    omega
  rw [UInt16.toNat_or, UInt16.toNat_or, hhigh, hmiddle, UInt8.toNat_toUInt16, Nat.or_assoc,
    ← Nat.shiftLeft_add_eq_or_of_lt hz, ← Nat.shiftLeft_add_eq_or_of_lt hlow, Nat.shiftLeft_eq,
    Nat.shiftLeft_eq, Nat.add_assoc]

/-- A logical address. Values above `MAX_RAW` cannot be built. -/
structure GroupAddress where
  raw : UInt16
  raw_le : raw ≤ 0x7FFF
  deriving DecidableEq

namespace GroupAddress

def maxRaw : UInt16 := 0x7FFF

def tryFromRaw (raw : UInt16) : Except AddressError GroupAddress :=
  if h : raw ≤ 0x7FFF then .ok ⟨raw, h⟩
  else .error (.invalidRange "raw" raw.toNat maxRaw.toNat)

theorem tryFromRaw_raw (a : GroupAddress) : tryFromRaw a.raw = .ok a := by
  simp [tryFromRaw, a.raw_le]

def maxMain : UInt8 := 15

def maxMiddle : UInt8 := 7

theorem toNat_pack_of_le {main middle : UInt8} (hmain : main ≤ maxMain)
    (hmiddle : middle ≤ maxMiddle) (sub : UInt8) :
    ((main.toUInt16 <<< 11) ||| (middle.toUInt16 <<< 8) ||| sub.toUInt16).toNat =
      main.toNat * 2 ^ 11 + middle.toNat * 2 ^ 8 + sub.toNat := by
  have hm : main.toNat ≤ 15 := hmain
  have hi : middle.toNat ≤ 7 := hmiddle
  exact toNat_pack (by decide) (show main.toNat < 2 ^ 5 by omega)
    (show middle.toNat * 2 ^ 8 + 2 ^ 8 ≤ 2 ^ 11 by omega) sub

theorem raw_le_of_parts {main middle : UInt8} (hmain : main ≤ maxMain)
    (hmiddle : middle ≤ maxMiddle) (sub : UInt8) :
    (main.toUInt16 <<< 11) ||| (middle.toUInt16 <<< 8) ||| sub.toUInt16 ≤ 0x7FFF := by
  have hm : main.toNat ≤ 15 := hmain
  have hi : middle.toNat ≤ 7 := hmiddle
  have hs : sub.toNat < 256 := sub.toNat_lt
  rw [UInt16.le_iff_toNat_le, toNat_pack_of_le hmain hmiddle]
  change _ ≤ 0x7FFF
  omega

def tryNew (main middle sub : UInt8) : Except AddressError GroupAddress :=
  if hmain : main ≤ maxMain then
    if hmiddle : middle ≤ maxMiddle then
      .ok ⟨(main.toUInt16 <<< 11) ||| (middle.toUInt16 <<< 8) ||| sub.toUInt16,
        raw_le_of_parts hmain hmiddle sub⟩
    else .error (.invalidRange "middle" middle.toNat maxMiddle.toNat)
  else .error (.invalidRange "main" main.toNat maxMain.toNat)

def main (a : GroupAddress) : UInt8 := ((a.raw >>> 11) &&& 0x0F).toUInt8

def middle (a : GroupAddress) : UInt8 := ((a.raw >>> 8) &&& 0x07).toUInt8

def sub (a : GroupAddress) : UInt8 := (a.raw &&& 0xFF).toUInt8

theorem toNat_main (a : GroupAddress) : a.main.toNat = a.raw.toNat / 2 ^ 11 := by
  have hraw : a.raw.toNat ≤ 0x7FFF := a.raw_le
  have hand : a.main.toNat = (a.raw.toNat >>> 11 &&& 2 ^ 4 - 1) % 2 ^ 8 := rfl
  rw [hand, Nat.and_two_pow_sub_one_eq_mod, Nat.shiftRight_eq_div_pow]
  omega

theorem toNat_middle (a : GroupAddress) : a.middle.toNat = a.raw.toNat / 2 ^ 8 % 2 ^ 3 := by
  have hand : a.middle.toNat = (a.raw.toNat >>> 8 &&& 2 ^ 3 - 1) % 2 ^ 8 := rfl
  rw [hand, Nat.and_two_pow_sub_one_eq_mod, Nat.shiftRight_eq_div_pow]
  omega

theorem toNat_sub (a : GroupAddress) : a.sub.toNat = a.raw.toNat % 2 ^ 8 := by
  have hand : a.sub.toNat = (a.raw.toNat &&& 2 ^ 8 - 1) % 2 ^ 8 := rfl
  rw [hand, Nat.and_two_pow_sub_one_eq_mod]
  omega

theorem parts_le (a : GroupAddress) : a.main ≤ maxMain ∧ a.middle ≤ maxMiddle := by
  have hraw : a.raw.toNat ≤ 0x7FFF := a.raw_le
  rw [UInt8.le_iff_toNat_le, UInt8.le_iff_toNat_le, toNat_main, toNat_middle]
  change _ ≤ 15 ∧ _ ≤ 7
  omega

theorem tryNew_parts (a : GroupAddress) : tryNew a.main a.middle a.sub = .ok a := by
  obtain ⟨hmain, hmiddle⟩ := a.parts_le
  have hraw : (a.main.toUInt16 <<< 11) ||| (a.middle.toUInt16 <<< 8) ||| a.sub.toUInt16 =
      a.raw := by
    rw [← UInt16.toNat_inj, toNat_pack_of_le hmain hmiddle, toNat_main, toNat_middle, toNat_sub]
    omega
  rw [tryNew, dif_pos hmain, dif_pos hmiddle]
  congr

theorem parts_of_tryNew {main middle sub : UInt8} {a : GroupAddress}
    (h : tryNew main middle sub = .ok a) :
    a.main = main ∧ a.middle = middle ∧ a.sub = sub := by
  unfold tryNew at h
  split at h
  · split at h
    · rename_i hmain hmiddle
      cases h
      have hm : main.toNat ≤ 15 := hmain
      have hi : middle.toNat ≤ 7 := hmiddle
      have hs : sub.toNat < 256 := sub.toNat_lt
      rw [← UInt8.toNat_inj, ← UInt8.toNat_inj, ← UInt8.toNat_inj, toNat_main, toNat_middle,
        toNat_sub, toNat_pack_of_le hmain hmiddle]
      omega
    · cases h
  · cases h

def toString (a : GroupAddress) : String := s!"{a.main}/{a.middle}/{a.sub}"

def temperature : GroupAddress := ⟨0x0A03, by decide⟩

end GroupAddress

structure IndividualAddress where
  raw : UInt16
  deriving Repr, DecidableEq

namespace IndividualAddress

def new (area line device : UInt8) : IndividualAddress :=
  ⟨(area.toUInt16 <<< 12) ||| (line.toUInt16 <<< 8) ||| device.toUInt16⟩

def area (a : IndividualAddress) : UInt8 := ((a.raw >>> 12) &&& 0x0F).toUInt8

def line (a : IndividualAddress) : UInt8 := ((a.raw >>> 8) &&& 0x0F).toUInt8

def device (a : IndividualAddress) : UInt8 := (a.raw &&& 0xFF).toUInt8

def broadcast : IndividualAddress := ⟨0⟩

def maxArea : UInt8 := 15

def maxLine : UInt8 := 15

def tryNew (area line device : UInt8) : Except AddressError IndividualAddress :=
  if area > maxArea then .error (.invalidRange "area" area.toNat maxArea.toNat)
  else if line > maxLine then .error (.invalidRange "line" line.toNat maxLine.toNat)
  else .ok ⟨(area.toUInt16 <<< 12) ||| (line.toUInt16 <<< 8) ||| device.toUInt16⟩

theorem toNat_area (a : IndividualAddress) : a.area.toNat = a.raw.toNat / 2 ^ 12 := by
  have hraw := a.raw.toNat_lt
  have hand : a.area.toNat = (a.raw.toNat >>> 12 &&& 2 ^ 4 - 1) % 2 ^ 8 := rfl
  rw [hand, Nat.and_two_pow_sub_one_eq_mod, Nat.shiftRight_eq_div_pow]
  omega

theorem toNat_line (a : IndividualAddress) : a.line.toNat = a.raw.toNat / 2 ^ 8 % 2 ^ 4 := by
  have hand : a.line.toNat = (a.raw.toNat >>> 8 &&& 2 ^ 4 - 1) % 2 ^ 8 := rfl
  rw [hand, Nat.and_two_pow_sub_one_eq_mod, Nat.shiftRight_eq_div_pow]
  omega

theorem toNat_device (a : IndividualAddress) : a.device.toNat = a.raw.toNat % 2 ^ 8 := by
  have hand : a.device.toNat = (a.raw.toNat &&& 2 ^ 8 - 1) % 2 ^ 8 := rfl
  rw [hand, Nat.and_two_pow_sub_one_eq_mod]
  omega

theorem parts_le (a : IndividualAddress) : a.area ≤ maxArea ∧ a.line ≤ maxLine := by
  have hraw := a.raw.toNat_lt
  rw [UInt8.le_iff_toNat_le, UInt8.le_iff_toNat_le, toNat_area, toNat_line]
  change _ ≤ 15 ∧ _ ≤ 15
  omega

theorem toNat_pack_of_le {area line : UInt8} (harea : area ≤ maxArea) (hline : line ≤ maxLine)
    (device : UInt8) :
    ((area.toUInt16 <<< 12) ||| (line.toUInt16 <<< 8) ||| device.toUInt16).toNat =
      area.toNat * 2 ^ 12 + line.toNat * 2 ^ 8 + device.toNat := by
  have ha : area.toNat ≤ 15 := harea
  have hl : line.toNat ≤ 15 := hline
  exact toNat_pack (by decide) (show area.toNat < 2 ^ 4 by omega)
    (show line.toNat * 2 ^ 8 + 2 ^ 8 ≤ 2 ^ 12 by omega) device

theorem tryNew_parts (a : IndividualAddress) : tryNew a.area a.line a.device = .ok a := by
  obtain ⟨harea, hline⟩ := a.parts_le
  have hraw : (a.area.toUInt16 <<< 12) ||| (a.line.toUInt16 <<< 8) ||| a.device.toUInt16 =
      a.raw := by
    rw [← UInt16.toNat_inj, toNat_pack_of_le harea hline, toNat_area, toNat_line, toNat_device]
    omega
  rw [tryNew, if_neg (UInt8.not_lt.mpr harea), if_neg (UInt8.not_lt.mpr hline), hraw]

theorem parts_of_tryNew {area line device : UInt8} {a : IndividualAddress}
    (h : tryNew area line device = .ok a) :
    a.area = area ∧ a.line = line ∧ a.device = device := by
  unfold tryNew at h
  split at h
  · cases h
  · split at h
    · cases h
    · rename_i harea hline
      cases h
      have ha : area.toNat ≤ 15 := UInt8.not_lt.mp harea
      have hl : line.toNat ≤ 15 := UInt8.not_lt.mp hline
      have hd : device.toNat < 256 := device.toNat_lt
      rw [← UInt8.toNat_inj, ← UInt8.toNat_inj, ← UInt8.toNat_inj, toNat_area, toNat_line,
        toNat_device, toNat_pack_of_le (UInt8.not_lt.mp harea) (UInt8.not_lt.mp hline)]
      omega

def toString (a : IndividualAddress) : String := s!"{a.area}.{a.line}.{a.device}"

end IndividualAddress

inductive Address
  | group (addr : GroupAddress)
  | individual (addr : IndividualAddress)
  deriving DecidableEq

def Address.raw : Address → UInt16
  | .group addr => addr.raw
  | .individual addr => addr.raw

end Knust.Protocol
