import Mathlib.Tactic.Ring
import Mathlib.Algebra.Order.Ring.Nat

namespace Knust.Foundation

def beEncode : ℕ → ℕ → List UInt8
  | 0, _ => []
  | n + 1, x => UInt8.ofNat (x / 256 ^ n) :: beEncode n x

def beDecode : List UInt8 → ℕ
  | [] => 0
  | b :: l => b.toNat * 256 ^ l.length + beDecode l

@[simp] theorem beEncode_length (n x : ℕ) : (beEncode n x).length = n := by
  induction n with
  | zero => rfl
  | succ n ih => simp [beEncode, ih]

theorem beDecode_lt (l : List UInt8) : beDecode l < 256 ^ l.length := by
  induction l with
  | nil => simp [beDecode]
  | cons b l ih =>
    have hb : b.toNat + 1 ≤ 256 := b.toNat_lt
    have h := Nat.mul_le_mul_right (256 ^ l.length) hb
    simp only [beDecode, List.length_cons, Nat.pow_succ]
    rw [Nat.add_mul] at h
    omega

theorem beDecode_beEncode (n x : ℕ) : beDecode (beEncode n x) = x % 256 ^ n := by
  induction n with
  | zero => simp [beEncode, beDecode, Nat.mod_one]
  | succ n ih =>
    rw [Nat.pow_succ, Nat.mod_mul, beEncode, beDecode, beEncode_length, ih, UInt8.toNat_ofNat',
      Nat.add_comm, Nat.mul_comm]

theorem beEncode_mod (n x : ℕ) : beEncode n (x % 256 ^ n) = beEncode n x := by
  induction n generalizing x with
  | zero => rfl
  | succ n ih =>
    have hd : x % 256 ^ (n + 1) / 256 ^ n = x / 256 ^ n % 256 := by
      rw [Nat.pow_succ, Nat.mod_mul_right_div_self]
    have hm : x % 256 ^ (n + 1) % 256 ^ n = x % 256 ^ n :=
      Nat.mod_mod_of_dvd _ (Nat.pow_dvd_pow _ (Nat.le_succ n))
    rw [beEncode, beEncode, hd, ← ih (x % 256 ^ (n + 1)), hm, ih x]
    congr 1
    apply UInt8.toNat_inj.mp
    simp

theorem beEncode_beDecode (l : List UInt8) : beEncode l.length (beDecode l) = l := by
  induction l with
  | nil => rfl
  | cons b l ih =>
    have hl := beDecode_lt l
    have hd : (b.toNat * 256 ^ l.length + beDecode l) / 256 ^ l.length = b.toNat := by
      rw [Nat.mul_comm, Nat.mul_add_div (Nat.pow_pos (by decide)), Nat.div_eq_of_lt hl, Nat.add_zero]
    have hm : (b.toNat * 256 ^ l.length + beDecode l) % 256 ^ l.length = beDecode l := by
      rw [Nat.mul_comm, Nat.mul_add_mod, Nat.mod_eq_of_lt hl]
    rw [List.length_cons, beEncode, beDecode, hd, UInt8.ofNat_toNat, ← beEncode_mod, hm, ih]

theorem beEncode_inj {n x y : ℕ} (h : beEncode n x = beEncode n y) : x % 256 ^ n = y % 256 ^ n := by
  rw [← beDecode_beEncode, h, beDecode_beEncode]

def u16Bytes (x : UInt16) : List UInt8 := beEncode 2 x.toNat

def u16OfBytes (hi lo : UInt8) : UInt16 := UInt16.ofNat (beDecode [hi, lo])

@[simp] theorem u16Bytes_length (x : UInt16) : (u16Bytes x).length = 2 := beEncode_length 2 _

theorem exists_u16Bytes {l : List UInt8} (h : l.length = 2) : ∃ x, l = u16Bytes x := by
  refine ⟨UInt16.ofNat (beDecode l), ?_⟩
  have hlt := beDecode_lt l
  rw [h] at hlt
  have henc := beEncode_beDecode l
  rw [h] at henc
  rw [u16Bytes, UInt16.toNat_ofNat_of_lt' (by simpa using hlt), henc]

def hiByte (x : UInt16) : UInt8 := UInt8.ofNat (x.toNat / 256)

def loByte (x : UInt16) : UInt8 := UInt8.ofNat x.toNat

theorem u16Bytes_eq (x : UInt16) : u16Bytes x = [hiByte x, loByte x] := by
  simp [u16Bytes, beEncode, hiByte, loByte]

@[simp] theorem u16OfBytes_hiByte_loByte (x : UInt16) : u16OfBytes (hiByte x) (loByte x) = x := by
  have h := beDecode_beEncode 2 x.toNat
  have hx : x.toNat < 256 ^ 2 := x.toNat_lt
  rw [Nat.mod_eq_of_lt hx, ← u16Bytes, u16Bytes_eq] at h
  rw [u16OfBytes, h, UInt16.ofNat_toNat]

@[simp] theorem u16Bytes_u16OfBytes (hi lo : UInt8) : u16Bytes (u16OfBytes hi lo) = [hi, lo] := by
  obtain ⟨x, hx⟩ := exists_u16Bytes (l := [hi, lo]) rfl
  rw [u16Bytes_eq, List.cons.injEq, List.cons.injEq] at hx
  rw [hx.1, hx.2.1, u16OfBytes_hiByte_loByte, u16Bytes_eq]

end Knust.Foundation
