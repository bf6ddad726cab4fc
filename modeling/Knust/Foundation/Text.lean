import Mathlib.Algebra.Order.Ring.Nat
import Mathlib.Data.List.Basic

namespace Knust.Foundation

abbrev Text := List Char

namespace Text

variable {t : Text}

/-- The text of a literal, which is unfolded only on demand. -/
@[irreducible] def lit (s : String) : Text := s.toList

def bytes (t : Text) : List UInt8 := t.flatMap String.utf8EncodeChar

def fromUtf8 (data : List UInt8) : Option Text := data.toByteArray.utf8Decode?.map Array.toList

@[simp] theorem fromUtf8_bytes (t : Text) : fromUtf8 t.bytes = some t := by
  have hencode : t.bytes.toByteArray = t.utf8Encode := rfl
  rw [fromUtf8, hencode, List.utf8Decode?_utf8Encode]
  rfl

theorem bytes_of_fromUtf8 {data : List UInt8} (h : fromUtf8 data = some t) : t.bytes = data := by
  obtain ⟨chars, hchars, rfl⟩ := Option.map_eq_some_iff.mp h
  have hsome : data.toByteArray.utf8Decode?.isSome := by rw [hchars]; rfl
  have hencode := ByteArray.utf8Encode_get_utf8Decode? (h := hsome)
  simp only [hchars, Option.get_some] at hencode
  rw [bytes, ← List.toList_data_toByteArray (l := data), ← hencode, List.utf8Encode,
    List.toList_data_toByteArray]

theorem zero_ne_ofNat {n : ℕ} (hpos : 0 < n) (hlt : n < 256) : (0 : UInt8) ≠ UInt8.ofNat n := by
  intro h
  have hnat := congrArg UInt8.toNat h
  rw [UInt8.toNat_ofNat_of_lt' hlt] at hnat
  exact absurd hnat hpos.ne

theorem zero_mem_utf8EncodeChar {c : Char} :
    (0 : UInt8) ∈ String.utf8EncodeChar c ↔ c = Char.ofNat 0 := by
  have hnull : c = Char.ofNat 0 ↔ c.val.toNat = 0 := by
    rw [Char.ext_iff, ← UInt32.toNat_inj]
    rfl
  have hlead {n base : ℕ} (hbase : 0 < base) (h : n + base < 256) :
      (0 : UInt8) ≠ UInt8.ofNat (n + base) := zero_ne_ofNat (by omega) h
  rw [hnull]
  fun_cases String.utf8EncodeChar with
  | case1 v hv =>
    rw [List.mem_singleton]
    constructor
    · intro h
      by_contra hne
      exact zero_ne_ofNat (Nat.pos_of_ne_zero hne) (by omega) h
    · intro h
      change 0 = UInt8.ofNat c.val.toNat
      rw [h]
      rfl
  | case2 v hv hv' =>
    refine ⟨fun h ↦ absurd h ?_, fun h ↦ by omega⟩
    simp only [List.mem_cons, not_or]
    exact ⟨hlead (by omega) (by omega), hlead (by omega) (by omega), List.not_mem_nil⟩
  | case3 v hv hv' hv'' =>
    refine ⟨fun h ↦ absurd h ?_, fun h ↦ by omega⟩
    simp only [List.mem_cons, not_or]
    exact ⟨hlead (by omega) (by omega), hlead (by omega) (by omega), hlead (by omega) (by omega),
      List.not_mem_nil⟩
  | case4 v hv hv' hv'' =>
    refine ⟨fun h ↦ absurd h ?_, fun h ↦ by omega⟩
    simp only [List.mem_cons, not_or]
    exact ⟨hlead (by omega) (by omega), hlead (by omega) (by omega), hlead (by omega) (by omega),
      hlead (by omega) (by omega), List.not_mem_nil⟩

theorem bytes_cons (c : Char) (t : Text) : bytes (c :: t) = String.utf8EncodeChar c ++ t.bytes :=
  rfl

theorem length_le_length_bytes (t : Text) : t.length ≤ t.bytes.length := by
  induction t with
  | nil => exact le_rfl
  | cons c t ih =>
    rw [bytes_cons, List.length_cons, List.length_append, String.length_utf8EncodeChar]
    have hpos := c.utf8Size_pos
    omega

theorem bytes_eq_map_iff {byte : Char → UInt8}
    (hbyte : ∀ c : Char, c.toNat < 128 → byte c = UInt8.ofNat c.toNat) :
    t.bytes = t.map byte ↔ ∀ c ∈ t, c.toNat < 128 := by
  have hone (c : Char) : c.utf8Size = 1 ↔ c.toNat < 128 := by
    rw [Char.utf8Size_eq_one_iff, UInt32.le_iff_toNat_le]
    exact Nat.lt_succ_iff.symm
  induction t with
  | nil => simp [bytes]
  | cons c t ih =>
    rw [bytes_cons, List.map_cons, List.forall_mem_cons]
    constructor
    · intro h
      have hlength := congrArg List.length h
      rw [List.length_append, List.length_cons, List.length_map, String.length_utf8EncodeChar]
        at hlength
      have hsize : c.utf8Size = 1 := by
        have hpos := c.utf8Size_pos
        have htail := length_le_length_bytes t
        omega
      rw [String.utf8EncodeChar_eq_singleton hsize] at h
      exact ⟨(hone c).mp hsize, ih.mp (List.cons.inj h).2⟩
    · rintro ⟨hc, ht⟩
      rw [String.utf8EncodeChar_eq_singleton ((hone c).mpr hc), ih.mpr ht, hbyte c hc]
      rfl

theorem zero_mem_bytes : (0 : UInt8) ∈ t.bytes ↔ Char.ofNat 0 ∈ t := by
  simp [bytes, zero_mem_utf8EncodeChar]

end Text

end Knust.Foundation
