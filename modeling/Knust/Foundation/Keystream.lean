import Knust.Foundation.BigEndian
import Knust.Foundation.Block

namespace Knust.Foundation

def xorBytes (a b : List UInt8) : List UInt8 := List.zipWith (· ^^^ ·) a b

@[simp] theorem xorBytes_length (a b : List UInt8) :
    (xorBytes a b).length = min a.length b.length := List.length_zipWith

theorem xorBytes_comm (a b : List UInt8) : xorBytes a b = xorBytes b a :=
  List.zipWith_comm_of_comm (fun x y ↦ UInt8.xor_comm x y)

theorem xorBytes_cancel {a mask : List UInt8} (h : a.length ≤ mask.length) :
    xorBytes (xorBytes a mask) mask = a := by
  induction a generalizing mask with
  | nil => rfl
  | cons x a ih =>
    cases mask with
    | nil => simp at h
    | cons m mask =>
      have ha : a.length ≤ mask.length := by simpa using h
      have hx : x ^^^ m ^^^ m = x := by rw [UInt8.xor_assoc, UInt8.xor_self, UInt8.xor_zero]
      simpa only [xorBytes, List.zipWith_cons_cons, hx, List.cons.injEq, true_and] using ih ha

theorem xorBytes_right_inj {a b mask : List UInt8} (ha : a.length ≤ mask.length)
    (hb : b.length ≤ mask.length) : xorBytes a mask = xorBytes b mask ↔ a = b := by
  constructor
  · intro h
    rw [← xorBytes_cancel ha, h, xorBytes_cancel hb]
  · rintro rfl
    rfl

def chunks (n : ℕ) (l : List UInt8) : List (List UInt8) :=
  (List.range ((l.length + n - 1) / n)).map fun i ↦ (l.drop (n * i)).take n

def xorPrefix : List UInt8 → List UInt8 → List UInt8
  | y :: ys, c :: cs => (y ^^^ c) :: xorPrefix ys cs
  | ys, _ => ys

@[simp] theorem xorPrefix_length (y c : List UInt8) : (xorPrefix y c).length = y.length := by
  fun_induction xorPrefix y c with
  | case1 y ys c cs ih => simp [ih]
  | case2 => rfl

/-- Cipher block chaining from a zero vector; the last block authenticates the
input. -/
def cbcMac (encrypt : Block 16 → Block 16) (data : List UInt8) : Block 16 :=
  (chunks 16 data).foldl
    (fun y chunk ↦ encrypt ⟨xorPrefix y.val chunk, (xorPrefix_length _ _).trans y.length⟩)
    (Block.zero 16)

/-- The block that `i` increments of a 128-bit big-endian counter lead to. -/
def counterBlock (counter : Block 16) (i : ℕ) : Block 16 :=
  ⟨beEncode 16 (beDecode counter.val + i), beEncode_length _ _⟩

def keystream (block : ℕ → Block 16) (n : ℕ) : List UInt8 :=
  (List.range ((n + 15) / 16)).flatMap fun i ↦ (block i).val

theorem keystream_length (block : ℕ → Block 16) (n : ℕ) :
    (keystream block n).length = (n + 15) / 16 * 16 := by
  simp [keystream, List.length_flatMap, List.map_const']

theorem le_keystream_length (block : ℕ → Block 16) (n : ℕ) :
    n ≤ (keystream block n).length := by
  rw [keystream_length]
  omega

/-- One stream applied to two buffers, the second continuing where the first one
ended. -/
def applyKeystream (block : ℕ → Block 16) (first second : List UInt8) :
    List UInt8 × List UInt8 :=
  let stream := keystream block (first.length + second.length)
  (xorBytes first stream, xorBytes second (stream.drop first.length))

section

variable (block : ℕ → Block 16) (first second : List UInt8)

theorem applyKeystream_fst_length : (applyKeystream block first second).1.length = first.length := by
  have h := le_keystream_length block (first.length + second.length)
  simp only [applyKeystream, xorBytes_length]
  omega

theorem applyKeystream_snd_length :
    (applyKeystream block first second).2.length = second.length := by
  have h := le_keystream_length block (first.length + second.length)
  simp only [applyKeystream, xorBytes_length, List.length_drop]
  omega

theorem applyKeystream_applyKeystream :
    applyKeystream block (applyKeystream block first second).1
      (applyKeystream block first second).2 = (first, second) := by
  have h := le_keystream_length block (first.length + second.length)
  have h₁ := applyKeystream_fst_length block first second
  have h₂ := applyKeystream_snd_length block first second
  rw [applyKeystream, h₁, h₂]
  refine Prod.ext (xorBytes_cancel (by omega)) (xorBytes_cancel ?_)
  rw [List.length_drop]
  omega

theorem applyKeystream_snd_congr {first' : List UInt8} (h : first'.length = first.length) :
    (applyKeystream block first' second).2 = (applyKeystream block first second).2 := by
  simp only [applyKeystream, h]

theorem take_applyKeystream_fst (n : ℕ) : (applyKeystream block first second).1.take n =
    xorBytes (first.take n) ((keystream block (first.length + second.length)).take n) :=
  List.take_zipWith

theorem applyKeystream_fst_cancel :
    (applyKeystream block (applyKeystream block first []).1 []).1 = first := by
  have hnil : (applyKeystream block first []).2 = [] :=
    List.eq_nil_of_length_eq_zero (applyKeystream_snd_length block first [])
  have h := applyKeystream_applyKeystream block first []
  rw [hnil] at h
  rw [h]

end

end Knust.Foundation
