import Mathlib.Algebra.Order.Ring.Nat
import Mathlib.Data.List.Basic

namespace Knust.Foundation

variable {ε ε' α β γ : Type}

/-- The result of a fallible computation whose task can also abort, as it does
when a slice is read out of bounds. -/
inductive Outcome (ε α : Type)
  | ok (a : α)
  | err (e : ε)
  | panic
  deriving Repr, DecidableEq

namespace Outcome

def bind : Outcome ε α → (α → Outcome ε β) → Outcome ε β
  | .ok a, f => f a
  | .err e, _ => .err e
  | .panic, _ => .panic

instance : Monad (Outcome ε) where
  pure := .ok
  bind := bind

@[simp] theorem pure_def (a : α) : (pure a : Outcome ε α) = .ok a := rfl

@[simp] theorem ok_bind (a : α) (f : α → Outcome ε β) : (Outcome.ok a >>= f) = f a := rfl

@[simp] theorem err_bind (e : ε) (f : α → Outcome ε β) :
    ((Outcome.err e : Outcome ε α) >>= f) = .err e := rfl

@[simp] theorem panic_bind (f : α → Outcome ε β) :
    ((Outcome.panic : Outcome ε α) >>= f) = .panic := rfl

instance : LawfulMonad (Outcome ε) := LawfulMonad.mk' _ (fun x ↦ by cases x <;> rfl)
  (fun _ _ ↦ rfl) (fun x _ _ ↦ by cases x <;> rfl)

variable {x : Outcome ε α} {f : α → Outcome ε β}

theorem bind_eq_ok {b : β} : (x >>= f) = .ok b ↔ ∃ a, x = .ok a ∧ f a = .ok b := by
  cases x <;> simp

@[simp] theorem map_ok (f : α → β) (a : α) : f <$> (.ok a : Outcome ε α) = .ok (f a) := rfl

theorem map_eq_ok {f : α → β} {b : β} : f <$> x = .ok b ↔ ∃ a, x = .ok a ∧ f a = b := by
  cases x with
  | ok a => simp
  | err e => exact ⟨nofun, nofun⟩
  | panic => exact ⟨nofun, nofun⟩

theorem ok_ne_panic (a : α) : (.ok a : Outcome ε α) ≠ .panic := by simp

theorem err_ne_panic (e : ε) : (.err e : Outcome ε α) ≠ .panic := by simp

theorem ite_ne_panic {p : Prop} [Decidable p] {y : Outcome ε α} (hx : x ≠ .panic)
    (hy : y ≠ .panic) : (if p then x else y) ≠ .panic := by
  split
  · exact hx
  · exact hy

theorem bind_ne_panic (hx : x ≠ .panic) (hf : ∀ a, x = .ok a → f a ≠ .panic) :
    (x >>= f) ≠ .panic := by
  cases x with
  | ok a => exact hf a rfl
  | err e => simp
  | panic => exact absurd rfl hx

def isOk : Outcome ε α → Bool
  | .ok _ => true
  | _ => false

theorem isOk_iff : x.isOk = true ↔ ∃ a, x = .ok a := by
  cases x <;> simp [isOk]

def value? : Outcome ε α → Option α
  | .ok a => some a
  | _ => none

theorem value?_eq_some {a : α} : x.value? = some a ↔ x = .ok a := by
  cases x <;> simp [value?]

def toOption : Outcome ε α → Outcome ε' (Option α)
  | .ok a => .ok (some a)
  | .err _ => .ok none
  | .panic => .panic

@[simp] theorem toOption_ok (a : α) :
    (toOption (.ok a : Outcome ε α) : Outcome ε' _) = .ok (some a) := rfl

end Outcome

def index (data : List α) (i : ℕ) : Outcome ε α :=
  match data[i]? with
  | some a => .ok a
  | none => .panic

def sliceFrom (data : List α) (lo : ℕ) : Outcome ε (List α) :=
  if lo ≤ data.length then .ok (data.drop lo) else .panic

def slice (data : List α) (lo hi : ℕ) : Outcome ε (List α) :=
  if lo ≤ hi ∧ hi ≤ data.length then .ok ((data.drop lo).take (hi - lo)) else .panic

variable {data : List α} {lo : ℕ}

theorem index_eq_ok {i : ℕ} {a : α} : (index data i : Outcome ε α) = .ok a ↔ data[i]? = some a := by
  cases h : data[i]? <;> simp [index, h]

theorem sliceFrom_of_le (h : lo ≤ data.length) :
    (sliceFrom data lo : Outcome ε (List α)) = .ok (data.drop lo) := if_pos h

theorem slice_of_le {hi : ℕ} (h : lo ≤ hi) (h' : hi ≤ data.length) :
    (slice data lo hi : Outcome ε (List α)) = .ok ((data.drop lo).take (hi - lo)) :=
  if_pos ⟨h, h'⟩

theorem index_append (front rest : List α) (i : ℕ) :
    (index (front ++ rest) (front.length + i) : Outcome ε α) = index rest i := by
  rw [index, index, List.getElem?_append_right (Nat.le_add_right _ _), Nat.add_sub_cancel_left]

theorem slice_append (front rest : List α) (lo hi : ℕ) :
    (slice (front ++ rest) (front.length + lo) (front.length + hi) : Outcome ε (List α)) =
      slice rest lo hi := by
  have hd : List.drop (front.length + lo) (front ++ rest) = List.drop lo rest := by
    rw [List.drop_append, List.drop_eq_nil_of_le (Nat.le_add_right _ _), Nat.add_sub_cancel_left,
      List.nil_append]
  simp only [slice, hd, Nat.add_sub_add_left, List.length_append, Nat.add_le_add_iff_left]

theorem slice_eq_ok {l : List α} {hi : ℕ} :
    (slice data lo hi : Outcome ε (List α)) = .ok l ↔
      (lo ≤ hi ∧ hi ≤ data.length) ∧ (data.drop lo).take (hi - lo) = l := by
  by_cases h : lo ≤ hi ∧ hi ≤ data.length <;> simp [slice, h]

theorem index_ne_panic {i : ℕ} (h : i < data.length) : (index data i : Outcome ε α) ≠ .panic := by
  simp [index, List.getElem?_eq_getElem h]

theorem sliceFrom_ne_panic (h : lo ≤ data.length) :
    (sliceFrom data lo : Outcome ε (List α)) ≠ .panic := by
  simp [sliceFrom_of_le h]

theorem slice_ne_panic {hi : ℕ} (h : lo ≤ hi) (h' : hi ≤ data.length) :
    (slice data lo hi : Outcome ε (List α)) ≠ .panic := by
  simp [slice_of_le h h']

theorem length_of_slice {l : List α} {hi : ℕ}
    (h : (slice data lo hi : Outcome ε (List α)) = .ok l) : l.length = hi - lo := by
  obtain ⟨⟨hlo, hhi⟩, rfl⟩ := slice_eq_ok.mp h
  simp only [List.length_take, List.length_drop]
  omega

theorem slice_middle (front rest : List α) {mid : List α} {hi : ℕ}
    (hd : data = front ++ (mid ++ rest)) (hlo : front.length = lo) (hhi : lo + mid.length = hi) :
    (slice data lo hi : Outcome ε (List α)) = .ok mid := by
  subst hd hlo hhi
  rw [slice_of_le (Nat.le_add_right _ _) (by simp), List.drop_left, Nat.add_sub_cancel_left,
    List.take_left]

end Knust.Foundation
