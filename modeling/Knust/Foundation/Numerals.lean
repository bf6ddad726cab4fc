import Knust.Foundation.Splitting

namespace Knust.Foundation.Text

variable {t : Text} {c : Char} {n : ℕ}

def digits (n : ℕ) : Text := Nat.toDigits 10 n

def padded (width n : ℕ) : Text :=
  List.replicate (width - (digits n).length) '0' ++ digits n

def integer (n : ℤ) : Text := if n < 0 then '-' :: digits n.natAbs else digits n.natAbs

def digitValue (radix : ℕ) (c : Char) : Option ℕ :=
  let value :=
    if '0' ≤ c ∧ c ≤ '9' then c.toNat - '0'.toNat
    else if 'a' ≤ c ∧ c ≤ 'z' then c.toNat - 'a'.toNat + 10
    else if 'A' ≤ c ∧ c ≤ 'Z' then c.toNat - 'A'.toNat + 10
    else radix
  if value < radix then some value else none

def number (radix : ℕ) (t : Text) : Option ℕ :=
  if t = [] then none
  else t.foldlM (fun value c ↦ (digitValue radix c).map (value * radix + ·)) 0

/-- Reading an unsigned integer. A plus sign may stand in front. -/
def parseUnsigned (radix max : ℕ) (t : Text) : Option ℕ :=
  let body := (stripPrefix ['+'] t).getD t
  (number radix body).filter (· ≤ max)

def parseU8 (t : Text) : Option UInt8 := (parseUnsigned 10 255 t).map UInt8.ofNat

def parseU16 (t : Text) : Option UInt16 := (parseUnsigned 10 65535 t).map UInt16.ofNat

def parseSigned (bits : ℕ) (t : Text) : Option ℤ :=
  let value : Option ℤ := match stripPrefix ['-'] t with
    | some rest => (number 10 rest).map fun n ↦ -(n : ℤ)
    | none => (number 10 ((stripPrefix ['+'] t).getD t)).map fun n ↦ (n : ℤ)
  value.filter fun n ↦ -2 ^ (bits - 1) ≤ n ∧ n < 2 ^ (bits - 1)

def parseI64 (t : Text) : Option Int64 := (parseSigned 64 t).map Int64.ofInt

def debugChar (c : Char) : Text :=
  if c = Char.ofNat 0 then lit "\\0"
  else if c = '\t' then lit "\\t"
  else if c = '\r' then lit "\\r"
  else if c = '\n' then lit "\\n"
  else if c = '"' ∨ c = '\\' then ['\\', c]
  else if c.toNat < 32 ∨ 127 ≤ c.toNat ∧ c.toNat < 160 then
    lit "\\u\x7b" ++ Nat.toDigits 16 c.toNat ++ lit "\x7d"
  else [c]

/-- The text in quotation marks, with its control characters escaped. -/
def debug (t : Text) : String :=
  String.ofList ('"' :: (t.flatMap debugChar ++ ['"']))

theorem digits_eq_padded (n : ℕ) : digits n = padded 0 n := by
  simp [padded]

section padded

variable {width : ℕ}

theorem padded_ne_nil : padded width n ≠ [] :=
  List.append_ne_nil_of_right_ne_nil _ Nat.toDigits_ne_nil

theorem isDigit_of_mem_padded (h : c ∈ padded width n) : c.isDigit := by
  rcases List.mem_append.mp h with h | h
  · rw [List.eq_of_mem_replicate h]
    rfl
  · exact Nat.isDigit_of_mem_toDigits (by decide) (by decide) h

theorem not_isWhitespace_of_isDigit (h : c.isDigit) : isWhitespace c = false := by
  have hc : 48 ≤ c.toNat ∧ c.toNat ≤ 57 := Char.isDigit_iff_toNat.mp h
  simp [isWhitespace]
  omega

theorem toLower_of_isDigit (h : c.isDigit) : c.toLower = c := by
  have hc : 48 ≤ c.toNat ∧ c.toNat ≤ 57 := Char.isDigit_iff_toNat.mp h
  apply dif_neg
  intro hupper
  have hge : 65 ≤ c.toNat := UInt32.le_iff_toNat_le.mp hupper.1
  omega

theorem not_mem_padded (h : c.isDigit = false) : c ∉ padded width n := by
  intro hc
  rw [isDigit_of_mem_padded hc] at h
  exact Bool.noConfusion h

theorem solid_padded : Solid (padded width n) :=
  .of_forall padded_ne_nil fun _ hc ↦ not_isWhitespace_of_isDigit (isDigit_of_mem_padded hc)

theorem solid_integer (v : ℤ) : Solid (integer v) := by
  rw [integer, digits_eq_padded]
  split
  · exact Solid.append (s := ['-']) (by decide) solid_padded []
  · exact solid_padded

theorem mem_padded_three {x : Char} {w₁ w₂ w₃ a b e : ℕ}
    (h : c ∈ padded w₁ a ++ x :: (padded w₂ b ++ x :: padded w₃ e)) : c.isDigit ∨ c = x := by
  simp only [List.mem_append, List.mem_cons] at h
  rcases h with h | h | h | h | h
  · exact .inl (isDigit_of_mem_padded h)
  · exact .inr h
  · exact .inl (isDigit_of_mem_padded h)
  · exact .inr h
  · exact .inl (isDigit_of_mem_padded h)

theorem solid_padded_three (x : Char) {w₁ w₂ w₃ a b e : ℕ} :
    Solid (padded w₁ a ++ x :: (padded w₂ b ++ x :: padded w₃ e)) := by
  have h : Solid (padded w₁ a ++ (x :: padded w₂ b ++ [x] ++ padded w₃ e)) :=
    solid_padded.append solid_padded _
  simpa using h

theorem digitValue_of_isDigit (h : c.isDigit) : digitValue 10 c = some (c.toNat - '0'.toNat) := by
  have hc : 48 ≤ c.toNat ∧ c.toNat ≤ 57 := Char.isDigit_iff_toNat.mp h
  have hrange : '0' ≤ c ∧ c ≤ '9' :=
    ⟨UInt32.le_iff_toNat_le.mpr hc.1, UInt32.le_iff_toNat_le.mpr hc.2⟩
  have hlt : c.toNat - '0'.toNat < 10 := Nat.sub_lt_left_of_lt_add hc.1 (Nat.lt_succ_of_le hc.2)
  rw [digitValue, if_pos hrange, if_pos hlt]

theorem foldlM_digitValue (h : ∀ c ∈ t, c.isDigit) (value : ℕ) :
    t.foldlM (fun value c ↦ (digitValue 10 c).map (value * 10 + ·)) value =
      some (Nat.ofDigitChars 10 t value) := by
  induction t generalizing value with
  | nil => simp
  | cons c t ih =>
    have hdigit := digitValue_of_isDigit (h c List.mem_cons_self)
    rw [List.foldlM_cons, hdigit, Nat.ofDigitChars_cons, Nat.mul_comm 10]
    exact ih (fun x hx ↦ h x (List.mem_cons_of_mem c hx)) _

theorem number_padded : number 10 (padded width n) = some n := by
  rw [number, if_neg padded_ne_nil, foldlM_digitValue (fun _ ↦ isDigit_of_mem_padded), padded,
    Nat.ofDigitChars_append, Nat.ofDigitChars_replicate_zero, Nat.mul_zero, digits,
    Nat.ofDigitChars_ten_toDigits]

theorem parseUnsigned_padded {max : ℕ} (h : n ≤ max) :
    parseUnsigned 10 max (padded width n) = some n := by
  have hsign : stripPrefix ['+'] (padded width n) = none :=
    stripPrefix_of_not_mem (not_mem_padded rfl)
  rw [parseUnsigned, hsign, Option.getD_none, number_padded, Option.filter_some, if_pos]
  simpa using h

theorem parseU8_padded (n : UInt8) : parseU8 (padded width n.toNat) = some n := by
  rw [parseU8, parseUnsigned_padded (Nat.le_of_lt_succ n.toNat_lt), Option.map_some,
    UInt8.ofNat_toNat]

theorem parseU16_padded (n : UInt16) : parseU16 (padded width n.toNat) = some n := by
  rw [parseU16, parseUnsigned_padded (Nat.le_of_lt_succ n.toNat_lt), Option.map_some,
    UInt16.ofNat_toNat]

end padded

theorem foldlM_digitValue_eq_none {radix : ℕ} (hc : digitValue radix c = none) (h : c ∈ t)
    (value : ℕ) :
    t.foldlM (fun value c ↦ (digitValue radix c).map (value * radix + ·)) value = none := by
  induction t generalizing value with
  | nil => exact absurd h List.not_mem_nil
  | cons x t ih =>
    rw [List.foldlM_cons]
    rcases List.mem_cons.mp h with rfl | h
    · rw [hc]
      rfl
    · cases digitValue radix x with
      | none => rfl
      | some digit => exact ih h _

theorem number_eq_none {radix : ℕ} (hc : digitValue radix c = none) (h : c ∈ t) :
    number radix t = none := by
  rw [number, if_neg (List.ne_nil_of_mem h), foldlM_digitValue_eq_none hc h]

/-- The text is a decimal number, which may have leading zeros and a plus sign. -/
def Decimal (t : Text) (n : ℕ) : Prop :=
  ∃ sign ds, t = sign ++ ds ∧ (sign = [] ∨ sign = ['+']) ∧ ds ≠ [] ∧ (∀ c ∈ ds, c.isDigit) ∧
    Nat.ofDigitChars 10 ds 0 = n

theorem isDigit_of_digitValue (h : digitValue 10 c ≠ none) : c.isDigit := by
  have hrange : '0' ≤ c ∧ c ≤ '9' := by
    by_contra hno
    apply h
    rw [digitValue, if_neg hno]
    apply if_neg
    split_ifs <;> omega
  exact Char.isDigit_iff_toNat.mpr
    ⟨UInt32.le_iff_toNat_le.mp hrange.1, UInt32.le_iff_toNat_le.mp hrange.2⟩

theorem number_eq_some (h : number 10 t = some n) :
    t ≠ [] ∧ (∀ c ∈ t, c.isDigit) ∧ Nat.ofDigitChars 10 t 0 = n := by
  obtain ⟨hne, hfold⟩ := Option.ite_none_left_eq_some.mp h
  have hdigits : ∀ c ∈ t, c.isDigit := by
    intro c hc
    refine isDigit_of_digitValue fun hnone ↦ ?_
    rw [foldlM_digitValue_eq_none hnone hc] at hfold
    cases hfold
  rw [foldlM_digitValue hdigits] at hfold
  exact ⟨hne, hdigits, Option.some.inj hfold⟩

theorem decimal_of_parseUnsigned {max : ℕ} (h : parseUnsigned 10 max t = some n) :
    Decimal t n ∧ n ≤ max := by
  obtain ⟨hnumber, hle⟩ := Option.filter_eq_some_iff.mp h
  refine ⟨?_, of_decide_eq_true hle⟩
  cases hstrip : stripPrefix ['+'] t with
  | none =>
    rw [hstrip] at hnumber
    obtain ⟨hne, hdigits, hvalue⟩ := number_eq_some hnumber
    exact ⟨[], t, rfl, .inl rfl, hne, hdigits, hvalue⟩
  | some rest =>
    rw [hstrip] at hnumber
    obtain ⟨hne, hdigits, hvalue⟩ := number_eq_some hnumber
    obtain ⟨hstart, hdrop⟩ := Option.ite_none_right_eq_some.mp hstrip
    obtain ⟨tail, rfl⟩ := List.isPrefixOf_iff_prefix.mp hstart
    obtain rfl : tail = rest := by simpa using hdrop
    exact ⟨['+'], tail, rfl, .inr rfl, hne, hdigits, hvalue⟩

theorem decimal_of_parseU8 {n : UInt8} (h : parseU8 t = some n) : Decimal t n.toNat := by
  obtain ⟨v, hv, rfl⟩ := Option.map_eq_some_iff.mp h
  obtain ⟨hdecimal, hle⟩ := decimal_of_parseUnsigned hv
  rwa [UInt8.toNat_ofNat_of_lt' (Nat.lt_succ_of_le hle)]

theorem parseSigned_eq_none {bits : ℕ} (h : ' ' ∈ t) : parseSigned bits t = none := by
  have hrest {x : Char} {rest : Text} (hx : ' ' ≠ x) (hstrip : stripPrefix [x] t = some rest) :
      ' ' ∈ rest := by
    obtain ⟨hstart, hdrop⟩ := Option.ite_none_right_eq_some.mp hstrip
    obtain ⟨tail, rfl⟩ := List.isPrefixOf_iff_prefix.mp hstart
    obtain rfl : tail = rest := by simpa using hdrop
    exact (List.mem_cons.mp h).resolve_left hx
  have hblank : digitValue 10 ' ' = none := by decide
  rw [parseSigned]
  cases hminus : stripPrefix ['-'] t with
  | some rest => simp [number_eq_none hblank (hrest (by decide) hminus)]
  | none =>
    cases hplus : stripPrefix ['+'] t with
    | some rest => simp [number_eq_none hblank (hrest (by decide) hplus)]
    | none => simp [number_eq_none hblank h]

end Knust.Foundation.Text
