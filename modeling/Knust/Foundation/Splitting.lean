import Mathlib.Data.List.DropRight
import Knust.Foundation.Text

namespace Knust.Foundation.Text

variable {p : Char → Bool} {s t u : Text} {c x : Char}

def isWhitespace (c : Char) : Bool :=
  9 ≤ c.toNat && c.toNat ≤ 13 || 0x2000 ≤ c.toNat && c.toNat ≤ 0x200A ||
    [0x20, 0x85, 0xA0, 0x1680, 0x2028, 0x2029, 0x202F, 0x205F, 0x3000].contains c.toNat

def trim (t : Text) : Text := (t.dropWhile isWhitespace).rdropWhile isWhitespace

def trimMatches (c : Char) (t : Text) : Text := (t.dropWhile (· = c)).rdropWhile (· = c)

def toAsciiLowercase (t : Text) : Text := t.map Char.toLower

def stripPrefix (s t : Text) : Option Text :=
  if s.isPrefixOf t then some (t.drop s.length) else none

def stripSuffix (s t : Text) : Option Text :=
  if s.isSuffixOf t then some (t.take (t.length - s.length)) else none

def splitOnce (p : Char → Bool) (t : Text) : Option (Text × Text) :=
  match t.dropWhile (! p ·) with
  | [] => none
  | _ :: rest => some (t.takeWhile (! p ·), rest)

def rsplitOnce (c : Char) (t : Text) : Option (Text × Text) :=
  (splitOnce (· == c) t.reverse).map fun parts ↦ (parts.2.reverse, parts.1.reverse)

def splitn : ℕ → Char → Text → List Text
  | 0, _, _ => []
  | 1, _, t => [t]
  | n + 2, c, t =>
    match splitOnce (· == c) t with
    | none => [t]
    | some (first, rest) => first :: splitn (n + 1) c rest

def dropBytes : ℕ → Text → Option Text
  | 0, t => some t
  | _ + 1, [] => none
  | n + 1, c :: t => if c.utf8Size ≤ n + 1 then dropBytes (n + 1 - c.utf8Size) t else none

def takeBytes : ℕ → Text → Option Text
  | 0, _ => some []
  | _ + 1, [] => none
  | n + 1, c :: t =>
    if c.utf8Size ≤ n + 1 then (takeBytes (n + 1 - c.utf8Size) t).map (c :: ·) else none

/-- The bytes from `first` to `last`, if they are a text of their own. -/
def get (first last : ℕ) (t : Text) : Option Text :=
  (dropBytes first t).bind (takeBytes (last - first))

theorem trim_eq_self (hfirst : ∀ c ∈ t.head?, isWhitespace c = false)
    (hlast : ∀ c ∈ t.getLast?, isWhitespace c = false) : t.trim = t := by
  have hdrop : t.dropWhile isWhitespace = t := by
    rw [List.dropWhile_eq_self_iff]
    intro hlength
    rw [Bool.not_eq_true]
    exact hfirst _ (by rw [List.head?_eq_getElem?, List.getElem?_eq_getElem hlength]; rfl)
  rw [trim, hdrop, List.rdropWhile_eq_self_iff]
  intro hne
  rw [Bool.not_eq_true]
  exact hlast _ (by rw [List.getLast?_eq_some_getLast hne]; rfl)

theorem trim_eq_self_iff : t.trim = t ↔
    (∀ c ∈ t.head?, isWhitespace c = false) ∧ ∀ c ∈ t.getLast?, isWhitespace c = false := by
  refine ⟨fun h ↦ ?_, fun h ↦ trim_eq_self h.1 h.2⟩
  have hdrop : t.dropWhile isWhitespace = t := by
    apply (List.dropWhile_suffix isWhitespace).eq_of_length_le
    have hle := (List.rdropWhile_prefix isWhitespace (t.dropWhile isWhitespace)).length_le
    rwa [← trim, h] at hle
  rw [trim, hdrop, List.rdropWhile_eq_self_iff] at h
  rw [List.dropWhile_eq_self_iff] at hdrop
  constructor
  · intro c hc
    obtain ⟨rest, rfl⟩ := List.head?_eq_some_iff.mp hc
    exact Bool.eq_false_iff.mpr (hdrop (Nat.succ_pos _))
  · intro c hc
    obtain ⟨front, rfl⟩ := List.getLast?_eq_some_iff.mp hc
    simpa using h (by simp)

theorem isInfix_trim : t.trim <:+: t :=
  (List.rdropWhile_prefix isWhitespace _).isInfix.trans (List.dropWhile_suffix isWhitespace).isInfix

theorem trim_cons (hc : isWhitespace c) : trim (c :: t) = t.trim := by
  rw [trim, List.dropWhile_cons_of_pos hc, trim]

def Solid (t : Text) : Prop := t ≠ [] ∧ t.trim = t

instance : Decidable (Solid t) := inferInstanceAs (Decidable (_ ∧ _))

theorem Solid.of_forall (hne : t ≠ []) (h : ∀ c ∈ t, isWhitespace c = false) : Solid t :=
  ⟨hne, trim_eq_self (fun c hc ↦ h c (List.mem_of_mem_head? hc))
    (fun c hc ↦ h c (List.mem_of_mem_getLast? hc))⟩

theorem Solid.append (hs : Solid s) (ht : Solid t) (u : Text) : Solid (s ++ (u ++ t)) := by
  have hfirst := (trim_eq_self_iff.mp hs.2).1
  have hlast := (trim_eq_self_iff.mp ht.2).2
  refine ⟨by simp [hs.1], trim_eq_self ?_ ?_⟩
  · rwa [List.head?_append_of_ne_nil _ hs.1]
  · rwa [← List.append_assoc, List.getLast?_append_of_ne_nil _ ht.1]

theorem Solid.append_append (hs : Solid s) (ht : Solid t) (u v : Text) :
    Solid (s ++ u ++ v ++ t) := by
  simpa only [List.append_assoc] using hs.append ht (u ++ v)

theorem Solid.trim_concat (ht : Solid t) (hc : isWhitespace c) : trim (t ++ [c]) = t := by
  obtain ⟨hfirst, hlast⟩ := trim_eq_self_iff.mp ht.2
  obtain ⟨x, rest, rfl⟩ := List.exists_cons_of_ne_nil ht.1
  have hx : ¬ isWhitespace x = true := by rw [hfirst x rfl]; exact Bool.noConfusion
  rw [trim, List.cons_append, List.dropWhile_cons_of_neg hx, ← List.cons_append,
    List.rdropWhile_concat_pos _ _ _ hc, List.rdropWhile_eq_self_iff]
  intro hne
  rw [Bool.not_eq_true]
  exact hlast _ (List.getLast?_eq_some_getLast hne)

@[simp] theorem stripPrefix_append : stripPrefix s (s ++ t) = some t := by
  simp [stripPrefix]

theorem stripPrefix_of_not_mem (h : c ∉ t) : stripPrefix (c :: s) t = none := by
  rw [stripPrefix, if_neg]
  intro hstart
  exact h ((List.isPrefixOf_iff_prefix.mp hstart).subset List.mem_cons_self)

@[simp] theorem stripSuffix_append : stripSuffix s (t ++ s) = some t := by
  simp [stripSuffix]

theorem splitOnce_append (hs : ∀ c ∈ s, p c = false) (hc : p c) :
    splitOnce p (s ++ c :: t) = some (s, t) := by
  have hdrop : (s ++ c :: t).dropWhile (! p ·) = c :: t := by
    rw [List.dropWhile_append_of_pos (by simpa using hs), List.dropWhile_cons_of_neg (by simp [hc])]
  have htake : (s ++ c :: t).takeWhile (! p ·) = s := by
    rw [List.takeWhile_append_of_pos (by simpa using hs), List.takeWhile_cons_of_neg (by simp [hc]),
      List.append_nil]
  rw [splitOnce, hdrop, htake]

theorem splitOnce_eq_none (ht : ∀ c ∈ t, p c = false) : splitOnce p t = none := by
  have hdrop : t.dropWhile (! p ·) = [] := by
    rw [List.dropWhile_eq_nil_iff]
    simpa using ht
  rw [splitOnce, hdrop]

theorem rsplitOnce_append (ht : c ∉ t) : rsplitOnce c (s ++ c :: t) = some (s, t) := by
  have hsplit : splitOnce (· == c) (t.reverse ++ c :: s.reverse) = some (t.reverse, s.reverse) :=
    splitOnce_append (by simpa using fun x hx (h : x = c) ↦ ht (h ▸ hx)) (by simp)
  simp [rsplitOnce, hsplit]

theorem rsplitOnce_eq_none (ht : c ∉ t) : rsplitOnce c t = none := by
  rw [rsplitOnce, splitOnce_eq_none, Option.map_none]
  simpa using fun x hx (h : x = c) ↦ ht (h ▸ hx)

theorem splitn_three (hs : c ∉ s) (ht : c ∉ t) :
    splitn 3 c (s ++ c :: (t ++ c :: u)) = [s, t, u] := by
  have hfirst : splitOnce (· == c) (s ++ c :: (t ++ c :: u)) = some (s, t ++ c :: u) :=
    splitOnce_append (by simpa using fun x hx (h : x = c) ↦ hs (h ▸ hx)) (by simp)
  have hsecond : splitOnce (· == c) (t ++ c :: u) = some (t, u) :=
    splitOnce_append (by simpa using fun x hx (h : x = c) ↦ ht (h ▸ hx)) (by simp)
  simp [splitn, hfirst, hsecond]

theorem mem_intercalate {parts : List Text} (hx : x ∈ [c].intercalate parts) :
    x = c ∨ ∃ part ∈ parts, x ∈ part := by
  induction parts with
  | nil => simp at hx
  | cons part parts ih =>
    cases parts with
    | nil => exact .inr ⟨part, by simp, by simpa using hx⟩
    | cons next parts =>
      rw [List.intercalate_cons_cons, List.mem_append, List.mem_append, List.mem_singleton] at hx
      rcases hx with (hx | hx) | hx
      · exact .inr ⟨part, by simp, hx⟩
      · exact .inl hx
      · rcases ih hx with hx | ⟨part', hpart', hx⟩
        · exact .inl hx
        · exact .inr ⟨part', by simp [hpart'], hx⟩

end Knust.Foundation.Text
