import Knust.Foundation.Numerals
import Knust.Protocol.Address

namespace Knust.Protocol

open Foundation Foundation.Text

section Parts

variable {A : Type} {separator : Char} {format first second third : String}
  {tryNew : UInt8 → UInt8 → UInt8 → Except AddressError A} {s : Text}

def invalidAddress {α : Type} (s : Text) (reason : String) : Result α :=
  .err (.protocol (.invalidAddress (String.ofList s) reason))

def parsePart (s part : Text) (name : String) : Result UInt8 :=
  match parseU8 part with
  | some n => .ok n
  | none => invalidAddress s s!"Invalid {name} number"

def parseParts (separator : Char) (format first second third : String)
    (tryNew : UInt8 → UInt8 → UInt8 → Except AddressError A) (s : Text) : Result A :=
  match s.splitOn separator with
  | [a, b, c] => do
    let a ← parsePart s a first
    let b ← parsePart s b second
    let c ← parsePart s c third
    match tryNew a b c with
    | .ok address => .ok address
    | .error e => invalidAddress s e.toString
  | _ => invalidAddress s format

def partsText (separator : Char) (a b c : UInt8) : Text :=
  [separator].intercalate [digits a.toNat, digits b.toNat, digits c.toNat]

theorem ofList_partsText (a b c : UInt8) : String.ofList (partsText separator a b c) =
    ToString.toString a ++ String.singleton separator ++ ToString.toString b ++
      String.singleton separator ++ ToString.toString c := by
  have hpart (n : UInt8) : ToString.toString n = String.ofList (digits n.toNat) := rfl
  rw [← String.toList_inj]
  simp [partsText, hpart]

theorem mem_partsText {x : Char} {a b c : UInt8} (hx : x ∈ partsText separator a b c) :
    x.isDigit ∨ x = separator := by
  rcases mem_intercalate hx with hx | ⟨part, hpart, hx⟩
  · exact .inr hx
  · simp only [List.mem_cons, List.not_mem_nil, or_false, digits_eq_padded] at hpart
    rcases hpart with rfl | rfl | rfl <;> exact .inl (isDigit_of_mem_padded hx)

theorem parsePart_digits (s : Text) (n : UInt8) (name : String) :
    parsePart s (digits n.toNat) name = .ok n := by
  rw [parsePart, digits_eq_padded, parseU8_padded]

theorem parseParts_partsText (hseparator : separator.isDigit = false) {a b c : UInt8} {address : A}
    (h : tryNew a b c = .ok address) :
    parseParts separator format first second third tryNew (partsText separator a b c) =
      .ok address := by
  have hsplit : (partsText separator a b c).splitOn separator =
      [digits a.toNat, digits b.toNat, digits c.toNat] := by
    apply List.splitOn_intercalate
    · intro part hpart
      simp only [List.mem_cons, List.not_mem_nil, or_false, digits_eq_padded] at hpart
      rcases hpart with rfl | rfl | rfl <;> exact not_mem_padded hseparator
    · simp
  rw [parseParts, hsplit]
  simp [parsePart_digits, h]

def Spells (separator : Char) (s : Text) (a b c : UInt8) : Prop :=
  ∃ x y z, s = x ++ separator :: (y ++ separator :: z) ∧ Decimal x a.toNat ∧ Decimal y b.toNat ∧
    Decimal z c.toNat

theorem decimal_of_parsePart {part : Text} {name : String} {n : UInt8}
    (h : parsePart s part name = .ok n) : Decimal part n.toNat := by
  unfold parsePart at h
  split at h
  · cases h
    exact decimal_of_parseU8 ‹_›
  · cases h

theorem parseParts_eq_ok {address : A}
    (h : parseParts separator format first second third tryNew s = .ok address) :
    ∃ a b c, Spells separator s a b c ∧ tryNew a b c = .ok address := by
  unfold parseParts at h
  split at h
  case h_2 => cases h
  case h_1 x y z hsplit =>
    have hjoin : [separator].intercalate (s.splitOn separator) = s := List.intercalate_splitOn _
    rw [hsplit] at hjoin
    obtain ⟨a, ha, h⟩ := Outcome.bind_eq_ok.mp h
    obtain ⟨b, hb, h⟩ := Outcome.bind_eq_ok.mp h
    obtain ⟨c, hc, h⟩ := Outcome.bind_eq_ok.mp h
    refine ⟨a, b, c, ⟨x, y, z, ?_, decimal_of_parsePart ha, decimal_of_parsePart hb,
      decimal_of_parsePart hc⟩, ?_⟩
    · rw [← hjoin]
      simp
    · split at h
      · cases h
        assumption
      · cases h

end Parts

namespace GroupAddress

def fromStr : Text → Result GroupAddress :=
  parseParts '/' "Group address must have format main/middle/sub" "main group" "middle group"
    "sub group" tryNew

def text (a : GroupAddress) : Text := partsText '/' a.main a.middle a.sub

theorem toList_toString (a : GroupAddress) : a.toString.toList = a.text := by
  rw [← String.toList_ofList (l := a.text), text, ofList_partsText]
  rfl

theorem fromStr_text (a : GroupAddress) : fromStr a.text = .ok a :=
  parseParts_partsText rfl (tryNew_parts a)

end GroupAddress

namespace IndividualAddress

def fromStr : Text → Result IndividualAddress :=
  parseParts '.' "Individual address must have format area.line.device" "area" "line" "device"
    tryNew

def text (a : IndividualAddress) : Text := partsText '.' a.area a.line a.device

theorem toList_toString (a : IndividualAddress) : a.toString.toList = a.text := by
  rw [← String.toList_ofList (l := a.text), text, ofList_partsText]
  rfl

theorem fromStr_text (a : IndividualAddress) : fromStr a.text = .ok a :=
  parseParts_partsText rfl (tryNew_parts a)

end IndividualAddress

def Address.tryFrom (s : Text) : Result Address :=
  if '/' ∈ s then do
    let addr ← GroupAddress.fromStr s
    .ok (.group addr)
  else if '.' ∈ s then do
    let addr ← IndividualAddress.fromStr s
    .ok (.individual addr)
  else invalidAddress s "Address must contain either '/' (group) or '.' (individual)"

theorem separator_mem_partsText (separator : Char) (a b c : UInt8) :
    separator ∈ partsText separator a b c := by
  simp [partsText]

theorem Address.tryFrom_group (a : GroupAddress) : Address.tryFrom a.text = .ok (.group a) := by
  have hslash : '/' ∈ a.text := separator_mem_partsText _ _ _ _
  rw [Address.tryFrom, if_pos hslash, GroupAddress.fromStr_text, Outcome.ok_bind]

theorem Address.tryFrom_individual (a : IndividualAddress) :
    Address.tryFrom a.text = .ok (.individual a) := by
  have hdot : '.' ∈ a.text := separator_mem_partsText _ _ _ _
  have hslash : '/' ∉ a.text := by
    intro h
    rcases mem_partsText h with h | h <;> revert h <;> decide
  rw [Address.tryFrom, if_neg hslash, if_pos hdot, IndividualAddress.fromStr_text, Outcome.ok_bind]

/-- An address is read back from the text that it is displayed as, and whatever is read as an
address is the text of its parts, up to leading zeros and plus signs. -/
theorem address_text_read_back :
    (∀ a : GroupAddress, GroupAddress.fromStr a.toString.toList = .ok a ∧
      Address.tryFrom a.toString.toList = .ok (.group a)) ∧
    (∀ a : IndividualAddress, IndividualAddress.fromStr a.toString.toList = .ok a ∧
      Address.tryFrom a.toString.toList = .ok (.individual a)) ∧
    (∀ s a, GroupAddress.fromStr s = .ok a →
      Spells '/' s a.main a.middle a.sub ∧ a.main ≤ 15 ∧ a.middle ≤ 7 ∧
        GroupAddress.fromStr a.toString.toList = .ok a) ∧
    ∀ s a, IndividualAddress.fromStr s = .ok a →
      Spells '.' s a.area a.line a.device ∧ a.area ≤ 15 ∧ a.line ≤ 15 ∧
        IndividualAddress.fromStr a.toString.toList = .ok a := by
  simp only [GroupAddress.toList_toString, IndividualAddress.toList_toString]
  refine ⟨fun a ↦ ⟨a.fromStr_text, Address.tryFrom_group a⟩,
    fun a ↦ ⟨a.fromStr_text, Address.tryFrom_individual a⟩, fun s a h ↦ ?_, fun s a h ↦ ?_⟩
  · obtain ⟨x, y, z, hspells, hnew⟩ := parseParts_eq_ok h
    obtain ⟨rfl, rfl, rfl⟩ := GroupAddress.parts_of_tryNew hnew
    exact ⟨hspells, a.parts_le.1, a.parts_le.2, a.fromStr_text⟩
  · obtain ⟨x, y, z, hspells, hnew⟩ := parseParts_eq_ok h
    obtain ⟨rfl, rfl, rfl⟩ := IndividualAddress.parts_of_tryNew hnew
    exact ⟨hspells, a.parts_le.1, a.parts_le.2, a.fromStr_text⟩

/-- Leading zeros and a plus sign are accepted. -/
theorem address_text_read_plus :
    GroupAddress.fromStr (lit "+1/002/03") = .ok ⟨0x0A03, by decide⟩ ∧
      Spells '/' (lit "+1/002/03") 1 2 3 := by
  have h : GroupAddress.fromStr (lit "+1/002/03") = .ok ⟨0x0A03, by decide⟩ := by decide +kernel
  exact ⟨h, (address_text_read_back.2.2.1 _ _ h).1⟩

end Knust.Protocol
