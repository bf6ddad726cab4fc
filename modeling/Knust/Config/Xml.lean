import Knust.Foundation.Search
import Knust.Foundation.Splitting

namespace Knust.Config

open Foundation Foundation.Text

def escapeChar (c : Char) : Text :=
  if c = '&' then lit "&amp;"
  else if c = '<' then lit "&lt;"
  else if c = '>' then lit "&gt;"
  else if c = '"' then lit "&quot;"
  else if c = '\x27' then lit "&apos;"
  else [c]

def specials : List Char := ['&', '<', '>', '"', '\x27']

def escapeXml (s : Text) : Text :=
  if s.any fun c ↦ specials.contains c then s.flatMap escapeChar else s

def unescapeXml (s : Text) : Text :=
  if '&' ∉ s then s
  else
    let s := Search.replace (lit "&lt;") ['<'] s
    let s := Search.replace (lit "&gt;") ['>'] s
    let s := Search.replace (lit "&quot;") ['"'] s
    let s := Search.replace (lit "&apos;") ['\x27'] s
    Search.replace (lit "&amp;") ['&'] s

/-- The value between the quotation marks behind the first occurrence of the name with an equality
sign. -/
def extractXmlAttribute (xml attrName : Text) : Option Text :=
  (Search.quoted '"' (attrName ++ ['=']) xml).map unescapeXml

section Escape

variable {c x : Char} {s k : Text}

theorem escapeChar_of_not_special (h : c ∉ specials) : escapeChar c = [c] := by
  simp only [specials, List.mem_cons, List.not_mem_nil, or_false, not_or] at h
  simp [escapeChar, h]

theorem escapeXml_eq_flatMap (s : Text) : escapeXml s = s.flatMap escapeChar := by
  unfold escapeXml
  split
  · rfl
  next hplain =>
    have hself : ∀ c ∈ s, escapeChar c = [c] := by
      intro c hc
      refine escapeChar_of_not_special fun hspecial ↦ hplain ?_
      exact List.any_eq_true.mpr ⟨c, hc, List.contains_iff_mem.mpr hspecial⟩
    rw [List.flatMap_congr hself, List.flatMap_singleton']

theorem mem_escapeChar (h : x ∈ escapeChar c) : x ∉ ['<', '>', '"', '\x27'] := by
  by_cases hc : c ∈ specials
  · revert x
    simp only [specials, List.mem_cons, List.not_mem_nil, or_false] at hc
    rcases hc with rfl | rfl | rfl | rfl | rfl <;> simp [escapeChar, lit]
  · rw [escapeChar_of_not_special hc, List.mem_singleton] at h
    subst h
    exact fun hx ↦ hc (List.mem_cons_of_mem _ hx)

/-- What is left of the escaped form of a character once some of the special ones are restored. -/
def partlyEscaped (restored : List Char) (c : Char) : Text :=
  if c ∈ restored then [c] else escapeChar c

theorem exists_escapeChar_eq_cons (h : c ∈ specials) : ∃ w, escapeChar c = '&' :: w ∧ '&' ∉ w := by
  simp only [specials, List.mem_cons, List.not_mem_nil, or_false] at h
  rcases h with rfl | rfl | rfl | rfl | rfl <;> simp [escapeChar, lit]

theorem not_prefix_escapeChar (hx : x ∈ specials) (hc : c ∈ specials) (hne : c ≠ x) (rest : Text) :
    ¬ escapeChar x <+: escapeChar c ++ rest := by
  simp only [specials, List.mem_cons, List.not_mem_nil, or_false] at hx hc
  rcases hx with rfl | rfl | rfl | rfl | rfl <;> rcases hc with rfl | rfl | rfl | rfl | rfl <;>
    simp [escapeChar, lit] at hne ⊢

theorem replace_partlyEscaped {restored : List Char} (hx : x ∈ specials) (hnew : x ∉ restored)
    (hamp : '&' ∉ restored) (s : Text) :
    Search.replace (escapeChar x) [x] (s.flatMap (partlyEscaped restored)) =
      s.flatMap (partlyEscaped (x :: restored)) := by
  obtain ⟨w, hw, hamp'⟩ := exists_escapeChar_eq_cons hx
  refine Search.replace_flatMap fun c _ rest ↦ ?_
  by_cases hcx : c = x
  · subst hcx
    rw [partlyEscaped, if_neg hnew, partlyEscaped, if_pos List.mem_cons_self]
    exact Search.replace_append (by simp [hw])
  have hsame : partlyEscaped (x :: restored) c = partlyEscaped restored c := by
    simp [partlyEscaped, hcx]
  rw [hsame, partlyEscaped]
  have hplain (hne : c ≠ '&') : Search.replace (escapeChar x) [x] ([c] ++ rest) =
      [c] ++ Search.replace (escapeChar x) [x] rest := by
    rw [hw]
    exact Search.replace_skip (by simpa using hne.symm)
  split
  next hrestored => exact hplain fun h ↦ hamp (h ▸ hrestored)
  next =>
    by_cases hc : c ∈ specials
    · obtain ⟨v, hv, hv'⟩ := exists_escapeChar_eq_cons hc
      have hskip := not_prefix_escapeChar hx hc hcx rest
      rw [hv, List.cons_append] at hskip
      rw [hv, List.cons_append, Search.replace_cons hskip, hw, Search.replace_skip hv',
        List.cons_append]
    · rw [escapeChar_of_not_special hc]
      exact hplain fun h ↦ hc (by simp [h, specials])

theorem unescapeXml_escapeXml (s : Text) : unescapeXml (escapeXml s) = s := by
  rw [escapeXml_eq_flatMap, unescapeXml]
  split
  next hplain =>
    have hself : ∀ c ∈ s, escapeChar c = [c] := by
      intro c hc
      refine escapeChar_of_not_special fun hspecial ↦ hplain ?_
      obtain ⟨w, hw, -⟩ := exists_escapeChar_eq_cons hspecial
      exact List.mem_flatMap.mpr ⟨c, hc, by simp [hw]⟩
    rw [List.flatMap_congr hself, List.flatMap_singleton']
  next =>
    have hstart : s.flatMap escapeChar = s.flatMap (partlyEscaped []) :=
      List.flatMap_congr fun c _ ↦ (if_neg List.not_mem_nil).symm
    have hend : s.flatMap (partlyEscaped ['&', '\x27', '"', '>', '<']) = s := by
      have hself : ∀ c ∈ s, partlyEscaped ['&', '\x27', '"', '>', '<'] c = [c] := by
        intro c _
        unfold partlyEscaped
        split
        · rfl
        next hc => exact escapeChar_of_not_special fun h ↦ hc (by simpa [specials, or_comm,
            or_left_comm, or_assoc] using h)
      rw [List.flatMap_congr hself, List.flatMap_singleton']
    change Search.replace (escapeChar '&') ['&'] (Search.replace (escapeChar '\x27') ['\x27']
      (Search.replace (escapeChar '"') ['"'] (Search.replace (escapeChar '>') ['>']
        (Search.replace (escapeChar '<') ['<'] (s.flatMap escapeChar))))) = s
    rw [hstart, replace_partlyEscaped (by decide) (by decide) (by decide),
      replace_partlyEscaped (by decide) (by decide) (by decide),
      replace_partlyEscaped (by decide) (by decide) (by decide),
      replace_partlyEscaped (by decide) (by decide) (by decide),
      replace_partlyEscaped (by decide) (by decide) (by decide), hend]

theorem mem_escapeXml (h : c ∈ escapeXml s) : c ∉ ['<', '>', '"', '\x27'] := by
  rw [escapeXml_eq_flatMap, List.mem_flatMap] at h
  obtain ⟨x, -, hc⟩ := h
  exact mem_escapeChar hc

theorem exists_escapeChar_eq_concat (h : c ∈ specials) : ∃ w, escapeChar c = w ++ [';'] := by
  have hlast : (escapeChar c).getLast? = some ';' := by
    simp only [specials, List.mem_cons, List.not_mem_nil, or_false] at h
    rcases h with rfl | rfl | rfl | rfl | rfl <;> simp [escapeChar, lit]
  exact List.getLast?_eq_some_iff.mp hlast

theorem suffix_escapeXml_iff (hk : ∀ c ∈ k, c ∉ specials ∧ c ≠ ';') :
    k <:+ escapeXml s ↔ k <:+ s := by
  rw [escapeXml_eq_flatMap]
  induction s using List.reverseRecOn generalizing k with
  | nil => rfl
  | append_singleton s c ih =>
    rw [List.flatMap_append, List.flatMap_singleton, List.suffix_concat_iff]
    by_cases hc : c ∈ specials
    · -- The word can end neither with the special character nor with the end of its escaped form.
      obtain ⟨w, hw⟩ := exists_escapeChar_eq_concat hc
      rw [hw, ← List.append_assoc, List.suffix_concat_iff]
      refine or_congr_right (iff_of_false ?_ ?_)
      · rintro ⟨k', rfl, -⟩
        exact (hk ';' List.mem_concat_self).2 rfl
      · rintro ⟨k', rfl, -⟩
        exact (hk c List.mem_concat_self).1 hc
    · rw [escapeChar_of_not_special hc, List.suffix_concat_iff]
      refine or_congr_right (exists_congr fun k' ↦ and_congr_right ?_)
      rintro rfl
      exact ih fun x hx ↦ hk x (List.mem_append_left [c] hx)

end Escape

def AttributeName (name : Text) : Prop :=
  ∀ c ∈ name, isWhitespace c = false ∧ c ∉ specials ∧ c ≠ ';'

instance (name : Text) : Decidable (AttributeName name) :=
  List.decidableBAll (fun c ↦ isWhitespace c = false ∧ c ∉ specials ∧ c ≠ ';') name

structure Attribute where
  gap : Text
  name : Text
  value : Text
  gap_ne_nil : gap ≠ []
  isWhitespace_gap : ∀ c ∈ gap, isWhitespace c = true
  attributeName : AttributeName name

namespace Attribute

def head (a : Attribute) : Text := a.gap ++ a.name ++ ['=']

def written (a : Attribute) : Text := a.head ++ '"' :: (escapeXml a.value ++ ['"'])

def pattern (a : Attribute) : Text := a.name ++ ['=']

/-- No value in front ends with the searched name and an equality sign, unless the text from there
to the next quotation mark happens to be the searched value. -/
def Undisturbed (target : Attribute) : List Attribute → Prop
  | [] => True
  | a :: others =>
    if target.pattern <:+ a.value then target.value = (others.head?.getD target).head
    else Undisturbed target others

instance decidableUndisturbed (target : Attribute) :
    ∀ others : List Attribute, Decidable (target.Undisturbed others)
  | [] => isTrue trivial
  | a :: others =>
    have := decidableUndisturbed target others
    inferInstanceAs (Decidable (if target.pattern <:+ a.value then
      target.value = (others.head?.getD target).head else target.Undisturbed others))

variable {a target : Attribute} {opening : Text}

theorem not_mem_head {c : Char} (hc : c ∈ specials) (a : Attribute) : c ∉ a.head := by
  have hgap : c ∉ a.gap := by
    intro hmem
    have hspace := a.isWhitespace_gap c hmem
    simp only [specials, List.mem_cons, List.not_mem_nil, or_false] at hc
    rcases hc with rfl | rfl | rfl | rfl | rfl <;> simp [isWhitespace] at hspace
  have hname : c ∉ a.name := fun hmem ↦ (a.attributeName c hmem).2.1 hc
  have hequal : c ≠ '=' := by
    rintro rfl
    simp [specials] at hc
  simp [head, hgap, hname, hequal]

theorem pattern_plain (a : Attribute) : ∀ c ∈ a.pattern, c ∉ specials ∧ c ≠ ';' := by
  intro c hc
  rw [pattern, List.mem_append, List.mem_singleton] at hc
  rcases hc with hc | rfl
  · exact (a.attributeName c hc).2
  · simp [specials]

theorem quote_not_mem_pattern (a : Attribute) : '"' ∉ a.pattern :=
  fun h ↦ (a.pattern_plain '"' h).1 (by simp [specials])

theorem pattern_suffix_head (a : Attribute) (opening : Text) : a.pattern <:+ opening ++ a.head := by
  rw [pattern, head, List.append_assoc, ← List.append_assoc opening]
  exact List.suffix_append (opening ++ a.gap) _

theorem name_suffix_of_pattern_suffix (h : target.pattern <:+ opening ++ a.head) :
    target.name <:+ a.name := by
  rw [pattern, head, ← List.append_assoc, List.suffix_append_self_iff, ← List.append_assoc] at h
  obtain ⟨w, x, hgap⟩ := List.eq_nil_or_concat a.gap |>.resolve_left a.gap_ne_nil
  rw [List.concat_eq_append] at hgap
  have hspace : x ∉ target.name := by
    intro hmem
    have hwhite := a.isWhitespace_gap x (by simp [hgap])
    rw [(target.attributeName x hmem).1] at hwhite
    cases hwhite
  rw [hgap, ← List.append_assoc, List.append_assoc, List.singleton_append] at h
  exact Search.suffix_of_suffix_cons hspace h

theorem written_append (a : Attribute) (t : Text) :
    a.written ++ t = a.head ++ '"' :: (escapeXml a.value ++ '"' :: t) := by
  simp [written]

theorem exists_following (target : Attribute) (others : List Attribute) (rest : Text) :
    ∃ t, others.flatMap written ++ (target.written ++ rest) =
      (others.head?.getD target).head ++ '"' :: t := by
  cases others with
  | nil => exact ⟨_, written_append target rest⟩
  | cons a others =>
    rw [List.flatMap_cons, List.append_assoc]
    exact ⟨_, written_append a _⟩

theorem quote_not_mem_escapeXml (s : Text) : '"' ∉ escapeXml s :=
  fun h ↦ mem_escapeXml h (by simp)

theorem unescapeXml_head (a : Attribute) : unescapeXml a.head = a.head :=
  if_pos (not_mem_head (by simp [specials]) a)

theorem extractXmlAttribute_name (xml : Text) (a : Attribute) :
    extractXmlAttribute xml a.name = (Search.quoted '"' a.pattern xml).map unescapeXml := rfl

theorem extractXmlAttribute_written {rest : Text} {others : List Attribute} (hopen : '"' ∉ opening)
    (hothers : ∀ a ∈ others, ¬ target.name <:+ a.name) :
    extractXmlAttribute (opening ++ (others.flatMap written ++ (target.written ++ rest)))
      target.name = some target.value ↔ target.Undisturbed others := by
  have hquote : '"' ∈ specials := by simp [specials]
  have hfront (a : Attribute) {s : Text} (hs : '"' ∉ s) : '"' ∉ s ++ a.head := by
    rw [List.mem_append, not_or]
    exact ⟨hs, not_mem_head hquote a⟩
  induction others generalizing opening with
  | nil =>
    rw [List.flatMap_nil, List.nil_append, written_append, ← List.append_assoc,
      extractXmlAttribute_name, Search.quoted_mark (hfront target hopen) (target.pattern_suffix_head opening)
        (quote_not_mem_escapeXml _), Option.map_some, unescapeXml_escapeXml]
    exact iff_of_true rfl trivial
  | cons a others ih =>
    rw [List.forall_mem_cons] at hothers
    have hskip : ¬ target.pattern <:+ opening ++ a.head :=
      fun h ↦ hothers.1 (name_suffix_of_pattern_suffix h)
    rw [List.flatMap_cons, List.append_assoc, written_append, ← List.append_assoc,
      extractXmlAttribute_name,
      Search.quoted_skip target.quote_not_mem_pattern (hfront a hopen) hskip, Undisturbed]
    have hends := suffix_escapeXml_iff (s := a.value) target.pattern_plain
    split
    next hvalue =>
      -- The closing quotation mark of this value completes the pattern.
      obtain ⟨t, ht⟩ := exists_following target others rest
      rw [ht, Search.quoted_mark (quote_not_mem_escapeXml _) (hends.mpr hvalue)
        (not_mem_head hquote _), Option.map_some, unescapeXml_head, Option.some_inj, eq_comm]
    next hvalue =>
      rw [Search.quoted_skip target.quote_not_mem_pattern (quote_not_mem_escapeXml _)
        (hvalue ∘ hends.mp)]
      exact ih List.not_mem_nil hothers.2

end Attribute

theorem escaped_attribute_extracted_iff (s : Text) :
    unescapeXml (escapeXml s) = s ∧ (∀ c ∈ escapeXml s, c ∉ ['<', '>', '"', '\x27']) ∧
      ∀ (opening rest : Text) (others : List Attribute) (target : Attribute), '"' ∉ opening →
        (∀ a ∈ others, ¬ target.name <:+ a.name) → target.value = s →
          (extractXmlAttribute (opening ++ (others.flatMap Attribute.written ++
            (target.written ++ rest))) target.name = some s ↔ target.Undisturbed others) := by
  refine ⟨unescapeXml_escapeXml s, fun c ↦ mem_escapeXml, ?_⟩
  rintro opening rest others target hopen hothers rfl
  exact Attribute.extractXmlAttribute_written hopen hothers

def createdBy (value : Text) : Attribute :=
  ⟨[' '], lit "CreatedBy", value, List.cons_ne_nil _ _, List.forall_mem_singleton.mpr (by decide),
    by decide +kernel⟩

def project (value : Text) : Attribute :=
  ⟨[' '], lit "Project", value, List.cons_ne_nil _ _, List.forall_mem_singleton.mpr (by decide),
    by decide +kernel⟩

theorem escaped_project_extracted :
    extractXmlAttribute (lit "<Keyring CreatedBy=\"R&amp;D\" Project=\"&lt;a&gt;\">")
      (lit "Project") = some (lit "<a>") := by
  have htag : lit "<Keyring CreatedBy=\"R&amp;D\" Project=\"&lt;a&gt;\">" =
      lit "<Keyring" ++ ([createdBy (lit "R&D")].flatMap Attribute.written ++
        ((project (lit "<a>")).written ++ ['>'])) := by decide +kernel
  have hread := (escaped_attribute_extracted_iff (lit "<a>")).2.2 (lit "<Keyring") ['>']
    [createdBy (lit "R&D")] (project (lit "<a>")) (by decide +kernel) (by decide +kernel) rfl
  rw [htag]
  exact hread.mpr (by decide +kernel)

theorem project_read_from_creator :
    lit "<Keyring CreatedBy=\"Project=\" Project=\"x\">" =
        lit "<Keyring" ++ ([createdBy (lit "Project=")].flatMap Attribute.written ++
          ((project (lit "x")).written ++ ['>'])) ∧
      extractXmlAttribute (lit "<Keyring CreatedBy=\"Project=\" Project=\"x\">") (lit "Project") =
        some (lit " Project=") := by
  decide +kernel

end Knust.Config
