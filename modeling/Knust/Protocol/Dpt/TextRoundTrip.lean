import Knust.Protocol.Dpt.Parse

namespace Knust.Protocol.Dpt

open Foundation Text

variable {c : Char} {t : Text} {d : DptType}

theorem solid_close : Solid (lit ")") := by
  simp only [lit, String.reduceToList]
  decide

theorem solid_wrappers :
    Solid (lit "Control(") ∧ Solid (lit "RGB(") ∧ Solid (lit "RGBW(") := by
  simp only [lit, String.reduceToList]
  decide

theorem solid_formatTime (hour minute second : UInt8) : Solid (formatTime hour minute second) :=
  solid_padded_three ':'

theorem solid_formatDate (year : UInt16) (month day : UInt8) : Solid (formatDate year month day) :=
  solid_padded_three '-'

theorem parseClock_formatTime (hour minute second : UInt8) :
    parseClock (formatTime hour minute second) =
      if hour > 23 ∨ minute > 59 ∨ second > 59 then none else some (hour, minute, second) := by
  rw [parseClock, formatTime, splitn_three (not_mem_padded rfl) (not_mem_padded rfl)]
  simp [solid_padded.2, parseU8_padded]

theorem parseCalendar_formatDate (year : UInt16) (month day : UInt8) :
    parseCalendar (formatDate year month day) =
      if (1 ≤ month ∧ month ≤ 12) ∧ 1 ≤ day ∧ day ≤ 31 then some (year, month, day) else none := by
  rw [parseCalendar, (solid_formatDate ..).2, formatDate,
    splitn_three (not_mem_padded rfl) (not_mem_padded rfl)]
  simp [parseU16_padded, parseU8_padded]

theorem weekdayName_spec {day : UInt8} (hday : day ≤ 7) :
    (day = 0 ∧ weekdayName day = none) ∨ ∃ name, weekdayName day = some name ∧ name.trim = name ∧
      '(' ∉ name ∧ ')' ∉ name ∧ weekdayNumber name = some day := by
  have hcases : ∀ n < 8, (UInt8.ofNat n = 0 ∧ weekdayName (UInt8.ofNat n) = none) ∨
      ((weekdayName (UInt8.ofNat n)).any fun name ↦ name.trim = name ∧ '(' ∉ name ∧ ')' ∉ name ∧
        weekdayNumber name = some (UInt8.ofNat n)) := by
    decide +kernel
  have h := hcases day.toNat (Nat.lt_succ_of_le (UInt8.le_iff_toNat_le.mp hday))
  rw [UInt8.ofNat_toNat] at h
  rcases h with h | h
  · exact .inl h
  · cases hname : weekdayName day with
    | none => simp [hname] at h
    | some name => exact .inr ⟨name, rfl, by simpa [hname] using h⟩

theorem splitWeekdaySuffix_withWeekday {base : Text} {day : UInt8} (hday : day ≤ 7)
    (hbase : Solid base) (hparen : '(' ∉ base) :
    splitWeekdaySuffix (withWeekday base day) = (base, day) := by
  rcases weekdayName_spec hday with ⟨rfl, hnone⟩ | ⟨name, hname, htrim, hopen, hclose, hnumber⟩
  · rw [splitWeekdaySuffix, withWeekday, hnone, rsplitOnce_eq_none hparen]
    simp [hbase.2]
  · have hopened : rsplitOnce '(' (base ++ lit " (" ++ name ++ lit ")") =
        some (base ++ [' '], name ++ [')']) := by
      have h : rsplitOnce '(' ((base ++ [' ']) ++ '(' :: (name ++ [')'])) =
          some (base ++ [' '], name ++ [')']) := rsplitOnce_append (by simpa using hopen)
      simpa [lit] using h
    have hclosed : splitOnce (· == ')') (name ++ [')']) = some (name, []) :=
      splitOnce_append (by simpa using fun x hx (h : x = ')') ↦ hclose (h ▸ hx)) rfl
    rw [splitWeekdaySuffix, withWeekday, hname]
    simp only [hopened, hclosed, htrim, hnumber, hbase.trim_concat (c := ' ') rfl,
      Option.bind_eq_bind, Option.bind_some, Option.pure_def, Option.getD_some]

theorem solid_withWeekday {base : Text} {day : UInt8} (hbase : Solid base) :
    Solid (withWeekday base day) := by
  rw [withWeekday]
  split
  · exact hbase.append_append solid_close _ _
  · exact hbase

theorem parseTime_formatted {day : UInt8} (hday : day ≤ 7) (hour minute second : UInt8) :
    parseTime (withWeekday (formatTime hour minute second) day) =
      if hour > 23 ∨ minute > 59 ∨ second > 59 then none
      else some (.time day hour minute second) := by
  have hparen : '(' ∉ formatTime hour minute second := fun h ↦ by
    rcases mem_padded_three h with h | h <;> exact absurd h (by decide)
  rw [parseTime, splitWeekdaySuffix_withWeekday hday (solid_formatTime ..) hparen]
  dsimp only
  rw [parseClock_formatTime]
  split <;> rfl

theorem parseDate_formatted (year : UInt16) (month day : UInt8) :
    parseDate (formatDate year month day) =
      if (1 ≤ month ∧ month ≤ 12) ∧ 1 ≤ day ∧ day ≤ 31 then some (.date day month year)
      else none := by
  rw [parseDate, parseCalendar_formatDate]
  split <;> rfl

theorem solid_formatDateTime (year : UInt16) (month day hour minute second : UInt8) :
    Solid (formatDateTime year month day hour minute second) :=
  (solid_formatDate ..).append (solid_formatTime ..) [' ']

theorem parseDatetime_formatted {dayOfWeek : UInt8} (hday : dayOfWeek ≤ 7) (year : UInt16)
    (month day hour minute second : UInt8) :
    parseDatetime (withWeekday (formatDateTime year month day hour minute second) dayOfWeek) =
      if ((1 ≤ month ∧ month ≤ 12) ∧ 1 ≤ day ∧ day ≤ 31) ∧
          ¬ (hour > 23 ∨ minute > 59 ∨ second > 59) then
        some (.dateTime year month day dayOfWeek hour minute second)
      else none := by
  have hparen : '(' ∉ formatDateTime year month day hour minute second := fun h ↦ by
    rcases List.mem_append.mp h with h | h
    · rcases mem_padded_three h with h | h <;> exact absurd h (by decide)
    · rcases List.mem_cons.mp h with h | h
      · exact absurd h (by decide)
      · rcases mem_padded_three h with h | h <;> exact absurd h (by decide)
  have hsplit : splitOnce (· == ' ') (formatDateTime year month day hour minute second) =
      some (formatDate year month day, formatTime hour minute second) := by
    apply splitOnce_append _ rfl
    intro c hc
    rw [beq_eq_false_iff_ne]
    rintro rfl
    rcases mem_padded_three hc with h | h <;> exact absurd h (by decide)
  rw [parseDatetime, splitWeekdaySuffix_withWeekday hday (solid_formatDateTime ..) hparen]
  dsimp only
  rw [hsplit, Option.bind_eq_bind, Option.bind_some, parseCalendar_formatDate,
    (solid_formatTime ..).2, parseClock_formatTime]
  by_cases hdate : (1 ≤ month ∧ month ≤ 12) ∧ 1 ≤ day ∧ day ≤ 31
  · by_cases htime : hour > 23 ∨ minute > 59 ∨ second > 59
    · rw [if_pos hdate, if_pos htime, if_neg (fun h ↦ h.2 htime)]
      rfl
    · rw [if_pos hdate, if_neg htime, if_pos ⟨hdate, htime⟩]
      rfl
  · simp only [hdate, false_and, if_false]
    rfl

theorem solid_symbol (unit : DptUnit) : Solid (lit unit.symbol) := by
  cases unit <;> simp only [DptUnit.symbol, lit, String.reduceToList] <;> decide

theorem solid_withUnit (ht : Solid t) : Solid (withUnit t d) := by
  rw [withUnit]
  split
  next unit _ => exact ht.append (solid_symbol unit) [' ']
  next => exact ht

theorem parseNumber_withUnit (ht : Solid t) :
    parseNumber (withUnit t d) d = Decimal.parse binary64 t := by
  rw [parseNumber, withUnit]
  cases hunit : d.unit with
  | none => simp only [ht.2]
  | some unit =>
    have hstrip : stripSuffix (lit unit.symbol) (t ++ ' ' :: lit unit.symbol) =
        some (t ++ [' ']) := by
      rw [List.append_cons]
      exact stripSuffix_append
    simp only [hstrip, Option.map_some, ht.trim_concat (c := ' ') rfl, Option.getD_some, ht.2]

theorem solid_formatNumeric (value : Binary binary64) : Solid (formatNumeric value d) := by
  rw [formatNumeric]
  split
  · exact solid_withUnit (solid_integer _)
  · exact solid_withUnit (Decimal.solid_fixed 1 value)

theorem parseI64_formatNumeric (hunit : d.unit.isSome) (value : Binary binary64) :
    parseI64 (formatNumeric value d) = none := by
  have hblank (t : Text) : ' ' ∈ withUnit t d := by
    obtain ⟨unit, hunit⟩ := Option.isSome_iff_exists.mp hunit
    simp [withUnit, hunit]
  have hmem : ' ' ∈ formatNumeric value d := by
    rw [formatNumeric]
    split <;> exact hblank _
  rw [parseI64, parseSigned_eq_none hmem, Option.map_none]

section whole

variable {v : ℤ}

theorem round_whole (hv : |v| < 2 ^ 53) : Binary.round binary64 v = .finite (v : ℚ) :=
  Binary.round_intCast (by decide) (by decide) hv

theorem toInt_whole {lo hi : ℤ} (hlo : lo ≤ v) (hhi : v ≤ hi) :
    (Binary.finite (F := binary64) v).toInt lo hi = v := by
  simp only [Binary.toInt, Int.ceil_intCast, Int.floor_intCast, ite_self]
  omega

theorem formatNumeric_whole (hv : |v| < 2 ^ 53) :
    formatNumeric (Binary.round binary64 v) d = withUnit (integer v) d := by
  obtain ⟨hlo, hhi⟩ := abs_lt.mp hv
  rw [round_whole hv, formatNumeric, toInt_whole (by omega) (by omega), if_pos]
  simp [Binary.equals, Binary.floor]

theorem parseInteger_withUnit (hv : |v| < 2 ^ 53) (hlo : (intRange d.main).1 ≤ v)
    (hhi : v ≤ (intRange d.main).2) :
    d.parseInteger (withUnit (integer v) d) = .ok (.finite (v : ℚ)) := by
  rw [DptType.parseInteger, parseNumber_withUnit (solid_integer v), Decimal.parse_integer,
    round_whole hv]
  simp [Binary.below, Binary.above, hlo, hhi]

end whole

def Distinct (labels : String × String) : Prop :=
  (Solid (lit labels.1) ∧ Solid (lit labels.2)) ∧
    toAsciiLowercase (lit labels.2) ≠ toAsciiLowercase (lit labels.1) ∧
    ¬ lit "control(" <+: toAsciiLowercase (lit labels.1) ∧
    ¬ lit "control(" <+: toAsciiLowercase (lit labels.2)

instance {labels : String × String} : Decidable (Distinct labels) :=
  inferInstanceAs (Decidable (_ ∧ _))

theorem distinct_boolLabels (d : DptType) : Distinct (boolLabels d) := by
  unfold boolLabels
  split <;> simp only [Distinct, lit, String.reduceToList] <;> decide

theorem solid_boolLabel (value : Bool) : Solid (boolLabel value d) := by
  cases value with
  | true => exact (distinct_boolLabels d).1.1
  | false => exact (distinct_boolLabels d).1.2

theorem parseBool_boolLabel (value : Bool) : parseBool (boolLabel value d) d = some value := by
  have hne : toAsciiLowercase (boolLabel false d) ≠ toAsciiLowercase (boolLabel true d) :=
    (distinct_boolLabels d).2.1
  cases value with
  | true => rw [parseBool, if_pos rfl]
  | false => rw [parseBool, if_neg hne, if_pos rfl]

theorem parseBool_control : parseBool (lit "Control(" ++ t) d = none := by
  have hlower : toAsciiLowercase (lit "Control(" ++ t) =
      lit "control(" ++ toAsciiLowercase t := by
    simp [toAsciiLowercase, lit]
  have hlabel (value : Bool) :
      lit "control(" ++ toAsciiLowercase t ≠ toAsciiLowercase (boolLabel value d) := by
    obtain ⟨-, -, hyes, hno⟩ := distinct_boolLabels d
    intro h
    cases value with
    | true => exact hyes ⟨_, h⟩
    | false => exact hno ⟨_, h⟩
  rw [parseBool, hlower, if_neg (hlabel true), if_neg (hlabel false)]
  simp [lit]

theorem parseBool_formatBinaryControl (control value : Bool) (d' : DptType) :
    parseBool (formatBinaryControl control value d) d' = none := by
  rw [formatBinaryControl, List.append_assoc]
  exact parseBool_control

theorem solid_formatScene (number : UInt8) : Solid (formatScene number) := by
  have hlit : lit "Scene " = ['S'] ++ lit "cene " := by simp [lit]
  rw [formatScene, digits_eq_padded, hlit, List.append_assoc]
  exact Solid.append (by decide) solid_padded _

theorem parseSceneNumber_formatScene {number : UInt8} (h : 1 ≤ number ∧ number ≤ 64) :
    parseSceneNumber (formatScene number) = some number := by
  rw [parseSceneNumber, (solid_formatScene _).2, formatScene, stripPrefix_append, Option.some_or,
    Option.getD_some, digits_eq_padded, solid_padded.2, parseU8_padded, Option.bind_eq_bind,
    Option.bind_some, if_pos h]

theorem solid_formatSceneControl (number : UInt8) (learn : Bool) :
    Solid (formatSceneControl number learn) := by
  rw [formatSceneControl]
  exact (solid_formatScene number).append_append solid_close _ _

theorem parseSceneControl_formatSceneControl {number : UInt8} (h : 1 ≤ number ∧ number ≤ 64)
    (learn : Bool) :
    parseSceneControl (formatSceneControl number learn) = some (.sceneControl number learn) := by
  let action : String := if learn then "learn" else "activate"
  have haction : '(' ∉ lit action ∧
      decide (toAsciiLowercase (trim (lit action)) = lit "learn") = learn := by
    cases learn <;> simp only [action, lit, if_true, if_false, Bool.false_eq_true,
      String.reduceToList] <;> decide
  have hstrip : stripSuffix [')'] (formatSceneControl number learn) =
      some (formatScene number ++ [' '] ++ '(' :: lit action) := by
    rw [← stripSuffix_append (s := [')'])]
    simp [formatSceneControl, action, lit]
  rw [parseSceneControl, (solid_formatSceneControl ..).2, hstrip, Option.bind_some,
    rsplitOnce_append haction.1]
  dsimp only
  rw [(solid_formatScene _).trim_concat rfl, parseSceneNumber_formatScene h, haction.2]
  rfl

theorem mem_commaList {ts : List Text} (h : c ∈ commaList ts) :
    (∃ t ∈ ts, c ∈ t) ∨ c = ',' ∨ c = ' ' := by
  fun_induction commaList ts with
  | case1 => exact absurd h List.not_mem_nil
  | case2 t => exact .inl ⟨t, List.mem_singleton_self t, h⟩
  | case3 t rest hrest ih =>
    rcases List.mem_append.mp h with h | h
    · rcases List.mem_append.mp h with h | h
      · exact .inl ⟨t, List.mem_cons_self, h⟩
      · exact .inr (by simpa [lit] using h)
    · rcases ih h with ⟨t', ht', h⟩ | h
      · exact .inl ⟨t', List.mem_cons_of_mem t ht', h⟩
      · exact .inr h

theorem map_trim_splitOn_blank : ((' ' :: t).splitOn ',').map trim = (t.splitOn ',').map trim := by
  rw [List.splitOn_cons_eq_if_modifyHead, if_neg (by decide)]
  cases h : t.splitOn ',' with
  | nil => exact absurd h (List.splitOn_ne_nil _ _)
  | cons first rest => rw [List.modifyHead_cons, List.map_cons, List.map_cons, trim_cons rfl]

theorem map_trim_splitOn_commaList {ts : List Text} (hne : ts ≠ [])
    (hts : ∀ t ∈ ts, Solid t ∧ ',' ∉ t) : ((commaList ts).splitOn ',').map trim = ts := by
  fun_induction commaList ts with
  | case1 => exact absurd rfl hne
  | case2 t =>
    obtain ⟨hsolid, hcomma⟩ := hts t (List.mem_singleton_self t)
    rw [List.splitOn_eq_singleton hcomma, List.map_singleton, hsolid.2]
  | case3 t rest hrest ih =>
    obtain ⟨hsolid, hcomma⟩ := hts t List.mem_cons_self
    have hblank : t ++ lit ", " ++ commaList rest = t ++ ',' :: ' ' :: commaList rest := by
      simp [lit]
    rw [hblank, List.splitOn_append_cons_self_of_not_mem hcomma, List.map_cons, hsolid.2,
      map_trim_splitOn_blank, ih ?_ ?_]
    · rintro rfl
      exact hrest rfl
    · exact fun t' ht' ↦ hts t' (List.mem_cons_of_mem t ht')

section wrapped

variable {wrapper inner : Text}

theorem solid_wrapped (hwrapper : Solid wrapper) : Solid (wrapper ++ inner ++ lit ")") := by
  rw [List.append_assoc]
  exact hwrapper.append solid_close inner

theorem stripWrapper_wrapped (hwrapper : Solid wrapper) :
    stripWrapper (wrapper ++ inner ++ lit ")") wrapper = inner := by
  have hlit : lit ")" = [')'] := by simp [lit]
  rw [stripWrapper, (solid_wrapped hwrapper).2, List.append_assoc, stripPrefix_append,
    Option.bind_some, hlit, stripSuffix_append, Option.getD_some]

end wrapped

theorem split_numbers (ns : List ℕ) (hne : ns ≠ []) :
    stripPrefix ['#'] (commaList (ns.map digits)) = none ∧
      ((commaList (ns.map digits)).splitOn ',').map trim = ns.map digits := by
  have hdigits {x : Char} (hx : x.isDigit = false) {t : Text} (ht : t ∈ ns.map digits) : x ∉ t := by
    obtain ⟨n, -, rfl⟩ := List.mem_map.mp ht
    rw [digits_eq_padded]
    exact not_mem_padded hx
  constructor
  · apply stripPrefix_of_not_mem
    intro h
    rcases mem_commaList h with ⟨t, ht, h⟩ | h
    · exact hdigits rfl ht h
    · exact absurd h (by decide)
  · apply map_trim_splitOn_commaList (by simpa using hne)
    intro t ht
    refine ⟨?_, hdigits rfl ht⟩
    obtain ⟨n, -, rfl⟩ := List.mem_map.mp ht
    rw [digits_eq_padded]
    exact solid_padded

theorem parseU8_digits (n : UInt8) : parseU8 (digits n.toNat) = some n := by
  rw [digits_eq_padded, parseU8_padded]

theorem parseRgb_formatRgb (r g b : UInt8) :
    parseRgb (formatRgb r g b) = some (.colorRGB r g b) := by
  obtain ⟨hhash, hsplit⟩ := split_numbers [r.toNat, g.toNat, b.toNat] (by simp)
  rw [parseRgb, formatRgb, stripWrapper_wrapped solid_wrappers.2.1]
  simp only [List.map_cons, List.map_nil] at hhash hsplit
  simp [hhash, hsplit, parseU8_digits]

theorem parseRgbw_formatRgbw (r g b w : UInt8) :
    parseRgbw (formatRgbw r g b w) = some (.colorRGBW r g b w) := by
  obtain ⟨hhash, hsplit⟩ := split_numbers [r.toNat, g.toNat, b.toNat, w.toNat] (by simp)
  rw [parseRgbw, formatRgbw, stripWrapper_wrapped solid_wrappers.2.2]
  simp only [List.map_cons, List.map_nil] at hhash hsplit
  simp [hhash, hsplit, parseU8_digits]

theorem parseEnum_hvacMode {value : UInt8} (h : value ≤ 4) :
    Solid (formatHvacMode value) ∧ parseEnum (formatHvacMode value) .hvacMode = some value := by
  have hcases : ∀ n < 5, Solid (formatHvacMode (UInt8.ofNat n)) ∧
      parseEnum (formatHvacMode (UInt8.ofNat n)) .hvacMode = some (UInt8.ofNat n) := by
    decide +kernel
  have hvalue := hcases value.toNat (Nat.lt_succ_of_le (UInt8.le_iff_toNat_le.mp h))
  rwa [UInt8.ofNat_toNat] at hvalue

theorem parseEnum_hvacContrMode {value : UInt8} (h : value ≤ 17 ∨ value = 20) :
    Solid (formatHvacContrMode value) ∧
      parseEnum (formatHvacContrMode value) .hvacContrMode = some value := by
  have hcases : ∀ n < 21, n ≤ 17 ∨ n = 20 → Solid (formatHvacContrMode (UInt8.ofNat n)) ∧
      parseEnum (formatHvacContrMode (UInt8.ofNat n)) .hvacContrMode = some (UInt8.ofNat n) := by
    decide +kernel
  have hnat : value.toNat ≤ 17 ∨ value.toNat = 20 :=
    h.imp UInt8.le_iff_toNat_le.mp (congrArg UInt8.toNat)
  have hvalue := hcases value.toNat (by omega) hnat
  rwa [UInt8.ofNat_toNat] at hvalue

theorem parseControl3_formatStep {stepCode : UInt8} (h : stepCode ≤ 7) (increase : Bool) :
    parseControl3 (formatStep increase stepCode) = none := by
  have hcases : ∀ n < 8, ∀ increase : Bool,
      parseControl3 (formatStep increase (UInt8.ofNat n)) = none := by
    decide +kernel
  have hstep := hcases stepCode.toNat (Nat.lt_succ_of_le (UInt8.le_iff_toNat_le.mp h)) increase
  rwa [UInt8.ofNat_toNat] at hstep

end Knust.Protocol.Dpt
