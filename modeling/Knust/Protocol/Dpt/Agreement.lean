import Knust.Protocol.Dpt.Typed

namespace Knust.Protocol.Dpt

open Foundation Foundation.Text

def DptView.integer : DptView → Option ℤ
  | .u8 raw => some (unsigned raw)
  | .i8 raw => some (signed raw)
  | .u16 raw => some (unsigned raw)
  | .i16 raw => some (signed raw)
  | .u32 raw => some (unsigned raw)
  | .i32 raw => some (signed raw)
  | .i64 raw => some (signed raw)
  | _ => none

def DptView.learn : DptView → Option Bool
  | .scene raw => some (SceneView.learn raw)
  | _ => none

structure TypedCodec where
  Value : Type
  /-- What a constructor has returned. -/
  Constructed : Value → Prop
  asBytes : Value → List UInt8
  /-- What a view has to show. -/
  Shown : Value → DptView → Prop
  /-- The values that are shown, as it turns out. -/
  Plain : Value → Prop

namespace TypedCodec

def ofBytes {n : ℕ} (Constructed : Block n → Prop) (Shown : Block n → DptView → Prop) :
    TypedCodec where
  Value := Block n
  Constructed := Constructed
  asBytes := Subtype.val
  Shown := Shown
  Plain _ := True

def ofHeld {F : Type} (Constructed : Held F → Prop) (Shown : F → DptView → Prop) : TypedCodec where
  Value := Held F
  Constructed := Constructed
  asBytes := Held.data
  Shown v := Shown v.fields
  Plain _ := True

end TypedCodec

/-- The characters that both codecs write as one and the same byte. -/
def PlainText (t : Text) : Prop := ∀ c ∈ t, 0 < c.toNat ∧ c.toNat < 128

namespace TypedDpt

open TypedCodec

def codec : TypedDpt → TypedCodec
  | .switch => ofBytes (∃ value, Switch.new value = ·)
      fun v view ↦ view.toPayload = .bool (Switch.value v)
  | .binaryControl => ofBytes (∃ control value, BinaryControl.new control value = ·)
      fun v view ↦ view.toPayload = .binaryControl (BinaryControl.control v) (BinaryControl.value v)
  | .controlDimming => ofBytes (∃ control code, ControlDimming.new control code = .ok ·)
      fun v view ↦ view.toPayload = .control (stepControl v) (stepCode v)
  | .controlBlinds => ofBytes (∃ control code, ControlBlinds.new control code = .ok ·)
      fun v view ↦ view.toPayload = .control (stepControl v) (stepCode v)
  | .scaling => ofBytes (∃ value, Scaling.new value = ·)
      fun v view ↦ view.integer = some ((Scaling.value v).toNat : ℤ)
  | .percentV8 => ofBytes (∃ value, PercentV8.new value = ·)
      fun v view ↦ view.integer = some (PercentV8.value v).toInt
  | .value1Count => ofBytes (∃ value, Value1Count.new value = ·)
      fun v view ↦ view.integer = some (Value1Count.value v).toInt
  | .value2ByteUnsigned => ofBytes (∃ value, Value2ByteUnsigned.new value = ·)
      fun v view ↦ view.integer = some ((Value2ByteUnsigned.value v).toNat : ℤ)
  | .brightness => ofBytes (∃ value, Brightness.new value = ·)
      fun v view ↦ view.integer = some ((Brightness.value v).toNat : ℤ)
  | .value2ByteSigned => ofBytes (∃ value, Value2ByteSigned.new value = ·)
      fun v view ↦ view.integer = some (Value2ByteSigned.value v).toInt
  | .percentV16 =>
    { ofBytes (∃ value, DPTPercentV16.new value = .ok ·)
        fun v view ↦ ∃ shown, view.integer = some shown ∧
          Binary.finite shown = DPTPercentV16.value v with
      Plain := fun v ↦ v = Value2ByteSigned.new 0 }
  | .timeOfDay => ofHeld (∃ day hour minute second, TimeOfDay.new day hour minute second = .ok ·)
      fun v view ↦ view.toPayload = .time v.day v.hour v.minute v.second
  | .date => ofHeld (∃ day month year, Date.new day month year = .ok ·)
      -- The year is the one between 1990 and 2089 with the two last digits that the value has.
      fun v view ↦ ∃ year, view.toPayload = .date v.day v.month year ∧
        1990 ≤ year ∧ year ≤ 2089 ∧ year.toNat % 100 = v.year.toNat
  | .value4ByteUnsigned => ofBytes (∃ value, Value4ByteUnsigned.new value = ·)
      fun v view ↦ view.integer = some ((Value4ByteUnsigned.value v).toNat : ℤ)
  | .value4ByteSigned => ofBytes (∃ value, Value4ByteSigned.new value = ·)
      fun v view ↦ view.integer = some (Value4ByteSigned.value v).toInt
  | .activeEnergy => ofBytes (∃ value, ActiveEnergy.new value = ·)
      fun v view ↦ view.integer = some (ActiveEnergy.value v).toInt
  | .stringAscii =>
    { Value := StringAscii
      Constructed := fun v ↦ ∃ value, StringAscii.new value = .ok v
      asBytes := StringAscii.payload
      Shown := fun v view ↦ view.toPayload = .string v.value
      Plain := fun v ↦ PlainText v.value }
  | .stringLatin1 =>
    { Value := StringLatin1
      Constructed := fun v ↦ ∃ value, StringLatin1.new value = .ok v
      asBytes := StringLatin1.payload
      Shown := fun v view ↦ view.toPayload = .string v.value
      Plain := fun v ↦ PlainText v.value }
  | .sceneNumber => ofHeld (∃ number, SceneNumber.new number = .ok ·)
      fun v view ↦ view.toPayload = .scene v
  | .sceneControl => ofHeld (∃ number learn, SceneControl.new number learn = .ok ·)
      fun v view ↦ view.toPayload = .scene v.sceneNumber ∧ view.learn = some v.learn
  | .dateTime =>
    { ofHeld Structured.Constructed
        fun (v : DateTime) view ↦ view.toPayload = .dateTime (v.year.toUInt16 + 1900) v.month v.day
          v.dayOfWeek v.hour v.minute v.second with
      Plain := fun v ↦ v.fields.blanked = v.fields }
  | .hvacMode => ofHeld (∃ value, HVACMode.new value = .ok ·)
      fun v view ↦ view.toPayload = .enum v
  | .hvacControllerMode => ofHeld (∃ value, HVACControllerMode.new value = .ok ·)
      fun v view ↦ view.toPayload = .enum v
  | .activeEnergy8Byte => ofHeld (∃ value, ActiveEnergy8Byte.new value = ·)
      fun v view ↦ view.integer = some v.toInt
  | .colorRGB => ofHeld (∃ red green blue, ColorRGB.new red green blue = ·)
      fun v view ↦ view.toPayload = .colorRGB v.red v.green v.blue
  | .tariffActiveEnergy =>
    -- No view has a tariff, so that only the energy is asked for.
    { ofHeld Structured.Constructed
        fun (v : TariffActiveEnergy) view ↦ view.integer = some v.energy.toInt with
      Plain := fun _ ↦ False }
  | .colorRGBW =>
    { ofHeld Structured.Constructed
        fun (v : ColorRGBW) view ↦ view.toPayload = .colorRGBW v.red v.green v.blue v.white with
      Plain := fun v ↦ Structured.visible v.fields = v.fields }

end TypedDpt

namespace TypedCodec

variable {n k : ℕ} {numbers : List String} {view : Block n → DptView}

/-- The runtime type of each number shows a value that was constructed exactly if it is plain. -/
def Agrees (c : TypedCodec) (numbers : List String) : Prop :=
  ∀ number ∈ numbers, ∀ v, c.Constructed v →
    ∃ d, (DptType.fromStr (lit number)).value = some d ∧
      ((∃ view, d.decodeRef (c.asBytes v) = .ok view ∧ c.Shown v view) ↔ c.Plain v)

def Numbered (numbers : List String) (k : ℕ) : Prop :=
  ∀ number ∈ numbers, (DptType.fromStr (lit number)).value.map DptType.main = some k

instance : Decidable (Numbered numbers k) := inferInstanceAs (Decidable (∀ _ ∈ _, _))

theorem Agrees.of_layout {c : TypedCodec} (hnumbers : Numbered numbers k)
    (hlayout : Layout k n view)
    (h : ∀ v, c.Constructed v →
      ∃ raw : Block n, c.asBytes v = raw.val ∧ (c.Shown v (view raw) ↔ c.Plain v)) :
    c.Agrees numbers := by
  intro number hnumber v hv
  obtain ⟨d, hd, hmain⟩ := Option.map_eq_some_iff.mp (hnumbers number hnumber)
  obtain ⟨raw, hbytes, hshown⟩ := h v hv
  have hread := DptType.decodeRef_of_layout hmain hlayout raw
  refine ⟨d, hd, ?_⟩
  rw [hbytes, hread, ← hshown]
  constructor
  · rintro ⟨shown, heq, hshows⟩
    cases heq
    exact hshows
  · exact fun hshows ↦ ⟨_, rfl, hshows⟩

theorem ofBytes_agrees {Constructed : Block n → Prop} {Shown : Block n → DptView → Prop}
    (hnumbers : Numbered numbers k) (hlayout : Layout k n view)
    (h : ∀ raw, Shown raw (view raw)) : (ofBytes Constructed Shown).Agrees numbers :=
  .of_layout hnumbers hlayout fun v _ ↦ ⟨v, rfl, iff_of_true (h v) trivial⟩

theorem ofHeld_agrees {F : Type} {Constructed : Held F → Prop} {Shown : F → DptView → Prop}
    (hnumbers : Numbered numbers k) (hlayout : Layout k n view)
    (h : ∀ v, Constructed v → ∃ raw : Block n, v.data = raw.val ∧ Shown v.fields (view raw)) :
    (ofHeld Constructed Shown).Agrees numbers := by
  refine .of_layout hnumbers hlayout fun v hv ↦ ?_
  obtain ⟨raw, hbytes, hshown⟩ := h v hv
  exact ⟨raw, hbytes, iff_of_true hshown trivial⟩

end TypedCodec

open TypedCodec

theorem Value2ByteUnsigned.toNat_value (raw : Block 2) : (value raw).toNat = unsigned raw := by
  have hlt := beDecode_lt raw.val
  rw [raw.property] at hlt
  exact UInt16.toNat_ofNat_of_lt' hlt

theorem Value4ByteUnsigned.toNat_value (raw : Block 4) : (value raw).toNat = unsigned raw := by
  have hlt := beDecode_lt raw.val
  rw [raw.property] at hlt
  exact UInt32.toNat_ofNat_of_lt' hlt

theorem PercentV8.toInt_value (raw : Block 1) : (value raw).toInt = signed raw := by
  obtain ⟨bytes, hbytes⟩ := raw
  obtain ⟨b, rfl⟩ := List.length_eq_one_iff.mp hbytes
  have hnat : beDecode [b] = b.toBitVec.toNat := by simp [beDecode]
  have hbits := BitVec.toInt_eq_toNat_bmod b.toBitVec
  rw [← hnat] at hbits
  exact hbits

theorem Value2ByteSigned.toInt_value (raw : Block 2) : (value raw).toInt = signed raw := by
  have hbits := BitVec.toInt_eq_toNat_bmod (Value2ByteUnsigned.value raw).toBitVec
  have hnat : (Value2ByteUnsigned.value raw).toBitVec.toNat = unsigned raw :=
    Value2ByteUnsigned.toNat_value raw
  rw [hnat] at hbits
  exact hbits

theorem Value4ByteSigned.toInt_value (raw : Block 4) : (value raw).toInt = signed raw := by
  have hbits := BitVec.toInt_eq_toNat_bmod (Value4ByteUnsigned.value raw).toBitVec
  have hnat : (Value4ByteUnsigned.value raw).toBitVec.toNat = unsigned raw :=
    Value4ByteUnsigned.toNat_value raw
  rw [hnat, show 2 ^ 32 = 256 ^ 4 by norm_num] at hbits
  exact hbits

theorem Scaling.toNat_value (raw : Block 1) : (value raw).toNat = unsigned raw := by
  obtain ⟨bytes, hbytes⟩ := raw
  obtain ⟨b, rfl⟩ := List.length_eq_one_iff.mp hbytes
  change b.toNat = beDecode [b]
  simp [beDecode]

theorem TimeOfDay.shown_new {day hour minute second : UInt8} {v : Held TimeOfDay}
    (h : TimeOfDay.new day hour minute second = .ok v) :
    ∃ raw : Block 3, v.data = raw.val ∧ (DptView.time raw).toPayload =
      .time v.fields.day v.fields.hour v.fields.minute v.fields.second := by
  have hdecode := TimeOfDay.decode_new h
  obtain ⟨_, _, heq⟩ := Outcome.bind_eq_ok.mp h
  cases heq
  obtain ⟨_, _, heq⟩ := Outcome.bind_eq_ok.mp hdecode
  simp only [Outcome.ok.injEq, Held.mk.injEq, TimeOfDay.mk.injEq] at heq
  obtain ⟨⟨hday, hhour, hminute, hsecond⟩, -⟩ := heq
  refine ⟨⟨[(day <<< 5) ||| hour, minute, second], rfl⟩, rfl, ?_⟩
  change DptPayload.time (((day <<< 5) ||| hour) >>> 5 &&& 0x07) (((day <<< 5) ||| hour) &&& 0x1F)
    (minute &&& 0x3F) (second &&& 0x3F) = _
  rw [hday, hhour, hminute, hsecond]

theorem Date.shown_new {day month year : UInt8} {v : Held Date}
    (h : Date.new day month year = .ok v) :
    ∃ raw : Block 3, v.data = raw.val ∧ ∃ y,
      (DptView.date raw).toPayload = .date v.fields.day v.fields.month y ∧
        1990 ≤ y ∧ y ≤ 2089 ∧ y.toNat % 100 = v.fields.year.toNat := by
  have hdecode := Date.decode_new h
  obtain ⟨_, hvalid, heq⟩ := Outcome.bind_eq_ok.mp h
  cases heq
  simp only [Date.validate, typed_eq_ok, UInt8.not_lt, gt_iff_lt] at hvalid
  obtain ⟨_, _, heq⟩ := Outcome.bind_eq_ok.mp hdecode
  simp only [Outcome.ok.injEq, Held.mk.injEq, Date.mk.injEq] at heq
  obtain ⟨⟨hday, hmonth, hyear⟩, -⟩ := heq
  have hcentury : ∀ y : UInt8, y ≤ 99 →
      let shown : UInt16 := if y.toUInt16 ≥ 90 then 1900 + y.toUInt16 else 2000 + y.toUInt16
      1990 ≤ shown ∧ shown ≤ 2089 ∧ shown.toNat % 100 = y.toNat := by
    decide +kernel
  refine ⟨⟨[day, month, year], rfl⟩, rfl, _, ?_, hcentury year hvalid.2.2.1⟩
  change DptPayload.date (day &&& 0x1F) (month &&& 0x0F)
    (if (year &&& 0x7F).toUInt16 ≥ 90 then 1900 + (year &&& 0x7F).toUInt16
      else 2000 + (year &&& 0x7F).toUInt16) = _
  rw [hday, hmonth, hyear]

theorem SceneNumber.shown_new {number : UInt8} {v : Held UInt8}
    (h : SceneNumber.new number = .ok v) :
    ∃ raw : Block 1, v.data = raw.val ∧ (DptView.scene raw).toPayload = .scene v.fields := by
  obtain ⟨hvalid, heq⟩ := typed_eq_ok.mp h
  cases heq
  have hnumber : ∀ number : UInt8, 1 ≤ number ∧ number ≤ 64 →
      ((number - 1) &&& 0x3F) + 1 = number := by
    decide +kernel
  exact ⟨⟨[number - 1], rfl⟩, rfl, congrArg DptPayload.scene (hnumber number (not_not.mp hvalid))⟩

theorem SceneControl.shown_new {number : UInt8} {learn : Bool} {v : Held SceneControl}
    (h : SceneControl.new number learn = .ok v) :
    ∃ raw : Block 1, v.data = raw.val ∧
      (DptView.scene raw).toPayload = .scene v.fields.sceneNumber ∧
      (DptView.scene raw).learn = some v.fields.learn := by
  have hdecode := SceneControl.decode_new h
  obtain ⟨_, heq⟩ := typed_eq_ok.mp h
  cases heq
  simp only [SceneControl.decode, Outcome.ok.injEq, Held.mk.injEq, SceneControl.mk.injEq] at hdecode
  obtain ⟨⟨hnumber, hlearn⟩, -⟩ := hdecode
  exact ⟨⟨[_], rfl⟩, rfl, congrArg DptPayload.scene hnumber, congrArg some hlearn⟩

theorem DateTime.shown_of_made {v : Held DateTime} (hv : v.Made) :
    ∃ raw : Block 8, v.data = raw.val ∧ (DptView.dateTime raw).toPayload =
      .dateTime (v.fields.blanked.year.toUInt16 + 1900) v.fields.blanked.month v.fields.blanked.day
        v.fields.blanked.dayOfWeek v.fields.blanked.hour v.fields.blanked.minute
        v.fields.blanked.second := by
  obtain ⟨hvalid, hdata⟩ := encoded_of_made hv
  obtain ⟨_, _, heq⟩ := Outcome.bind_eq_ok.mp (decode_encodeData hvalid)
  have hfields := congrArg (DateTime.toDateTimeParts ∘ Held.fields) (Outcome.ok.inj heq)
  simp only [Function.comp_apply] at hfields
  refine ⟨⟨v.fields.encodeData, rfl⟩, hdata, ?_⟩
  rw [← hfields]
  rfl

theorem ColorRGBW.shown_newWithValidity (red green blue white : UInt8)
    (validity : ColorRGBWValidity) :
    ∃ raw : Block 6, (newWithValidity red green blue white validity).data = raw.val ∧
      ((DptView.rgbw raw).toPayload = .colorRGBW red green blue white ↔
        Structured.visible (newWithValidity red green blue white validity).fields =
          (newWithValidity red green blue white validity).fields) := by
  refine ⟨⟨(newWithValidity red green blue white validity).data, rfl⟩, rfl, ?_⟩
  change DptPayload.colorRGBW (if validity.red then red else 0)
    (if validity.green then green else 0) (if validity.blue then blue else 0)
    (if validity.white then white else 0) = _ ↔ _
  simp only [newWithValidity, Structured.visible, DptPayload.colorRGBW.injEq, ColorRGBW.mk.injEq,
    and_true]
  rfl

theorem Value2ByteSigned.new_value (v : Block 2) : new (value v) = v := by
  apply Subtype.ext
  change beEncode 2 (Value2ByteUnsigned.value v).toNat = v.val
  rw [Value2ByteUnsigned.toNat_value]
  have hencode := beEncode_beDecode v.val
  rw [v.property] at hencode
  exact hencode

theorem DPTPercentV16.shown_iff (v : Block 2) :
    (∃ shown, (DptView.i16 v).integer = some shown ∧ Binary.finite shown = value v) ↔
      v = Value2ByteSigned.new 0 := by
  have hinteger : (DptView.i16 v).integer = some (Value2ByteSigned.value v).toInt :=
    congrArg some (Value2ByteSigned.toInt_value v).symm
  rw [hinteger]
  constructor
  · rintro ⟨shown, hshown, h⟩
    cases hshown
    by_contra hne
    have hn : (Value2ByteSigned.value v).toInt ≠ 0 := by
      intro hzero
      have hvalue : Value2ByteSigned.value v = 0 := Int16.toInt_inj.mp hzero
      exact hne (by rw [← hvalue, Value2ByteSigned.new_value])
    have hlo : (2 : ℚ) ^ binary64.least ≤ Float2ByteView.hundredth :=
      calc (2 : ℚ) ^ binary64.least ≤ 2 ^ (-7 : ℤ) := zpow_le_zpow_right₀ (by norm_num) (by decide)
        _ ≤ Float2ByteView.hundredth := by norm_num [Float2ByteView.hundredth]
    have hhi : Float2ByteView.hundredth ≤ 1 / 2 := by norm_num [Float2ByteView.hundredth]
    exact Binary.scale_ne_self (by decide) (by exact_mod_cast Int.one_le_abs hn) hlo hhi h.symm
  · rintro rfl
    exact ⟨_, rfl, by decide +kernel⟩

theorem validateStringLength_eq_ok {value : Text} {dptNumber : String} {u : Unit} :
    validateStringLength value dptNumber = .ok u ↔ value.length ≤ 14 := by
  rw [validateStringLength, typed_eq_ok, not_lt]
  exact and_iff_left rfl

theorem encodePayload_eq_ok {byte : Char → UInt8} {dptNumber : String} {value : Text}
    {payload : List UInt8} : encodePayload byte dptNumber value = .ok payload ↔
      value.length ≤ 14 ∧ value.map byte ++ List.replicate (14 - value.length) 0 = payload := by
  rw [encodePayload, Outcome.bind_eq_ok, Outcome.ok.injEq]
  simp only [validateStringLength_eq_ok, exists_const]

structure SingleByte (byte : Char → UInt8) : Prop where
  ascii : ∀ c : Char, c.toNat < 128 → byte c = UInt8.ofNat c.toNat
  null : ∀ c : Char, byte c = 0 → c = Char.ofNat 0

theorem SingleByte.of_below (bound : ℕ) {byte : Char → UInt8} (hlo : 128 ≤ bound)
    (hhi : bound ≤ 256)
    (hbyte : ∀ c : Char, byte c = if c.toNat < bound then UInt8.ofNat c.toNat else 0x3F) :
    SingleByte byte where
  ascii c hc := by rw [hbyte, if_pos (by omega)]
  null c hc := by
    rw [hbyte] at hc
    split at hc
    case isTrue h =>
      have hnat := congrArg UInt8.toNat hc
      rw [UInt8.toNat_ofNat_of_lt' (h.trans_le hhi)] at hnat
      rw [← Char.ofNat_toNat c, hnat]
      rfl
    case isFalse => cases hc

theorem SingleByte.takeWhile_map {byte : Char → UInt8} {t : Text} (hbyte : SingleByte byte)
    (hnull : Char.ofNat 0 ∉ t) : (t.map byte).takeWhile (· ≠ 0) = t.map byte := by
  rw [List.takeWhile_eq_self_iff]
  intro b hb
  obtain ⟨c, hc, rfl⟩ := List.mem_map.mp hb
  exact decide_eq_true fun h ↦ hnull (hbyte.null c h ▸ hc)

theorem plainText_iff {t : Text} :
    PlainText t ↔ Char.ofNat 0 ∉ t ∧ ∀ c ∈ t, c.toNat < 128 := by
  constructor
  · exact fun h ↦ ⟨fun hmem ↦ absurd (h _ hmem).1 (by decide), fun c hc ↦ (h c hc).2⟩
  · rintro ⟨hnull, hlt⟩ c hc
    refine ⟨Nat.pos_of_ne_zero fun h ↦ hnull ?_, hlt c hc⟩
    rwa [← h, Char.ofNat_toNat]

theorem asStr_padded_iff {byte : Char → UInt8} {t : Text} (hlength : t.length ≤ 14)
    (hbyte : SingleByte byte) :
    ∃ raw : Block 14, t.map byte ++ List.replicate (14 - t.length) 0 = raw.val ∧
      (StrView.asStr raw = t ↔ PlainText t) := by
  have hpadded : (t.map byte ++ List.replicate (14 - t.length) 0).length = 14 := by
    rw [List.length_append, List.length_map, List.length_replicate]
    omega
  refine ⟨⟨_, hpadded⟩, rfl, ?_⟩
  have hread : StrView.asStr ⟨_, hpadded⟩ =
      (fromUtf8 ((t.map byte).takeWhile (· ≠ 0))).getD [] := by
    rw [StrView.asStr, DptType.takeWhile_padded]
  rw [plainText_iff, ← bytes_eq_map_iff hbyte.ascii]
  constructor
  · intro h
    have hnull : Char.ofNat 0 ∉ t := by
      rw [← h]
      exact (DptType.asStr_spec _).2
    refine ⟨hnull, ?_⟩
    rw [hread, hbyte.takeWhile_map hnull] at h
    cases hdecoded : fromUtf8 (t.map byte) with
    | none =>
      rw [hdecoded] at h
      rw [← h]
      rfl
    | some t' =>
      rw [hdecoded, Option.getD_some] at h
      rw [← bytes_of_fromUtf8 hdecoded, h]
  · rintro ⟨hnull, hbytes⟩
    rw [hread, hbyte.takeWhile_map hnull, ← hbytes, fromUtf8_bytes, Option.getD_some]

theorem StringAscii.singleByte : SingleByte StringAscii.byte :=
  .of_below 128 (by decide) (by decide) fun _ ↦ rfl

theorem StringLatin1.singleByte : SingleByte StringLatin1.byte :=
  .of_below 256 (by decide) le_rfl fun c ↦ by simp only [byte, Nat.lt_succ_iff]

theorem shown_encodePayload {byte : Char → UInt8} {dptNumber : String} {value : Text}
    {payload : List UInt8} (hbyte : SingleByte byte)
    (h : encodePayload byte dptNumber value = .ok payload) :
    ∃ raw : Block 14, payload = raw.val ∧
      ((DptView.str raw).toPayload = .string value ↔ PlainText value) := by
  obtain ⟨hlength, rfl⟩ := encodePayload_eq_ok.mp h
  obtain ⟨raw, hraw, hshown⟩ := asStr_padded_iff hlength hbyte
  exact ⟨raw, hraw, (DptPayload.string.injEq _ _).to_iff.trans hshown⟩

theorem DateTime.shown_iff {v : Held DateTime} (hv : v.Made) :
    ∃ raw : Block 8, v.data = raw.val ∧ ((DptView.dateTime raw).toPayload =
      .dateTime (v.fields.year.toUInt16 + 1900) v.fields.month v.fields.day v.fields.dayOfWeek
        v.fields.hour v.fields.minute v.fields.second ↔ v.fields.blanked = v.fields) := by
  obtain ⟨raw, hdata, hshown⟩ := shown_of_made hv
  refine ⟨raw, hdata, ?_⟩
  have hyear : ∀ y z : UInt8, y.toUInt16 + 1900 = z.toUInt16 + 1900 ↔ y = z := by
    intro y z
    rw [UInt16.add_left_inj]
    exact ⟨fun h ↦ UInt8.toUInt16_inj.mp h, fun h ↦ by rw [h]⟩
  rw [hshown, DptPayload.dateTime.injEq, hyear]
  constructor
  · rintro ⟨hyear, hmonth, hday, hdow, hhour, hminute, hsecond⟩
    obtain ⟨⟨⟨year, month, day, dayOfWeek, hour, minute, second⟩, flags⟩, data⟩ := v
    simp only [blanked, DateTime.mk.injEq, DateTimeParts.mk.injEq, and_true]
    exact ⟨hyear, hmonth, hday, hdow, hhour, hminute, hsecond⟩
  · intro h
    rw [h]
    simp only [and_self]

theorem signed_beEncode_eight (value : Int64) :
    signed ⟨beEncode 8 value.toUInt64.toNat, beEncode_length 8 _⟩ = value.toInt := by
  have hlo := value.le_toInt
  have hhi := value.toInt_lt
  rw [signed_beEncode le_rfl, Int.bmod_eq_of_le_mul_two] <;> norm_num at hlo hhi ⊢ <;> omega

theorem TariffActiveEnergy.data_length {v : Held TariffActiveEnergy}
    (hv : Structured.Constructed v) : v.data.length = 6 := by
  have hbuilt (energy : Int32) (tariff : UInt8) (energyValid tariffValid : Bool) :
      (newWithValidity energy tariff energyValid tariffValid).data.length = 6 := by
    cases energyValid <;> simp [newWithValidity]
  obtain ⟨energy, tariff, rfl⟩ | ⟨energy, tariff, energyValid, tariffValid, rfl⟩ := hv
  · exact hbuilt ..
  · exact hbuilt ..

namespace TypedDpt

theorem agrees : (t : TypedDpt) → t.codec.Agrees t.numbers
  | .switch => ofBytes_agrees (by decide +kernel) .bool fun _ ↦ rfl
  | .binaryControl => ofBytes_agrees (by decide +kernel) .control2 fun _ ↦ rfl
  | .controlDimming => ofBytes_agrees (by decide +kernel) .control fun _ ↦ rfl
  | .controlBlinds => ofBytes_agrees (by decide +kernel) .control fun _ ↦ rfl
  | .scaling => ofBytes_agrees (by decide +kernel) .u8 fun raw ↦ by
      rw [Scaling.toNat_value]
      rfl
  | .percentV8 => ofBytes_agrees (by decide +kernel) .i8 fun raw ↦
      congrArg some (PercentV8.toInt_value raw).symm
  | .value1Count => ofBytes_agrees (by decide +kernel) .i8 fun raw ↦
      congrArg some (PercentV8.toInt_value raw).symm
  | .value2ByteUnsigned => ofBytes_agrees (by decide +kernel) .u16 fun raw ↦ by
      rw [Value2ByteUnsigned.toNat_value]
      rfl
  | .brightness => ofBytes_agrees (by decide +kernel) .u16 fun raw ↦ by
      rw [Brightness.value, Value2ByteUnsigned.toNat_value]
      rfl
  | .value2ByteSigned => ofBytes_agrees (by decide +kernel) .i16 fun raw ↦
      congrArg some (Value2ByteSigned.toInt_value raw).symm
  | .percentV16 => .of_layout (by decide +kernel) .i16 fun v _ ↦
      ⟨v, rfl, DPTPercentV16.shown_iff v⟩
  | .timeOfDay => ofHeld_agrees (by decide +kernel) .time fun v ⟨_, _, _, _, h⟩ ↦
      TimeOfDay.shown_new h
  | .date => ofHeld_agrees (by decide +kernel) .date fun v ⟨_, _, _, h⟩ ↦ Date.shown_new h
  | .value4ByteUnsigned => ofBytes_agrees (by decide +kernel) .u32 fun raw ↦ by
      rw [Value4ByteUnsigned.toNat_value]
      rfl
  | .value4ByteSigned => ofBytes_agrees (by decide +kernel) .i32 fun raw ↦
      congrArg some (Value4ByteSigned.toInt_value raw).symm
  | .activeEnergy => ofBytes_agrees (by decide +kernel) .i32 fun raw ↦
      congrArg some (Value4ByteSigned.toInt_value raw).symm
  | .stringAscii => .of_layout (by decide +kernel) .str fun _ ⟨_, h⟩ ↦ by
      obtain ⟨payload, hpayload, heq⟩ := Outcome.bind_eq_ok.mp h
      cases heq
      exact shown_encodePayload StringAscii.singleByte hpayload
  | .stringLatin1 => .of_layout (by decide +kernel) .str fun _ ⟨_, h⟩ ↦ by
      obtain ⟨payload, hpayload, heq⟩ := Outcome.bind_eq_ok.mp h
      cases heq
      exact shown_encodePayload StringLatin1.singleByte hpayload
  | .sceneNumber => ofHeld_agrees (by decide +kernel) .scene fun _ ⟨_, h⟩ ↦
      SceneNumber.shown_new h
  | .sceneControl => ofHeld_agrees (by decide +kernel) .sceneControl fun _ ⟨_, _, h⟩ ↦
      SceneControl.shown_new h
  | .dateTime => .of_layout (by decide +kernel) .dateTime fun _ h ↦ DateTime.shown_iff (.inl h)
  | .hvacMode => ofHeld_agrees (by decide +kernel) .enum fun _ ⟨_, h⟩ ↦ by
      cases (typed_eq_ok.mp h).2
      exact ⟨⟨[_], rfl⟩, rfl, rfl⟩
  | .hvacControllerMode => ofHeld_agrees (by decide +kernel) .enum fun _ ⟨_, h⟩ ↦ by
      cases (typed_eq_ok.mp h).2
      exact ⟨⟨[_], rfl⟩, rfl, rfl⟩
  | .activeEnergy8Byte => ofHeld_agrees (by decide +kernel) .i64 fun _ ⟨value, h⟩ ↦ by
      subst h
      exact ⟨⟨beEncode 8 value.toUInt64.toNat, beEncode_length 8 _⟩, rfl,
        congrArg some (signed_beEncode_eight value)⟩
  | .colorRGB => ofHeld_agrees (by decide +kernel) .rgb fun _ ⟨_, _, _, h⟩ ↦ by
      subst h
      exact ⟨⟨[_, _, _], rfl⟩, rfl, rfl⟩
  | .tariffActiveEnergy => fun number hnumber v hv ↦ by
      obtain ⟨d, hd, hmain⟩ := Option.map_eq_some_iff.mp
        ((by decide +kernel : Numbered (numbers .tariffActiveEnergy) 235) number hnumber)
      have hlength : v.data.length = d.byteLength := by
        simp only [DptType.byteLength, hmain, TariffActiveEnergy.data_length hv]
      obtain ⟨e, he⟩ := DptType.decodeRef_tariff hmain hlength
      refine ⟨d, hd, iff_of_false ?_ not_false⟩
      rintro ⟨view, hview, -⟩
      cases he.symm.trans hview
  | .colorRGBW => .of_layout (by decide +kernel) .rgbw fun _ h ↦ by
      obtain ⟨red, green, blue, white, rfl⟩ | ⟨red, green, blue, white, validity, rfl⟩ := h
      · exact ColorRGBW.shown_newWithValidity ..
      · exact ColorRGBW.shown_newWithValidity ..

end TypedDpt

def SameWrite (r r' : Result Telegram) : Prop :=
  (∃ telegram, r = .ok telegram ∧ r' = .ok telegram) ∨ (∃ e, r = .err e) ∧ ∃ e, r' = .err e

structure TextType (T : Type) [DptValue T] (new : Text → Result T) (byte : Char → UInt8) :
    Prop where
  singleByte : SingleByte byte
  known : ∃ d, DptValue.dptType T = .ok d ∧ d.main = 16
  decode : ∀ bytes : List UInt8, bytes.length = 14 →
    ∃ v : T, DptValue.decode bytes = .ok v ∧ DptValue.asBytes v = bytes ∧
      DptValue.validate v = .ok ()
  new_short : ∀ t : Text, t.length ≤ 14 →
    ∃ v : T, new t = .ok v ∧ DptValue.asBytes v = t.map byte ++ List.replicate (14 - t.length) 0 ∧
      DptValue.validate v = .ok ()
  new_long : ∀ t : Text, 14 < t.length → ∃ e, new t = .err e

theorem length_filter_map_le {bytes : List UInt8} (hbytes : bytes.length = 14)
    (char : UInt8 → Char) : ((bytes.filter (· ≠ 0)).map char).length ≤ 14 := by
  rw [List.length_map, ← hbytes]
  exact List.length_filter_le _ _

theorem exists_encodePayload_error (byte : Char → UInt8) (dptNumber : String) {value : Text}
    (h : 14 < value.length) : ∃ e, encodePayload byte dptNumber value = .err e := by
  rw [encodePayload, validateStringLength, if_pos h]
  exact ⟨_, rfl⟩

theorem StringAscii.textType : TextType StringAscii StringAscii.new StringAscii.byte where
  singleByte := singleByte
  known := ⟨.stringAscii, by decide +kernel, rfl⟩
  decode bytes hbytes := by
    refine ⟨{ value := decodeValue bytes, payload := bytes }, if_neg (not_not.mpr hbytes), rfl, ?_⟩
    exact validateStringLength_eq_ok.mpr (length_filter_map_le hbytes _)
  new_short t ht := by
    refine ⟨{ value := t, payload := _ }, ?_, rfl, validateStringLength_eq_ok.mpr ht⟩
    rw [StringAscii.new, encodePayload_eq_ok.mpr ⟨ht, rfl⟩]
    rfl
  new_long t ht := by
    obtain ⟨e, he⟩ := exists_encodePayload_error byte dptNumber ht
    exact ⟨e, by rw [StringAscii.new, he, Outcome.err_bind]⟩

theorem StringLatin1.textType : TextType StringLatin1 StringLatin1.new StringLatin1.byte where
  singleByte := singleByte
  known := ⟨.stringLatin1, by decide +kernel, rfl⟩
  decode bytes hbytes := by
    refine ⟨{ value := decodeValue bytes, payload := bytes }, if_neg (not_not.mpr hbytes), rfl, ?_⟩
    exact validateStringLength_eq_ok.mpr (length_filter_map_le hbytes _)
  new_short t ht := by
    refine ⟨{ value := t, payload := _ }, ?_, rfl, validateStringLength_eq_ok.mpr ht⟩
    rw [StringLatin1.new, encodePayload_eq_ok.mpr ⟨ht, rfl⟩]
    rfl
  new_long t ht := by
    obtain ⟨e, he⟩ := exists_encodePayload_error byte dptNumber ht
    exact ⟨e, by rw [StringLatin1.new, he, Outcome.err_bind]⟩

section

variable {T : Type} [DptValue T] {new : Text → Result T} {byte : Char → UInt8} {s : Text}
  (now : ℕ) (destination : GroupAddress)

theorem groupWriteValue_eq_ok {V : Type} [WriteValue V T] {value : V} {d : DptType} {v : T}
    (hd : DptValue.dptType T = .ok d) (hresolve : WriteValue.resolve value d = .ok v)
    (hvalid : DptValue.validate v = .ok ()) :
    Telegram.groupWriteValue T now destination value =
      .ok (.groupWrite now destination (DptValue.asBytes v)) := by
  rw [Telegram.groupWriteValue, hd, Outcome.ok_bind, hresolve, Outcome.ok_bind, hvalid,
    Outcome.ok_bind]

theorem DptType.parse_text {d : DptType} (hd : d.main = 16) (htrim : s.trim = s)
    (hlength : s.bytes.length ≤ 14) : d.parse s = .ok (encodeStr s) := by
  rw [parse, htrim]
  simp only [parsePayload, hd, if_neg (not_lt.mpr hlength), Outcome.ok_bind, encode]

theorem DptType.parse_long_text {d : DptType} (hd : d.main = 16) (htrim : s.trim = s)
    (hlength : 14 < s.bytes.length) : ∃ e, d.parse s = .err e := by
  rw [parse, htrim]
  simp only [parsePayload, hd, if_pos hlength]
  exact ⟨_, rfl⟩

theorem encodeStr_eq_padded_iff (hbyte : SingleByte byte) (hnull : Char.ofNat 0 ∉ s)
    (hlength : s.bytes.length ≤ 14) :
    encodeStr s = s.map byte ++ List.replicate (14 - s.length) 0 ↔ ∀ c ∈ s, c.toNat < 128 := by
  rw [← bytes_eq_map_iff hbyte.ascii]
  have hpadded : encodeStr s = s.bytes ++ List.replicate (14 - s.bytes.length) 0 := by
    rw [encodeStr, List.take_of_length_le hlength]
  constructor
  · intro h
    have hall : s.bytes.takeWhile (· ≠ 0) = s.bytes := by
      rw [List.takeWhile_eq_self_iff]
      intro b hb
      exact decide_eq_true fun hzero ↦ hnull (zero_mem_bytes.mp (hzero ▸ hb))
    have hfront := congrArg (List.takeWhile (· ≠ 0)) h
    rwa [hpadded, DptType.takeWhile_padded, DptType.takeWhile_padded, hall,
      hbyte.takeWhile_map hnull] at hfront
  · intro h
    rw [hpadded, h, List.length_map]

namespace TextType

theorem text_short (h : TextType T new byte) (htrim : s.trim = s) (hs : s.bytes.length ≤ 14) :
    Telegram.groupWriteValue T now destination s =
      .ok (.groupWrite now destination (encodeStr s)) := by
  obtain ⟨d, hd, hmain⟩ := h.known
  obtain ⟨v, hv, hbytes, hvalid⟩ := h.decode (encodeStr s) (DptType.encodeStr_length s)
  have hresolve : (WriteValue.resolve s d : Result T) = .ok v := by
    change (d.parse s >>= DptValue.decode) = _
    rw [DptType.parse_text hmain htrim hs, Outcome.ok_bind, hv]
  rw [groupWriteValue_eq_ok now destination hd hresolve hvalid, hbytes]

theorem text_long (h : TextType T new byte) (htrim : s.trim = s) (hs : 14 < s.bytes.length) :
    ∃ e, Telegram.groupWriteValue T now destination s = .err e := by
  obtain ⟨d, hd, hmain⟩ := h.known
  obtain ⟨e, he⟩ := DptType.parse_long_text hmain htrim hs
  refine ⟨e, ?_⟩
  rw [Telegram.groupWriteValue, hd, Outcome.ok_bind]
  change ((d.parse s >>= DptValue.decode) >>= _) = _
  rw [he, Outcome.err_bind, Outcome.err_bind]

theorem typed_short (h : TextType T new byte) (hs : s.length ≤ 14) :
    (new s >>= Telegram.groupWriteValue T now destination) =
      .ok (.groupWrite now destination (s.map byte ++ List.replicate (14 - s.length) 0)) := by
  obtain ⟨d, hd, -⟩ := h.known
  obtain ⟨v, hv, hbytes, hvalid⟩ := h.new_short s hs
  rw [hv, Outcome.ok_bind, groupWriteValue_eq_ok now destination hd rfl hvalid, hbytes]

theorem typed_long (h : TextType T new byte) (hs : 14 < s.length) :
    ∃ e, (new s >>= Telegram.groupWriteValue T now destination) = .err e := by
  obtain ⟨e, he⟩ := h.new_long s hs
  exact ⟨e, by rw [he, Outcome.err_bind]⟩

theorem sameWrite_iff (h : TextType T new byte) (hnull : Char.ofNat 0 ∉ s) (htrim : s.trim = s) :
    SameWrite (Telegram.groupWriteValue T now destination s)
        (new s >>= Telegram.groupWriteValue T now destination) ↔
      PlainText s ∨ 14 < s.length := by
  have hplain : PlainText s ↔ ∀ c ∈ s, c.toNat < 128 := plainText_iff.trans (and_iff_right hnull)
  obtain hmany | hfew := lt_or_ge 14 s.length
  · have hlong := hmany.trans_le (length_le_length_bytes s)
    exact iff_of_true (.inr ⟨h.text_long now destination htrim hlong,
      h.typed_long now destination hmany⟩) (.inr hmany)
  rw [h.typed_short now destination hfew, hplain, or_iff_left (not_lt.mpr hfew)]
  obtain hlong | hshort := lt_or_ge 14 s.bytes.length
  · obtain ⟨e, he⟩ := h.text_long now destination htrim hlong
    rw [he]
    -- The text is refused, as some character takes more than one byte.
    refine iff_of_false ?_ fun hascii ↦ ?_
    · rintro (⟨_, h, -⟩ | ⟨-, _, h⟩) <;> cases h
    · rw [(bytes_eq_map_iff h.singleByte.ascii).mpr hascii, List.length_map] at hlong
      omega
  · rw [h.text_short now destination htrim hshort,
      ← encodeStr_eq_padded_iff h.singleByte hnull hshort]
    constructor
    · rintro (⟨_, h, h'⟩ | ⟨⟨_, h⟩, -⟩)
      · exact congrArg Telegram.payload (Outcome.ok.inj (h.trans h'.symm))
      · cases h
    · intro heq
      exact .inl ⟨_, rfl, by rw [heq]⟩

end TextType

end

/-- The runtime codec reads the bytes of a typed value and shows the value exactly if it is a plain
one, and a text is written as the typed value of it exactly if it is plain or too long for both. -/
theorem codecs_agree_iff (t : TypedDpt) (number : String) (hnumber : number ∈ t.numbers)
    (v : t.codec.Value) (hv : t.codec.Constructed v) (s : Text) (hnull : Char.ofNat 0 ∉ s)
    (htrim : s.trim = s) (now : ℕ) (destination : GroupAddress) :
    (∃ d, (DptType.fromStr (lit number)).value = some d ∧
      ((∃ view, d.decodeRef (t.codec.asBytes v) = .ok view ∧ t.codec.Shown v view) ↔
        t.codec.Plain v)) ∧
    (SameWrite (Telegram.groupWriteValue StringAscii now destination s)
        (StringAscii.new s >>= Telegram.groupWriteValue StringAscii now destination) ↔
      PlainText s ∨ 14 < s.length) ∧
    (SameWrite (Telegram.groupWriteValue StringLatin1 now destination s)
        (StringLatin1.new s >>= Telegram.groupWriteValue StringLatin1 now destination) ↔
      PlainText s ∨ 14 < s.length) :=
  ⟨t.agrees number hnumber v hv, StringAscii.textType.sameWrite_iff now destination hnull htrim,
    StringLatin1.textType.sameWrite_iff now destination hnull htrim⟩

theorem codecs_agree_on_scene :
    ∃ view, DptType.sceneControl.decodeRef [0x84] = .ok view ∧
      view.toPayload = .scene 5 ∧ view.learn = some true := by
  have hscene : SceneControl.new 5 true = .ok ⟨⟨5, true⟩, [0x84]⟩ := by decide +kernel
  obtain ⟨⟨d, hd, hagree⟩, -⟩ := codecs_agree_iff .sceneControl "18.001" List.mem_cons_self
    ⟨⟨5, true⟩, [0x84]⟩ ⟨5, true, hscene⟩ [] List.not_mem_nil rfl 0 ⟨0, by decide⟩
  have hknown : (DptType.fromStr (lit "18.001")).value = some .sceneControl := by decide +kernel
  rw [hknown] at hd
  cases hd
  exact hagree.mpr trivial

/-- A tariff with its energy is not read. A Latin-1 text is shown as empty, and written as a text
it has other bytes. One percent is shown as a hundred. -/
theorem codecs_disagree :
    (∃ e, DptType.tariffActiveEnergy.decodeRef (TariffActiveEnergy.new 1000 1).data = .err e) ∧
    (StringLatin1.new [Char.ofNat 0xE4] =
        .ok ⟨[Char.ofNat 0xE4], [0xE4, 0, 0, 0, 0, 0, 0, 0, 0, 0, 0, 0, 0, 0]⟩ ∧
      DptType.stringLatin1.decodeRef [0xE4, 0, 0, 0, 0, 0, 0, 0, 0, 0, 0, 0, 0, 0] =
        .ok (.str ⟨[0xE4, 0, 0, 0, 0, 0, 0, 0, 0, 0, 0, 0, 0, 0], rfl⟩) ∧
      StrView.asStr ⟨[0xE4, 0, 0, 0, 0, 0, 0, 0, 0, 0, 0, 0, 0, 0], rfl⟩ = [] ∧
      Telegram.groupWriteValue StringLatin1 0 ⟨0, by decide⟩ [Char.ofNat 0xE4] =
        .ok (.groupWrite 0 ⟨0, by decide⟩ [0xC3, 0xA4, 0, 0, 0, 0, 0, 0, 0, 0, 0, 0, 0, 0])) ∧
    ∃ v, DPTPercentV16.new (.finite 1) = .ok v ∧
      DptType.percentV16.decodeRef v.val = .ok (.i16 v) ∧ signed v = 100 := by
  refine ⟨DptType.decodeRef_tariff rfl rfl, ⟨rfl, rfl, ?_, ?_⟩, Value2ByteSigned.new 100, ?_, rfl,
    ?_⟩
  · decide +kernel
  · decide +kernel
  · decide +kernel
  · decide +kernel

end Knust.Protocol.Dpt
