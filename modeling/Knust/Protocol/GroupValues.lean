import Knust.Protocol.Telegram

namespace Knust.Protocol

open Foundation

def MessageCode.isData : MessageCode → Bool
  | .lDataReq | .lDataCon | .lDataInd => true
  | _ => false

/-- The application service that the two low bits of the transport control byte and
the two high bits behind it select. A frame without application data has none. -/
def CemiFrame.service (frame : CemiFrame) : Option UInt16 :=
  frame.apciData.head?.map fun firstApci ↦
    ((frame.tpci &&& 0x03).toUInt16 <<< 8) ||| (firstApci &&& 0xC0).toUInt16

def TelegramType.serviceBits : TelegramType → UInt16
  | .groupValueRead => 0x0000
  | .groupValueResponse => 0x0040
  | .groupValueWrite => 0x0080

/-- The bytes are a data frame that encodes the group service of the given telegram
type. -/
def Encodes (cemiData : List UInt8) (telegramType : TelegramType) : Prop :=
  ∃ frame, CemiFrame.parse cemiData = .ok frame ∧ frame.messageCode.isData = true ∧
    frame.service = some telegramType.serviceBits

instance (cemiData : List UInt8) (telegramType : TelegramType) :
    Decidable (Encodes cemiData telegramType) :=
  match h : CemiFrame.parse cemiData with
  | .ok frame =>
    decidable_of_iff
      (frame.messageCode.isData = true ∧ frame.service = some telegramType.serviceBits)
      (by simp [Encodes, h])
  | .err _ | .panic => isFalse (by simp [Encodes, h])

def Answers (address : GroupAddress) (payload cemiData : List UInt8) : Prop :=
  ∃ frame, CemiFrame.parse cemiData = .ok frame ∧ frame.messageCode = .lDataInd ∧
    frame.destAddr = .group address ∧
    GroupValueService.decode frame.tpci frame.apciData = .ok (.response payload)

instance (address : GroupAddress) (payload cemiData : List UInt8) :
    Decidable (Answers address payload cemiData) :=
  match h : CemiFrame.parse cemiData with
  | .ok frame =>
    decidable_of_iff
      (frame.messageCode = .lDataInd ∧ frame.destAddr = .group address ∧
        GroupValueService.decode frame.tpci frame.apciData = .ok (.response payload))
      (by simp [Answers, h])
  | .err _ | .panic => isFalse (by simp [Answers, h])

theorem decodePayload_eq (firstApci : UInt8) (rest : List UInt8) :
    ∃ payload, payload ≠ [] ∧ decodePayload firstApci (firstApci :: rest) = .ok payload := by
  cases rest with
  | nil => exact ⟨_, List.cons_ne_nil _ _, rfl⟩
  | cons b rest => exact ⟨b :: rest, List.cons_ne_nil _ _, rfl⟩

namespace CemiFrame

variable {frame : CemiFrame}

theorem decode_of_service_eq_none (h : frame.service = none) :
    frame.apciData = [] ∧ ∃ e, GroupValueService.decode frame.tpci frame.apciData = .err e := by
  have hnil : frame.apciData = [] := by simpa [service] using h
  exact ⟨hnil, _, by rw [hnil]; rfl⟩

theorem decode_of_service_eq_some {service : UInt16} (h : frame.service = some service) :
    frame.apciData ≠ [] ∧
      ((service = 0x0000 ∧ GroupValueService.decode frame.tpci frame.apciData = .ok .read) ∨
      (∃ payload, payload ≠ [] ∧ service = 0x0040 ∧
        GroupValueService.decode frame.tpci frame.apciData = .ok (.response payload)) ∨
      (∃ payload, payload ≠ [] ∧ service = 0x0080 ∧
        GroupValueService.decode frame.tpci frame.apciData = .ok (.write payload)) ∨
      (service ≠ 0x0000 ∧ service ≠ 0x0040 ∧ service ≠ 0x0080 ∧
        ∃ e, GroupValueService.decode frame.tpci frame.apciData = .err e)) := by
  cases hdata : frame.apciData with
  | nil => simp [CemiFrame.service, hdata] at h
  | cons firstApci rest =>
    obtain rfl : ((frame.tpci &&& 0x03).toUInt16 <<< 8) ||| (firstApci &&& 0xC0).toUInt16 =
      service := by simpa [CemiFrame.service, hdata] using h
    obtain ⟨payload, hne, hpayload⟩ := decodePayload_eq firstApci rest
    refine ⟨List.cons_ne_nil _ _, ?_⟩
    simp only [GroupValueService.decode, List.head?_cons, hpayload]
    split
    · exact .inl ⟨‹_›, rfl⟩
    split
    · exact .inr (.inl ⟨payload, hne, ‹_›, rfl⟩)
    split
    · exact .inr (.inr (.inl ⟨payload, hne, ‹_›, rfl⟩))
    · exact .inr (.inr (.inr ⟨‹_›, ‹_›, ‹_›, _, rfl⟩))

theorem service_of_decode_response {payload : List UInt8}
    (h : GroupValueService.decode frame.tpci frame.apciData = .ok (.response payload)) :
    frame.service = some 0x0040 := by
  cases hservice : frame.service with
  | none =>
    obtain ⟨-, e, he⟩ := decode_of_service_eq_none hservice
    rw [he] at h
    cases h
  | some service =>
    obtain ⟨-, ⟨-, he⟩ | ⟨p, -, rfl, he⟩ | ⟨p, -, -, he⟩ | ⟨-, -, -, e, he⟩⟩ :=
      decode_of_service_eq_some hservice
    · rw [he] at h
      cases h
    · rfl
    · rw [he] at h
      cases h
    · rw [he] at h
      cases h

end CemiFrame

/-- What a telegram says about the frame that it was made of. Whatever is neither a
read nor a response passes for a write. -/
structure MadeOf (frame : CemiFrame) (telegram : Telegram) : Prop where
  destination : telegram.destination = frame.destAddr
  direction : telegram.direction = .incoming
  payload : telegram.payload = [] ↔ frame.apciData = []
  read : telegram.telegramType = .groupValueRead ↔ frame.service = some 0x0000
  response : telegram.telegramType = .groupValueResponse ↔ frame.service = some 0x0040
  answer : telegram.telegramType = .groupValueResponse →
    GroupValueService.decode frame.tpci frame.apciData = .ok (.response telegram.payload)

def telegramOf (now : ℕ) (frame : CemiFrame) (service : Option GroupValueService) : Telegram where
  source := frame.sourceAddr
  destination := frame.destAddr
  payload := (service.bind GroupValueService.payload).getD frame.apciData
  priority := .ofCemi frame.controlField.priority
  direction := .incoming
  telegramType := telegramTypeOf service
  timestamp := now

theorem parseCemiToTelegram_eq {cemiData : List UInt8} {frame : CemiFrame}
    {service : Option GroupValueService} (now : ℕ) (hframe : CemiFrame.parse cemiData = .ok frame)
    (hservice : (GroupValueService.decode frame.tpci frame.apciData).toOption =
      (.ok service : Result _)) :
    parseCemiToTelegram now cemiData = .ok (telegramOf now frame service) := by
  simp [parseCemiToTelegram, hframe, hservice, telegramOf]

theorem parseCemiToTelegram_of_parse {cemiData : List UInt8} {frame : CemiFrame} (now : ℕ)
    (hframe : CemiFrame.parse cemiData = .ok frame) :
    ∃ telegram, parseCemiToTelegram now cemiData = .ok telegram ∧ MadeOf frame telegram := by
  cases hservice : frame.service with
  | none =>
    obtain ⟨hnil, e, he⟩ := frame.decode_of_service_eq_none hservice
    refine ⟨_, parseCemiToTelegram_eq now hframe (by rw [he]; rfl), ⟨rfl, rfl, ?_, ?_, ?_, ?_⟩⟩ <;>
      simp [telegramOf, telegramTypeOf, hservice]
  | some service =>
    obtain ⟨hne, ⟨rfl, he⟩ | ⟨payload, hp, rfl, he⟩ | ⟨payload, hp, rfl, he⟩ |
      ⟨h₀, h₁, h₂, e, he⟩⟩ := frame.decode_of_service_eq_some hservice
    all_goals
      refine ⟨_, parseCemiToTelegram_eq now hframe (by rw [he]; rfl), ⟨rfl, rfl, ?_, ?_, ?_, ?_⟩⟩ <;>
        simp_all [telegramOf, telegramTypeOf, GroupValueService.payload]

theorem parse_of_parseCemiToTelegram {cemiData : List UInt8} {telegram : Telegram} {now : ℕ}
    (h : parseCemiToTelegram now cemiData = .ok telegram) :
    ∃ frame, CemiFrame.parse cemiData = .ok frame ∧ MadeOf frame telegram := by
  cases hframe : CemiFrame.parse cemiData with
  | ok frame =>
    obtain ⟨telegram', h', hmade⟩ := parseCemiToTelegram_of_parse now hframe
    rw [h] at h'
    cases h'
    exact ⟨frame, rfl, hmade⟩
  | err e => simp [parseCemiToTelegram, hframe] at h
  | panic => simp [parseCemiToTelegram, hframe] at h

end Knust.Protocol
