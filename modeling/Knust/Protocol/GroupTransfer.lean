import Knust.Protocol.CemiRoundTrip
import Knust.Protocol.Telegram

namespace Knust.Protocol

open Foundation

def transferService (messageCode : MessageCode) (source : IndividualAddress)
    (destination : Address) (service : GroupValueService) : Result GroupValueService := do
  let frame ← CemiFrame.parse (CemiFrame.new messageCode source destination service.encode).serialize
  GroupValueService.decode frame.tpci frame.apciData

theorem transferService_eq (code : MessageCode) (src : IndividualAddress) (dst : Address)
    {service : GroupValueService} (h : service.encode.length < 256) :
    transferService code src dst service = GroupValueService.decode 0x00 service.encode := by
  rw [transferService, CemiFrame.parse_serialize_new code src dst _ h]
  rfl

theorem DataService.service_injective (d : DataService) {p q : List UInt8}
    (h : d.service p = d.service q) : p = q := by
  cases d <;> simpa [service] using h

/-- A payload survives the transfer exactly when it has two bytes or more or is a
single byte below 64: the short form drops the two high bits of a single byte. -/
theorem transferService_data_iff (d : DataService) (code : MessageCode) (src : IndividualAddress)
    (dst : Address) {p : List UInt8} (hp : p ≠ []) (hlen : p.length ≤ 254) :
    transferService code src dst (d.service p) = .ok (d.service p) ↔
      2 ≤ p.length ∨ ∃ b, p = [b] ∧ b < 64 := by
  have hl : (d.service p).encode.length < 256 := by
    have := d.encode_length p
    omega
  rw [transferService_eq code src dst hl, d.decode_encode hp, ← carried_eq_iff hp]
  constructor
  · intro h
    exact d.service_injective (Outcome.ok.inj h)
  · intro h
    rw [h]

theorem transferService_two_bytes :
    transferService .lDataReq ⟨0x1101⟩ (.individual ⟨0x1102⟩) (DataService.write.service [0xFF, 0x80]) =
        .ok (DataService.write.service [0xFF, 0x80]) ↔
      2 ≤ [(0xFF : UInt8), 0x80].length ∨ ∃ b, [(0xFF : UInt8), 0x80] = [b] ∧ b < 64 :=
  transferService_data_iff .write .lDataReq ⟨0x1101⟩ (.individual ⟨0x1102⟩) (by decide) (by decide)

/-- The value 255 of an eight-bit datapoint arrives as 63. -/
theorem transferService_full_byte :
    transferService .lDataReq ⟨0x1101⟩ (.group ⟨0x0A03, by decide⟩) (.write [0xFF]) =
      .ok (.write [0x3F]) ∧
    transferService .lDataReq ⟨0x1101⟩ (.group ⟨0x0A03, by decide⟩) (.write [0xFF]) ≠
      .ok (.write [0xFF]) := by
  decide +kernel

def SameContent (t r : Telegram) : Prop :=
  r.telegramType = t.telegramType ∧ r.priority = t.priority ∧ r.source = t.source ∧
  r.destination = t.destination ∧ r.payload = t.payload

/-- The telegrams that the library sends: reads without and other services with a
payload in the long form. -/
def Sendable (t : Telegram) : Prop :=
  match t.telegramType with
  | .groupValueRead => t.payload = []
  | .groupValueWrite | .groupValueResponse => 2 ≤ t.payload.length ∧ t.payload.length ≤ 254

def receiveTunnelled (now : ℕ) (data : List UInt8) : Result Telegram := do
  let frame ← KnxIpFrame.parse data
  let request ← TunnellingRequest.parse frame.body
  parseCemiToTelegram now request.rawCemi

/-- What arrives: the service is chosen by the payload alone, the priority is that
of every built frame, and a read is given its application byte as a payload. -/
def received (now : ℕ) (t : Telegram) : Telegram where
  source := t.source
  destination := t.destination
  payload := if t.payload = [] then [0x00] else carried t.payload
  priority := .normal
  direction := .incoming
  telegramType := if t.payload = [] then .groupValueRead else .groupValueWrite
  timestamp := now

theorem groupServiceOf_encode_length (t : Telegram) :
    (groupServiceOf t).encode.length ≤ t.payload.length + 1 := by
  unfold groupServiceOf
  split
  · simp [GroupValueService.encode]
  · exact DataService.write.encode_length t.payload

theorem parseCemiToTelegram_outgoing (now : ℕ) (t : Telegram) (code : MessageCode)
    (h : t.payload.length ≤ 254) :
    parseCemiToTelegram now (outgoingCemi t code).serialize = .ok (received now t) := by
  have hl := groupServiceOf_encode_length t
  have hparse := CemiFrame.parse_serialize_new code t.source t.destination
    (groupServiceOf t).encode (by omega)
  rw [parseCemiToTelegram, outgoingCemi, hparse]
  by_cases hp : t.payload = []
  · simp [CemiFrame.new, groupServiceOf, hp, received, GroupValueService.encode,
      GroupValueService.decode, telegramTypeOf, CemiFrame.newControlField,
      TelegramPriority.ofCemi, GroupValueService.payload]
  · have hdec := DataService.write.decode_encode hp
    simp only [DataService.service] at hdec
    simp [CemiFrame.new, groupServiceOf, hp, received, hdec, telegramTypeOf,
      CemiFrame.newControlField, TelegramPriority.ofCemi, GroupValueService.payload]

theorem outgoingCemi_serialize_length (t : Telegram) (code : MessageCode) :
    (outgoingCemi t code).serialize.length ≤ t.payload.length + 11 := by
  have hl := groupServiceOf_encode_length t
  have hnew := CemiFrame.serialize_new_length code t.source t.destination (groupServiceOf t).encode
  rw [outgoingCemi]
  omega

theorem receiveTunnelled_build (now : ℕ) (t : Telegram) (channel sequence : UInt8)
    (code : MessageCode) (h : t.payload.length ≤ 254) :
    receiveTunnelled now (buildTunnellingFrameWithCode t channel sequence code) =
      .ok (received now t) := by
  have hlen := outgoingCemi_serialize_length t code
  rw [receiveTunnelled, buildTunnellingFrameWithCode, KnxIpFrame.parse_serialize_new]
  · simp only [Outcome.ok_bind, KnxIpFrame.new, TunnellingRequest.parse_serialize]
    exact parseCemiToTelegram_outgoing now t code h
  · simp only [TunnellingRequest.serialize, List.length_append, List.length_cons, List.length_nil]
    omega

theorem sameContent_received_iff (now : ℕ) {t : Telegram} (h : Sendable t) :
    SameContent t (received now t) ↔
      t.telegramType = .groupValueWrite ∧ t.priority = .normal := by
  unfold Sendable at h
  cases ht : t.telegramType with
  | groupValueRead =>
    rw [ht] at h
    simp [SameContent, received, ht, h]
  | groupValueResponse =>
    rw [ht] at h
    have hp : t.payload ≠ [] := by intro hp; simp [hp] at h
    simp [SameContent, received, ht, hp]
  | groupValueWrite =>
    rw [ht] at h
    have hp : t.payload ≠ [] := by intro hp; simp [hp] at h
    have hc := (carried_eq_iff hp).mpr (.inl h.1)
    simp [SameContent, received, ht, hp, hc, eq_comm]

/-- Among the telegrams that the library sends, a tunnel carries exactly the
writes of normal priority unchanged, in both directions. -/
theorem tunnelled_telegram_iff (now : ℕ) {t : Telegram} (h : Sendable t)
    (channel sequence : UInt8) (code : MessageCode) (frame : List UInt8)
    (hframe : frame = buildOutgoingFrameForConnection t (.tunnel channel sequence) ∨
      frame = buildTunnellingFrameWithCode t channel sequence code) :
    (∃ r, receiveTunnelled now frame = .ok r ∧ SameContent t r) ↔
      t.telegramType = .groupValueWrite ∧ t.priority = .normal := by
  have hlen : t.payload.length ≤ 254 := by
    unfold Sendable at h
    split at h
    · simp [h]
    · exact h.2
    · exact h.2
  have hrecv : receiveTunnelled now frame = .ok (received now t) := by
    rcases hframe with rfl | rfl
    · exact receiveTunnelled_build now t channel sequence .lDataReq hlen
    · exact receiveTunnelled_build now t channel sequence code hlen
  rw [← sameContent_received_iff now h, hrecv]
  simp

def temperatureWrite : Telegram :=
  Telegram.groupWrite 0 .temperature [0x0C, 0x65]

theorem tunnelled_temperatureWrite :
    (∃ r, receiveTunnelled 7 (buildOutgoingFrameForConnection temperatureWrite (.tunnel 1 0)) = .ok r ∧
      SameContent temperatureWrite r) ↔
    temperatureWrite.telegramType = .groupValueWrite ∧ temperatureWrite.priority = .normal :=
  tunnelled_telegram_iff 7 (t := temperatureWrite)
    (by simp [Sendable, temperatureWrite, Telegram.groupWrite]) 1 0 .lDataInd _ (.inl rfl)

/-- An answer to a read, sent by the client or by the server, arrives as a write. -/
theorem tunnelled_response_becomes_write :
    let t : Telegram := { temperatureWrite with telegramType := .groupValueResponse }
    let r : Telegram := { temperatureWrite with direction := .incoming, timestamp := 7 }
    Sendable t ∧
    receiveTunnelled 7 (buildOutgoingFrameForConnection t (.tunnel 1 0)) = .ok r ∧
    receiveTunnelled 7 (buildTunnellingFrameWithCode t 1 0 .lDataInd) = .ok r ∧
    ¬ SameContent t r := by
  refine ⟨by simp [Sendable, temperatureWrite, Telegram.groupWrite], ?_, ?_, ?_⟩
  · decide +kernel
  · decide +kernel
  · exact fun h ↦ absurd h.1 (by decide)

end Knust.Protocol
