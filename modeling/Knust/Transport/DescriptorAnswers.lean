import Knust.Protocol.ProbeCemi
import Knust.Transport.Probing

namespace Knust.Protocol

open Foundation

structure DeviceDescriptorResponse where
  descriptor : UInt8
  data : List UInt8

namespace DeviceDescriptorResponse

def encode (response : DeviceDescriptorResponse) : List UInt8 :=
  0x03 :: (0x40 ||| (response.descriptor &&& 0x3F)) :: response.data

def invalidFrame {α : Type} (details : String) : Result α :=
  .err (.protocol (.invalidFrame details))

def decode : List UInt8 → Result DeviceDescriptorResponse
  | byte0 :: byte1 :: data =>
    let apci : UInt16 := ((byte0 &&& 0x03).toUInt16 <<< 8) ||| byte1.toUInt16
    if apci &&& 0x03C0 ≠ 0x0340 then
      invalidFrame s!"Expected DeviceDescriptorResponse APCI 0x0340, got 0x{hex 4 apci.toNat}"
    else .ok ⟨byte1 &&& 0x3F, data⟩
  | apciBytes =>
    invalidFrame s!"DeviceDescriptorResponse needs at least 2 APCI bytes, got {apciBytes.length}"

end DeviceDescriptorResponse

open DeviceDescriptorResponse

/-- The frame of a device that answers: the first byte of the answer shares the octet of
the transport layer. -/
def buildAnswerCemi (src dst : IndividualAddress) (sequence : UInt8)
    (response : DeviceDescriptorResponse) : List UInt8 :=
  let ddr := response.encode
  buildLdataReqCemi src dst ((TpciFrame.dataConnected sequence).encode ||| (ddr.getD 0 0 &&& 0x03))
    (ddr.drop 1)

theorem apci_eq_response_iff (byte0 byte1 : UInt8) :
    (((byte0 &&& 0x03).toUInt16 <<< 8) ||| byte1.toUInt16) &&& 0x03C0 = 0x0340 ↔
      byte0 &&& 0x03 = 0x03 ∧ byte1 &&& 0xC0 = 0x40 := by
  have hlow : ∀ b : UInt8, b &&& 0x03 ∈ ([0, 1, 2, 3] : List UInt8) := by decide +kernel
  have hbits : ∀ low ∈ ([0, 1, 2, 3] : List UInt8), ∀ b : UInt8,
      (low.toUInt16 <<< 8 ||| b.toUInt16) &&& 0x03C0 = 0x0340 ↔ low = 0x03 ∧ b &&& 0xC0 = 0x40 := by
    decide +kernel
  exact hbits _ (hlow byte0) byte1

theorem decode_eq_ok {byte0 byte1 : UInt8} (h : byte0 &&& 0x03 = 0x03 ∧ byte1 &&& 0xC0 = 0x40)
    (data : List UInt8) : decode (byte0 :: byte1 :: data) = .ok ⟨byte1 &&& 0x3F, data⟩ :=
  if_neg (not_not.mpr ((apci_eq_response_iff byte0 byte1).mpr h))

theorem exists_decode_iff {tpci : UInt8} {apciData : List UInt8} :
    (∃ response, decode (tpci :: apciData) = .ok response) ↔
      tpci &&& 0x03 = 0x03 ∧ ∃ b ∈ apciData.head?, b &&& 0xC0 = 0x40 := by
  cases apciData with
  | nil => simp [decode, invalidFrame]
  | cons byte1 data =>
    simp only [List.head?_cons, Option.mem_some, exists_eq_left']
    refine ⟨fun hdecode ↦ ?_, fun h ↦ ⟨_, decode_eq_ok h data⟩⟩
    obtain ⟨response, h⟩ := hdecode
    by_contra hother
    rw [decode, if_pos (mt (apci_eq_response_iff tpci byte1).mp hother)] at h
    cases h

/-- The probe counts as answers the frames that the decoder of the answers accepts, and the
disconnects. The answer of a device gets through to the decoder. -/
theorem descriptor_answers_recognised :
    (∀ cemi : CemiFrame, classifyCemi cemi = .occupied ↔
      (∃ response, decode (cemi.tpci :: cemi.apciData) = .ok response) ∨
        TpciFrame.decode cemi.tpci = .disconnect) ∧
    ∀ src dst sequence (response : DeviceDescriptorResponse), response.data.length ≤ 254 →
      ∃ cemi, parseProbeCemi (buildAnswerCemi src dst sequence response) = .ok cemi ∧
        decode (cemi.tpci :: cemi.apciData) =
          .ok { response with descriptor := response.descriptor &&& 0x3F } := by
  refine ⟨fun cemi ↦ ?_, fun src dst sequence response h ↦ ?_⟩
  · rw [Transport.Client.classifyCemi_eq_occupied_iff, exists_decode_iff]
  · have htpci : ∀ sequence : UInt8,
        ((TpciFrame.dataConnected sequence).encode ||| (0x03 &&& 0x03)) &&& 0x03 = 0x03 := by
      decide +kernel
    obtain ⟨hservice, -, hdescriptor, -⟩ := short_form_service response.descriptor
    refine ⟨_, parseProbeCemi_build src dst _ (Nat.succ_le_succ h), ?_⟩
    rw [← hdescriptor]
    exact decode_eq_ok ⟨htpci sequence, hservice⟩ response.data

end Knust.Protocol
