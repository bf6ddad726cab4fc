import Knust.Security.Pair
import Knust.Transport.FrameTransport

namespace Knust.Transport

open Foundation Security SecureSession TcpFrameTransport

variable (P : Primitives)

def encryptFrames (s : SecureSession) : List (List UInt8) → List (Result (List UInt8))
  | [] => []
  | plain :: plains =>
    let r := s.encryptFrame P plain
    r.1 :: encryptFrames r.2 plains

theorem sized_sealedWrapper (key : Block 16) (sessionId : UInt16) (sequence : Block 6)
    {plain : List UInt8} (hplain : plain.length ≤ 65497) :
    Sized (sealedWrapper P key sessionId sequence plain).bytes := by
  have hlength : (sealedWrapper P key sessionId sequence plain).bytes.length =
      38 + plain.length := by
    rw [Wrapper.bytes_length]
    exact congrArg (38 + ·) (applyKeystream_snd_length _ _ _)
  have hheader : declaredLength (wrapperHeader (38 + plain.length)) = .ok (38 + plain.length) := by
    simp only [declaredLength, wrapperHeader, u16Bytes_eq]
    show Outcome.ok (u16OfBytes (hiByte _) (loByte _)).toNat = _
    rw [u16OfBytes_hiByte_loByte, UInt16.toNat_ofNat', Nat.mod_eq_of_lt (by omega)]
  refine ⟨by omega, by omega, ?_⟩
  rw [hlength, ← hheader]
  exact declaredLength_append (by simp) _

/-- The receiver shares the key and the identifier of the sender, and takes the next
number of the sender for a new one. -/
structure Facing (sender receiver : SecureSession) : Prop where
  initialized : sender.sessionKey.initialized = true
  sessionKey : receiver.sessionKey = sender.sessionKey
  sessionId : receiver.sessionId = sender.sessionId
  fresh : Fresh receiver.sequenceNumberReceived.toNat sender.sequenceNumber.toNat

/-- However the stream of the encrypted frames is cut into reads, they are received one
by one and decrypt to what was sent. -/
def Arrive (sender receiver : SecureSession) (plains : List (List UInt8)) : Prop :=
  ∃ frames, encryptFrames P sender plains = frames.map .ok ∧
    (∀ chunks : List (List UInt8), (∀ c ∈ chunks, c ≠ []) → chunks.flatten = frames.flatten →
      recvFrames plains.length ⟨[], chunks.map .chunk⟩ = some (frames, ⟨[], []⟩)) ∧
    (calls P receiver frames).map Call.result = plains.map .ok

variable {P} {sender receiver : SecureSession}

theorem Facing.exists_frames (h : Facing sender receiver) {plains : List (List UInt8)}
    (hplains : ∀ plain ∈ plains, plain.length ≤ 65497)
    (hnumbers : sender.sequenceNumber.toNat + plains.length ≤ 2 ^ 48) :
    ∃ frames, encryptFrames P sender plains = frames.map .ok ∧ (∀ f ∈ frames, Sized f) ∧
      frames.length = plains.length ∧
      (calls P receiver frames).map Call.result = plains.map .ok := by
  induction plains generalizing sender receiver with
  | nil => exact ⟨[], rfl, by simp, rfl, rfl⟩
  | cons plain plains ih =>
    rw [List.length_cons] at hnumbers
    have hnext := SecurePair.toNat_add_one (n := sender.sequenceNumber) (by omega)
    have hopen := decryptFrame_sealed P (s := receiver) (by rw [h.sessionKey, h.initialized])
      (by omega) plain h.fresh
    -- The next frame has a number above the one that was just received.
    have hfacing : Facing { sender with sequenceNumber := sender.sequenceNumber + 1 }
        { receiver with sequenceNumberReceived := sender.sequenceNumber } :=
      ⟨h.initialized, h.sessionKey, h.sessionId, fresh_of_lt (by simp only [hnext]; omega)⟩
    obtain ⟨frames, hsealed, hsized, hlength, hcalls⟩ := ih hfacing
      (fun p hp ↦ hplains p (List.mem_cons_of_mem _ hp)) (by simp only [hnext]; omega)
    refine ⟨(sealedWrapper P receiver.sessionKey.key receiver.sessionId
      (sequenceBytes sender.sequenceNumber) plain).bytes :: frames, ?_, ?_, ?_, ?_⟩
    · rw [encryptFrames, encryptFrame_eq P plain h.initialized, hsealed, h.sessionKey, h.sessionId]
      rfl
    · intro f hf
      rcases List.mem_cons.mp hf with rfl | hf
      · exact sized_sealedWrapper P _ _ _ (hplains plain List.mem_cons_self)
      · exact hsized f hf
    · rw [List.length_cons, List.length_cons, hlength]
    · rw [calls, hopen, List.map_cons, hcalls]
      rfl

theorem secure_stream_arrives (P : Primitives) (h : Facing sender receiver)
    (plains : List (List UInt8)) (hplains : ∀ plain ∈ plains, plain.length ≤ 65497)
    (hnumbers : sender.sequenceNumber.toNat + plains.length ≤ 2 ^ 48) :
    Arrive P sender receiver plains := by
  obtain ⟨frames, hsealed, hsized, hlength, hcalls⟩ := h.exists_frames (P := P) hplains hnumbers
  refine ⟨frames, hsealed, fun chunks hchunks hcut ↦ ?_, hcalls⟩
  rw [← hlength]
  exact recvFrames_stream hsized hchunks hcut

open Security.Reference in
theorem secure_stream_arrives_reference :
    Arrive primitives client server [[6, 16, 4, 32], []] := by
  have hfacing : Facing client server := ⟨rfl, rfl, rfl, fresh_bot 0⟩
  exact secure_stream_arrives primitives hfacing _ (by decide) (by decide)

end Knust.Transport
