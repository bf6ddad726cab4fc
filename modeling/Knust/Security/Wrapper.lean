import Knust.Security.Session

namespace Knust.Security

open Foundation

structure Wrapper where
  header : Block 6
  session : Block 2
  sequence : Block 6
  serial : Block 6
  tag : Block 2
  data : List UInt8
  mac : Block 16

namespace Wrapper

def bytes (w : Wrapper) : List UInt8 :=
  w.header.val ++ (w.session.val ++ (w.sequence.val ++ (w.serial.val ++ (w.tag.val ++
    (w.data ++ w.mac.val)))))

def block0 (w : Wrapper) (payloadLength : ℕ) : Block 16 :=
  ⟨wrapperBlock0 w.sequence.val w.serial.val w.tag.val payloadLength, by simp [wrapperBlock0]⟩

def counter0 (w : Wrapper) : Block 16 :=
  ⟨wrapperCounter0 w.sequence.val w.serial.val w.tag.val, by simp [wrapperCounter0]⟩

variable (w : Wrapper)

theorem bytes_length : w.bytes.length = 38 + w.data.length := by
  simp [bytes]
  omega

theorem slice_header : (slice w.bytes 0 6 : Result _) = .ok w.header.val :=
  slice_middle [] _ rfl rfl (by simp)

theorem slice_sequence : (slice w.bytes 8 14 : Result _) = .ok w.sequence.val :=
  slice_middle (w.header.val ++ w.session.val)
    (w.serial.val ++ (w.tag.val ++ (w.data ++ w.mac.val)))
    (by simp [bytes]) (by simp) (by simp)

theorem slice_serial : (slice w.bytes 14 20 : Result _) = .ok w.serial.val :=
  slice_middle (w.header.val ++ w.session.val ++ w.sequence.val)
    (w.tag.val ++ (w.data ++ w.mac.val)) (by simp [bytes]) (by simp) (by simp)

theorem slice_tag : (slice w.bytes 20 22 : Result _) = .ok w.tag.val :=
  slice_middle (w.header.val ++ w.session.val ++ w.sequence.val ++ w.serial.val)
    (w.data ++ w.mac.val) (by simp [bytes]) (by simp) (by simp)

theorem slice_data : (slice w.bytes 22 (w.bytes.length - 16) : Result _) = .ok w.data :=
  slice_middle (w.header.val ++ w.session.val ++ w.sequence.val ++ w.serial.val ++ w.tag.val)
    w.mac.val (by simp [bytes]) (by simp) (by rw [bytes_length]; omega)

theorem sliceFrom_mac : (sliceFrom w.bytes (w.bytes.length - 16) : Result _) = .ok w.mac.val := by
  have h : w.bytes = (w.header.val ++ w.session.val ++ w.sequence.val ++ w.serial.val ++
      w.tag.val ++ w.data) ++ w.mac.val := by simp [bytes]
  rw [sliceFrom_of_le (Nat.sub_le _ _), h, List.length_append, Block.length,
    Nat.add_sub_cancel, List.drop_left]

end Wrapper

namespace SecureSession

variable (P : Primitives) (key : Block 16)

theorem frameSession_bytes (w : Wrapper) (sessionId : UInt16)
    (h : w.session.val = u16Bytes sessionId) : frameSession w.bytes = .ok sessionId := by
  have hlen : w.header.val.length = 6 := w.header.property
  have h₆ : (index w.bytes 6 : Result _) = .ok (hiByte sessionId) := by
    simp [index, Wrapper.bytes, h, u16Bytes_eq]
  have h₇ : (index w.bytes 7 : Result _) = .ok (loByte sessionId) := by
    simp [index, Wrapper.bytes, h, u16Bytes_eq, List.getElem?_append_right]
  simp [frameSession, h₆, h₇]

theorem receivedSequence_bytes (w : Wrapper) :
    receivedSequence w.bytes = .ok (UInt64.ofNat (beDecode w.sequence.val)) := by
  rw [receivedSequence, w.slice_sequence]
  rfl

theorem unwrap_bytes (sessionId : UInt16) (w : Wrapper) :
    unwrap P key sessionId w.bytes =
      (let plain := (applyKeystream (ctrBlock P key w.counter0) w.mac.val w.data).2
      if (cbcMac (P.aes128 key) (macInput (w.header.val ++ u16Bytes sessionId) plain
          (w.block0 plain.length).val)).val ≠
        (applyKeystream (ctrBlock P key w.counter0) w.mac.val w.data).1
      then decryptError "MAC verification failed" else .ok plain) := by
  have hctr := decryptCtr_blocks P key w.counter0 w.mac.val w.data
  have hmac := fun n plain ↦ calculateMacCbc_blocks P key (w.block0 n)
    (w.header.val ++ u16Bytes sessionId) plain
  simp only [Wrapper.counter0, Wrapper.block0] at hctr hmac
  simp only [unwrap, w.slice_sequence, w.slice_serial, w.slice_tag, w.slice_data, w.sliceFrom_mac,
    w.slice_header, Outcome.ok_bind, hctr, hmac, Wrapper.counter0, Wrapper.block0]
  rfl

variable (sessionId : UInt16) (sequence : Block 6) (plain : List UInt8)

def plainWrapper : Wrapper where
  header := ⟨wrapperHeader (38 + plain.length), by simp [wrapperHeader]⟩
  session := ⟨u16Bytes sessionId, u16Bytes_length sessionId⟩
  sequence := sequence
  serial := ⟨deviceSerialNumber, rfl⟩
  tag := ⟨messageTagTunnelling, rfl⟩
  data := plain
  mac := Block.zero 16

def wrapperMac : Block 16 :=
  cbcMac (P.aes128 key) (macInput (wrapperHeader (38 + plain.length) ++ u16Bytes sessionId) plain
    ((plainWrapper sessionId sequence plain).block0 plain.length).val)

def wrapperStream (n : ℕ) : Block 16 :=
  ctrBlock P key (plainWrapper 0 sequence []).counter0 n

def sealedWrapper : Wrapper :=
  let masked := applyKeystream (wrapperStream P key sequence)
    (wrapperMac P key sessionId sequence plain).val plain
  { plainWrapper sessionId sequence plain with
    data := masked.2
    mac := ⟨masked.1, (applyKeystream_fst_length _ _ _).trans (Block.length _)⟩ }

theorem wrap_eq :
    wrap P key sessionId sequence plain =
      .ok (sealedWrapper P key sessionId sequence plain).bytes := by
  have hmac := calculateMacCbc_blocks P key
    ((plainWrapper sessionId sequence plain).block0 plain.length)
    (wrapperHeader (38 + plain.length) ++ u16Bytes sessionId) plain
  have hctr := fun mac ↦ encryptCtr_blocks P key (plainWrapper 0 sequence []).counter0 mac plain
  simp only [Wrapper.block0, Wrapper.counter0, plainWrapper] at hmac hctr
  simp only [wrap, hmac, hctr, Outcome.ok_bind, Wrapper.bytes, sealedWrapper,
    plainWrapper, List.append_assoc]
  rfl

theorem unwrap_sealedWrapper :
    unwrap P key sessionId (sealedWrapper P key sessionId sequence plain).bytes = .ok plain := by
  have hstream : ctrBlock P key (sealedWrapper P key sessionId sequence plain).counter0 =
      wrapperStream P key sequence := rfl
  have hmask := applyKeystream_applyKeystream (wrapperStream P key sequence)
    (wrapperMac P key sessionId sequence plain).val plain
  have hopen : applyKeystream (wrapperStream P key sequence)
      (sealedWrapper P key sessionId sequence plain).mac.val
      (sealedWrapper P key sessionId sequence plain).data =
      ((wrapperMac P key sessionId sequence plain).val, plain) := hmask
  rw [unwrap_bytes, hstream, hopen]
  exact if_neg (not_not.mpr rfl)

theorem encryptFrame_eq {s : SecureSession} (h : s.sessionKey.initialized = true) :
    s.encryptFrame P plain =
      (.ok (sealedWrapper P s.sessionKey.key s.sessionId (sequenceBytes s.sequenceNumber) plain).bytes,
        { s with sequenceNumber := s.sequenceNumber + 1 }) := by
  rw [encryptFrame, if_pos h, wrap_eq]

theorem take_of_encryptFrame {s : SecureSession} {frame : List UInt8}
    (h : (s.encryptFrame P plain).1 = .ok frame) : frame.take 4 = [0x06, 0x10, 0x09, 0x50] := by
  by_cases hi : s.sessionKey.initialized = true
  · rw [encryptFrame_eq P plain hi] at h
    cases h
    rfl
  · simp [encryptFrame, hi, keyNotInitialized] at h

end SecureSession

end Knust.Security
