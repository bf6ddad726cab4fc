import Knust.Foundation.Freshness
import Knust.Security.Handshake

namespace Knust.Security

open Foundation

def sequenceField (frame : List UInt8) : ℕ := beDecode ((frame.drop 8).take 6)

namespace SecureSession

variable (P : Primitives) {s : SecureSession} {frame : List UInt8}

theorem openFrame_eq_ok {plain : List UInt8} {q : UInt64} :
    openFrame P s frame = .ok (plain, q) ↔
      s.sessionKey.initialized = true ∧ 38 ≤ frame.length ∧ frameSession frame = .ok s.sessionId ∧
      receivedSequence frame = .ok q ∧
      ¬ (q ≤ s.sequenceNumberReceived ∧ s.sequenceNumberReceived ≠ 0) ∧
      unwrap P s.sessionKey.key s.sessionId frame = .ok plain := by
  unfold openFrame
  constructor
  · intro h
    split at h
    · rename_i hinit
      split at h
      · simp [decryptError] at h
      · rename_i hlen
        obtain ⟨id, hid, h⟩ := Outcome.bind_eq_ok.mp h
        split at h
        · simp [decryptError] at h
        · rename_i hs
          obtain ⟨r, hr, h⟩ := Outcome.bind_eq_ok.mp h
          dsimp only at h
          split at h
          · simp [decryptError] at h
          · rename_i hfresh
            obtain ⟨d, hd, h⟩ := Outcome.bind_eq_ok.mp h
            simp only [Outcome.ok.injEq, Prod.mk.injEq] at h
            obtain ⟨rfl, rfl⟩ := h
            refine ⟨hinit, by omega, ?_, hr, hfresh, hd⟩
            rw [hid, not_not.mp hs]
    · simp [keyNotInitialized] at h
  · rintro ⟨hinit, hlen, hid, hr, hfresh, hd⟩
    rw [if_pos hinit, if_neg (by omega), hid, Outcome.ok_bind, if_neg (not_not.mpr rfl), hr,
      Outcome.ok_bind]
    dsimp only
    rw [if_neg hfresh, hd]
    rfl

theorem receivedSequence_eq_ok {q : UInt64} (h : receivedSequence frame = .ok q) :
    q.toNat = sequenceField frame := by
  obtain ⟨l, hl, h⟩ := Outcome.bind_eq_ok.mp h
  obtain ⟨-, rfl⟩ := slice_eq_ok.mp hl
  simp only [Nat.reduceSub] at h
  have hlt := beDecode_lt ((frame.drop 8).take 6)
  have hlen : ((frame.drop 8).take 6).length ≤ 6 := List.length_take_le _ _
  have hpow : 256 ^ ((frame.drop 8).take 6).length ≤ 256 ^ 6 := Nat.pow_le_pow_right (by omega) hlen
  rw [← Outcome.ok.inj h]
  exact UInt64.toNat_ofNat_of_lt' (by simp only [UInt64.size]; omega)

/-- The frames whose session and authentication code are right, whatever their
number. -/
def authentic (s : SecureSession) (frame : List UInt8) : Bool :=
  s.sessionKey.initialized && decide (38 ≤ frame.length) &&
  decide (frameSession frame = .ok s.sessionId) &&
  (unwrap P s.sessionKey.key s.sessionId frame).isOk

theorem authentic_iff :
    authentic P s frame = true ↔
      s.sessionKey.initialized = true ∧ 38 ≤ frame.length ∧ frameSession frame = .ok s.sessionId ∧
      ∃ plain, unwrap P s.sessionKey.key s.sessionId frame = .ok plain := by
  simp [authentic, Outcome.isOk_iff, and_assoc]

theorem fresh_sequence_iff {q : UInt64} (hq : receivedSequence frame = .ok q) :
    ¬ (q ≤ s.sequenceNumberReceived ∧ s.sequenceNumberReceived ≠ 0) ↔
      Fresh s.sequenceNumberReceived.toNat (sequenceField frame) := by
  have hz : s.sequenceNumberReceived ≠ 0 ↔ s.sequenceNumberReceived.toNat ≠ 0 :=
    UInt64.toNat_inj.symm.not
  rw [Fresh, ← receivedSequence_eq_ok hq, hz, UInt64.le_iff_toNat_le]
  rfl

theorem openFrame_eq_ok_imp {plain : List UInt8} {q : UInt64}
    (h : openFrame P s frame = .ok (plain, q)) :
    authentic P s frame = true ∧ Fresh s.sequenceNumberReceived.toNat (sequenceField frame) ∧
      q.toNat = sequenceField frame := by
  obtain ⟨hi, hl, hs, hq, hf, hu⟩ := (openFrame_eq_ok P).mp h
  exact ⟨(authentic_iff P).mpr ⟨hi, hl, hs, plain, hu⟩, (fresh_sequence_iff hq).mp hf,
    receivedSequence_eq_ok hq⟩

theorem openFrame_of_authentic (ha : authentic P s frame = true)
    (hf : Fresh s.sequenceNumberReceived.toNat (sequenceField frame)) :
    ∃ r, openFrame P s frame = .ok r := by
  obtain ⟨hi, hl, hs, plain, hu⟩ := (authentic_iff P).mp ha
  have hq : ∃ q, receivedSequence frame = .ok q := by
    rw [receivedSequence, slice_of_le (by omega) (by omega)]
    exact ⟨_, rfl⟩
  obtain ⟨q, hq⟩ := hq
  exact ⟨(plain, q), (openFrame_eq_ok P).mpr ⟨hi, hl, hs, hq, (fresh_sequence_iff hq).mpr hf, hu⟩⟩

theorem decryptFrame_eq (s : SecureSession) (frame : List UInt8) :
    (s.decryptFrame P frame).2 = s ∧ (∀ r, (s.decryptFrame P frame).1 ≠ .ok r) ∨
    ∃ plain q, openFrame P s frame = .ok (plain, q) ∧
      s.decryptFrame P frame = (.ok plain, { s with sequenceNumberReceived := q }) := by
  unfold decryptFrame
  rcases h : openFrame P s frame with ⟨plain, q⟩ | e | _
  · exact .inr ⟨plain, q, rfl, rfl⟩
  · exact .inl ⟨rfl, by simp⟩
  · exact .inl ⟨rfl, by simp⟩

theorem decryptFrame_sequenceNumber (s : SecureSession) (frame : List UInt8) :
    (s.decryptFrame P frame).2.sequenceNumber = s.sequenceNumber := by
  rcases s.decryptFrame_eq P frame with ⟨hs, -⟩ | ⟨plain, q, -, hd⟩
  · rw [hs]
  · rw [hd]

theorem receivedSequence_sealed (key : Block 16) (sessionId : UInt16) {n : UInt64}
    (hn : n.toNat < 2 ^ 48) (plain : List UInt8) :
    receivedSequence (sealedWrapper P key sessionId (sequenceBytes n) plain).bytes = .ok n := by
  have hlt : n.toNat < 256 ^ 6 := by omega
  have hseq : UInt64.ofNat (beDecode (sequenceBytes n).val) = n := by
    rw [sequenceBytes, beDecode_beEncode, Nat.mod_eq_of_lt hlt, UInt64.ofNat_toNat]
  rw [receivedSequence_bytes]
  exact congrArg _ hseq

theorem sequenceField_sealed (key : Block 16) (sessionId : UInt16) {n : UInt64}
    (hn : n.toNat < 2 ^ 48) (plain : List UInt8) :
    sequenceField (sealedWrapper P key sessionId (sequenceBytes n) plain).bytes = n.toNat :=
  (receivedSequence_eq_ok (receivedSequence_sealed P key sessionId hn plain)).symm

theorem decryptFrame_sealed (h : s.sessionKey.initialized = true) {n : UInt64}
    (hn : n.toNat < 2 ^ 48) (plain : List UInt8)
    (hf : Fresh s.sequenceNumberReceived.toNat n.toNat) :
    s.decryptFrame P
      (sealedWrapper P s.sessionKey.key s.sessionId (sequenceBytes n) plain).bytes =
      (.ok plain, { s with sequenceNumberReceived := n }) := by
  have hq := receivedSequence_sealed P s.sessionKey.key s.sessionId hn plain
  rw [← sequenceField_sealed P s.sessionKey.key s.sessionId hn plain] at hf
  have hopen : openFrame P s
      (sealedWrapper P s.sessionKey.key s.sessionId (sequenceBytes n) plain).bytes =
      .ok (plain, n) := by
    refine (openFrame_eq_ok P).mpr ⟨h, ?_, frameSession_bytes _ _ rfl, hq,
      (fresh_sequence_iff hq).mpr hf,
      unwrap_sealedWrapper P s.sessionKey.key s.sessionId (sequenceBytes n) plain⟩
    rw [Wrapper.bytes_length]
    omega
  rw [decryptFrame, hopen]

theorem decryptFrame_stale (hf : ¬ Fresh s.sequenceNumberReceived.toNat (sequenceField frame))
    (plain : List UInt8) : (s.decryptFrame P frame).1 ≠ .ok plain := by
  intro h
  rw [decryptFrame] at h
  split at h
  · rename_i plain' q ho
    exact hf (openFrame_eq_ok_imp P ho).2.1
  · cases h
  · cases h

end SecureSession

structure Call where
  frame : List UInt8
  before : SecureSession
  result : Result (List UInt8)
  after : SecureSession

def Call.accepted (c : Call) : Bool := c.result.isOk

def calls (P : Primitives) (s : SecureSession) : List (List UInt8) → List Call
  | [] => []
  | frame :: frames =>
    let r := s.decryptFrame P frame
    ⟨frame, s, r.1, r.2⟩ :: calls P r.2 frames

/-- Sequence numbers of accepted frames increase, no frame is accepted twice, and
a rejected frame leaves the last number alone. -/
def ReplaySafe (cs : List Call) : Prop :=
  ((cs.filter Call.accepted).map fun c ↦ sequenceField c.frame).Pairwise (· < ·) ∧
  ((cs.filter Call.accepted).map Call.frame).Nodup ∧
  ∀ c ∈ cs, c.accepted = false →
    c.after.sequenceNumberReceived = c.before.sequenceNumberReceived

section

variable (P : Primitives)

theorem accepted_sequences (s : SecureSession) (frames : List (List UInt8)) :
    ((calls P s frames).filter Call.accepted).map (fun c ↦ sequenceField c.frame) =
      admitted s.sequenceNumberReceived.toNat
        ((frames.filter (s.authentic P)).map sequenceField) := by
  induction frames generalizing s with
  | nil => rfl
  | cons frame frames ih =>
    rcases s.decryptFrame_eq P frame with ⟨hs, hr⟩ | ⟨plain, q, ho, hd⟩
    · have hrej : ¬ Call.accepted ⟨frame, s, (s.decryptFrame P frame).1, s⟩ = true := by
        rw [Call.accepted, Outcome.isOk_iff]
        rintro ⟨r, hr'⟩
        exact hr r hr'
      have hstale (ha : s.authentic P frame = true) :
          ¬ Fresh s.sequenceNumberReceived.toNat (sequenceField frame) := by
        intro hf
        obtain ⟨⟨plain, q⟩, ho⟩ := SecureSession.openFrame_of_authentic P ha hf
        exact hr plain (by rw [SecureSession.decryptFrame, ho])
      -- A rejected frame is not authentic, or its number is not admitted either.
      rw [calls, hs]
      by_cases ha : s.authentic P frame = true
      · simp [hrej, ih, ha, admitted, hstale ha]
      · simp [hrej, ih, ha]
    · obtain ⟨ha, hf, hq⟩ := SecureSession.openFrame_eq_ok_imp P ho
      have hsame : SecureSession.authentic P { s with sequenceNumberReceived := q } =
          SecureSession.authentic P s := rfl
      have hacc : Call.accepted ⟨frame, s, .ok plain, { s with sequenceNumberReceived := q }⟩ = true :=
        rfl
      rw [calls, hd]
      simp [hacc, ih, ha, admitted, hf, hq, hsame]

theorem rejected_keeps_sequence (s : SecureSession) (frames : List (List UInt8)) :
    ∀ c ∈ calls P s frames, c.accepted = false →
      c.after.sequenceNumberReceived = c.before.sequenceNumberReceived := by
  induction frames generalizing s with
  | nil => simp [calls]
  | cons frame frames ih =>
    intro c hc hrej
    rcases List.mem_cons.mp hc with rfl | hc
    · rcases s.decryptFrame_eq P frame with ⟨hs, -⟩ | ⟨plain, q, -, hd⟩
      · exact congrArg _ hs
      · simp [Call.accepted, hd, Outcome.isOk] at hrej
    · exact ih _ c hc hrej

/-- A session that has received nothing is safe from replays unless the first two
authentic frames given to it both carry the number zero. -/
theorem replaySafe_iff (s : SecureSession) (h : s.sequenceNumberReceived = 0)
    (frames : List (List UInt8)) :
    ReplaySafe (calls P s frames) ↔
      ¬ [0, 0] <+: (frames.filter (s.authentic P)).map sequenceField := by
  have hbot : s.sequenceNumberReceived.toNat = ⊥ := by rw [h]; rfl
  have hseq := accepted_sequences P s frames
  rw [hbot] at hseq
  have hadm := pairwise_admitted_bot_iff ((frames.filter (s.authentic P)).map sequenceField)
  rw [ReplaySafe, hseq]
  constructor
  · intro hsafe
    exact hadm.mp hsafe.1
  · intro hpre
    have hpair := hadm.mpr hpre
    refine ⟨hpair, ?_, rejected_keeps_sequence P s frames⟩
    rw [← hseq, List.pairwise_map] at hpair
    rw [List.Nodup, List.pairwise_map]
    exact hpair.imp fun hlt heq ↦ absurd hlt (by rw [heq]; exact lt_irrefl _)

end

namespace Reference

/-- The server's answer to a heartbeat, wrapped under the given number. -/
def heartbeatFrame (n : UInt64) : List UInt8 :=
  (SecureSession.sealedWrapper primitives server.sessionKey.key server.sessionId
    (SecureSession.sequenceBytes n)
    [0x06, 0x10, 0x02, 0x08, 0x00, 0x08, 0x01, 0x00]).bytes

end Reference

theorem replaySafe_reference :
    ReplaySafe (calls Reference.primitives Reference.client
      [Reference.heartbeatFrame 0, Reference.heartbeatFrame 1]) ↔
    ¬ [0, 0] <+: ([Reference.heartbeatFrame 0, Reference.heartbeatFrame 1].filter
      (Reference.client.authentic Reference.primitives)).map sequenceField :=
  replaySafe_iff Reference.primitives Reference.client rfl _

theorem first_frame_replayed :
    let cs := calls Reference.primitives Reference.client
      [Reference.heartbeatFrame 0, Reference.heartbeatFrame 0]
    cs.map Call.accepted = [true, true] ∧ ¬ ReplaySafe cs := by
  refine ⟨by decide +kernel, fun h ↦ absurd h.1 ?_⟩
  decide +kernel

end Knust.Security
