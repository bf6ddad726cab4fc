import Knust.Security.Replay

namespace Knust.Security

open Foundation SecureSession

inductive Side
  | client
  | server
  deriving Repr, DecidableEq

def Side.peer : Side → Side
  | .client => .server
  | .server => .client

@[simp] theorem Side.peer_peer (side : Side) : side.peer.peer = side := by cases side <;> rfl

@[simp] theorem Side.peer_ne (side : Side) : side.peer ≠ side := by cases side <;> decide

theorem Side.eq_or_eq_peer (side other : Side) : other = side ∨ other = side.peer := by
  cases side <;> cases other <;> decide

structure SecurePair where
  client : SecureSession
  server : SecureSession

inductive Operation
  | encrypt (side : Side) (plain : List UInt8)
  | decrypt (side : Side) (frame : List UInt8)
  deriving DecidableEq

def Operation.encrypts (side : Side) : Operation → Bool
  | .encrypt side' _ => side' = side
  | .decrypt _ _ => false

@[simp] theorem Operation.encrypts_encrypt (side side' : Side) (plain : List UInt8) :
    (Operation.encrypt side' plain).encrypts side = decide (side' = side) := rfl

@[simp] theorem Operation.encrypts_decrypt (side side' : Side) (frame : List UInt8) :
    (Operation.decrypt side' frame).encrypts side = false := rfl

namespace SecurePair

def get (p : SecurePair) : Side → SecureSession
  | .client => p.client
  | .server => p.server

def set (p : SecurePair) : Side → SecureSession → SecurePair
  | .client, s => { p with client := s }
  | .server, s => { p with server := s }

@[simp] theorem get_set (p : SecurePair) (side other : Side) (s : SecureSession) :
    (p.set side s).get other = if other = side then s else p.get other := by
  cases side <;> cases other <;> rfl

variable (P : Primitives)

def perform (p : SecurePair) : Operation → Result (List UInt8) × SecurePair
  | .encrypt side plain =>
    let r := (p.get side).encryptFrame P plain
    (r.1, p.set side r.2)
  | .decrypt side frame =>
    let r := (p.get side).decryptFrame P frame
    (r.1, p.set side r.2)

structure Keyed (key : Block 16) (sessionId : UInt16) (p : SecurePair) : Prop where
  key_eq : ∀ side, (p.get side).sessionKey = ⟨key, true⟩
  id_eq : ∀ side, (p.get side).sessionId = sessionId

theorem keyed_of_established {client server : SecureSession} (h : Established client server) :
    Keyed server.sessionKey.key server.sessionId ⟨client, server⟩ := by
  have hs : server.sessionKey = ⟨server.sessionKey.key, true⟩ := by rw [← h.initialized]
  refine ⟨fun side ↦ ?_, fun side ↦ ?_⟩
  · cases side
    · exact h.sessionKey.trans hs
    · exact hs
  · cases side
    · exact h.sessionId
    · rfl

variable {P} {key : Block 16} {sessionId : UInt16} {p : SecurePair}

theorem Keyed.set (h : Keyed key sessionId p) (side : Side) {s : SecureSession}
    (hkey : s.sessionKey = (p.get side).sessionKey) (hid : s.sessionId = (p.get side).sessionId) :
    Keyed key sessionId (p.set side s) := by
  refine ⟨fun other ↦ ?_, fun other ↦ ?_⟩ <;> rw [get_set] <;> split
  · exact hkey.trans (h.key_eq side)
  · exact h.key_eq other
  · exact hid.trans (h.id_eq side)
  · exact h.id_eq other

theorem Keyed.perform_encrypt (h : Keyed key sessionId p) (side : Side) (plain : List UInt8) :
    p.perform P (.encrypt side plain) =
      (.ok (sealedWrapper P key sessionId (sequenceBytes (p.get side).sequenceNumber) plain).bytes,
        p.set side { p.get side with sequenceNumber := (p.get side).sequenceNumber + 1 }) := by
  have henc := encryptFrame_eq P plain (s := p.get side) (by rw [h.key_eq])
  simp only [perform, henc, h.key_eq, h.id_eq]

theorem Keyed.perform (h : Keyed key sessionId p) (o : Operation) :
    Keyed key sessionId (p.perform P o).2 := by
  cases o with
  | encrypt side plain =>
    rw [h.perform_encrypt]
    exact h.set side rfl rfl
  | decrypt side frame =>
    rcases decryptFrame_eq P (p.get side) frame with ⟨hs, -⟩ | ⟨plain, q, -, hd⟩
    · exact h.set side (congrArg _ hs) (congrArg _ hs)
    · exact h.set side (by rw [hd]) (by rw [hd])

theorem Keyed.perform_sequenceNumber (h : Keyed key sessionId p) (o : Operation) (side : Side) :
    ((p.perform P o).2.get side).sequenceNumber =
      (p.get side).sequenceNumber + if o.encrypts side then 1 else 0 := by
  cases o with
  | encrypt other plain =>
    rw [h.perform_encrypt, get_set]
    by_cases hs : side = other
    · simp [hs]
    · simp [hs, Ne.symm hs]
  | decrypt other frame =>
    simp only [SecurePair.perform, get_set, Operation.encrypts_decrypt]
    split
    · rename_i hs
      simp [decryptFrame_sequenceNumber, hs]
    · simp

theorem toNat_add_one {n : UInt64} (h : n.toNat < 2 ^ 48) : (n + 1).toNat = n.toNat + 1 := by
  rw [UInt64.toNat_add]
  simp
  omega

def Supply (p : SecurePair) (ops : List Operation) : Prop :=
  ∀ side, (p.get side).sequenceNumber.toNat + ops.countP (·.encrypts side) ≤ 2 ^ 48

theorem Supply.lt {side : Side} {plain : List UInt8} {ops : List Operation}
    (hs : p.Supply (.encrypt side plain :: ops)) : (p.get side).sequenceNumber.toNat < 2 ^ 48 := by
  have hside := hs side
  rw [List.countP_cons_of_pos (by simp)] at hside
  omega

theorem Supply.perform {o : Operation} {ops : List Operation} (hs : p.Supply (o :: ops))
    (h : Keyed key sessionId p) : (p.perform P o).2.Supply ops := by
  intro side
  have hside := hs side
  rw [List.countP_cons] at hside
  rw [h.perform_sequenceNumber]
  by_cases he : o.encrypts side = true
  · rw [if_pos he] at hside
    rw [if_pos he, toNat_add_one (by omega)]
    omega
  · rw [if_neg he] at hside
    rw [if_neg he, UInt64.add_zero]
    exact hside

end SecurePair

end Knust.Security
