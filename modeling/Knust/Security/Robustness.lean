import Knust.Security.Wrapper

namespace Knust.Security

open Foundation Outcome

variable (P : Primitives)

theorem bytesXor_ne_panic (a b : List UInt8) : bytesXor a b ≠ .panic := by
  unfold bytesXor
  exact ite_ne_panic (err_ne_panic _) (ok_ne_panic _)

theorem withKeyAndBlock_ne_panic {α : Type} (operation blockName : String) (key block : List UInt8)
    (run : Block 16 → Block 16 → α) :
    withKeyAndBlock operation blockName key block run ≠ .panic := by
  unfold withKeyAndBlock
  split
  · split
    · exact ok_ne_panic _
    · exact err_ne_panic _
  · exact err_ne_panic _

theorem applyCtr_ne_panic (operation : String) (key counter0 mac payload : List UInt8) :
    applyCtr P operation key counter0 mac payload ≠ .panic := by
  rw [applyCtr]
  exact withKeyAndBlock_ne_panic _ _ _ _ _

theorem decryptCtr_ne_panic (key counter0 mac payload : List UInt8) :
    decryptCtr P key counter0 mac payload ≠ .panic := applyCtr_ne_panic P _ _ _ _ _

namespace SecureSession

theorem handshakeMacMatches_ne_panic (password additionalData mac : List UInt8) :
    handshakeMacMatches P password additionalData mac ≠ .panic :=
  bind_ne_panic (withKeyAndBlock_ne_panic _ _ _ _ _) fun _ _ ↦
    bind_ne_panic (decryptCtr_ne_panic P _ _ _ _) fun _ _ ↦ ok_ne_panic _

theorem verifyAuthenticateMac_ne_panic (s : SecureSession) (clientPublicKey : Block 32)
    (userId : UInt8) (mac : List UInt8) :
    (s.verifyAuthenticateMac P clientPublicKey userId mac).1 ≠ .panic := by
  show checkAuthenticateMac P s clientPublicKey userId mac ≠ .panic
  unfold checkAuthenticateMac
  refine ite_ne_panic (ok_ne_panic _) ?_
  split
  · exact err_ne_panic _
  · exact bind_ne_panic (bytesXor_ne_panic _ _) fun _ _ ↦ handshakeMacMatches_ne_panic P _ _ _

theorem unwrap_ne_panic (key : Block 16) (sessionId : UInt16) {frame : List UInt8}
    (hlen : 38 ≤ frame.length) : unwrap P key sessionId frame ≠ .panic := by
  refine bind_ne_panic (slice_ne_panic (by omega) (by omega)) fun _ _ ↦ ?_
  refine bind_ne_panic (slice_ne_panic (by omega) (by omega)) fun _ _ ↦ ?_
  refine bind_ne_panic (slice_ne_panic (by omega) (by omega)) fun _ _ ↦ ?_
  refine bind_ne_panic (slice_ne_panic (by omega) (by omega)) fun _ _ ↦ ?_
  refine bind_ne_panic (sliceFrom_ne_panic (by omega)) fun _ _ ↦ ?_
  refine bind_ne_panic (decryptCtr_ne_panic P _ _ _ _) fun _ _ ↦ ?_
  refine bind_ne_panic (slice_ne_panic (by omega) (by omega)) fun _ _ ↦ ?_
  exact bind_ne_panic (withKeyAndBlock_ne_panic _ _ _ _ _) fun _ _ ↦
    ite_ne_panic (err_ne_panic _) (ok_ne_panic _)

theorem openFrame_ne_panic (s : SecureSession) (frame : List UInt8) :
    openFrame P s frame ≠ .panic := by
  unfold openFrame
  split
  · split
    · exact err_ne_panic _
    · have hsession : frameSession frame ≠ .panic :=
        bind_ne_panic (index_ne_panic (by omega)) fun _ _ ↦
          bind_ne_panic (index_ne_panic (by omega)) fun _ _ ↦ ok_ne_panic _
      have hsequence : receivedSequence frame ≠ .panic :=
        bind_ne_panic (slice_ne_panic (by omega) (by omega)) fun _ _ ↦ ok_ne_panic _
      refine bind_ne_panic hsession fun _ _ ↦ ite_ne_panic (err_ne_panic _) ?_
      refine bind_ne_panic hsequence fun _ _ ↦ ite_ne_panic (err_ne_panic _) ?_
      exact bind_ne_panic (unwrap_ne_panic P _ _ (by omega)) fun _ _ ↦ ok_ne_panic _
  · exact err_ne_panic _

theorem decryptFrame_ne_panic (s : SecureSession) (frame : List UInt8) :
    (s.decryptFrame P frame).1 ≠ .panic := by
  have hopen := openFrame_ne_panic P s frame
  unfold decryptFrame
  split
  · exact ok_ne_panic _
  · exact err_ne_panic _
  · exact fun _ ↦ hopen ‹_›

theorem encryptFrame_ne_panic (s : SecureSession) (plainFrame : List UInt8) :
    (s.encryptFrame P plainFrame).1 ≠ .panic := by
  unfold encryptFrame
  split
  · refine bind_ne_panic (withKeyAndBlock_ne_panic _ _ _ _ _) fun _ _ ↦ ?_
    exact bind_ne_panic (applyCtr_ne_panic P _ _ _ _ _) fun _ _ ↦ ok_ne_panic _
  · exact err_ne_panic _

theorem deviceMac_ne_panic (s : SecureSession) (keyPair : EcdhKeyPair) (clientPublicKey : Block 32)
    (sessionId : UInt16) :
    (deviceMac P s keyPair clientPublicKey sessionId >>= toBlock 16) ≠ .panic := by
  unfold deviceMac
  cases s.deviceAuthCode with
  | none => simp
  | some deviceAuth =>
    have hmac := fun data ↦ calculateMacCbc_blocks P deviceAuth (Block.zero 16) data []
    have henc := fun mac ↦ encryptCtr_blocks P deviceAuth ⟨counter0Handshake, rfl⟩ mac []
    simp only [bytesXor_blocks, handshakeMac, hmac, henc, ok_bind]
    exact toBlock_ne_panic ((applyKeystream_fst_length _ _ _).trans (Block.length _))

end SecureSession

end Knust.Security
