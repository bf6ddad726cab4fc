import Knust.Transport.Connect

namespace Knust.Transport.Client

open Foundation Foundation.Task Protocol Security

variable {rule : Past → Command → Prop}

theorem follows_rethrow {α : Type} (x : Except KnxError α) : (rethrow x).Follows rule := by
  cases x <;> exact .done _

theorem follows_sendFrame {frame : List UInt8} (htransport : ∀ h, rule h (.transport .sendFrame))
    (hencrypt : ∀ h, rule h (.encryptFrame frame))
    (hwrite : ∀ data encrypted h, encrypted = some (.ok data) ∨ encrypted = none →
      rule (⟨.encryptFrame frame, encrypted⟩ :: h) (.write data))
    (hsent : ∀ h, rule h .recordSent) (herror : ∀ e h, rule h (.recordSendError e)) :
    (sendFrame frame).Follows rule := by
  refine .bind (.attempt (.bind (.perform htransport) fun found ↦ ?_)) fun result ↦ ?_
  · cases found with
    | false => exact .done _
    | true =>
      refine fun h ↦ ⟨hencrypt h, fun encrypted ↦ ?_⟩
      match encrypted with
      | none => exact ⟨hwrite _ _ h (.inr rfl), fun _ ↦ trivial⟩
      | some (.ok data) => exact ⟨hwrite _ _ h (.inl rfl), fun _ ↦ trivial⟩
      | some (.err e) => trivial
      | some .panic => trivial
  · cases result with
    | ok _ => exact .perform hsent
    | error e => exact .bind (.perform (herror e)) fun _ ↦ .done _

def Command.isReading : Command → Bool
  | .transport .recvFrame | .read | .readWithin .. | .decryptFrame .. | .recordReceived
  | .recordReceiveError .. => true
  | _ => false

section Reading

variable (hread : ∀ c : Command, c.isReading = true → ∀ h, rule h c)

include hread

theorem follows_received (raw : Except KnxError (List UInt8)) : (received raw).Follows rule := by
  refine .bind (.attempt (.bind (follows_rethrow raw) fun data ↦
    .bind (.perform (hread _ rfl)) fun decrypted ↦ ?_)) fun result ↦ ?_
  · cases decrypted <;> exact .done _
  · cases result <;> exact .bind (.perform (hread _ rfl)) fun _ ↦ .done _

theorem follows_recvFrame : recvFrame.Follows rule := by
  refine .bind (.perform (hread _ rfl)) fun found ↦ ?_
  cases found with
  | false => exact follows_received hread _
  | true => exact .bind (.perform (hread _ rfl)) (follows_received hread)

theorem follows_recvFrameWithin (timeoutMs : ℕ) : (recvFrameWithin timeoutMs).Follows rule := by
  refine .bind (.perform (hread _ rfl)) fun found ↦ ?_
  cases found with
  | false => exact .bind (follows_received hread _) fun _ ↦ .done _
  | true =>
    refine .bind (.perform (hread _ rfl)) fun raw ↦ ?_
    cases raw with
    | none => exact .done _
    | some raw => exact .bind (follows_received hread raw) fun _ ↦ .done _

theorem follows_connectionRecvWithin (hconnected : ∀ h, rule h .isConnected) (timeoutMs : ℕ) :
    (connectionRecvWithin timeoutMs).Follows rule := by
  refine .bind (.perform hconnected) fun connected ↦ ?_
  cases connected with
  | false => exact .bind (.perform (hread _ rfl)) fun _ ↦ .done _
  | true => exact follows_recvFrameWithin hread timeoutMs

end Reading

theorem follows_connectRequest (havailable : ∀ addr h, rule h (.isAvailable addr))
    (tunnel : Tunnel) : (connectRequest tunnel).Follows rule := by
  unfold connectRequest
  cases tunnel.configuredAddress with
  | none => exact .done _
  | some addr =>
    refine .bind ?_ fun available ↦ ?_
    · unfold mayRequest
      split
      · exact .perform (havailable addr)
      · exact .done _
    · cases available <;> exact .done _

theorem follows_sendConnectRequest (havailable : ∀ addr h, rule h (.isAvailable addr))
    (hsend : ∀ frame, (sendFrame frame).Follows rule)
    (hread : ∀ c : Command, c.isReading = true → ∀ h, rule h c) (tunnel : Tunnel) :
    (sendConnectRequest tunnel).Follows rule := by
  refine .bind (follows_connectRequest havailable tunnel) fun _ ↦ .bind (hsend _) fun _ ↦
    .bind (follows_recvFrameWithin hread _) fun response ↦ ?_
  cases response <;> exact .done _

end Knust.Transport.Client
