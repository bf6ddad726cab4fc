import Knust.Protocol.Robustness
import Knust.Security.Robustness
import Knust.Transport.SessionOwners

namespace Knust.Transport.Server

open Foundation Foundation.Task Protocol Security

/-- Nothing was received that a parser aborts on, and no operation on a session has. -/
def isSensible : (c : Command) × c.Response → Prop
  | ⟨.recvFrame _ _ data, _⟩ => ¬ KnxIpFrame.Understated data
  | ⟨.decryptFrame _ _, a⟩ => a ≠ .panic ∧ ∀ inner, a = .ok inner → ¬ KnxIpFrame.Understated inner
  | ⟨.encryptFrame _ _, a⟩ => a ≠ .panic
  | ⟨.verifyAuthenticateMac _ _ _, a⟩ => a ≠ .panic
  | ⟨.sendFrame _ _, a⟩ => a ≠ .panic
  | _ => True

def Sensible (h : History Command Command.Response) : Prop := ∀ e ∈ h, isSensible e

theorem tame_rethrow {α : Type} (x : Except KnxError α) : (rethrow x).Tame Sensible := by
  cases x with
  | ok a => exact .done (Outcome.ok_ne_panic a)
  | error e => exact .done (Outcome.err_ne_panic e)

theorem tame_sendFrame (link : ClientLink) (frame : List UInt8) :
    (sendFrame link frame).Tame Sensible :=
  fun _ ↦ ⟨trivial, fun _ hh ↦ hh _ List.mem_cons_self⟩

theorem tame_sendReply (serviceType : ServiceType) (body : List UInt8) (link : ClientLink) :
    (sendReply serviceType body link).Tame Sensible := by
  refine .bind (.bind (.perform _) fun recipient ↦ ?_) fun _ ↦ tame_sendFrame _ _
  cases recipient with
  | none => exact .done (Outcome.ok_ne_panic _)
  | some entry => exact fun _ ↦ ⟨trivial, fun _ hh ↦ hh _ List.mem_cons_self⟩

theorem tame_handleConnectRequest (server : TunnelServer) (body : List UInt8) (link : ClientLink) :
    (handleConnectRequest server body link).Tame Sensible := by
  refine .bind (.done (ConnectRequest.parse_ne_panic body)) fun request ↦
    .bind (.perform _) fun a ↦ ?_
  cases a with
  | some id => exact .bind (tame_sendReply _ _ _) fun _ ↦ .done (Outcome.ok_ne_panic _)
  | none =>
    refine .bind (.attempt (tame_sendReply _ _ _)) fun sent ↦ .bind (.perform _) fun _ ↦ ?_
    exact .bind (tame_rethrow sent) fun _ ↦ .done (Outcome.ok_ne_panic _)

theorem tame_handleTunnellingRequest (body : List UInt8) :
    (handleTunnellingRequest body).Tame Sensible := by
  refine .bind (.done (TunnellingRequest.parse_ne_panic body)) fun request ↦
    .bind (.perform _) fun session ↦ ?_
  cases session with
  | none => exact .done (Outcome.ok_ne_panic _)
  | some session =>
    have hvalidate (received : UInt8) : (validateRecvSeq session received).Tame Sensible := by
      refine .bind (.perform _) fun expected ↦ ?_
      split
      · exact .bind (.perform _) fun _ ↦ .done (Outcome.ok_ne_panic _)
      · split <;> exact .done (Outcome.ok_ne_panic _)
    refine .bind (.perform _) fun _ ↦ .bind (hvalidate _) fun validity ↦ ?_
    cases validity with
    | valid =>
      refine .bind (tame_sendReply _ _ _) fun _ ↦ .bind (.perform _) fun now ↦
        .bind (.attempt (.done (parseCemiToTelegram_ne_panic _ _))) fun telegram ↦ ?_
      cases telegram with
      | ok telegram => exact .perform _
      | error e => exact .done (Outcome.ok_ne_panic _)
    | duplicate => exact tame_sendReply _ _ _
    | invalid expected received => exact tame_sendReply _ _ _

theorem tame_handleTunnellingAck (body : List UInt8) :
    (handleTunnellingAck body).Tame Sensible := by
  refine .bind (.done (TunnellingAck.parse_ne_panic body)) fun ack ↦
    .bind (.perform _) fun session ↦ ?_
  cases session with
  | none => exact .done (Outcome.ok_ne_panic _)
  | some session =>
    refine .bind (.perform _) fun channel ↦ ?_
    cases channel with
    | none => exact .done (Outcome.ok_ne_panic _)
    | some channel => exact .perform _

theorem tame_dispatchPlainFrame (server : TunnelServer) (frame : KnxIpFrame) (link : ClientLink)
    (wasEncrypted : Bool) :
    (dispatchPlainFrame server frame link wasEncrypted).Tame Sensible := by
  have hnone (p : Handler Unit) (hp : p.Tame Sensible) :
      (p >>= fun _ ↦ (pure none : Handler (Option UInt8))).Tame Sensible :=
    .bind hp fun _ ↦ .done (Outcome.ok_ne_panic _)
  unfold dispatchPlainFrame
  split
  · exact .done (Outcome.ok_ne_panic _)
  split
  · exact tame_handleConnectRequest server _ _
  · exact hnone _ (tame_handleTunnellingRequest _)
  · exact hnone _ (tame_handleTunnellingAck _)
  · refine hnone _ (.bind (.done (ChannelRequest.parseNamed_ne_panic _ _)) fun _ ↦ ?_)
    exact .bind (.perform _) fun _ ↦ tame_sendReply _ _ _
  · refine hnone _ (.bind (.done (ChannelRequest.parseNamed_ne_panic _ _)) fun _ ↦ ?_)
    exact .bind (.perform _) fun _ ↦ .bind (.perform _) fun _ ↦ tame_sendReply _ _ _
  · exact .done (Outcome.ok_ne_panic _)

theorem tame_handleSessionRequest (P : Primitives) (server : TunnelServer) (body : List UInt8)
    (link : ClientLink) : (handleSessionRequest P server body link).Tame Sensible := by
  unfold handleSessionRequest
  split
  · exact .done (Outcome.ok_ne_panic _)
  refine .bind (.done (SessionRequest.parse_ne_panic body)) fun request ↦
    .bind (.perform _) fun secret ↦ .bind (.perform _) fun sessionId ↦ ?_
  refine .bind (.done (SecureSession.deviceMac_ne_panic P _ _ _ _)) fun mac ↦ ?_
  exact .bind (tame_sendFrame _ _) fun _ ↦ .perform _

theorem tame_handleSessionAuthenticate (body : List UInt8) (link : ClientLink) :
    (handleSessionAuthenticate body link).Tame Sensible := by
  refine .bind (.done (SessionAuthenticate.parse_ne_panic body)) fun auth ↦
    .bind (.perform _) fun entry ↦ ?_
  cases entry with
  | none => exact .done (Outcome.ok_ne_panic _)
  | some entry =>
    refine fun h ↦ ⟨trivial, fun a ↦ ?_⟩
    cases a with
    | err e => exact fun _ ↦ Outcome.err_ne_panic e
    | panic => exact fun hh ↦ absurd rfl (hh _ List.mem_cons_self)
    | ok verified =>
      refine Tame.bind (tame_sendFrame _ _) (fun _ ↦ ?_) _
      cases verified with
      | true => exact .done (Outcome.ok_ne_panic _)
      | false => exact .perform _

theorem tame_handleSecureWrapper (server : TunnelServer) (data : List UInt8) (link : ClientLink) :
    (handleSecureWrapper server data link).Tame Sensible := by
  refine .bind (.perform _) fun entry ↦ ?_
  cases entry with
  | none => exact .done (Outcome.ok_ne_panic _)
  | some entry =>
    refine .bind (.perform _) fun authenticated ↦ ?_
    cases authenticated with
    | false => exact .done (Outcome.ok_ne_panic _)
    | true =>
      refine fun h ↦ ⟨trivial, fun a ↦ ?_⟩
      cases a with
      | err e => exact fun _ ↦ Outcome.err_ne_panic e
      | panic => exact fun hh ↦ absurd rfl (hh _ List.mem_cons_self).1
      | ok inner =>
        show Obeys _ _ _ (.done (KnxIpFrame.parse inner) >>= fun frame ↦
          dispatchPlainFrame server frame link true)
        cases hparse : KnxIpFrame.parse inner with
        | err e => exact fun _ ↦ Outcome.err_ne_panic e
        | panic =>
          intro hh
          have hinner := KnxIpFrame.parse_eq_panic_iff.mp hparse
          exact absurd hinner ((hh _ List.mem_cons_self).2 inner rfl)
        | ok frame => exact tame_dispatchPlainFrame server frame link true _

theorem obeys_handleFrame_tame (P : Primitives) (server : TunnelServer) (data : List UInt8)
    (link : ClientLink) {h : Past} (hdata : Sensible h → ¬ KnxIpFrame.Understated data) :
    (handleFrame P server data link).Obeys (fun _ _ ↦ True)
      (fun h r ↦ Sensible h → r ≠ .panic) h := by
  unfold handleFrame
  cases hparse : KnxIpFrame.parse data with
  | err e => exact fun _ ↦ Outcome.err_ne_panic e
  | panic => exact fun hh ↦ absurd (KnxIpFrame.parse_eq_panic_iff.mp hparse) (hdata hh)
  | ok frame =>
    have hnone (p : Handler Unit) (hp : p.Tame Sensible) :
        (p >>= fun _ ↦ (pure none : Handler (Option UInt8))).Tame Sensible :=
      .bind hp fun _ ↦ .done (Outcome.ok_ne_panic _)
    rw [Task.ok_bind]
    split
    · exact hnone _ (tame_handleSessionRequest P server _ _) h
    · exact hnone _ (tame_handleSessionAuthenticate _ _) h
    · exact tame_handleSecureWrapper server _ _ h
    · exact tame_dispatchPlainFrame server _ _ _ h

end Knust.Transport.Server
