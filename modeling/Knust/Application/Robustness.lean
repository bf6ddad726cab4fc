import Knust.Application.RoutingTasks
import Knust.Transport.ServerRobustness

namespace Knust.Application

open Foundation Foundation.Task Protocol Security Transport

theorem handleDisconnectResponse_ne_panic (body : List UInt8) :
    handleDisconnectResponse body ≠ .panic := by
  unfold handleDisconnectResponse
  split
  · exact Outcome.ok_ne_panic _
  · refine Outcome.bind_ne_panic (ChannelResponse.parseNamed_ne_panic _ body) fun _ _ ↦ ?_
    exact Outcome.ok_ne_panic _

theorem handleConnectionstateRequest_ne_panic (body : List UInt8) :
    handleConnectionstateRequest body ≠ .panic :=
  Outcome.bind_ne_panic (ChannelRequest.parseNamed_ne_panic _ body) fun _ _ ↦
    Outcome.ok_ne_panic _

theorem handleConnectionstateResponse_ne_panic (body : List UInt8) :
    handleConnectionstateResponse body ≠ .panic :=
  Outcome.bind_ne_panic (ChannelResponse.parseNamed_ne_panic _ body) fun _ _ ↦
    Outcome.ok_ne_panic _

def servesFrame : Client.Command → Bool
  | .now | .enqueueIncoming .. | .control .. | .loadExpected | .storeExpected .. | .transport ..
  | .write .. => true
  | _ => false

section

open Transport.Client

variable {S I : Type} {exec : Machine Command Command.Response S I} {Inv : S → Prop}
  (hkeep : ∀ c : Command, servesFrame c = true → ∀ i s r s', Inv s →
    exec c i s = some (r, s') → Inv s')
  (hwrite : ∀ frame i s s', exec (.write frame) i s ≠ some (.panic, s'))

include hkeep in
theorem survives_enqueueCemi (cemiData : List UInt8) :
    (enqueueCemi cemiData).Survives exec Inv := by
  refine .bind (.perform (hkeep _ rfl)) fun timestamp ↦ ?_
  refine .bind (.done (parseCemiToTelegram_ne_panic timestamp cemiData)) fun telegram ↦ ?_
  exact .perform (hkeep _ rfl)

include hkeep in
theorem survives_validateSequenceNumber (received : UInt8) :
    (validateSequenceNumber received).Survives exec Inv := by
  refine .bind (.perform (hkeep _ rfl)) fun expected ↦ ?_
  split
  · exact .bind (.perform (hkeep _ rfl)) fun _ ↦ Outcome.ok_ne_panic _
  · split
    · exact Outcome.ok_ne_panic _
    · exact Outcome.ok_ne_panic _

include hkeep in
theorem survives_handleDisconnectRequest (body : List UInt8) (currentChannelId : Option UInt8) :
    (handleDisconnectRequest body currentChannelId).Survives exec Inv := by
  unfold handleDisconnectRequest
  split
  · exact Outcome.ok_ne_panic _
  refine .bind (.done (ChannelRequest.parseNamed_ne_panic _ body)) fun request ↦ ?_
  dsimp only
  split
  · exact .bind (.perform (hkeep _ rfl)) fun _ ↦ .perform (hkeep _ rfl)
  · exact Outcome.ok_ne_panic _

include hkeep hwrite

theorem survives_sendTunnellingAck (channelId sequence status : UInt8) :
    (sendTunnellingAck channelId sequence status).Survives exec Inv := by
  refine .bind (.perform (hkeep _ rfl)) fun established ↦ ?_
  cases established with
  | false => exact Outcome.err_ne_panic _
  | true =>
    intro i s r s' hs he
    refine ⟨hkeep _ rfl i s r s' hs he, ?_⟩
    rintro rfl
    exact hwrite _ i s s' he

theorem survives_handleTunnellingRequest (body : List UInt8) :
    (handleTunnellingRequest body).Survives exec Inv := by
  refine .bind (.done (TunnellingRequest.parse_ne_panic body)) fun request ↦ ?_
  have hacknowledge (status : UInt8) : (do
      let _ ← Task.attempt (sendTunnellingAck request.communicationChannelId
        request.sequenceCounter status) : Handler Unit).Survives exec Inv :=
    .bind (.attempt (survives_sendTunnellingAck hkeep hwrite _ _ _)) fun _ ↦ Outcome.ok_ne_panic _
  refine .bind (survives_validateSequenceNumber hkeep _) fun result ↦ ?_
  cases result with
  | valid => exact .bind (hacknowledge _) fun _ ↦ survives_enqueueCemi hkeep _
  | duplicate => exact hacknowledge _
  | invalid expected received => exact hacknowledge _

theorem survives_handleIncomingFrame {data : List UInt8} (hdata : ¬ KnxIpFrame.Understated data)
    (currentChannelId : Option UInt8) :
    (handleIncomingFrame data currentChannelId).Survives exec Inv := by
  refine .bind (.done fun h ↦ hdata (KnxIpFrame.parse_eq_panic_iff.mp h)) fun frame ↦ ?_
  split
  · exact .bind (survives_handleTunnellingRequest hkeep hwrite _) fun _ ↦ Outcome.ok_ne_panic _
  · exact .bind (survives_enqueueCemi hkeep _) fun _ ↦ Outcome.ok_ne_panic _
  · exact .bind (survives_handleDisconnectRequest hkeep _ _) fun _ ↦ Outcome.ok_ne_panic _
  · exact .bind (.done (handleDisconnectResponse_ne_panic _)) fun _ ↦ Outcome.ok_ne_panic _
  · exact .bind (.done (handleConnectionstateRequest_ne_panic _)) fun _ ↦ Outcome.ok_ne_panic _
  · exact .bind (.done (handleConnectionstateResponse_ne_panic _)) fun _ ↦ Outcome.ok_ne_panic _
  · exact Outcome.ok_ne_panic _
  · exact Outcome.ok_ne_panic _
  · exact Outcome.ok_ne_panic _

end

theorem handleIncomingFrame_of_understated {data : List UInt8}
    (hdata : KnxIpFrame.Understated data) (current : Option UInt8) :
    handleIncomingFrame data current = .done .panic := by
  rw [handleIncomingFrame, KnxIpFrame.parse_eq_panic_iff.mpr hdata]
  rfl

theorem writeResult_ne_panic (kind : TransportKind) (i : Client.Env) :
    Client.writeResult kind i ≠ .panic := by
  unfold Client.writeResult
  split
  · exact Outcome.ok_ne_panic _
  · exact Outcome.err_ne_panic _

namespace Routing

open Transport.Routing

def servesFrame : Command → Bool
  | .now | .enqueueIncoming .. | .control .. => true
  | _ => false

variable {S I : Type} {exec : Machine Command Command.Response S I} {Inv : S → Prop}
  (hkeep : ∀ c : Command, servesFrame c = true → ∀ i s r s', Inv s →
    exec c i s = some (r, s') → Inv s')

include hkeep

theorem survives_enqueueCemi (cemiData : List UInt8) :
    (enqueueCemi cemiData).Survives exec Inv := by
  refine .bind (.perform (hkeep _ rfl)) fun timestamp ↦ ?_
  refine .bind (.done (parseCemiToTelegram_ne_panic timestamp cemiData)) fun telegram ↦ ?_
  exact .perform (hkeep _ rfl)

theorem survives_handleDisconnectRequest (body : List UInt8) (currentChannelId : Option UInt8) :
    (handleDisconnectRequest body currentChannelId).Survives exec Inv := by
  unfold handleDisconnectRequest
  split
  · exact Outcome.ok_ne_panic _
  refine .bind (.done (ChannelRequest.parseNamed_ne_panic _ body)) fun request ↦ ?_
  dsimp only
  split
  · exact .bind (.perform (hkeep _ rfl)) fun _ ↦ .perform (hkeep _ rfl)
  · exact Outcome.ok_ne_panic _

theorem survives_handleIncomingFrame {data : List UInt8} (hdata : ¬ KnxIpFrame.Understated data)
    (currentChannelId : Option UInt8) :
    (handleIncomingFrame data currentChannelId).Survives exec Inv := by
  refine .bind (.done fun h ↦ hdata (KnxIpFrame.parse_eq_panic_iff.mp h)) fun frame ↦ ?_
  split
  · refine .bind (.bind (.done (TunnellingRequest.parse_ne_panic _)) fun request ↦ ?_) fun _ ↦
      Outcome.ok_ne_panic _
    exact survives_enqueueCemi hkeep _
  · exact .bind (survives_enqueueCemi hkeep _) fun _ ↦ Outcome.ok_ne_panic _
  · exact .bind (survives_handleDisconnectRequest hkeep _ _) fun _ ↦ Outcome.ok_ne_panic _
  · exact .bind (.done (handleDisconnectResponse_ne_panic _)) fun _ ↦ Outcome.ok_ne_panic _
  · exact .bind (.done (handleConnectionstateRequest_ne_panic _)) fun _ ↦ Outcome.ok_ne_panic _
  · exact .bind (.done (handleConnectionstateResponse_ne_panic _)) fun _ ↦ Outcome.ok_ne_panic _
  · exact Outcome.ok_ne_panic _
  · exact Outcome.ok_ne_panic _
  · exact Outcome.ok_ne_panic _

omit hkeep in
theorem handleIncomingFrame_of_understated {data : List UInt8}
    (hdata : KnxIpFrame.Understated data) (current : Option UInt8) :
    handleIncomingFrame data current = .done .panic := by
  rw [handleIncomingFrame, KnxIpFrame.parse_eq_panic_iff.mpr hdata]
  rfl

end Routing

/-- Neither a plaintext server nor a client, on a tunnel or on a routing connection,
aborts when it handles the data, whatever else is going on. -/
structure Tolerated (data : List UInt8) : Prop where
  server : ∀ (P : Primitives) (server : TunnelServer) (link : ClientLink),
    server.secureConfig = none →
      (Server.handleFrame P server data link).Survives (Server.exec P) Server.State.Unsecured
  tunnel : ∀ (P : Primitives) (tunnel : Tunnel) (currentChannelId : Option UInt8),
    (handleIncomingFrame data currentChannelId).Survives (Client.exec P tunnel) fun _ ↦ True
  routing : ∀ currentChannelId : Option UInt8,
    (Routing.handleIncomingFrame data currentChannelId).Survives Transport.Routing.exec
      fun _ ↦ True

theorem tolerated_iff_not_understated (data : List UInt8) :
    Tolerated data ↔ ¬ KnxIpFrame.Understated data := by
  constructor
  · intro h hdata
    have hrouting := h.routing none
    rw [Routing.handleIncomingFrame_of_understated hdata] at hrouting
    exact hrouting rfl
  · intro hdata
    refine ⟨fun P server link hserver ↦ ?_, fun P tunnel channel ↦ ?_, fun channel ↦ ?_⟩
    · exact Server.survives_handleFrame hserver hdata link
    · exact survives_handleIncomingFrame (fun _ _ _ _ _ _ _ _ ↦ trivial)
        (fun frame i s s' he ↦ writeResult_ne_panic _ i (congrArg Prod.fst (Option.some.inj he)))
        hdata channel
    · exact Routing.survives_handleIncomingFrame (fun _ _ _ _ _ _ _ _ ↦ trivial) hdata channel

def Reference.understated : List UInt8 := [0x06, 0x10, 0x02, 0x09, 0x00, 0x00]

theorem understated_aborts :
    Server.handleFrame Security.Reference.primitives
        { Server.Reference.secureServer with secureConfig := none } Reference.understated
        (.udp Server.Reference.peer) = .done .panic ∧
      handleIncomingFrame Reference.understated none = .done .panic ∧
      Routing.handleIncomingFrame Reference.understated none = .done .panic := by
  have hparse : KnxIpFrame.parse Reference.understated = .panic := by decide
  have hunderstated := KnxIpFrame.parse_eq_panic_iff.mp hparse
  refine ⟨?_, handleIncomingFrame_of_understated hunderstated none,
    Routing.handleIncomingFrame_of_understated hunderstated none⟩
  rw [Server.handleFrame, hparse]
  rfl

end Knust.Application
