import Knust.Transport.Authentication
import Knust.Transport.PendingAcks
import Knust.Transport.SessionOwners

namespace Knust.Transport.Server

open Foundation Foundation.Task Protocol Security

def namedChannel (frame : KnxIpFrame) : Option UInt8 :=
  match frame.header.serviceType with
  | .tunnellingRequest =>
    (TunnellingRequest.parse frame.body).value?.map TunnellingRequest.communicationChannelId
  | .tunnellingAck =>
    (TunnellingAck.parse frame.body).value?.map TunnellingAck.communicationChannelId
  | .connectionstateRequest =>
    (ConnectionstateRequest.parse frame.body).value?.map ChannelRequest.communicationChannelId
  | .disconnectRequest =>
    (DisconnectRequest.parse frame.body).value?.map ChannelRequest.communicationChannelId
  | _ => none

/-- What a command leaves a task to work on: a frame that arrived, or the one that was
wrapped in it. -/
def unpacked : (c : Command) × c.Response → Option (Option KnxIpFrame)
  | ⟨.recvFrom _ data, taken⟩ => some (if taken then (KnxIpFrame.parse data).value? else none)
  | ⟨.recvFrame _ _ data, _⟩ => some (KnxIpFrame.parse data).value?
  | ⟨.decryptFrame _ _, .ok inner⟩ => some (KnxIpFrame.parse inner).value?
  | ⟨.streamClosed _ _, _⟩ => some none
  | _ => none

def frameInHand (h : History Command Command.Response) : Option KnxIpFrame :=
  (h.findSome? unpacked).join

/-- The step leaves all channels alone but the one with the identifier. A secure session
goes only with that channel, or with the sender if there is no such channel. -/
structure Confined (frame : KnxIpFrame) (id : UInt8) (r : Step) (earlier : List Step) : Prop where
  sessions : ∀ other ≠ id, r.after.sessions other = r.before.sessions other
  cells : ∀ other ≠ id, ∀ session, r.before.sessions other = some session →
    r.after.cells[session.cells]? = r.before.cells[session.cells]?
  acks : ∀ other ≠ id, ∀ session cells channel, r.before.sessions other = some session →
    r.before.cells[session.cells]? = some cells → cells.pendingAck = some channel →
    r.after.acks[channel]? = r.before.acks[channel]?
  secure : ∀ peer, r.after.secureSessions peer ≠ r.before.secureSessions peer →
    frame.header.serviceType = .disconnectRequest ∧ ∃ removed sender data,
      (history r.task earlier).head? = some ⟨.removeSession id, removed⟩ ∧
      inHand (history r.task earlier) = some (sender, data) ∧
      peer = (removed.map fun session ↦ session.link.peerAddr).getD sender
  published : r.after.published ≠ r.before.published →
    frame.header.serviceType = .tunnellingRequest

def Targets (frame : KnxIpFrame) (id : UInt8) (h : History Command Command.Response) :
    Command → Prop
  | .openSession _ | .removeSessions _ | .insertSecureSession _ _ | .lockSend _ | .unlockSend _
  | .storeSendSeq _ _ | .expectAck _ => False
  | .touchSession other | .removeSession other => other = id
  | .touch n | .storeRecvSeq n _ | .takePendingAck n =>
    ∃ session, ⟨.getSession id, some session⟩ ∈ h ∧ session.cells = n
  | .deliverAck channel _ => ∃ n, ⟨.takePendingAck n, some channel⟩ ∈ h
  | .removeSecureSession peer => frame.header.serviceType = .disconnectRequest ∧
      ∃ removed sender data, h.head? = some ⟨.removeSession id, removed⟩ ∧
        inHand h = some (sender, data) ∧
        peer = (removed.map fun session ↦ session.link.peerAddr).getD sender
  | .publish _ => frame.header.serviceType = .tunnellingRequest
  | _ => True

def confinementRule (h : History Command Command.Response) (c : Command) : Prop :=
  ∀ frame id, frameInHand h = some frame → namedChannel frame = some id → Targets frame id h c

def Command.unpacks : Command → Bool
  | .recvFrom .. | .recvFrame .. | .decryptFrame .. | .streamClosed .. => true
  | _ => false

section

variable {h : Past} {c : Command}

theorem unpacked_of_unpacks (hc : c.unpacks = false) (a : c.Response) :
    unpacked ⟨c, a⟩ = none := by
  cases c <;> first | rfl | cases hc

theorem received_of_unpacks (hc : c.unpacks = false) (a : c.Response) :
    received ⟨c, a⟩ = none := by
  cases c <;> first | rfl | cases hc

theorem frameInHand_cons (hc : c.unpacks = false) (a : c.Response) (h : Past) :
    frameInHand (⟨c, a⟩ :: h) = frameInHand h := by
  rw [frameInHand, List.findSome?_cons, unpacked_of_unpacks hc, frameInHand]

def Unnamed (h : History Command Command.Response) : Prop :=
  ∀ frame, frameInHand h = some frame → namedChannel frame = none

theorem Unnamed.cons (hh : Unnamed h) (hc : c.unpacks = false) (a : c.Response) :
    Unnamed (⟨c, a⟩ :: h) := by
  intro frame hframe
  rw [frameInHand_cons hc] at hframe
  exact hh frame hframe

theorem Unnamed.allows (hh : Unnamed h) (c : Command) : confinementRule h c := by
  intro frame id hframe hid
  rw [hh frame hframe] at hid
  cases hid

theorem Unnamed.obeys (hh : Unnamed h) {α : Type} {p : Handler α}
    (hp : p.Follows fun _ c ↦ c.unpacks = false) :
    p.Obeys confinementRule (fun _ _ ↦ True) h :=
  ((hp h).carry (fun _ c hh _ ↦ hh.allows c) (fun _ _ a hh hc ↦ hh.cons hc a) hh).mono
    fun _ _ _ ↦ trivial

structure Working (frame : KnxIpFrame) (id : UInt8) (link : ClientLink)
    (h : History Command Command.Response) : Prop where
  holds : frameInHand h = some frame
  named : namedChannel frame = some id
  sender : ∃ data, inHand h = some (link.peerAddr, data)

variable {frame : KnxIpFrame} {id : UInt8} {link : ClientLink}

theorem Working.cons (hh : Working frame id link h) (hc : c.unpacks = false) (a : c.Response) :
    Working frame id link (⟨c, a⟩ :: h) where
  holds := (frameInHand_cons hc a h).trans hh.holds
  named := hh.named
  sender := by
    rw [inHand_cons (received_of_unpacks hc a)]
    exact hh.sender

theorem Working.allows (hh : Working frame id link h) (hc : Targets frame id h c) :
    confinementRule h c := by
  intro frame' id' hframe hid
  obtain rfl := Option.some.inj (hframe.symm.trans hh.holds)
  obtain rfl := Option.some.inj (hid.symm.trans hh.named)
  exact hc

def Command.isReply : Command → Bool
  | .getRecipient .. | .encryptFrame .. | .sendFrame .. => true
  | _ => false

theorem follows_sendReply_isReply (serviceType : ServiceType) (body : List UInt8)
    (recipient : ClientLink) :
    (sendReply serviceType body recipient).Follows fun _ c ↦ c.isReply = true := by
  refine .bind (.bind (.perform fun _ ↦ rfl) fun entry ↦ ?_) fun _ ↦
    .bind (.perform fun _ ↦ rfl) fun _ ↦ .done _
  cases entry with
  | none => exact .done _
  | some entry => exact .bind (.perform fun _ ↦ rfl) fun _ ↦ .done _

theorem Working.reply (hh : Working frame id link h) (serviceType : ServiceType)
    (body : List UInt8) (recipient : ClientLink) :
    (sendReply serviceType body recipient).Obeys confinementRule
      (fun h _ ↦ Working frame id link h) h := by
  refine (follows_sendReply_isReply serviceType body recipient h).carry (fun h c hh hc ↦ ?_)
    (fun _ c a hh hc ↦ hh.cons ?_ a) hh
  · apply hh.allows
    cases c <;> trivial
  · cases c <;> first | rfl | cases hc

theorem Working.obeys_reply (hh : Working frame id link h) (serviceType : ServiceType)
    (body : List UInt8) (recipient : ClientLink) :
    (sendReply serviceType body recipient).Obeys confinementRule (fun _ _ ↦ True) h :=
  (hh.reply serviceType body recipient).mono fun _ _ _ ↦ trivial

theorem Working.tunnellingRequest (hh : Working frame id link h) {request : TunnellingRequest}
    (hservice : frame.header.serviceType = .tunnellingRequest)
    (hparse : TunnellingRequest.parse frame.body = .ok request)
    (hid : request.communicationChannelId = id) :
    (handleTunnellingRequest frame.body).Obeys confinementRule (fun _ _ ↦ True) h := by
  rw [handleTunnellingRequest, hparse, Task.ok_bind, hid]
  refine ⟨hh.allows trivial, fun found ↦ ?_⟩
  have hh₁ := hh.cons (c := .getSession id) rfl found
  cases found with
  | none => trivial
  | some session =>
    refine ⟨hh₁.allows ⟨session, List.mem_cons_self, rfl⟩, fun _ ↦ ?_⟩
    have hh₂ := hh₁.cons (c := .touch session.cells) rfl ()
    refine ⟨hh₂.allows trivial, fun expected ↦ ?_⟩
    have hh₃ := hh₂.cons (c := .loadRecvSeq session.cells) rfl expected
    show Obeys _ _ _ ((ite _ _ _ : Handler SequenceValidationResult) >>= _)
    split
    · refine ⟨hh₃.allows ⟨session, by simp, rfl⟩, fun _ ↦ ?_⟩
      have hh₄ := hh₃.cons (c := .storeRecvSeq session.cells (expected + 1)) rfl ()
      refine (hh₄.reply _ _ _).bind_true fun h _ hh ↦ ?_
      refine ⟨hh.allows trivial, fun now ↦ ?_⟩
      have hh := hh.cons (c := .now) rfl now
      show Obeys _ _ _ (Task.attempt (.done (parseCemiToTelegram now request.rawCemi)) >>= _)
      cases parseCemiToTelegram now request.rawCemi with
      | ok telegram => exact ⟨hh.allows hservice, fun _ ↦ trivial⟩
      | err e => trivial
      | panic => trivial
    · split
      · exact hh₃.obeys_reply _ _ _
      · exact hh₃.obeys_reply _ _ _

theorem Working.tunnellingAck (hh : Working frame id link h) {ack : TunnellingAck}
    (hparse : TunnellingAck.parse frame.body = .ok ack) (hid : ack.communicationChannelId = id) :
    (handleTunnellingAck frame.body).Obeys confinementRule (fun _ _ ↦ True) h := by
  rw [handleTunnellingAck, hparse, Task.ok_bind, hid]
  refine ⟨hh.allows trivial, fun found ↦ ?_⟩
  have hh₁ := hh.cons (c := .getSession id) rfl found
  cases found with
  | none => trivial
  | some session =>
    refine ⟨hh₁.allows ⟨session, List.mem_cons_self, rfl⟩, fun channel ↦ ?_⟩
    have hh₂ := hh₁.cons (c := .takePendingAck session.cells) rfl channel
    cases channel with
    | none => trivial
    | some channel =>
      exact ⟨hh₂.allows ⟨session.cells, List.mem_cons_self⟩, fun _ ↦ trivial⟩

theorem Working.connectionstateRequest (hh : Working frame id link h)
    {request : ConnectionstateRequest} (hparse : ConnectionstateRequest.parse frame.body = .ok request)
    (hid : request.communicationChannelId = id) :
    (handleConnectionstateRequest frame.body link).Obeys confinementRule
      (fun _ _ ↦ True) h := by
  rw [handleConnectionstateRequest, hparse, Task.ok_bind, hid]
  refine ⟨hh.allows rfl, fun found ↦ ?_⟩
  exact (hh.cons (c := .touchSession id) rfl found).obeys_reply _ _ _

theorem Working.disconnectRequest (hh : Working frame id link h) {request : DisconnectRequest}
    (hservice : frame.header.serviceType = .disconnectRequest)
    (hparse : DisconnectRequest.parse frame.body = .ok request)
    (hid : request.communicationChannelId = id) :
    (handleDisconnectRequest frame.body link).Obeys confinementRule (fun _ _ ↦ True) h := by
  rw [handleDisconnectRequest, hparse, Task.ok_bind, hid]
  refine ⟨hh.allows rfl, fun removed ↦ ?_⟩
  have hh₁ := hh.cons (c := .removeSession id) rfl removed
  obtain ⟨data, hsender⟩ := hh₁.sender
  refine ⟨hh₁.allows ⟨hservice, removed, link.peerAddr, data, rfl, hsender, ?_⟩, fun _ ↦ ?_⟩
  · cases removed <;> rfl
  · exact (hh₁.cons (c := .removeSecureSession _) rfl ()).obeys_reply _ _ _

theorem namedChannel_cases (hid : namedChannel frame = some id) :
    (frame.header.serviceType = .tunnellingRequest ∧ ∃ request,
      TunnellingRequest.parse frame.body = .ok request ∧ request.communicationChannelId = id) ∨
    (frame.header.serviceType = .tunnellingAck ∧ ∃ ack,
      TunnellingAck.parse frame.body = .ok ack ∧ ack.communicationChannelId = id) ∨
    (frame.header.serviceType = .connectionstateRequest ∧ ∃ request,
      ConnectionstateRequest.parse frame.body = .ok request ∧
        request.communicationChannelId = id) ∨
    (frame.header.serviceType = .disconnectRequest ∧ ∃ request,
      DisconnectRequest.parse frame.body = .ok request ∧ request.communicationChannelId = id) := by
  unfold namedChannel at hid
  split at hid
  case h_5 => cases hid
  all_goals
    rename_i hservice
    simp only [Option.map_eq_some_iff, Outcome.value?_eq_some] at hid
  · exact .inl ⟨hservice, hid⟩
  · exact .inr (.inl ⟨hservice, hid⟩)
  · exact .inr (.inr (.inl ⟨hservice, hid⟩))
  · exact .inr (.inr (.inr ⟨hservice, hid⟩))

theorem Working.dispatchPlainFrame (hh : Working frame id link h) (server : TunnelServer)
    (wasEncrypted : Bool) :
    (dispatchPlainFrame server frame link wasEncrypted).Obeys confinementRule
      (fun _ _ ↦ True) h := by
  have hnone {p : Handler Unit} (hp : p.Obeys confinementRule (fun _ _ ↦ True) h) :
      (p >>= fun _ ↦ (pure none : Handler (Option UInt8))).Obeys confinementRule
        (fun _ _ ↦ True) h :=
    hp.bind_true fun _ _ _ ↦ trivial
  unfold Server.dispatchPlainFrame
  split
  · trivial
  obtain ⟨hservice, request, hparse, hid⟩ | ⟨hservice, ack, hparse, hid⟩ |
    ⟨hservice, request, hparse, hid⟩ | ⟨hservice, request, hparse, hid⟩ :=
    namedChannel_cases hh.named
  · rw [hservice]
    exact hnone (hh.tunnellingRequest hservice hparse hid)
  · rw [hservice]
    exact hnone (hh.tunnellingAck hparse hid)
  · rw [hservice]
    exact hnone (hh.connectionstateRequest hparse hid)
  · rw [hservice]
    exact hnone (hh.disconnectRequest hservice hparse hid)

theorem dispatches_unpacks (link : ClientLink) :
    Dispatches (fun _ c ↦ c.unpacks = false) link where
  serving c hc _ := by cases c <;> first | rfl | cases hc
  reply _ _ _ h := (follows_sendReply_isReply _ _ _ h).imp fun _ c hc ↦ by
    cases c <;> first | rfl | cases hc
  opening _ _ := rfl

theorem obeys_dispatchPlainFrame_confinement (server : TunnelServer) (wasEncrypted : Bool)
    (hframe : frameInHand h = some frame) (hsender : ∃ data, inHand h = some (link.peerAddr, data)) :
    (dispatchPlainFrame server frame link wasEncrypted).Obeys confinementRule
      (fun _ _ ↦ True) h := by
  cases hid : namedChannel frame with
  | some id => exact Working.dispatchPlainFrame ⟨hframe, hid, hsender⟩ server wasEncrypted
  | none =>
    have hh : Unnamed h := by
      intro frame' hframe'
      obtain rfl := Option.some.inj (hframe'.symm.trans hframe)
      exact hid
    exact hh.obeys ((dispatches_unpacks link).dispatchPlainFrame server frame wasEncrypted)

theorem obeys_handleFrame_confinement (P : Primitives) (server : TunnelServer)
    {data : List UInt8} (hhand : inHand h = some (link.peerAddr, data))
    (hframe : frameInHand h = (KnxIpFrame.parse data).value?) :
    (handleFrame P server data link).Obeys confinementRule (fun _ _ ↦ True) h := by
  refine Obeys.done_bind fun frame hparse ↦ ?_
  rw [hparse] at hframe
  have hhandshake {p : Handler Unit} (hnamed : namedChannel frame = none)
      (hp : p.Follows fun _ c ↦ c.isHandshake = true) :
      (p >>= fun _ ↦ (pure none : Handler (Option UInt8))).Obeys confinementRule
        (fun _ _ ↦ True) h := by
    have hh : Unnamed h := by
      intro frame' hframe'
      obtain rfl := Option.some.inj (hframe'.symm.trans hframe)
      exact hnamed
    have hunpacks : p.Follows fun _ c ↦ c.unpacks = false :=
      fun h ↦ (hp h).imp fun _ c hc ↦ by cases c <;> first | rfl | cases hc
    exact hh.obeys (.bind hunpacks fun _ ↦ .done _)
  split
  · rename_i hservice
    exact hhandshake (by simp [namedChannel, hservice])
      (follows_handleSessionRequest_isHandshake P server _ _)
  · rename_i hservice
    exact hhandshake (by simp [namedChannel, hservice])
      (follows_handleSessionAuthenticate_isHandshake _ _)
  · -- Once it is unwrapped, the task works on the inner frame.
    refine ⟨fun _ _ _ _ ↦ trivial, fun entry ↦ ?_⟩
    cases entry with
    | none => trivial
    | some entry =>
      refine ⟨fun _ _ _ _ ↦ trivial, fun authenticated ↦ ?_⟩
      cases authenticated with
      | false => trivial
      | true =>
        refine ⟨fun _ _ _ _ ↦ trivial, fun decrypted ↦ ?_⟩
        cases decrypted with
        | err e => trivial
        | panic => trivial
        | ok inner =>
          show Obeys _ _ _ (.done (KnxIpFrame.parse inner) >>= fun frame ↦
            dispatchPlainFrame server frame link true)
          refine Obeys.done_bind fun frame hinner ↦ ?_
          refine obeys_dispatchPlainFrame_confinement server true ?_ ⟨data, hhand⟩
          exact Outcome.value?_eq_some.mpr hinner
  · exact obeys_dispatchPlainFrame_confinement server false hframe ⟨data, hhand⟩

theorem follows_dispatchLoop_confinement (P : Primitives) (server : TunnelServer)
    (datagrams : List (SocketAddr × List UInt8)) :
    (dispatchLoop P server datagrams).Follows confinementRule := by
  induction datagrams with
  | nil => exact .done _
  | cons d datagrams ih =>
    refine .bind (.perform fun _ _ _ _ _ ↦ trivial) fun shutdown ↦ ?_
    cases shutdown with
    | true => exact .done _
    | false =>
      refine fun h ↦ ⟨fun _ _ _ _ ↦ trivial, fun taken ↦ ?_⟩
      cases taken with
      | false => trivial
      | true =>
        have hframe : (handleFrame P server (d.2.take 1024) (.udp d.1)).Obeys confinementRule
            (fun _ _ ↦ True) (⟨.recvFrom d.1 (d.2.take 1024), true⟩ :: h) :=
          obeys_handleFrame_confinement P server rfl rfl
        exact (hframe.attempt (δ := KnxError) (T := fun _ _ ↦ True) (fun _ _ h ↦ h)
          (fun _ _ h ↦ h) (fun _ h ↦ h)).bind (fun h _ _ ↦ ih h) (fun _ _ h ↦ h) (fun _ h ↦ h)

theorem obeys_streamLoop_confinement (P : Primitives) (server : TunnelServer) (transport : ℕ)
    (peer : SocketAddr) (frames : List (List UInt8)) (assigned : Option UInt8) :
    (streamLoop P server transport peer frames assigned).Obeys confinementRule
      (fun h r ↦ ∀ assigned, r = .ok assigned → frameInHand h = none) h := by
  refine obeys_streamLoop_of_frames P server transport peer (A := fun _ _ ↦ True)
    (fun _ _ _ _ ↦ ⟨fun _ _ _ _ ↦ trivial, trivial⟩)
    (fun _ _ _ ↦ ⟨fun _ _ _ _ ↦ trivial, fun _ _ ↦ rfl⟩)
    (fun _ data h _ ↦ ⟨fun _ _ _ _ ↦ trivial, ?_⟩) frames trivial
  have hframe : (handleFrame P server data (.tcp transport peer)).Obeys confinementRule
      (fun _ _ ↦ True) (⟨.recvFrame transport peer data, ()⟩ :: h) :=
    obeys_handleFrame_confinement P server rfl rfl
  refine hframe.mono fun h r _ ↦ ?_
  rcases r with (_ | id) | e | _
  · trivial
  · trivial
  · trivial
  · exact fun _ hr ↦ nomatch hr

end

section

theorem follows_send_unpacks (telegram : Telegram) :
    (send telegram).Follows fun _ c ↦ c.unpacks = false := by
  have hsession (session : ClientSession) :
      (sendToSession session telegram).Follows fun _ c ↦ c.unpacks = false := by
    have hlocked : (sendLocked session telegram).Follows fun _ c ↦ c.unpacks = false :=
      fun h ↦ (follows_sendLocked_isSending session telegram h).imp fun _ c hc ↦ by
        cases c <;> first | rfl | cases hc
    exact .bind (.perform fun _ ↦ rfl) fun _ ↦ .bind (.attempt hlocked) fun result ↦
      .bind (.perform fun _ ↦ rfl) fun _ ↦ follows_rethrow result
  refine .bind (.perform fun _ ↦ rfl) fun sessions ↦ ?_
  induction sessions with
  | nil => exact .done _
  | cons session sessions ih =>
    refine .bind (.attempt (hsession session)) fun result ↦ ?_
    cases result with
    | ok _ => exact ih
    | error e => exact .bind (.perform fun _ ↦ rfl) fun _ ↦ ih

theorem follows_sweepLoop_unpacks (sweeps : ℕ) :
    (sweepLoop sweeps).Follows fun _ c ↦ c.unpacks = false := by
  induction sweeps with
  | zero => exact .done _
  | succ sweeps ih =>
    refine .bind (.perform fun _ ↦ rfl) fun slept ↦ ?_
    cases slept with
    | false => exact .done _
    | true =>
      refine .bind (.perform fun _ ↦ rfl) fun shutdown ↦ ?_
      cases shutdown with
      | true => exact .done _
      | false =>
        refine .bind (.perform fun _ ↦ rfl) fun stale ↦ ?_
        cases stale with
        | nil => exact ih
        | cons id stale => exact .bind (.perform fun _ ↦ rfl) fun _ ↦ ih

theorem unnamed_nil : Unnamed [] := fun _ h ↦ nomatch h

theorem obeys_program_confinement (P : Primitives) (server : TunnelServer) (activity : Activity) :
    (program P server activity).Obeys confinementRule (fun _ _ ↦ True) [] := by
  cases activity with
  | accept transport peer frames =>
    refine ⟨fun _ _ _ _ ↦ trivial, fun shutdown ↦ ?_⟩
    cases shutdown with
    | true => trivial
    | false =>
      refine (obeys_streamLoop_confinement P server transport peer frames none).bind_true
        fun h assigned hh ↦ ?_
      have hunnamed : Unnamed h := by
        intro frame hframe
        rw [hh assigned rfl] at hframe
        cases hframe
      cases assigned with
      | none => exact hunnamed.obeys (.perform fun _ ↦ rfl)
      | some id => exact hunnamed.obeys (.bind (.perform fun _ ↦ rfl) fun _ ↦ .perform fun _ ↦ rfl)
  | send telegram => exact unnamed_nil.obeys (follows_send_unpacks telegram)
  | shutdown => exact unnamed_nil.obeys (.perform fun _ ↦ rfl)

end

section

variable {P : Primitives} {c : Command} {i : Env} {s s' : State} {a : c.Response} {k : ℕ}
  {trace : List Step} {frame : KnxIpFrame} {id : UInt8}

theorem Confined.of_eq (hsessions : s'.sessions = s.sessions) (hcells : s'.cells = s.cells)
    (hacks : s'.acks = s.acks) (hpublished : s'.published = s.published)
    (hsecure : s'.secureSessions = s.secureSessions) :
    Confined frame id ⟨k, c, a, s, s'⟩ trace where
  sessions _ _ := congrFun hsessions _
  cells _ _ _ _ := by rw [hcells]
  acks _ _ _ _ _ _ _ _ := by rw [hacks]
  secure peer h := absurd (congrFun hsecure peer) h
  published h := absurd hpublished h

theorem Confined.of_withCells (hs : Dated trace s) {session : ClientSession}
    (hknown : Known trace s id session) {α : Type} {x : α}
    {f : ClientCells → Option (α × ClientCells)}
    (he : s.withCells session.cells f = some (x, s')) :
    Confined frame id ⟨k, c, a, s, s'⟩ trace := by
  obtain ⟨cells, cells', -, -, rfl⟩ := State.withCells_eq_some he
  obtain ⟨hid, -, hunique⟩ := hs.known id session hknown
  refine ⟨fun _ _ ↦ rfl, fun other hother session' hsession' ↦ ?_, fun _ _ _ _ _ _ _ _ ↦ rfl,
    fun _ h ↦ absurd rfl h, fun h ↦ absurd rfl h⟩
  refine List.getElem?_set_ne fun hcells ↦ hother ?_
  rw [← (hs.keyed other session' hsession').1, hunique other session' hsession' hcells.symm, hid]

theorem known_of_getSession {session : ClientSession}
    (hexec : ∀ r ∈ trace, r.Executed (exec P))
    (he : ⟨.getSession id, some session⟩ ∈ history k trace) : Known trace s id session := by
  obtain ⟨o, ho, -, hevent⟩ := mem_of_mem_history he
  obtain ⟨i, hstep⟩ := (hexec o ho).of_event hevent
  simp only [exec] at hstep
  have hfound := (State.withSessions_eq_some hstep).2
  simp only [Prod.mk.injEq] at hfound
  obtain ⟨hsession, hsame⟩ := hfound
  exact .inr ⟨o, ho, hsame ▸ hsession⟩

theorem Targets.confined (hc : Targets frame id (history k trace) c) (hs : Dated trace s)
    (hacks : Paired trace s) (hexec : ∀ r ∈ trace, r.Executed (exec P))
    (he : exec P c i s = some (a, s')) : Confined frame id ⟨k, c, a, s, s'⟩ trace := by
  by_cases hquiet : c.touchesChannels = false ∧ c.editsSecureSessions = false
  · obtain ⟨hsessions, hcells, hacks, hpublished⟩ := exec_channels hquiet.1 he
    exact .of_eq hsessions hcells hacks hpublished (exec_secureSessions hquiet.2 he)
  cases c
  case openSession | removeSessions | insertSecureSession | lockSend | unlockSend | storeSendSeq
      | expectAck => exact hc.elim
  case removeSecureSession peer =>
    cases he
    refine ⟨fun _ _ ↦ rfl, fun _ _ _ _ ↦ rfl, fun _ _ _ _ _ _ _ _ ↦ rfl, fun peer' h ↦ ?_,
      fun h ↦ absurd rfl h⟩
    by_cases hpeer : peer' = peer
    · subst hpeer
      exact hc
    · exact absurd (Function.update_of_ne hpeer ..) h
  case touchSession other =>
    obtain rfl : other = id := hc
    simp only [exec] at he
    obtain ⟨-, hx⟩ := State.withSessions_eq_some he
    split at hx
    · rename_i session hsession
      cases hx
      obtain ⟨-, -, hunique⟩ := hs.known other session (.inl hsession)
      refine ⟨fun _ _ ↦ rfl, fun id' hid' session' hsession' ↦ ?_, fun _ _ _ _ _ _ _ _ ↦ rfl,
        fun _ h ↦ absurd rfl h, fun h ↦ absurd rfl h⟩
      refine List.getElem?_modify_ne _ _ fun hcells ↦ hid' ?_
      rw [← (hs.keyed id' session' hsession').1, hunique id' session' hsession' hcells.symm,
        (hs.keyed other session hsession).1]
    · cases hx
      exact .of_eq rfl rfl rfl rfl rfl
  case removeSession other =>
    obtain rfl : other = id := hc
    obtain ⟨-, rfl⟩ := exec_removeSession he
    exact ⟨fun id' hid' ↦ Function.update_of_ne hid' .., fun _ _ _ _ ↦ rfl,
      fun _ _ _ _ _ _ _ _ ↦ rfl, fun _ h ↦ absurd rfl h, fun h ↦ absurd rfl h⟩
  case touch | storeRecvSeq | takePendingAck =>
    obtain ⟨session, hmem, rfl⟩ := hc
    simp only [exec] at he
    exact .of_withCells hs (known_of_getSession hexec hmem) he
  case loadRecvSeq | loadSendSeq =>
    simp only [exec] at he
    obtain ⟨cells, cells', hcells, hf, rfl⟩ := State.withCells_eq_some he
    cases hf
    obtain ⟨hlt, rfl⟩ := List.getElem?_eq_some_iff.mp hcells
    exact .of_eq rfl (List.set_getElem_self hlt) rfl rfl rfl
  case deliverAck channel ack =>
    cases he
    obtain ⟨n, hmem⟩ := hc
    obtain ⟨o, ho, -, hevent⟩ := mem_of_mem_history hmem
    have hfree := (hacks.taken o ho n channel hevent).2
    refine ⟨fun _ _ ↦ rfl, fun _ _ _ _ ↦ rfl, fun _ _ session cells waiting _ hcells hpending ↦ ?_,
      fun _ h ↦ absurd rfl h, fun h ↦ absurd rfl h⟩
    refine List.getElem?_modify_ne _ _ fun hchannel ↦ ?_
    subst hchannel
    exact hfree session.cells ⟨cells, hcells, hpending⟩
  case publish =>
    cases he
    exact ⟨fun _ _ ↦ rfl, fun _ _ _ _ ↦ rfl, fun _ _ _ _ _ _ _ _ ↦ rfl, fun _ h ↦ absurd rfl h,
      fun _ ↦ hc⟩
  all_goals exact absurd ⟨rfl, rfl⟩ hquiet

end

def finds : (c : Command) × c.Response → Bool
  | ⟨.touchSession _, session⟩ => session.isSome
  | ⟨.removeSession _, session⟩ => session.isSome
  | _ => true

theorem agrees_dispatchPlainFrame (server : TunnelServer) {frame : KnxIpFrame} {id : UInt8}
    (hid : namedChannel frame = some id) (link link' : ClientLink) (wasEncrypted : Bool) :
    (dispatchPlainFrame server frame link wasEncrypted).Agrees (fun e ↦ finds e = true)
      (dispatchPlainFrame server frame link' wasEncrypted) := by
  unfold dispatchPlainFrame
  split
  · exact .refl _
  obtain ⟨hservice, -⟩ | ⟨hservice, -⟩ | ⟨hservice, request, hparse, -⟩ |
    ⟨hservice, request, hparse, -⟩ := namedChannel_cases hid
  · rw [hservice]
    exact .refl _
  · rw [hservice]
    exact .refl _
  · rw [hservice]
    refine Agrees.bind ?_ _
    rw [handleConnectionstateRequest, handleConnectionstateRequest, hparse]
    refine .call _ fun found hfound ↦ ?_
    cases found with
    | none => cases hfound
    | some session => exact .refl _
  · rw [hservice]
    refine Agrees.bind ?_ _
    rw [handleDisconnectRequest, handleDisconnectRequest, hparse]
    refine .call _ fun removed hremoved ↦ ?_
    cases removed with
    | none => cases hremoved
    | some session => exact .refl _

/-- A frame acts on the channel that it names and on no other one, in every step of every
run, and on that one in the same way whoever has sent it. -/
theorem frames_act_on_named_channel (P : Primitives) (server : TunnelServer)
    (datagrams : List (SocketAddr × List UInt8)) (sweeps : ℕ) (moves : List (Move Activity Env)) :
    (∀ r earlier, r :: earlier <:+ (run P server datagrams sweeps moves).trace →
      ∀ frame id, frameInHand (history r.task earlier) = some frame →
        namedChannel frame = some id → Confined frame id r earlier) ∧
    ∀ frame id, namedChannel frame = some id → ∀ link link' wasEncrypted,
      (dispatchPlainFrame server frame link wasEncrypted).Agrees (fun e ↦ finds e = true)
        (dispatchPlainFrame server frame link' wasEncrypted) := by
  refine ⟨fun r earlier hr ↦ ?_, fun frame id hid link link' wasEncrypted ↦
    agrees_dispatchPlainFrame server hid link link' wasEncrypted⟩
  let Inv (trace : List Step) (s : State) : Prop := Dated trace s ∧ Paired trace s
  have hkeeps : Config.Keeps (exec P) confinementRule Inv :=
    fun _ _ k _ _ _ _ _ hs _ he ↦ ⟨hs.1.exec he k, hs.2.exec he k⟩
  have hgrants : Config.Grants (exec P) confinementRule Inv fun r earlier ↦
      ∀ frame id, frameInHand (history r.task earlier) = some frame →
        namedChannel frame = some id → Confined frame id r earlier :=
    fun _ _ _ _ _ _ _ hexec hs hrule he frame id hframe hid ↦
      (hrule frame id hframe hid).confined hs.1 hs.2 hexec he
  refine Config.run_always (fun p hp ↦ ?_) (obeys_program_confinement P server) ⟨.start, .start⟩
    hkeeps hgrants moves r earlier hr
  rcases List.mem_pair.mp hp with rfl | rfl
  · exact follows_dispatchLoop_confinement P server datagrams []
  · exact unnamed_nil.obeys (follows_sweepLoop_unpacks sweeps)

def OpenedFrom (trace : List Step) (opener : SocketAddr) (session : ClientSession) : Prop :=
  ∃ o before, o :: before <:+ trace ∧
    o.event = ⟨.openSession session.link, some session.channelId⟩ ∧
    o.after.sessions session.channelId = some session ∧
    ∃ data, inHand (history o.task before) = some (opener, data)

structure Untouched (session : ClientSession) (r : Step) : Prop where
  sessions : r.after.sessions session.channelId = some session
  cells : r.after.cells[session.cells]? = r.before.cells[session.cells]?
  acks : r.after.acks = r.before.acks
  secure : r.after.secureSessions session.link.peerAddr =
    r.before.secureSessions session.link.peerAddr
  published : r.after.published = r.before.published

/-- A session is not touched for a frame that comes from another address than the one it
was opened from. -/
def RespectsOwners (r : Step) (earlier : List Step) : Prop :=
  ∀ sender data frame session opener, inHand (history r.task earlier) = some (sender, data) →
    frameInHand (history r.task earlier) = some frame →
    namedChannel frame = some session.channelId →
    r.before.sessions session.channelId = some session →
    OpenedFrom earlier opener session → sender ≠ opener → Untouched session r

namespace Reference

open Security.Reference (primitives)

def otherPeer : SocketAddr := .v4 ⟨[192, 168, 1, 11], rfl⟩ 3671

def foreignDisconnect : List (SocketAddr × List UInt8) :=
  [(peer, connectRequest), (otherPeer, connectRequest), (otherPeer, disconnectRequest 1)]

def untilRemoval : List (Move Activity Env) := List.replicate 13 (.resume 0 {})

def peerSession : ClientSession := ⟨1, .udp peer, 0⟩

def opensPeerSession : List Step → Bool
  | ⟨task, .openSession link, id, _, after⟩ :: before =>
    link = peerSession.link && id = some 1 && after.sessions 1 = some peerSession &&
      inHand (history task before) = some (peer, connectRequest)
  | _ => false

def disconnectsForeign : List Step → Bool
  | [] => false
  | r :: earlier => r.command = .removeSession 1 &&
      inHand (history r.task earlier) = some (otherPeer, disconnectRequest 1) &&
      (frameInHand (history r.task earlier)).bind namedChannel = some 1 &&
      r.before.sessions 1 = some peerSession && r.after.sessions 1 = none &&
      opensPeerSession (earlier.drop 9)

theorem disconnectsForeign_untilRemoval : disconnectsForeign
    (run primitives plainServer foreignDisconnect 0 untilRemoval).trace = true := by
  decide +kernel

end Reference

open Security.Reference (primitives)

/-- The other channel stays when a client has the first one disconnected. -/
theorem foreign_disconnect_confined :
    ∃ r earlier frame, r :: earlier <:+ (run primitives Reference.plainServer
        Reference.foreignDisconnect 0 Reference.untilRemoval).trace ∧
      r.command = .removeSession 1 ∧ Confined frame 1 r earlier := by
  have hforeign := Reference.disconnectsForeign_untilRemoval
  have hconfined := (frames_act_on_named_channel primitives Reference.plainServer
    Reference.foreignDisconnect 0 Reference.untilRemoval).1
  generalize (run primitives Reference.plainServer Reference.foreignDisconnect 0
    Reference.untilRemoval).trace = trace at hforeign hconfined ⊢
  cases trace with
  | nil => cases hforeign
  | cons r earlier =>
    simp only [Reference.disconnectsForeign, Bool.and_eq_true, decide_eq_true_eq] at hforeign
    obtain ⟨⟨⟨⟨⟨hcommand, -⟩, hnamed⟩, -⟩, -⟩, -⟩ := hforeign
    obtain ⟨frame, hframe, hid⟩ := Option.bind_eq_some_iff.mp hnamed
    exact ⟨r, earlier, frame, List.suffix_refl _, hcommand,
      hconfined r earlier (List.suffix_refl _) frame 1 hframe hid⟩

/-- A client disconnects the channel of another one. -/
theorem foreign_disconnect_removes_channel :
    ∃ r earlier, r :: earlier <:+ (run primitives Reference.plainServer
        Reference.foreignDisconnect 0 Reference.untilRemoval).trace ∧
      ¬ RespectsOwners r earlier := by
  have hforeign := Reference.disconnectsForeign_untilRemoval
  generalize (run primitives Reference.plainServer Reference.foreignDisconnect 0
    Reference.untilRemoval).trace = trace at hforeign ⊢
  cases trace with
  | nil => cases hforeign
  | cons r earlier =>
    simp only [Reference.disconnectsForeign, Bool.and_eq_true, decide_eq_true_eq] at hforeign
    obtain ⟨⟨⟨⟨⟨-, hsender⟩, hnamed⟩, hbefore⟩, hafter⟩, hopens⟩ := hforeign
    obtain ⟨frame, hframe, hid⟩ := Option.bind_eq_some_iff.mp hnamed
    have hopened : OpenedFrom earlier Reference.peer Reference.peerSession := by
      have hsuffix := List.drop_suffix 9 earlier
      generalize earlier.drop 9 = rest at hopens hsuffix
      unfold Reference.opensPeerSession at hopens
      split at hopens
      · simp only [Bool.and_eq_true, decide_eq_true_eq] at hopens
        obtain ⟨⟨⟨rfl, rfl⟩, hsession⟩, hhand⟩ := hopens
        exact ⟨_, _, hsuffix, rfl, hsession, _, hhand⟩
      · cases hopens
    refine ⟨r, earlier, List.suffix_refl _, fun hrespects ↦ ?_⟩
    have hkept := (hrespects Reference.otherPeer _ frame Reference.peerSession Reference.peer
      hsender hframe hid hbefore hopened (by decide)).sessions
    cases hafter.symm.trans hkept

end Knust.Transport.Server
