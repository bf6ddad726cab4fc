import Knust.Application.ForeignChannels
import Knust.Application.Handling

namespace Knust.Application.Acknowledging

open Foundation Foundation.Task Protocol Security Transport Transport.Client ForeignChannels

def requestsHeard (h : History Command Command.Response) : List TunnellingRequest :=
  (heard h).filterMap requestOf

def acksSent : History Command Command.Response → List TunnellingAck
  | [] => []
  | ⟨.write frame, _⟩ :: h => (ackOf (plainText frame h)).toList ++ acksSent h
  | _ :: h => acksSent h

structure Acknowledges (request : TunnellingRequest) (ack : TunnellingAck) : Prop where
  channel : ack.communicationChannelId = request.communicationChannelId
  counter : ack.sequenceCounter = request.sequenceCounter

/-- A tunnel that sends acknowledgements has sent one for each request, apart from the one that is
owed. Another tunnel has sent none. -/
def Conforms (sendAcks : Bool) (owed : Option TunnellingRequest)
    (h : History Command Command.Response) : Prop :=
  if sendAcks then
    ∃ answered, requestsHeard h = owed.toList ++ answered ∧
      List.Forall₂ Acknowledges answered (acksSent h)
  else acksSent h = []

def Attentive (sendAcks : Bool) (h : History Command Command.Response) : Prop :=
  if sendAcks then
    ∀ size earlier, ⟨.allocate size, false⟩ :: earlier <:+ h →
      ∀ frame ∈ latest earlier, requestOf frame = none
  else requestsHeard h = []

def Lasting (h : History Command Command.Response) : Prop :=
  ∀ caller earlier, ⟨.transport caller, false⟩ :: earlier <:+ h →
    ∀ caller', ⟨.transport caller', true⟩ ∉ earlier

def isMute : Command → Bool
  | .decryptFrame .. | .write .. => false
  | _ => true

section

variable {sendAcks : Bool} {owed : Option TunnellingRequest} {c : Command} {h : Past}

theorem heard_cons_mute (hc : isMute c = true) (r : c.Response) :
    heard (⟨c, r⟩ :: h) = heard h := by
  cases c
  case decryptFrame | write => cases hc
  all_goals rfl

theorem acksSent_cons_mute (hc : isMute c = true) (r : c.Response) :
    acksSent (⟨c, r⟩ :: h) = acksSent h := by
  cases c
  case decryptFrame | write => cases hc
  all_goals rfl

theorem Conforms.cons_mute (hs : Conforms sendAcks owed h) (hc : isMute c = true)
    (r : c.Response) : Conforms sendAcks owed (⟨c, r⟩ :: h) := by
  rwa [Conforms, requestsHeard, heard_cons_mute hc, acksSent_cons_mute hc]

theorem Conforms.hear (hs : Conforms sendAcks none h) {raw data : List UInt8}
    {r : Option (Result (List UInt8))}
    (hheard : heard (⟨.decryptFrame raw, r⟩ :: h) = data :: heard h) :
    Conforms sendAcks (requestOf data) (⟨.decryptFrame raw, r⟩ :: h) := by
  have hacks : acksSent (⟨.decryptFrame raw, r⟩ :: h) = acksSent h := rfl
  cases sendAcks with
  | false => exact hs
  | true =>
    obtain ⟨answered, hrequests, hforall⟩ := hs
    refine ⟨answered, ?_, hforall⟩
    have hrequests : (heard h).filterMap requestOf = answered := hrequests
    rw [requestsHeard, hheard]
    cases hdata : requestOf data with
    | none => rw [List.filterMap_cons_none hdata, hrequests]; rfl
    | some request => rw [List.filterMap_cons_some hdata, hrequests]; rfl

theorem Conforms.mishear (hs : Conforms sendAcks none h) {raw : List UInt8}
    {r : Option (Result (List UInt8))}
    (hheard : heard (⟨.decryptFrame raw, r⟩ :: h) = heard h) :
    Conforms sendAcks none (⟨.decryptFrame raw, r⟩ :: h) := by
  rw [Conforms, requestsHeard, hheard]
  exact hs

theorem Conforms.answer {request : TunnellingRequest} (hs : Conforms true (some request) h)
    (hplain : ∀ frame, plainText frame h = frame) {status : UInt8} (r : Result Unit) :
    Conforms true none (⟨.write (ackFrame
      ⟨request.communicationChannelId, request.sequenceCounter, status⟩), r⟩ :: h) := by
  obtain ⟨answered, hrequests, hforall⟩ := hs
  refine ⟨request :: answered, hrequests, ?_⟩
  rw [acksSent, hplain, ackOf_ackFrame]
  exact .cons ⟨rfl, rfl⟩ hforall

theorem Conforms.write (hs : Conforms sendAcks owed h) {frame : List UInt8}
    (hframe : ackOf (plainText frame h) = none) (r : Result Unit) :
    Conforms sendAcks owed (⟨.write frame, r⟩ :: h) := by
  have hacks : acksSent (⟨.write frame, r⟩ :: h) = acksSent h := by
    rw [acksSent, hframe]
    rfl
  rw [Conforms, hacks]
  exact hs

end

structure Suits (Given : History Command Command.Response → Prop) : Prop where
  mono : ∀ e h, Given (e :: h) → Given h
  lasting : ∀ h, Given h → Lasting h

section

variable (Given : Past → Prop) (sendAcks : Bool)

def Stands (owed : Option TunnellingRequest) (h : History Command Command.Response) : Prop :=
  Given h → Conforms sendAcks owed h

def standRule (h : History Command Command.Response) (_ : Command) : Prop :=
  ∃ owed, Stands Given sendAcks owed h

structure Handling (owed : Option TunnellingRequest) (frame : List UInt8)
    (h : History Command Command.Response) : Prop where
  stands : Stands Given sendAcks owed h
  latest : latest h = some frame
  linked : ∃ caller, ⟨.transport caller, true⟩ ∈ h

def Arrived (r : Outcome KnxError (Option (List UInt8)))
    (h : History Command Command.Response) : Prop :=
  match r with
  | .ok (some frame) => Handling Given sendAcks (requestOf frame) frame h
  | _ => Stands Given sendAcks none h

def ArrivedOrNot (r : Outcome KnxError (Except KnxError (Option (List UInt8))))
    (h : History Command Command.Response) : Prop :=
  match r with
  | .ok (.ok data) => Arrived Given sendAcks (.ok data) h
  | _ => Stands Given sendAcks none h

variable {Given sendAcks} {owed : Option TunnellingRequest} {frame : List UInt8} {h : Past}
  {α : Type}

theorem Stands.cons_mute (hg : Suits Given) (hs : Stands Given sendAcks owed h) {c : Command}
    (hc : isMute c = true) (r : c.Response) : Stands Given sendAcks owed (⟨c, r⟩ :: h) :=
  fun hgiven ↦ (hs (hg.mono _ _ hgiven)).cons_mute hc r

theorem Handling.cons_mute (hg : Suits Given) (hs : Handling Given sendAcks owed frame h)
    {c : Command} (hc : isMute c = true) (r : c.Response) :
    Handling Given sendAcks owed frame (⟨c, r⟩ :: h) where
  stands := hs.stands.cons_mute hg hc r
  latest := by
    rw [ForeignChannels.latest, heard_cons_mute hc]
    exact hs.latest
  linked := hs.linked.imp fun _ h ↦ .tail _ h

theorem obeys_mute (hg : Suits Given) {p : Handler α} (hp : p.Follows fun _ c ↦ isMute c = true)
    (hs : Stands Given sendAcks owed h) :
    p.Obeys (standRule Given sendAcks) (fun h' _ ↦ Stands Given sendAcks owed h') h :=
  (hp h).carry (fun _ _ hs _ ↦ ⟨owed, hs⟩) (fun _ _ r hs hc ↦ hs.cons_mute hg hc r) hs

theorem obeys_mute_handling (hg : Suits Given) {p : Handler α}
    (hp : p.Follows fun _ c ↦ isMute c = true) (hs : Handling Given sendAcks owed frame h) :
    p.Obeys (standRule Given sendAcks) (fun h' _ ↦ Handling Given sendAcks owed frame h') h :=
  (hp h).carry (fun _ _ hs _ ↦ ⟨owed, hs.stands⟩) (fun _ _ r hs hc ↦ hs.cons_mute hg hc r) hs

theorem validateSequenceNumber_ok (received : UInt8) (h : Past) :
    (validateSequenceNumber received).Obeys (fun _ _ ↦ True) (fun _ r ↦ ∃ v, r = .ok v) h := by
  refine ⟨trivial, fun expected ↦ ?_⟩
  show Obeys _ _ _ (ite _ _ _)
  split
  · exact ⟨trivial, fun _ ↦ ⟨_, rfl⟩⟩
  · show Obeys _ _ _ (ite _ _ _)
    split
    · exact ⟨_, rfl⟩
    · exact ⟨_, rfl⟩

theorem Handling.hear (hg : Suits Given) (hs : Stands Given sendAcks none h)
    (hlinked : ∃ caller, ⟨.transport caller, true⟩ ∈ h) {raw data : List UInt8}
    {r : Option (Result (List UInt8))}
    (hheard : heard (⟨.decryptFrame raw, r⟩ :: h) = data :: heard h) :
    Handling Given sendAcks (requestOf data) data (⟨.decryptFrame raw, r⟩ :: h) where
  stands hgiven := (hs (hg.mono _ _ hgiven)).hear hheard
  latest := by
    rw [ForeignChannels.latest, hheard]
    rfl
  linked := hlinked.imp fun _ h ↦ .tail _ h

theorem obeys_received (hg : Suits Given) (hs : Stands Given sendAcks none h)
    (hlinked : ∃ caller, ⟨.transport caller, true⟩ ∈ h) (raw : Except KnxError (List UInt8)) :
    (do
      let data ← received raw
      pure (some data) : Handler (Option (List UInt8))).Obeys (standRule Given sendAcks)
      (fun h' r ↦ Arrived Given sendAcks r h') h := by
  have hmishear {raw : List UInt8} {r : Option (Result (List UInt8))}
      (hheard : heard (⟨.decryptFrame raw, r⟩ :: h) = heard h) :
      Stands Given sendAcks none (⟨.decryptFrame raw, r⟩ :: h) := fun hgiven ↦
    (hs (hg.mono _ _ hgiven)).mishear hheard
  cases raw with
  | error e => exact ⟨⟨none, hs⟩, fun _ ↦ hs.cons_mute hg rfl _⟩
  | ok raw =>
    refine ⟨⟨none, hs⟩, fun decrypted ↦ ?_⟩
    match decrypted with
    | none =>
      have hh : Handling Given sendAcks (requestOf raw) raw (⟨.decryptFrame raw, none⟩ :: h) :=
        .hear hg hs hlinked rfl
      exact ⟨⟨_, hh.stands⟩, fun _ ↦ hh.cons_mute hg rfl _⟩
    | some (.ok data) =>
      have hh : Handling Given sendAcks (requestOf data) data
          (⟨.decryptFrame raw, some (.ok data)⟩ :: h) := .hear hg hs hlinked rfl
      exact ⟨⟨_, hh.stands⟩, fun _ ↦ hh.cons_mute hg rfl _⟩
    | some (.err e) =>
      have hh : Stands Given sendAcks none (⟨.decryptFrame raw, some (.err e)⟩ :: h) := hmishear rfl
      exact ⟨⟨_, hh⟩, fun _ ↦ hh.cons_mute hg rfl _⟩
    | some .panic => exact hmishear rfl

theorem obeys_recvFrameWithin (hg : Suits Given) (hs : Stands Given sendAcks none h)
    (timeoutMs : ℕ) :
    (recvFrameWithin timeoutMs).Obeys (standRule Given sendAcks)
      (fun h' r ↦ Arrived Given sendAcks r h') h := by
  refine ⟨⟨none, hs⟩, fun found ↦ ?_⟩
  have hs₁ := hs.cons_mute hg (c := .transport .recvFrame) rfl found
  cases found with
  -- Without a transport there is an error to record and nothing else.
  | false => exact ⟨⟨none, hs₁⟩, fun _ ↦ hs₁.cons_mute hg rfl _⟩
  | true =>
    refine ⟨⟨none, hs₁⟩, fun arrived ↦ ?_⟩
    have hs₂ := hs₁.cons_mute hg (c := .readWithin timeoutMs) rfl arrived
    cases arrived with
    | none => exact hs₂
    | some raw => exact obeys_received hg hs₂ ⟨.recvFrame, .tail _ (.head _)⟩ raw

theorem obeys_connectionRecvWithin (hg : Suits Given) (hs : Stands Given sendAcks none h)
    (timeoutMs : ℕ) :
    (connectionRecvWithin timeoutMs).Obeys (standRule Given sendAcks)
      (fun h' r ↦ Arrived Given sendAcks r h') h := by
  refine ⟨⟨none, hs⟩, fun connected ↦ ?_⟩
  have hs₁ := hs.cons_mute hg (c := .isConnected) rfl connected
  cases connected with
  | false => exact ⟨⟨none, hs₁⟩, fun _ ↦ hs₁.cons_mute hg rfl _⟩
  | true => exact obeys_recvFrameWithin hg hs₁ timeoutMs

variable {request : TunnellingRequest}

theorem obeys_acknowledge {Given : Past → Prop} (hg : Suits Given)
    (hs : Handling Given true (some request) frame h) (status : UInt8) :
    (do
      let _ ← Task.attempt (Client.sendTunnellingAck request.communicationChannelId
        request.sequenceCounter status) : Handler Unit).Obeys (standRule Given true)
      (fun h' _ ↦ Stands Given true none h') h := by
  refine ⟨⟨_, hs.stands⟩, fun found ↦ ?_⟩
  have hs₁ := hs.stands.cons_mute hg (c := .transport .sendTunnellingAck) rfl found
  cases found with
  | false =>
    intro hgiven
    obtain ⟨caller, hlinked⟩ := hs.linked
    exact absurd hlinked (hg.lasting _ hgiven .sendTunnellingAck h (List.suffix_refl _) caller)
  | true =>
    refine ⟨⟨_, hs₁⟩, fun written ↦ ?_⟩
    have hs₂ : Stands Given true none (⟨.write (ackFrame
        ⟨request.communicationChannelId, request.sequenceCounter, status⟩), written⟩ ::
        ⟨.transport .sendTunnellingAck, true⟩ :: h) := fun hgiven ↦
      (hs₁ (hg.mono _ _ hgiven)).answer (fun _ ↦ rfl) written
    cases written with
    | ok _ => exact hs₂
    | err e => exact hs₂
    | panic => exact hs₂

theorem obeys_handleTunnellingRequest (hg : Suits Given) {body : List UInt8}
    (hbody : TunnellingRequest.parse body = .ok request)
    (hs : Handling Given true (some request) frame h) :
    (handleTunnellingRequest body).Obeys (standRule Given true)
      (fun h' _ ↦ Stands Given true none h') h := by
  unfold handleTunnellingRequest
  rw [hbody]
  refine ((obeys_mute_handling hg (follows_validateSequenceNumber (fun _ ↦ rfl) fun _ _ ↦ rfl)
    hs).and (validateSequenceNumber_ok _ h)).bind ?_ (by simp) (by simp)
  intro h₁ verdict hs₁
  cases verdict with
  | valid =>
    refine (obeys_acknowledge hg hs₁.1 _).bind ?_ (fun _ _ hs ↦ hs) (fun _ hs ↦ hs)
    intro h₂ _ hs₂
    exact obeys_mute hg (follows_enqueueCemi (fun _ ↦ rfl) fun _ _ _ _ ↦ rfl) hs₂
  | duplicate => exact obeys_acknowledge hg hs₁.1 _
  | invalid _ _ => exact obeys_acknowledge hg hs₁.1 _

theorem requestOf_eq_none {f : KnxIpFrame} (hframe : requestOf frame = none)
    (hparse : KnxIpFrame.parse frame = .ok f)
    (hservice : f.header.serviceType = .tunnellingRequest) (request : TunnellingRequest) :
    TunnellingRequest.parse f.body ≠ .ok request := by
  intro hrequest
  simp [requestOf, hparse, hservice, hrequest] at hframe

theorem follows_handleIncomingFrame (hframe : requestOf frame = none) (current : Option UInt8) :
    (handleIncomingFrame frame current).Follows fun _ c ↦ isMute c = true := by
  unfold handleIncomingFrame
  cases hparse : KnxIpFrame.parse frame with
  | err e => exact .done _
  | panic => exact .done _
  | ok f =>
    rw [Task.ok_bind]
    split
    next hservice =>
      have hnone := requestOf_eq_none hframe hparse hservice
      unfold handleTunnellingRequest
      cases hbody : TunnellingRequest.parse f.body with
      | ok request => exact absurd hbody (hnone request)
      | err e => exact .done _
      | panic => exact .done _
    next => exact .bind (follows_enqueueCemi (fun _ ↦ rfl) fun _ _ _ _ ↦ rfl) fun _ ↦ .done _
    next => exact .bind (follows_handleDisconnectRequest fun _ _ ↦ rfl) fun _ ↦ .done _
    all_goals first | exact .bind (.done _) fun _ ↦ .done _ | exact .done _

theorem obeys_handleRequest (hg : Suits Given) (hframe : requestOf frame = some request)
    (hs : Handling Given true (some request) frame h) (current : Option UInt8) :
    (handleIncomingFrame frame current).Obeys (standRule Given true)
      (fun h' _ ↦ Stands Given true none h') h := by
  obtain ⟨f, hparse, hservice, hbody⟩ : ∃ f, KnxIpFrame.parse frame = .ok f ∧
      f.header.serviceType = .tunnellingRequest ∧
      TunnellingRequest.parse f.body = .ok request := by
    unfold requestOf at hframe
    split at hframe
    next f hparse =>
      split at hframe
      next hservice =>
        split at hframe
        next request' hbody =>
          cases hframe
          exact ⟨f, hparse, hservice, hbody⟩
        next => cases hframe
      next => cases hframe
    next => cases hframe
  unfold handleIncomingFrame
  rw [hparse, Task.ok_bind]
  simp only [hservice]
  exact (obeys_handleTunnellingRequest hg hbody hs).bind (fun _ _ hs ↦ hs) (fun _ _ hs ↦ hs)
    fun _ hs ↦ hs

structure Receives (Given : History Command Command.Response → Prop) (sendAcks : Bool) : Prop
    extends Suits Given where
  /-- A request is not refused for want of memory. -/
  accepts : sendAcks = true → ∀ size h, Given (⟨.allocate size, false⟩ :: h) →
    ∀ frame ∈ latest h, requestOf frame = none
  /-- Requests do not come to a tunnel that sends no acknowledgements. -/
  unasked : sendAcks = false → ∀ h, Given h → requestsHeard h = []

theorem requestsHeard_ne_nil (hlatest : latest h = some frame)
    (hframe : requestOf frame = some request) : requestsHeard h ≠ [] := by
  obtain ⟨rest, hrest⟩ : ∃ rest, heard h = frame :: rest := by
    cases hheard : heard h with
    | nil => simp [latest, hheard] at hlatest
    | cons data rest => exact ⟨rest, by simpa [latest, hheard] using hlatest⟩
  rw [requestsHeard, hrest, List.filterMap_cons_some hframe]
  exact List.cons_ne_nil _ _

theorem obeys_handleIncomingFrame (hg : Receives Given sendAcks)
    (hs : Handling Given sendAcks (requestOf frame) frame h) (current : Option UInt8) :
    (handleIncomingFrame frame current).Obeys (standRule Given sendAcks)
      (fun h' _ ↦ Stands Given sendAcks none h') h := by
  cases hframe : requestOf frame with
  | none =>
    rw [hframe] at hs
    exact obeys_mute hg.toSuits (follows_handleIncomingFrame hframe current) hs.stands
  | some request =>
    rw [hframe] at hs
    cases sendAcks with
    | true => exact obeys_handleRequest hg.toSuits hframe hs current
    | false =>
      -- Such a request is not given, nor is anything that comes after it.
      have hnot : ¬ Given h := fun hgiven ↦
        requestsHeard_ne_nil hs.latest hframe (hg.unasked rfl h hgiven)
      refine (Obeys.unrestricted (A := fun h ↦ ¬ Given h) ?_ ?_ hnot _).mono ?_
      · exact fun h _ hnot ↦ ⟨none, fun hgiven ↦ absurd hgiven hnot⟩
      · exact fun h e hnot hgiven ↦ hnot (hg.mono e h hgiven)
      · exact fun h _ hnot hgiven ↦ absurd hgiven hnot

theorem Receives.refuse (hg : Receives Given sendAcks) {size : ℕ} (hlatest : latest h = some frame)
    (hs : Stands Given sendAcks (requestOf frame) (⟨.allocate size, false⟩ :: h)) :
    Stands Given sendAcks none (⟨.allocate size, false⟩ :: h) := by
  intro hgiven
  cases sendAcks with
  | true =>
    have hnone := hg.accepts rfl size h hgiven frame hlatest
    rw [hnone] at hs
    exact hs hgiven
  | false => exact hs hgiven

theorem obeys_receivingTask (hg : Receives Given sendAcks) (rounds : ℕ)
    (hs : Stands Given sendAcks none h) :
    (receivingTask rounds).Obeys (standRule Given sendAcks)
      (fun h' _ ↦ Stands Given sendAcks none h') h := by
  induction rounds generalizing h with
  | zero => exact hs
  | succ rounds ih =>
    have hclose {g : Past} (hs : Stands Given sendAcks none g) :
        (Client.perform .closeQueue).Obeys (standRule Given sendAcks)
          (fun h' _ ↦ Stands Given sendAcks none h') g :=
      ⟨⟨none, hs⟩, fun _ ↦ hs.cons_mute hg.toSuits rfl _⟩
    refine ⟨⟨none, hs⟩, fun stopped ↦ ?_⟩
    have hs₁ := hs.cons_mute hg.toSuits (c := .isShutdown) rfl stopped
    cases stopped with
    | true => exact hclose hs₁
    | false =>
      refine ((obeys_connectionRecvWithin hg.toSuits hs₁ 100).attempt
        (T := fun h' r ↦ ArrivedOrNot Given sendAcks r h') (fun _ _ hs ↦ hs) (fun _ _ hs ↦ hs)
        (fun _ hs ↦ hs)).bind ?_ (fun _ _ hs ↦ hs) fun _ hs ↦ hs
      intro h₁ arrived hs
      match arrived with
      | .error e => exact hclose hs
      | .ok none =>
        refine ⟨⟨none, hs⟩, fun stopped ↦ ?_⟩
        have hs₂ := Stands.cons_mute hg.toSuits hs (c := .isShutdown) rfl stopped
        cases stopped with
        | true => exact hclose hs₂
        | false => exact ih hs₂
      | .ok (some data) =>
        have hs : Handling Given sendAcks (requestOf data) data h₁ := hs
        refine ⟨⟨_, hs.stands⟩, fun allocated ↦ ?_⟩
        have hs₂ := hs.cons_mute hg.toSuits (c := .allocate data.length) rfl allocated
        cases allocated with
        | false => exact ih (hg.refuse hs.latest hs₂.stands)
        | true =>
          refine ⟨⟨_, hs₂.stands⟩, fun current ↦ ?_⟩
          have hs₃ := hs₂.cons_mute hg.toSuits (c := .knxChannelId) rfl current
          exact ((obeys_handleIncomingFrame hg hs₃ current).attempt
            (T := fun h' _ ↦ Stands Given sendAcks none h') (fun _ _ hs ↦ hs) (fun _ _ hs ↦ hs)
            (fun _ hs ↦ hs)).bind (fun _ _ hs ↦ ih hs) (fun _ _ hs ↦ hs) fun _ hs ↦ hs

theorem obeys_sendFrame (hg : Suits Given) (hframe : ackOf frame = none)
    (hs : Stands Given sendAcks none h) :
    (Client.sendFrame frame).Obeys (standRule Given sendAcks)
      (fun h' _ ↦ Stands Given sendAcks none h') h := by
  have hwritten : (do
      if ← Client.perform (.transport .sendFrame) then do
        let data ← encode frame
        .done (← Client.perform (.write data))
      else .done (.err connectionClosed) : Handler Unit).Obeys (standRule Given sendAcks)
      (fun h' _ ↦ Stands Given sendAcks none h') h := by
    refine ⟨⟨none, hs⟩, fun found ↦ ?_⟩
    have hs₁ := hs.cons_mute hg (c := .transport .sendFrame) rfl found
    cases found with
    | false => exact hs₁
    | true =>
      refine ⟨⟨none, hs₁⟩, fun encrypted ↦ ?_⟩
      have hs₂ := hs₁.cons_mute hg (c := .encryptFrame frame) rfl encrypted
      have hwrite (data : List UInt8) (r : Result Unit) : Stands Given sendAcks none
          (⟨.write data, r⟩ :: ⟨.encryptFrame frame, encrypted⟩ ::
            ⟨.transport .sendFrame, true⟩ :: h) := fun hgiven ↦
        (hs₂ (hg.mono _ _ hgiven)).write hframe r
      match encrypted with
      | none => exact ⟨⟨none, hs₂⟩, fun written ↦ hwrite frame written⟩
      | some (.ok data) => exact ⟨⟨none, hs₂⟩, fun written ↦ hwrite data written⟩
      | some (.err e) => exact hs₂
      | some .panic => exact hs₂
  refine (hwritten.attempt (T := fun h' _ ↦ Stands Given sendAcks none h') (fun _ _ hs ↦ hs)
    (fun _ _ hs ↦ hs) (fun _ hs ↦ hs)).bind ?_ (fun _ _ hs ↦ hs) fun _ hs ↦ hs
  intro h₁ result hs₁
  cases result with
  | ok _ => exact ⟨⟨none, hs₁⟩, fun _ ↦ hs₁.cons_mute hg rfl _⟩
  | error e => exact ⟨⟨none, hs₁⟩, fun _ ↦ hs₁.cons_mute hg rfl _⟩

theorem obeys_wrapCemi (hg : Suits Given) (hs : Stands Given sendAcks none h)
    (rawCemi : List UInt8) :
    (wrapCemi rawCemi).Obeys (standRule Given sendAcks) (fun h' r ↦
      Stands Given sendAcks none h' ∧ ∀ data, r = .ok data → ackOf data = none) h := by
  refine ⟨⟨none, hs⟩, fun channelId ↦ ?_⟩
  have hs₁ := hs.cons_mute hg (c := .channelId) rfl channelId
  refine ⟨⟨none, hs₁⟩, fun sequence ↦ ⟨hs₁.cons_mute hg (c := .nextSequence) rfl sequence, ?_⟩⟩
  intro data hdata
  rw [← Outcome.ok.inj hdata]
  exact ackOf_of_serviceType (by decide) _

end

section

variable {Given : Past → Prop} {tunnel : Tunnel} {frame : List UInt8} {h : Past}

theorem obeys_acknowledgeProbe (hg : Suits Given) {request : TunnellingRequest}
    (hs : Handling Given tunnel.sendAcks (some request) frame h) :
    (acknowledgeProbe tunnel request).Obeys (standRule Given tunnel.sendAcks)
      (fun h' _ ↦ Stands Given tunnel.sendAcks none h') h := by
  unfold acknowledgeProbe
  split
  next hacks =>
    rw [hacks] at hs ⊢
    exact obeys_acknowledge hg hs 0
  next hacks =>
    rw [Bool.not_eq_true] at hacks
    rw [hacks] at hs ⊢
    exact fun hgiven ↦ hs.stands hgiven

theorem obeys_probeFrame (hg : Suits Given)
    (hs : Handling Given tunnel.sendAcks (requestOf frame) frame h) :
    (probeFrame tunnel frame).Obeys (standRule Given tunnel.sendAcks)
      (fun h' _ ↦ Stands Given tunnel.sendAcks none h') h := by
  unfold probeFrame
  unfold requestOf at hs
  cases hparse : KnxIpFrame.parse frame with
  | panic =>
    rw [hparse] at hs
    exact hs.stands
  | err e =>
    rw [hparse] at hs
    exact hs.stands
  | ok f =>
    simp only [hparse] at hs
    show Obeys _ _ _ (ite _ _ _)
    split
    next hservice =>
      rw [if_neg hservice] at hs
      exact hs.stands
    next hservice =>
      rw [if_pos (not_not.1 hservice)] at hs
      cases hbody : TunnellingRequest.parse f.body with
      | panic =>
        simp only [hbody] at hs
        exact hs.stands
      | err e =>
        simp only [hbody] at hs
        exact hs.stands
      | ok request =>
        simp only [hbody] at hs
        refine (obeys_acknowledgeProbe hg hs).bind ?_ (fun _ _ hs ↦ hs) fun _ hs ↦ hs
        intro h₁ _ hs₁
        cases parseProbeCemi request.rawCemi with
        | panic => exact hs₁
        | err e => exact hs₁
        | ok cemi => exact hs₁

theorem obeys_recvUntilSignal (hg : Suits Given) (frames : ℕ)
    (hs : Stands Given tunnel.sendAcks none h) :
    (recvUntilSignal tunnel frames).Obeys (standRule Given tunnel.sendAcks)
      (fun h' _ ↦ Stands Given tunnel.sendAcks none h') h := by
  induction frames generalizing h with
  | zero => exact hs
  | succ frames ih =>
    refine (obeys_recvFrameWithin hg hs probeTimeoutMs).bind ?_ (fun _ _ hs ↦ hs) fun _ hs ↦ hs
    intro h₁ arrived hs₁
    cases arrived with
    | none => exact hs₁
    | some data =>
      refine (obeys_probeFrame hg hs₁).bind ?_ (fun _ _ hs ↦ hs) fun _ hs ↦ hs
      intro h₂ occupied hs₂
      cases occupied with
      | true => exact hs₂
      | false => exact ih hs₂

theorem obeys_probeAddress (hg : Suits Given) (frames : ℕ) (addr : IndividualAddress)
    (hs : Stands Given tunnel.sendAcks none h) :
    (probeAddress tunnel frames addr).Obeys (standRule Given tunnel.sendAcks)
      (fun h' _ ↦ Stands Given tunnel.sendAcks none h') h := by
  have hsend {α : Type} {rest : Handler α} (rawCemi : List UInt8)
      {g : Past} (hs : Stands Given tunnel.sendAcks none g)
      (hrest : ∀ g, Stands Given tunnel.sendAcks none g →
        rest.Obeys (standRule Given tunnel.sendAcks)
          (fun h' _ ↦ Stands Given tunnel.sendAcks none h') g) :
      (do
        Client.sendFrame (← wrapCemi rawCemi)
        rest : Handler α).Obeys (standRule Given tunnel.sendAcks)
        (fun h' _ ↦ Stands Given tunnel.sendAcks none h') g := by
    refine (obeys_wrapCemi hg hs rawCemi).bind ?_ (fun _ _ hs ↦ hs.1) fun _ hs ↦ hs.1
    intro h₁ data hs₁
    exact (obeys_sendFrame hg (hs₁.2 data rfl) hs₁.1).bind (fun h₂ _ hs₂ ↦ hrest h₂ hs₂)
      (fun _ _ hs ↦ hs) fun _ hs ↦ hs
  refine hsend _ hs fun h₁ hs₁ ↦ hsend _ hs₁ fun h₂ hs₂ ↦ ?_
  refine (obeys_recvUntilSignal hg frames hs₂).bind ?_ (fun _ _ hs ↦ hs) fun _ hs ↦ hs
  intro h₃ occupied hs₃
  refine (obeys_wrapCemi hg hs₃ _).bind ?_ (fun _ _ hs ↦ hs.1) fun _ hs ↦ hs.1
  intro h₄ data hs₄
  exact ((obeys_sendFrame hg (hs₄.2 data rfl) hs₄.1).attempt
    (T := fun h' _ ↦ Stands Given tunnel.sendAcks none h') (fun _ _ hs ↦ hs) (fun _ _ hs ↦ hs)
    (fun _ hs ↦ hs)).bind (fun _ _ hs ↦ hs) (fun _ _ hs ↦ hs) fun _ hs ↦ hs

/-- The task belongs to the receive path, and has been spared what it cannot handle. -/
def Favourable (tunnel : Tunnel) : Activity → History Command Command.Response → Prop
  | .receiving _, h => Attentive tunnel.sendAcks h
  | .probe _ _, _ => True
  | _, _ => False

def Circumstances (tunnel : Tunnel) (activity : Activity)
    (h : History Command Command.Response) : Prop :=
  Lasting h ∧ Favourable tunnel activity h

theorem Lasting.of_cons {e : (c : Command) × c.Response} (hl : Lasting (e :: h)) : Lasting h :=
  fun caller earlier hsuffix ↦ hl caller earlier (hsuffix.trans (List.suffix_cons _ _))

theorem heard_sublist (e : (c : Command) × c.Response) : (heard h).Sublist (heard (e :: h)) := by
  obtain ⟨c, r⟩ := e
  by_cases hc : isMute c = true
  · rw [heard_cons_mute hc]
  · cases c
    case write => exact .refl _
    case decryptFrame raw =>
      rcases r with _ | data | e | _
      · exact .cons _ (.refl _)
      · exact .cons _ (.refl _)
      · exact .refl _
      · exact .refl _
    all_goals exact absurd rfl hc

theorem Attentive.of_cons {sendAcks : Bool} {e : (c : Command) × c.Response}
    (ha : Attentive sendAcks (e :: h)) : Attentive sendAcks h := by
  cases sendAcks with
  | true =>
    exact fun size earlier hsuffix ↦ ha size earlier (hsuffix.trans (List.suffix_cons _ _))
  | false =>
    have hsub := (heard_sublist (h := h) e).filterMap requestOf
    have hnil : (heard (e :: h)).filterMap requestOf = [] := ha
    rw [hnil] at hsub
    exact List.sublist_nil.1 hsub

theorem suits_probe (tunnel : Tunnel) (frames : ℕ) (addr : IndividualAddress) :
    Suits (Circumstances tunnel (.probe frames addr)) where
  mono _ _ hg := ⟨hg.1.of_cons, trivial⟩
  lasting _ hg := hg.1

theorem receives_receiving (tunnel : Tunnel) (rounds : ℕ) :
    Receives (Circumstances tunnel (.receiving rounds)) tunnel.sendAcks where
  mono _ _ hg := ⟨hg.1.of_cons, Attentive.of_cons hg.2⟩
  lasting _ hg := hg.1
  accepts hacks size h hg := by
    have ha : Attentive tunnel.sendAcks (⟨.allocate size, false⟩ :: h) := hg.2
    rw [hacks] at ha
    exact ha size h (List.suffix_refl _)
  unasked hacks h hg := by
    have ha : Attentive tunnel.sendAcks h := hg.2
    rwa [hacks] at ha

theorem obeys_program (tunnel : Tunnel) (activity : Activity) :
    (program tunnel activity).Obeys (standRule (Circumstances tunnel activity) tunnel.sendAcks)
      (fun h _ ↦ Stands (Circumstances tunnel activity) tunnel.sendAcks none h) [] := by
  have hstart (Given : Past → Prop) :
      Stands Given tunnel.sendAcks none [] := by
    intro _
    cases tunnel.sendAcks with
    | true => exact ⟨[], rfl, .nil⟩
    | false => rfl
  -- Nothing is asked of the other activities.
  have hother {p : Handler Unit} {Given : Past → Prop}
      (hnot : ∀ h, ¬ Given h) : p.Obeys (standRule Given tunnel.sendAcks)
        (fun h _ ↦ Stands Given tunnel.sendAcks none h) [] :=
    (Obeys.unrestricted (A := fun h ↦ ¬ Given h)
      (fun h _ hnot ↦ ⟨none, fun hgiven ↦ absurd hgiven hnot⟩) (fun h e _ ↦ hnot _) (hnot _) p).mono
      fun h _ hnot hgiven ↦ absurd hgiven hnot
  cases activity
  case receiving rounds =>
    exact obeys_receivingTask (receives_receiving tunnel rounds) rounds (hstart _)
  case probe frames addr =>
    have hprobe := obeys_probeAddress (suits_probe tunnel frames addr) frames addr (hstart _)
    exact hprobe.bind (fun _ _ hs ↦ hs) (fun _ _ hs ↦ hs) fun _ hs ↦ hs
  all_goals exact hother fun _ hgiven ↦ hgiven.2

end

section

variable (P : Primitives) (tunnel : Tunnel)

def run (s : State) (moves : List (Move Activity Env)) :
    Config Command Command.Response State KnxError :=
  (⟨s, [], []⟩ : Config _ _ _ _).run (exec P tunnel) (program tunnel) moves

def Linked (trace : List Step) (s : State) : Prop :=
  ∀ r ∈ trace, ∀ caller, r.event = ⟨.transport caller, true⟩ → s.transport = true

variable {P tunnel}

theorem exec_transport {c : Command} {i : Env} {s s' : State} {r : c.Response}
    (h : exec P tunnel c i s = some (r, s')) (hs : s.transport = true) : s'.transport = true := by
  have heq : s' = (respond P tunnel c i s).2 := (congrArg Prod.snd (Option.some.inj h)).symm
  subst heq
  cases c
  case establishTransport | recordFailure | enqueueIncoming | control =>
    simp only [respond]
    split
    · first | rfl | exact hs
    · exact hs
  case claim addr =>
    simp only [respond, State.claim]
    split <;> exact hs
  case releaseAddress =>
    simp only [respond, State.releaseAddress]
    split <;> exact hs
  case encryptFrame | decryptFrame =>
    simp only [respond, State.withSession]
    split <;> exact hs
  all_goals exact hs

theorem transport_of_event {r : Step} (hr : r.Executed (exec P tunnel)) {caller : Method}
    {found : Bool} (he : r.event = ⟨.transport caller, found⟩) :
    r.before.transport = found ∧ r.after = r.before := by
  obtain ⟨i, h⟩ := hr.of_event he
  have h : some (r.before.transport, r.before) = some (found, r.after) := h
  exact ⟨congrArg Prod.fst (Option.some.inj h), (congrArg Prod.snd (Option.some.inj h)).symm⟩

theorem keeps_linked : Config.Keeps (exec P tunnel) (fun _ _ ↦ True) Linked := by
  intro trace s k c i r s' _ hlinked _ he r' hr' caller hevent
  rcases List.mem_cons.mp hr' with rfl | hr'
  · obtain ⟨hbefore, hafter⟩ := transport_of_event ⟨i, he⟩ hevent
    exact (congrArg State.transport hafter).trans hbefore
  · exact exec_transport he (hlinked r' hr' caller hevent)

theorem grants_lasting :
    Config.Grants (exec P tunnel) (fun _ _ ↦ True) Linked fun r earlier ↦
      ∀ caller, r.event = ⟨.transport caller, false⟩ → ∀ r' ∈ earlier, ∀ caller',
        r'.event ≠ ⟨.transport caller', true⟩ := by
  intro trace s k c i r s' _ hlinked _ he caller hevent r' hr' caller' hevent'
  have hbefore := (transport_of_event ⟨i, he⟩ hevent).1
  rw [hlinked r' hr' caller' hevent'] at hbefore
  cases hbefore

theorem lasting_history (s : State) (moves : List (Move Activity Env)) (k : ℕ) :
    Lasting (history k (run P tunnel s moves).trace) := by
  intro caller earlier hsuffix caller' hmem
  obtain ⟨r, before, hbefore, -, hevent, rfl⟩ := exists_of_suffix_history hsuffix
  obtain ⟨r', hr', -, hevent'⟩ := mem_of_mem_history hmem
  exact Config.run_always (fun p _ ↦ obeys_true p []) (fun t ↦ obeys_true _ []) (by simp [Linked])
    keeps_linked grants_lasting moves r before hbefore caller hevent r' hr' caller' hevent'

end

/-- In every run each task of the receive path has sent one acknowledgement for each request that
it has got if the tunnel is to send them, and none otherwise, provided that no request is refused
for want of memory, or that none comes to a tunnel without acknowledgements. -/
theorem acknowledgements_conform (P : Primitives) (tunnel : Tunnel) (s : State)
    (moves : List (Move Activity Env)) (k : ℕ) (activity : Activity)
    (hk : (started moves)[k]? = some activity)
    (hgiven : Favourable tunnel activity (history k (run P tunnel s moves).trace)) :
    (∃ owed, Conforms tunnel.sendAcks owed (history k (run P tunnel s moves).trace)) ∧
      ∀ r, (run P tunnel s moves).pool[k]? = some (.done r) →
        Conforms tunnel.sendAcks none (history k (run P tunnel s moves).trace) := by
  have htracks : (run P tunnel s moves).Tracks
      (fun activity ↦ standRule (Circumstances tunnel activity) tunnel.sendAcks)
      (fun activity h _ ↦ Stands (Circumstances tunnel activity) tunnel.sendAcks none h)
      (started moves) := Config.run_tracks_start (obeys_program tunnel) s moves
  have hcircumstances : Circumstances tunnel activity (history k (run P tunnel s moves).trace) :=
    ⟨lasting_history s moves k, hgiven⟩
  obtain ⟨p, hp⟩ : ∃ p, (run P tunnel s moves).pool[k]? = some p := by
    have hlt := (List.getElem?_eq_some_iff.1 hk).1
    rw [htracks.length] at hlt
    exact ⟨_, List.getElem?_eq_getElem hlt⟩
  have hobeys := htracks.obeys k activity p hk hp
  rw [hp]
  cases p with
  | done r =>
    have hconforms := hobeys hcircumstances
    exact ⟨⟨none, hconforms⟩, fun _ _ ↦ hconforms⟩
  | call c next =>
    obtain ⟨owed, hstands⟩ := hobeys.1
    exact ⟨⟨owed, hstands hcircumstances⟩, by simp⟩

def isRefusal : (c : Command) × c.Response → Bool
  | ⟨.allocate _, allocated⟩ => !allocated
  | _ => false

theorem attentive_of_no_refusal {h : Past} (hnone : h.any isRefusal = false) :
    Attentive true h := by
  intro size earlier hsuffix
  rw [List.any_eq_false] at hnone
  exact absurd rfl (hnone _ (hsuffix.subset (.head _)))

namespace Reference

open Security.Reference (primitives)
open ForeignChannels.Reference (begun request)

def tcp : Tunnel := .newTcpWithTimeout "192.168.1.20:3671" 5000

def receive (tunnel : Tunnel) (allocates : Bool) :
    Config Command Command.Response State KnxError :=
  run primitives tunnel begun (.spawn (.receiving 1) ::
    List.replicate 16 (.resume 0 { frame := .ok (request 0), allocates }))

end Reference

theorem request_acknowledged_once :
    let h := history 0 (Reference.receive Client.Reference.tunnel true).trace
    (∃ owed, Conforms true owed h) ∧ acksSent h = [⟨2, 0, TunnellingAck.statusOk⟩] := by
  intro h
  have hgiven : Favourable Client.Reference.tunnel (.receiving 1) h :=
    attentive_of_no_refusal (by decide +kernel)
  have hconforms :=
    acknowledgements_conform _ Client.Reference.tunnel _ _ 0 (.receiving 1) rfl hgiven
  refine ⟨hconforms.1, ?_⟩
  decide +kernel

/-- A TCP tunnel acknowledges a request, and a UDP tunnel does not if the frame is refused. -/
theorem acknowledgements_against_flag :
    let refused := Reference.receive Client.Reference.tunnel false
    (Reference.tcp.sendAcks = false ∧
      acksSent (history 0 (Reference.receive Reference.tcp true).trace) =
        [⟨2, 0, TunnellingAck.statusOk⟩]) ∧
    (Client.Reference.tunnel.sendAcks = true ∧
      (requestsHeard (history 0 refused.trace)).length = 1 ∧
      acksSent (history 0 refused.trace) = [] ∧ (refused.next 0).isNone = true) := by
  refine ⟨⟨rfl, ?_⟩, rfl, ?_, ?_, ?_⟩
  · decide +kernel
  · decide +kernel
  · decide +kernel
  · decide +kernel

end Knust.Application.Acknowledging
