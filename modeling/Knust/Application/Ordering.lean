import Knust.Application.Tasks
import Knust.Transport.ServerReception

namespace Knust.Application

open Foundation Foundation.Task Foundation.Numbering Protocol Security Transport Transport.Client

def answers : History Command Command.Response → List (List UInt8)
  | [] => []
  | ⟨.write frame, _⟩ :: h => answers h ++ [frame]
  | _ :: h => answers h

def isAcceptance : (c : Command) × c.Response → Bool
  | ⟨.storeExpected _, _⟩ => true
  | _ => false

def receptionOf (h : History Command Command.Response) : Reception :=
  ⟨h.any isAcceptance, answers h⟩

theorem receptionOf_nil : receptionOf [] = ⟨false, []⟩ := rfl

structure Serving (expected : UInt8) (s : State) : Prop where
  transport : s.transport = true
  counting : s.expectedSequenceNumber = expected

variable {P : Primitives} {tunnel : Tunnel} {expected : UInt8} {s : State}

structure Acknowledged (expected : UInt8) (ack : TunnellingAck)
    (h : History Command Command.Response) (s' : State) (h' : History Command Command.Response) :
    Prop where
  serving : Serving expected s'
  accepted : h'.any isAcceptance = h.any isAcceptance
  answered : answers h' = answers h ++ [ackFrame ack]

theorem attains_sendTunnellingAck (hs : Serving expected s) (ack : TunnellingAck) (h : Past) :
    (Client.sendTunnellingAck ack.communicationChannelId ack.sequenceCounter
      ack.statusCode).Attains (exec P tunnel) (fun s' h' _ ↦ Acknowledged expected ack h s' h') s
        h := by
  intro i₁
  refine ⟨_, s, rfl, ?_⟩
  rw [hs.transport]
  intro i₂
  exact ⟨_, s, rfl, hs, by simp [isAcceptance], rfl⟩

theorem attains_acknowledge (hs : Serving expected s) (ack : TunnellingAck) (h : Past) :
    (do
      let _ ← Task.attempt (Client.sendTunnellingAck ack.communicationChannelId
        ack.sequenceCounter ack.statusCode) : Handler Unit).Attains (exec P tunnel)
      (fun s' h' _ ↦ Acknowledged expected ack h s' h') s h :=
  (attains_sendTunnellingAck hs ack h).attempt_const.bind_const fun _ _ _ ↦ id

theorem attains_validateSequenceNumber (hs : Serving expected s) (received : UInt8) (h : Past) :
    (validateSequenceNumber received).Attains (exec P tunnel) (Checked Serving received expected
      ⟨.loadExpected, expected⟩ ⟨.storeExpected (expected + 1), ()⟩ h) s h := by
  obtain ⟨htransport, rfl⟩ := hs
  intro i₁
  refine ⟨_, s, rfl, ?_⟩
  show Attains _ _ _ _ (ite _ _ _)
  split
  · rename_i hr
    intro i₂
    exact ⟨_, _, rfl, .valid hr ⟨htransport, rfl⟩⟩
  · rename_i hr
    show Attains _ _ _ _ (ite _ _ _)
    split
    · rename_i hr'
      exact .duplicate hr' ⟨htransport, rfl⟩
    · rename_i hr'
      exact .invalid hr hr' ⟨htransport, rfl⟩

theorem attains_enqueueCemi (hs : Serving expected s) (cemiData : List UInt8) (h : Past) :
    (enqueueCemi cemiData).Attains (exec P tunnel) (fun s' h' _ ↦ Serving expected s' ∧
      h'.any isAcceptance = h.any isAcceptance ∧ answers h' = answers h) s h := by
  intro i₁
  refine ⟨_, s, rfl, ?_⟩
  show Attains _ _ _ _ (.done (parseCemiToTelegram i₁.now cemiData) >>= _)
  rcases parseCemiToTelegram i₁.now cemiData with telegram | e | _
  · intro i₂
    refine ⟨_, _, rfl, ?_, by simp [isAcceptance], rfl⟩
    split
    · exact ⟨hs.transport, hs.counting⟩
    · exact hs
  · exact ⟨hs, by simp [isAcceptance], rfl⟩
  · exact ⟨hs, by simp [isAcceptance], rfl⟩

theorem attains_handleTunnellingRequest (hs : Serving expected s) {body : List UInt8}
    {request : TunnellingRequest} (hbody : TunnellingRequest.parse body = .ok request) {h : Past}
    (hfresh : receptionOf h = ⟨false, []⟩) :
    (handleTunnellingRequest body).Attains (exec P tunnel) (fun s' h' _ ↦
      Received Serving request.communicationChannelId request.sequenceCounter expected s'
        (receptionOf h')) s h := by
  obtain ⟨channelId, sequence, rawCemi⟩ := request
  obtain ⟨hnone, hanswers⟩ := Reception.mk.inj hfresh
  unfold handleTunnellingRequest
  rw [hbody, Task.ok_bind]
  refine (attains_validateSequenceNumber hs sequence h).bind (fun s₁ h₁ result hv ↦ ?_)
    (fun _ _ _ hv ↦ by cases hv) (fun _ _ hv ↦ by cases hv)
  cases hv with
  | valid hr hs₁ =>
    have hreceived {s' : State} {h' : Past}
        (ha : Acknowledged (expected + 1) (.newOk channelId sequence)
          (⟨.storeExpected (expected + 1), ()⟩ :: ⟨.loadExpected, expected⟩ :: h) s' h') :
        Received Serving channelId sequence expected s' (receptionOf h') := by
      rw [receptionOf, ha.accepted, ha.answered]
      simp only [answers, hanswers]
      exact .valid hr ha.serving
    refine (attains_acknowledge hs₁ (.newOk channelId sequence) _).bind ?_
      (fun _ _ _ ha ↦ hreceived ha) (fun _ _ ha ↦ hreceived ha)
    intro s₂ h₂ _ ha
    refine (attains_enqueueCemi ha.serving rawCemi h₂).mono ?_
    rintro s₃ h₃ _ ⟨hs₃, haccepted, hanswers⟩
    exact hreceived ⟨hs₃, haccepted.trans ha.accepted, hanswers.trans ha.answered⟩
  | duplicate hr hs₁ =>
    refine (attains_acknowledge hs₁ (.newOk channelId sequence) _).mono ?_
    intro s₂ h₂ _ ha
    rw [receptionOf, ha.accepted, ha.answered]
    simp only [answers, hanswers, List.any_cons, hnone, isAcceptance]
    exact .duplicate hr ha.serving
  | invalid hr hr' hs₁ =>
    refine (attains_acknowledge hs₁ (.newSequenceError channelId sequence) _).mono ?_
    intro s₂ h₂ _ ha
    rw [receptionOf, ha.accepted, ha.answered]
    simp only [answers, hanswers, List.any_cons, hnone, isAcceptance]
    exact .invalid hr hr' ha.serving

theorem handlesByCounter (channelId start : UInt8) (cemis : List (List UInt8)) (count : ℕ) :
    HandlesByCounter (exec P tunnel)
      (fun p ↦ handleTunnellingRequest (requestAt channelId start cemis p).serialize)
      receptionOf Serving channelId start count := by
  intro expected p s _ hs
  exact attains_handleTunnellingRequest hs
    (TunnellingRequest.parse_serialize (requestAt channelId start cemis p)) receptionOf_nil

/-- Server and client accept the telegrams of the other side in order and at most
once, all of them if none is lost, and answer each request by its counter. -/
theorem orderly_reception (P : Primitives) (tunnel : Tunnel) (cemis : List (List UInt8))
    (start : UInt8) :
    (∀ session,
      let handler (p : ℕ) :=
        Server.handleTunnellingRequest (requestAt session.channelId start cemis p).serialize
      (∀ expected s p inputs, Server.Serving session expected s →
        ∃ e, (handler p).runAlone (Server.exec P) inputs s [] = some e) ∧
      ∀ s log, Server.Serving session start s →
        RunsOf (Server.exec P) handler Server.receptionOf (Server.Serving session) start s log →
        Fifo cemis.length (log.map Prod.fst) → Orderly session.channelId start cemis.length log) ∧
    ∀ channelId,
      let handler (p : ℕ) := handleTunnellingRequest (requestAt channelId start cemis p).serialize
      (∀ expected s p inputs, Serving expected s →
        ∃ e, (handler p).runAlone (exec P tunnel) inputs s [] = some e) ∧
      ∀ s log, Serving start s →
        RunsOf (exec P tunnel) handler receptionOf Serving start s log →
        Fifo cemis.length (log.map Prod.fst) → Orderly channelId start cemis.length log := by
  refine ⟨fun session ↦ ⟨?_, ?_⟩, fun channelId ↦ ⟨?_, ?_⟩⟩
  · intro expected s p inputs hs
    obtain ⟨e, he, -⟩ := (Server.attains_handleTunnellingRequest hs _ _).exists_runAlone inputs
    exact ⟨e, he⟩
  · intro s log hs hr hfifo
    exact (Server.handlesByCounter session start cemis cemis.length).orderly hr hs hfifo
  · intro expected s p inputs hs
    obtain ⟨e, he, -⟩ := (attains_handleTunnellingRequest hs
      (TunnellingRequest.parse_serialize _) receptionOf_nil).exists_runAlone inputs
    exact ⟨e, he⟩
  · intro s log hs hr hfifo
    exact (handlesByCounter channelId start cemis cemis.length).orderly hr hs hfifo

section

open Security.Reference (primitives)
open Client.Reference (tunnel)

/-- The first telegram arrives twice, the second is lost, and the third arrives. -/
theorem orderly_with_gap :
    (∃ log, log.map Prod.fst = [0, 0, 2] ∧ Orderly 1 0 3 log) ∧
      ∃ log, log.map Prod.fst = [0, 0, 2] ∧ Orderly 7 0 3 log := by
  have hfifo : Fifo 3 [0, 0, 2] := ⟨by decide, by decide⟩
  obtain ⟨hserver, hclient⟩ := orderly_reception primitives tunnel [[], [], []] 0
  have hconnected := Server.Reference.serving_connected
  have hready : Serving 0 { State.built with transport := true } := ⟨rfl, rfl⟩
  obtain ⟨log, hlog, hps⟩ :=
    (Server.handlesByCounter Server.Reference.client 0 [[], [], []] 3).exists_log {} hconnected
      hfifo.sent
  obtain ⟨log', hlog', hps'⟩ :=
    (handlesByCounter 7 0 [[], [], []] 3).exists_log {} hready hfifo.sent
  exact ⟨⟨log, hps, (hserver _).2 _ log hconnected hlog (hps ▸ hfifo)⟩,
    log', hps', (hclient 7).2 _ log' hready hlog' (hps' ▸ hfifo)⟩

end

end Knust.Application
