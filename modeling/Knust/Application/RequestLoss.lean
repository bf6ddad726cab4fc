import Knust.Application.Ordering
import Knust.Transport.ChannelCounters

namespace Knust.Application

open Foundation Foundation.Task Foundation.Numbering Protocol Security Transport Transport.Client

def sentFrames : History Command Command.Response → List (List UInt8)
  | [] => []
  | ⟨.write frame, _⟩ :: h => sentFrames h ++ [plainText frame h]
  | _ :: h => sentFrames h

def numberedFrames (channelId : UInt8) : UInt8 → List Telegram → List (List UInt8)
  | _, [] => []
  | sequence, telegram :: telegrams =>
    buildOutgoingFrameForConnection telegram (.tunnel channelId sequence) ::
      numberedFrames channelId (sequence + 1) telegrams

structure Sending (channelId sequence : UInt8) (s : State) : Prop where
  connected : s.state = .connected
  transport : s.transport = true
  keyed : ∀ session, s.secureSession = some session → session.sessionKey.initialized = true
  channel : s.channelId = channelId
  counting : s.sequenceCounter = sequence

section

variable {P : Primitives} {tunnel : Tunnel} {channelId sequence : UInt8} {s : State}

structure Sent (channelId sequence : UInt8) (frame : List UInt8)
    (h : History Command Command.Response) (s' : State)
    (h' : History Command Command.Response) : Prop where
  sending : Sending channelId sequence s'
  frames : sentFrames h' = sentFrames h ++ [frame]

theorem Wrote.sentFrames_eq {frame : List UInt8} {h h' : Past} (hw : Wrote frame h h') :
    sentFrames h' = sentFrames h ++ [frame] := by
  induction hw with
  | written => rfl
  | sent _ ih => exact ih
  | failed _ _ ih => exact ih

theorem attains_sendFrame (hs : Sending channelId sequence s) (frame : List UInt8) (h : Past) :
    (sendFrame frame).Attains (exec P tunnel)
      (fun s' h' _ ↦ Sent channelId sequence frame h s' h') s h := by
  refine (attains_sendFrame_linked ⟨hs.transport, hs.keyed⟩ frame h).mono ?_
  rintro s' h' r ⟨hlinked, ⟨session, stats, rfl⟩, hwrote⟩
  exact ⟨⟨hs.connected, hlinked.transport, hlinked.keyed, hs.channel, hs.counting⟩,
    Wrote.sentFrames_eq hwrote⟩

theorem attains_connectionSend (hs : Sending channelId sequence s) (frame : List UInt8) (h : Past) :
    (connectionSend frame).Attains (exec P tunnel)
      (fun s' h' _ ↦ Sent channelId sequence frame h s' h') s h := by
  intro i₁
  refine ⟨true, s, by simp [exec, respond, hs.connected], ?_⟩
  exact (attains_sendFrame hs frame _).mono fun _ _ _ ha ↦ ⟨ha.sending, ha.frames⟩

theorem attains_sendTelegram (hs : Sending channelId sequence s) (telegram : Telegram) (h : Past) :
    (sendTelegram telegram).Attains (exec P tunnel) (fun s' h' _ ↦
      Sent channelId (sequence + 1) (buildOutgoingFrameForConnection telegram
        (.tunnel channelId sequence)) h s' h') s h := by
  intro i₁
  refine ⟨_, s, rfl, ?_⟩
  rw [hs.channel]
  intro i₂
  refine ⟨_, _, rfl, ?_⟩
  rw [hs.counting]
  have hdrawn : Sending channelId (sequence + 1) { s with sequenceCounter := sequence + 1 } :=
    ⟨hs.connected, hs.transport, hs.keyed, hs.channel, rfl⟩
  exact (attains_connectionSend hdrawn _ _).mono fun _ _ _ ha ↦ ⟨ha.sending, ha.frames⟩

theorem attains_sendingTask (rounds : ℕ) (hs : Sending channelId sequence s) (h : Past) :
    (sendingTask rounds).Attains (exec P tunnel) (fun _ h' _ ↦
      ∃ telegrams, sentFrames h' = sentFrames h ++ numberedFrames channelId sequence telegrams)
      s h := by
  induction rounds generalizing s h sequence with
  | zero => exact ⟨[], (List.append_nil _).symm⟩
  | succ rounds ih =>
    intro i₁
    refine ⟨_, s, rfl, ?_⟩
    cases i₁.shutdown with
    | true => exact ⟨[], (List.append_nil _).symm⟩
    | false =>
      intro i₂
      refine ⟨_, s, rfl, ?_⟩
      cases i₂.outgoing with
      | none => exact ⟨[], (List.append_nil _).symm⟩
      | some telegram =>
        refine (attains_sendTelegram hs telegram _).attempt_const.bind ?_
          (fun _ _ _ ha ↦ ⟨[telegram], ha.frames⟩) (fun _ _ ha ↦ ⟨[telegram], ha.frames⟩)
        intro s₁ h₁ _ ha
        refine (ih ha.sending h₁).mono ?_
        rintro s₂ h₂ _ ⟨telegrams, ht⟩
        refine ⟨telegram :: telegrams, ?_⟩
        rw [ht, ha.frames, List.append_assoc, List.singleton_append, numberedFrames]
        rfl

def frameBody (frame : List UInt8) : List UInt8 := frame.drop KnxIpHeader.length

theorem length_numberedFrames (sequence : UInt8) (telegrams : List Telegram) :
    (numberedFrames channelId sequence telegrams).length = telegrams.length := by
  induction telegrams generalizing sequence with
  | nil => rfl
  | cons telegram telegrams ih => rw [numberedFrames, List.length_cons, ih, List.length_cons]

def cemiOf (telegram : Telegram) : List UInt8 := (outgoingCemi telegram .lDataReq).serialize

theorem frameBody_numberedFrames {telegrams : List Telegram} {p : ℕ} (hp : p < telegrams.length) :
    frameBody ((numberedFrames channelId sequence telegrams).getD p []) =
      (requestAt channelId sequence (telegrams.map cemiOf) p).serialize := by
  have hbody (sequence : UInt8) (telegram : Telegram) :
      frameBody (buildOutgoingFrameForConnection telegram (.tunnel channelId sequence)) =
        TunnellingRequest.serialize ⟨channelId, sequence, cemiOf telegram⟩ :=
    List.drop_left' (KnxIpHeader.serialize_length _)
  induction telegrams generalizing sequence p with
  | nil => simp at hp
  | cons telegram telegrams ih =>
    cases p with
    | zero =>
      have hzero : counter sequence 0 = sequence := UInt8.add_zero sequence
      rw [numberedFrames, List.getD_cons_zero, hbody, requestAt, hzero]
      rfl
    | succ p =>
      have hnext : counter (sequence + 1) p = counter sequence (p + 1) := by
        rw [counter, counter, UInt8.ofNat_add, UInt8.add_assoc, UInt8.add_comm 1]
        rfl
      rw [numberedFrames, List.getD_cons_succ, ih (Nat.lt_of_succ_lt_succ hp), requestAt, hnext]
      rfl

def deliver (frames : List (List UInt8)) (p : ℕ) : Server.Handler Unit :=
  Server.handleTunnellingRequest (frameBody (frames.getD p []))

theorem handlesByCounter_deliver {session : ClientSession} {frames : List (List UInt8)}
    {telegrams : List Telegram}
    (hframes : frames = numberedFrames session.channelId sequence telegrams) :
    HandlesByCounter (Server.exec P) (deliver frames) Server.receptionOf (Server.Serving session)
      session.channelId sequence frames.length := by
  subst hframes
  intro expected p s hp hs
  rw [length_numberedFrames] at hp
  rw [deliver, frameBody_numberedFrames hp]
  exact Server.attains_handleTunnellingRequest hs _ _

variable (P tunnel) in
/-- The sending task runs against a server whose counter agrees with that of the
client. One of the requests is lost, and the others reach the server in order. -/
structure LostRequest where
  client : State
  rounds : ℕ
  inputs : ℕ → Env
  sending : Ending Command Command.Response State KnxError Unit
  ran : (sendingTask rounds).runAlone (exec P tunnel) inputs client [] = some sending
  ready : Sending client.channelId client.sequenceCounter client
  session : ClientSession
  sameChannel : session.channelId = client.channelId
  server : Server.State
  serving : Server.Serving session client.sequenceCounter server
  dropped : ℕ
  sent : dropped < (sentFrames sending.history).length
  log : List (ℕ × Reception)
  delivered : log.map Prod.fst =
    (List.range (sentFrames sending.history).length).filter (· ≠ dropped)
  received : RunsOf (Server.exec P) (deliver (sentFrames sending.history)) Server.receptionOf
    (Server.Serving session) client.sequenceCounter server log

def LostRequest.count (x : LostRequest P tunnel) : ℕ := (sentFrames x.sending.history).length

theorem LostRequest.frames_eq (x : LostRequest P tunnel) : ∃ telegrams,
    sentFrames x.sending.history =
      numberedFrames x.session.channelId x.client.sequenceCounter telegrams := by
  obtain ⟨e, he, telegrams, ht⟩ :=
    (attains_sendingTask x.rounds x.ready []).exists_runAlone x.inputs
  obtain rfl : e = x.sending := Option.some.inj (he.symm.trans x.ran)
  exact ⟨telegrams, by rw [ht, x.sameChannel]; rfl⟩

theorem filter_ne_range {d k : ℕ} (h : d + 1 < k) : ∃ rest, d + 1 ∉ rest ∧
    (List.range k).filter (· ≠ d) = List.range d ++ (d + 1) :: rest := by
  obtain ⟨n, rfl⟩ := Nat.exists_eq_add_of_lt h
  have hbefore : (List.range d).filter (· ≠ d) = List.range d := by
    refine List.filter_eq_self.mpr fun q hq ↦ ?_
    have := List.mem_range.mp hq
    exact decide_eq_true (by omega)
  have hsplit : List.range (d + 1 + n + 1) =
      List.range d ++ d :: (d + 1) :: List.range' (d + 2) n := by
    rw [show d + 1 + n + 1 = d + (n + 2) by omega, List.range_eq_range', List.range_eq_range',
      ← List.range'_append_1, Nat.zero_add, List.range'_succ, List.range'_succ]
  refine ⟨(List.range' (d + 2) n).filter (· ≠ d), ?_, ?_⟩
  · intro hd
    have := List.mem_range'_1.mp (List.mem_of_mem_filter hd)
    omega
  · rw [hsplit, List.filter_append, hbefore, List.filter_cons_of_neg (by simp),
      List.filter_cons_of_pos (by simp)]

/-- After a loss the server goes on accepting exactly if there is nothing left to
accept. -/
theorem acceptedAfterLoss_iff (x : LostRequest P tunnel) :
    (∀ p, x.dropped < p → p < x.count → p ∈ acceptedPositions x.log) ↔
      x.dropped + 1 = x.count := by
  obtain ⟨telegrams, hframes⟩ := x.frames_eq
  have hsent : x.dropped < x.count := x.sent
  constructor
  · intro hall
    by_contra hne
    obtain ⟨rest, hrest, hdelivered⟩ := filter_ne_range (d := x.dropped) (k := x.count) (by omega)
    have hlog := (handlesByCounter_deliver hframes).log_eq x.received x.serving (by
      intro p hp
      rw [x.delivered] at hp
      exact List.mem_range.mp (List.mem_of_mem_filter hp))
    have hgap := hall (x.dropped + 1) (by omega) (by omega)
    rw [hlog, acceptedPositions_judgedLog, x.delivered] at hgap
    rw [LostRequest.count] at hdelivered
    rw [hdelivered] at hgap
    exact succ_not_mem_accepted (by omega) hrest hgap
  · intro hlast p hlt hp
    omega

end

namespace Reference

open Security.Reference (primitives)
open Client.Reference (tunnel)

def connected : State :=
  { State.built with transport := true, channelId := 1, state := .connected }

theorem sending_connected : Sending 1 0 connected :=
  ⟨rfl, rfl, by simp [connected, State.built], rfl, rfl⟩

def temperature : Telegram := .groupWrite 0 .temperature [0x0C, 0x65]

def burst : Option (Ending Command Command.Response State KnxError Unit) :=
  (sendingTask 3).runAlone (exec primitives tunnel) (fun _ ↦ { outgoing := some temperature })
    connected []

theorem length_burst : burst.map (fun e ↦ (sentFrames e.history).length) = some 3 := by
  decide +kernel

theorem exists_lostRequest {d : ℕ} (hd : d < 3) :
    ∃ x : LostRequest primitives tunnel, x.dropped = d ∧ x.count = 3 ∧
      x.log = judgedLog 1 0 (verdicts 256 0 ((List.range 3).filter (· ≠ d))) := by
  obtain ⟨e, he, hlength⟩ := Option.map_eq_some_iff.mp length_burst
  have hsending : (sendingTask 3).Attains (exec primitives tunnel) (fun _ h _ ↦ ∃ telegrams,
      sentFrames h = numberedFrames 1 0 telegrams) connected [] :=
    attains_sendingTask 3 sending_connected []
  obtain ⟨e', he', telegrams, ht⟩ :=
    hsending.exists_runAlone fun _ ↦ { outgoing := some temperature }
  obtain rfl : e' = e := Option.some.inj (he'.symm.trans he)
  have hhandles : HandlesByCounter (Server.exec primitives) (deliver (sentFrames e'.history))
      Server.receptionOf (Server.Serving Server.Reference.client) 1 0
      (sentFrames e'.history).length :=
    @handlesByCounter_deliver _ _ Server.Reference.client _ _ ht
  have hsent : ∀ p ∈ (List.range (sentFrames e'.history).length).filter (· ≠ d),
      p < (sentFrames e'.history).length :=
    fun p hp ↦ List.mem_range.mp (List.mem_of_mem_filter hp)
  obtain ⟨log, hlog, hps⟩ := hhandles.exists_log {} Server.Reference.serving_connected hsent
  refine ⟨{
    client := connected
    rounds := 3
    inputs := _
    sending := e'
    ran := he'
    ready := sending_connected
    session := Server.Reference.client
    sameChannel := rfl
    server := Server.Reference.connected
    serving := Server.Reference.serving_connected
    dropped := d
    sent := hlength ▸ hd
    log
    delivered := hps
    received := hlog }, rfl, hlength, ?_⟩
  have heq := hhandles.log_eq hlog Server.Reference.serving_connected (hps ▸ hsent)
  rw [hps, hlength] at heq
  exact heq

end Reference

section

open Security.Reference (primitives)
open Client.Reference (tunnel)

/-- Without a telegram after the lost one nothing goes wrong. -/
theorem acceptedAfterLoss_last :
    ∃ x : LostRequest primitives tunnel, x.dropped = 2 ∧ x.count = 3 ∧
      ∀ p, x.dropped < p → p < x.count → p ∈ acceptedPositions x.log := by
  obtain ⟨x, hd, hcount, -⟩ := Reference.exists_lostRequest (d := 2) (by decide)
  exact ⟨x, hd, hcount, (acceptedAfterLoss_iff x).mpr (by rw [hd, hcount])⟩

/-- The second of three requests is lost. The third one is delivered, and answered with
a sequence error. -/
theorem request_after_loss_rejected :
    ∃ x : LostRequest primitives tunnel, x.dropped = 1 ∧ x.count = 3 ∧
      (2, ⟨false, [ackFrame (.newSequenceError 1 2)]⟩) ∈ x.log ∧
      ¬ ∀ p, x.dropped < p → p < x.count → p ∈ acceptedPositions x.log := by
  obtain ⟨x, hd, hcount, hlog⟩ := Reference.exists_lostRequest (d := 1) (by decide)
  refine ⟨x, hd, hcount, ?_, fun hall ↦ ?_⟩
  · rw [hlog]
    decide
  · have hthird := hall 2 (by omega) (by omega)
    rw [hlog, acceptedPositions_judgedLog] at hthird
    exact absurd hthird (by decide)

end

end Knust.Application
