import Knust.Application.Ordering
import Knust.Application.Reception

namespace Knust.Application

open Foundation Foundation.Task Protocol Security Transport Transport.Client

section

variable (P : Primitives) (tunnel : Tunnel)

def withFrame (frame : List UInt8) (i : Env) : Env := { i with frame := .ok frame }

def delivering (frame : List UInt8) : Machine Command Command.Response State Env :=
  fun c i s ↦ exec P tunnel c (withFrame frame i) s

variable {P tunnel} {expected channelId sequence : UInt8} {s : State} {h : Past}
  {frame : List UInt8}

structure Unheard (expected : UInt8) (s : State) (h : History Command Command.Response) :
    Prop where
  plain : s.secureSession = none
  counting : s.expectedSequenceNumber = expected
  fresh : receptionOf h = ⟨false, []⟩

/-- What a client without a secure session makes of a request with the given counter.
It need not come to handling it at all. -/
inductive Heard (channelId sequence expected : UInt8) : State → Reception → Prop
  | accepted {s : State} (hr : sequence = expected) (hs : s.expectedSequenceNumber = expected + 1) :
    Heard channelId sequence expected s ⟨true, [ackFrame (.newOk channelId sequence)]⟩
  | repeated {s : State} (hr : sequence = expected - 1) (hs : s.expectedSequenceNumber = expected) :
    Heard channelId sequence expected s ⟨false, [ackFrame (.newOk channelId sequence)]⟩
  | rejected {s : State} (hs : s.expectedSequenceNumber = expected) :
    Heard channelId sequence expected s
      ⟨false, [ackFrame (.newSequenceError channelId sequence)]⟩
  | unheard {s : State} (hs : s.expectedSequenceNumber = expected) :
    Heard channelId sequence expected s ⟨false, []⟩

structure RoundEnd (channelId sequence expected : UInt8) (s : State)
    (h : History Command Command.Response) : Prop where
  plain : s.secureSession = none
  heard : Heard channelId sequence expected s (receptionOf h)

theorem Unheard.roundEnd (hu : Unheard expected s h) :
    RoundEnd channelId sequence expected s h := by
  refine ⟨hu.plain, ?_⟩
  rw [hu.fresh]
  exact .unheard hu.counting

theorem attains_connectionRecvWithin (hu : Unheard expected s h) :
    (connectionRecvWithin 100).Attains (delivering P tunnel frame) (fun s' h' r ↦
      Unheard expected s' h' ∧ ∀ data, r = .ok (some data) → data = frame ∧ s'.transport = true)
      s h := by
  intro i₁
  refine ⟨_, s, rfl, ?_⟩
  by_cases hc : s.state = .connected
  swap
  · simp only [hc, decide_false]
    intro i₂
    exact ⟨_, _, rfl, ⟨hu.plain, hu.counting, hu.fresh⟩, by simp⟩
  simp only [hc, decide_true]
  intro i₂
  refine ⟨_, s, rfl, ?_⟩
  cases ht : s.transport with
  | false =>
    intro i₃
    exact ⟨_, _, rfl, ⟨hu.plain, hu.counting, hu.fresh⟩, by simp⟩
  | true =>
    intro i₃
    refine ⟨_, s, rfl, ?_⟩
    cases (withFrame frame i₃).elapsed with
    | true => exact ⟨⟨hu.plain, hu.counting, hu.fresh⟩, by simp⟩
    | false =>
      intro i₄
      refine ⟨none, s, by simp [delivering, exec, respond, State.withSession, hu.plain], ?_⟩
      intro i₅
      refine ⟨_, _, rfl, ⟨hu.plain, hu.counting, hu.fresh⟩, ?_⟩
      intro data hd
      cases hd
      exact ⟨rfl, ht⟩

theorem handleIncomingFrame_build (telegram : Telegram) (channelId sequence : UInt8)
    (code : MessageCode) (current : Option UInt8) :
    let data := buildTunnellingFrameWithCode telegram channelId sequence code
    (∃ r, handleIncomingFrame data current = .done r) ∨
      ∃ body request, TunnellingRequest.parse body = .ok request ∧
        request.communicationChannelId = channelId ∧ request.sequenceCounter = sequence ∧
        handleIncomingFrame data current = (do handleTunnellingRequest body; pure true) := by
  intro data
  unfold handleIncomingFrame
  cases hp : KnxIpFrame.parse data with
  | err e => exact .inl ⟨_, rfl⟩
  | panic => exact .inl ⟨_, rfl⟩
  | ok f =>
    have htype : f.header.serviceType = .tunnellingRequest := KnxIpFrame.serviceType_of_parse hp
    rw [Task.ok_bind, htype]
    cases hr : TunnellingRequest.parse f.body with
    | err e => exact .inl ⟨_, by rw [handleTunnellingRequest, hr]; rfl⟩
    | panic => exact .inl ⟨_, by rw [handleTunnellingRequest, hr]; rfl⟩
    | ok request =>
      obtain ⟨hchannel, hsequence⟩ := IsRequest.fields ⟨f, hp, htype, hr⟩
      exact .inr ⟨f.body, request, hr, hchannel, hsequence, rfl⟩

theorem heard_of_received {r : Reception}
    (hr : Received Serving channelId sequence expected s r) :
    Heard channelId sequence expected s r := by
  cases hr with
  | valid hr hs => exact .accepted hr hs.counting
  | duplicate hr hs => exact .repeated hr hs.counting
  | invalid hr hr' hs => exact .rejected hs.counting

theorem follows_keepsSession_handleTunnellingRequest (body : List UInt8) :
    (handleTunnellingRequest body).Follows fun _ c ↦ c.keepsSession = true := by
  have hacknowledges : Acknowledges fun _ c ↦ c.keepsSession = true :=
    ⟨fun _ ↦ rfl, fun _ _ ↦ rfl, fun _ ↦ rfl, fun _ _ _ ↦ rfl⟩
  exact hacknowledges.handleTunnellingRequest fun _ _ ↦
    follows_enqueueCemi (fun _ ↦ rfl) fun _ _ _ _ ↦ rfl

theorem attains_handleIncomingFrame (hu : Unheard expected s h) (ht : s.transport = true)
    (telegram : Telegram) (channelId sequence : UInt8) (code : MessageCode)
    (current : Option UInt8) :
    (handleIncomingFrame (buildTunnellingFrameWithCode telegram channelId sequence code)
      current).Attains (exec P tunnel)
        (fun s' h' _ ↦ RoundEnd channelId sequence expected s' h') s h := by
  obtain ⟨r, hr⟩ | ⟨body, request, hbody, rfl, rfl, hr⟩ :=
    handleIncomingFrame_build telegram channelId sequence code current
  · rw [hr]
    exact hu.roundEnd
  · rw [hr]
    have hserving : Serving expected s := ⟨ht, hu.counting⟩
    have hplain : (handleTunnellingRequest body).Ensures (exec P tunnel)
        (fun s' _ _ ↦ s'.secureSession = none) s h :=
      Ensures.carry (A := fun s' _ ↦ s'.secureSession = none)
        (follows_keepsSession_handleTunnellingRequest body [])
        (fun c i s r s' h hs hc he ↦ (exec_secureSession hc he).trans hs) hu.plain
    refine ((attains_handleTunnellingRequest hserving hbody hu.fresh).and hplain).bind ?_ ?_ ?_
    · intro s' h' _ ha
      exact ⟨ha.2, heard_of_received ha.1⟩
    · intro s' h' _ ha
      exact ⟨ha.2, heard_of_received ha.1⟩
    · intro s' h' ha
      exact ⟨ha.2, heard_of_received ha.1⟩

theorem attains_round (hplain : s.secureSession = none) {telegram : Telegram} {code : MessageCode}
    (hframe : frame = buildTunnellingFrameWithCode telegram channelId sequence code) :
    (receivingTask 1).Attains (delivering P tunnel frame)
      (fun s' h' _ ↦ RoundEnd channelId sequence s.expectedSequenceNumber s' h') s [] := by
  intro i₁
  refine ⟨_, s, rfl, ?_⟩
  cases (withFrame frame i₁).shutdown with
  | true =>
    intro i₂
    exact ⟨_, _, rfl, Unheard.roundEnd ⟨hplain, rfl, rfl⟩⟩
  | false =>
    have hstart : Unheard s.expectedSequenceNumber s [⟨.isShutdown, false⟩] := ⟨hplain, rfl, rfl⟩
    refine ((attains_connectionRecvWithin hstart).attempt (T := fun s' h' r ↦
      Unheard s.expectedSequenceNumber s' h' ∧ ∀ data, r = .ok (.ok (some data)) →
        data = frame ∧ s'.transport = true) ?_ ?_ ?_).bind ?_ ?_ ?_
    · rintro s₁ h₁ a ⟨hu, hd⟩
      refine ⟨hu, fun data ha ↦ hd data ?_⟩
      cases ha
      rfl
    · rintro s₁ h₁ e ⟨hu, -⟩
      exact ⟨hu, by simp⟩
    · rintro s₁ h₁ ⟨hu, -⟩
      exact ⟨hu, by simp⟩
    · rintro s₁ h₁ result ⟨hu, hd⟩
      -- The read failed, timed out, or brought the frame.
      rcases result with e | _ | data
      · intro i₂
        exact ⟨_, _, rfl, Unheard.roundEnd ⟨hu.plain, hu.counting, hu.fresh⟩⟩
      · intro i₂
        refine ⟨_, s₁, rfl, ?_⟩
        cases (withFrame frame i₂).shutdown with
        | true =>
          intro i₃
          exact ⟨_, _, rfl, Unheard.roundEnd ⟨hu.plain, hu.counting, hu.fresh⟩⟩
        | false => exact Unheard.roundEnd ⟨hu.plain, hu.counting, hu.fresh⟩
      · obtain ⟨rfl, ht⟩ := hd data rfl
        intro i₂
        refine ⟨_, s₁, rfl, ?_⟩
        cases (withFrame data i₂).allocates with
        | false => exact Unheard.roundEnd ⟨hu.plain, hu.counting, hu.fresh⟩
        | true =>
          intro i₃
          refine ⟨_, s₁, rfl, ?_⟩
          show Attains _ _ _ _ (Task.attempt (handleIncomingFrame data s₁.knxChannelId) >>= fun _ ↦
            receivingTask 0)
          refine Attains.bind_const (Attains.attempt_const ?_) fun _ _ _ ↦ id
          rw [hframe]
          refine Attains.comap (withFrame _) (attains_handleIncomingFrame ?_ ht telegram channelId
            sequence code s₁.knxChannelId)
          exact ⟨hu.plain, hu.counting, hu.fresh⟩
    · rintro s₁ h₁ e ⟨hu, -⟩
      exact hu.roundEnd
    · rintro s₁ h₁ ⟨hu, -⟩
      exact hu.roundEnd

end

def ackRule : Command → Prop
  | .write frame => ∃ ack, frame = ackFrame ack
  | _ => True

theorem receives_ackRule : Receives fun _ ↦ ackRule where
  load _ := trivial
  store _ _ := trivial
  transport _ := trivial
  write ack _ _ := ⟨ack, rfl⟩
  now _ := trivial
  enqueue _ _ := trivial
  control _ _ := trivial
  listen c hc _ := by cases c <;> trivial

theorem mem_answers_cons {c : Command} {r : c.Response} {h : Past} {frame : List UInt8}
    (hf : frame ∈ answers (⟨c, r⟩ :: h)) : c = .write frame ∨ frame ∈ answers h := by
  cases c
  case write data =>
    rcases List.mem_append.mp hf with hf | hf
    · exact .inr hf
    · rw [List.mem_singleton.mp hf]
      exact .inl rfl
  all_goals exact .inr hf

theorem eq_ackFrame_of_mem_answers {exec : Machine Command Command.Response State Env}
    {rounds : ℕ} {inputs : ℕ → Env} {s : State} {e : Ending Command Command.Response State KnxError
      Unit} (he : (receivingTask rounds).runAlone exec inputs s [] = some e) {frame : List UInt8}
    (hf : frame ∈ answers e.history) : ∃ ack, frame = ackFrame ack := by
  have hensures : (receivingTask rounds).Ensures exec
      (fun _ h _ ↦ ∀ frame ∈ answers h, ∃ ack, frame = ackFrame ack) s [] := by
    refine Ensures.carry (A := fun _ h ↦ ∀ frame ∈ answers h, ∃ ack, frame = ackFrame ack)
      (receives_ackRule.receivingTask rounds []) ?_ (by simp [answers])
    intro c i s r s' h ha hc _ frame hf
    rcases mem_answers_cons hf with rfl | hf
    · exact hc
    · exact ha frame hf
  exact hensures.runAlone he frame hf

end Knust.Application
