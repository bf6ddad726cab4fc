import Knust.Transport.Router
import Knust.Transport.TunnelState

namespace Knust.Transport

open Foundation Protocol

namespace HeartbeatMonitor

/-- The number of failures that loses a tunnel, and whether the build checks for overflows. -/
structure Settings where
  maxFailures : UInt8
  overflowChecks : Bool

/-- The atomic counter wraps around. The sum that is compared with the maximum may panic. -/
def recordFailureWith (settings : Settings) (m : HeartbeatMonitor) :
    Outcome Empty Bool × HeartbeatMonitor :=
  let failures := m.consecutiveFailures + 1
  let counted := { m with consecutiveFailures := failures }
  if settings.overflowChecks ∧ m.consecutiveFailures = 255 then (.panic, counted)
  else if failures ≥ settings.maxFailures then (.ok true, { counted with tunnelLost := true })
  else (.ok false, counted)

inductive Call
  | success (now : ℕ)
  | failure

inductive Report
  | success
  | failure (lost : Outcome Empty Bool)

def answer (settings : Settings) : Reactor Call Report HeartbeatMonitor
  | .success now, m => some (m.recordSuccess now, .success)
  | .failure, m =>
    some ((m.recordFailureWith settings).2, .failure (m.recordFailureWith settings).1)

def streak : List Report → ℕ
  | [] => 0
  | .success :: _ => 0
  | .failure _ :: reports => streak reports + 1

/-- A failure is reported as a loss exactly if it completes the number of failures or comes after
it. -/
def Faithful (settings : Settings) : Report → List Report → Prop
  | .success, _ => True
  | .failure lost, earlier => lost = .ok (decide (settings.maxFailures.toNat ≤ streak earlier + 1))

variable {settings : Settings} {m : HeartbeatMonitor} {reports : List Report}

theorem toNat_succ {count : UInt8} (h : count ≠ 255) : (count + 1).toNat = count.toNat + 1 := by
  have hlt := count.toNat_lt
  have hne : count.toNat ≠ 255 := fun heq ↦ h (UInt8.toNat_inj.1 heq)
  rw [UInt8.toNat_add, UInt8.toNat_one]
  omega

theorem recordFailureWith_eq (h : m.consecutiveFailures ≠ 255) :
    m.recordFailureWith settings =
      (.ok (decide (settings.maxFailures.toNat ≤ m.consecutiveFailures.toNat + 1)),
        { m with
          consecutiveFailures := m.consecutiveFailures + 1
          tunnelLost := m.tunnelLost ||
            decide (settings.maxFailures.toNat ≤ m.consecutiveFailures.toNat + 1) }) := by
  have hle : m.consecutiveFailures + 1 ≥ settings.maxFailures ↔
      settings.maxFailures.toNat ≤ m.consecutiveFailures.toNat + 1 := by
    rw [ge_iff_le, UInt8.le_iff_toNat_le, toNat_succ h]
  simp only [recordFailureWith, h, and_false, if_false, hle]
  split
  · next hmax => simp [hmax]
  · next hmax => simp [hmax]

def Counts (m : HeartbeatMonitor) (reports : List Report) : Prop :=
  m.consecutiveFailures.toNat = streak reports

theorem Counts.start : Counts .new [] := rfl

theorem Counts.recordSuccess (now : ℕ) : Counts (m.recordSuccess now) (.success :: reports) := rfl

theorem Counts.recordFailureWith (h : Counts m reports) (settings : Settings)
    (hne : m.consecutiveFailures ≠ 255) :
    Counts (m.recordFailureWith settings).2 (.failure (m.recordFailureWith settings).1 :: reports) ∧
      Faithful settings (.failure (m.recordFailureWith settings).1) reports := by
  rw [recordFailureWith_eq hne, Faithful, ← h]
  refine ⟨?_, rfl⟩
  change (m.consecutiveFailures + 1).toNat = streak reports + 1
  rw [toNat_succ hne, h]

def BelowLimit (m : HeartbeatMonitor) : Call → Prop
  | .success _ => True
  | .failure => m.consecutiveFailures ≠ 255

theorem answer_counts {call : Call} {m' : HeartbeatMonitor} {report : Report}
    (h : Counts m reports) (hcall : BelowLimit m call)
    (hanswer : answer settings call m = some (m', report)) :
    Counts m' (report :: reports) ∧ Faithful settings report reports := by
  cases call with
  | success now =>
    cases hanswer
    exact ⟨.recordSuccess now, trivial⟩
  | failure =>
    cases hanswer
    exact h.recordFailureWith settings hcall

theorem consecutiveFailures_replicate (settings : Settings) (n : ℕ) :
    (Journal.run (answer settings) ⟨.new, []⟩
      (List.replicate n .failure)).state.consecutiveFailures = UInt8.ofNat n := by
  have hsucc (m : HeartbeatMonitor) :
      (m.recordFailureWith settings).2.consecutiveFailures = m.consecutiveFailures + 1 := by
    unfold recordFailureWith
    dsimp only
    split
    · rfl
    · split <;> rfl
  induction n with
  | zero => rfl
  | succ n ih =>
    rw [List.replicate_succ', Journal.run_append]
    refine (hsucc _).trans ?_
    rw [ih, UInt8.ofNat_add]
    rfl

theorem recordFailureWith_last (h : 1 ≤ settings.maxFailures) (hm : m.consecutiveFailures = 255) :
    (m.recordFailureWith settings).1 = if settings.overflowChecks then .panic else .ok false := by
  have hwrap : ¬ (255 : UInt8) + 1 ≥ settings.maxFailures := by
    intro hle
    exact absurd (UInt8.le_trans h hle) (by decide)
  rw [recordFailureWith, hm]
  cases settings.overflowChecks with
  | true => rfl
  | false => simp only [hwrap, Bool.false_eq_true, false_and, if_false]

theorem head?_replicate (settings : Settings) (h : 1 ≤ settings.maxFailures) :
    (Journal.run (answer settings) ⟨.new, []⟩ (List.replicate 256 .failure)).log.head? =
      some (.failure (if settings.overflowChecks then .panic else .ok false)) := by
  rw [show 256 = 255 + 1 from rfl, List.replicate_succ', Journal.run_append]
  refine congrArg (fun r ↦ some (Report.failure r)) ?_
  exact recordFailureWith_last h (consecutiveFailures_replicate settings 255)

end HeartbeatMonitor

def okFor (frame : KnxIpFrame) : Option UInt8 :=
  match ConnectionstateResponse.parse frame.body with
  | .ok r =>
    if r.status = ChannelResponse.statusOk then some r.communicationChannelId else none
  | _ => none

def FrameRouter.State.discard (s : FrameRouter.State) (waiter : ℕ) : FrameRouter.State :=
  if s.receivers[waiter]? = some .waiting then
    { s with receivers := s.receivers.set waiter .dropped }
  else s

namespace Heartbeat

/-- Where the loop stands: before a round, before its request goes out, after it, and when the
sending has returned. -/
inductive Phase
  | sleeping
  | registered (waiter : ℕ)
  | requested (waiter : ℕ)
  | awaiting (waiter : ℕ)
  | ended
  deriving DecidableEq

def Phase.waiter? : Phase → Option ℕ
  | .registered waiter => some waiter
  | .requested waiter => some waiter
  | .awaiting waiter => some waiter
  | .sleeping => none
  | .ended => none

structure State where
  router : FrameRouter.State
  monitor : HeartbeatMonitor
  phase : Phase

def State.start : State := ⟨.start, .new, .sleeping⟩

/-- The steps of the loop, and what the receive loop and other users do with the router. -/
inductive Action
  | router (action : FrameRouter.Action)
  | wake
  | stop
  | write
  | sent
  | sendError
  | expire
  | receive (now : ℕ)

inductive Event
  | router (event : FrameRouter.Event)
  | requested (waiter : ℕ)
  | sent (waiter : ℕ)
  | succeeded (waiter : ℕ)
  | failed (waiter : ℕ) (lost : Outcome Empty Bool)
  | stopped

variable (settings : HeartbeatMonitor.Settings)

def fail (s : State) (waiter : ℕ) : State × Event :=
  let result := s.monitor.recordFailureWith settings
  let phase := match result.1 with
    | .ok false => Phase.sleeping
    | _ => Phase.ended
  (⟨s.router.discard waiter, result.2, phase⟩, .failed waiter result.1)

def receive (s : State) (waiter now : ℕ) : Option (State × Event) :=
  match s.router.receivers[waiter]? with
  | some (.received frame) =>
    -- The channel of the response is not looked at.
    if (okFor frame).isSome then
      some (⟨s.router, s.monitor.recordSuccess now, .sleeping⟩, .succeeded waiter)
    else some (fail settings s waiter)
  | _ => none

def expire (s : State) (waiter : ℕ) : Option (State × Event) :=
  match s.router.receivers[waiter]? with
  | some (.received _) => none
  | _ => some (fail settings s waiter)

def wake (s : State) : Option (State × Event) :=
  (FrameRouter.react (.register .connectionstateResponse) s.router).map fun x ↦
    (⟨x.1, s.monitor, .registered s.router.receivers.length⟩, .router x.2)

def routed (s : State) (a : FrameRouter.Action) : Option (State × Event) :=
  if s.phase.waiter?.map FrameRouter.Action.drop = some a then none
  else (FrameRouter.react a s.router).map fun x ↦ ({ s with router := x.1 }, .router x.2)

def react : Reactor Action Event State
  | .router a, s => routed s a
  | .wake, s =>
    match s.phase with
    | .sleeping => wake s
    | _ => none
  | .stop, s =>
    match s.phase with
    | .sleeping => some ({ s with phase := .ended }, .stopped)
    | _ => none
  | .write, s =>
    match s.phase with
    | .registered waiter => some ({ s with phase := .requested waiter }, .requested waiter)
    | _ => none
  | .sent, s =>
    match s.phase with
    | .requested waiter => some ({ s with phase := .awaiting waiter }, .sent waiter)
    | _ => none
  | .sendError, s =>
    match s.phase with
    | .registered waiter => some (fail settings s waiter)
    | .requested waiter => some (fail settings s waiter)
    | _ => none
  | .expire, s =>
    match s.phase with
    | .awaiting waiter => expire settings s waiter
    | _ => none
  | .receive now, s =>
    match s.phase with
    | .awaiting waiter => receive settings s waiter now
    | _ => none

def run (actions : List Action) : Journal State Event :=
  Journal.run (react settings) ⟨.start, []⟩ actions

/-- While a round is going on, a response that all is well is dispatched only for the tunnel's own
channel and after the request of the round has gone out. -/
def Timely (channelId : UInt8) (s : State) : Action → Prop
  | .router (.dispatch frame) =>
    frame.header.serviceType = .connectionstateResponse → (okFor frame).isSome = true →
      ∀ waiter, s.phase.waiter? = some waiter →
        okFor frame = some channelId ∧ s.phase ≠ .registered waiter
  | _ => True

structure Answers (channelId : UInt8) (waiter : ℕ) (frame : KnxIpFrame) (log : List Event) :
    Prop where
  response : frame.header.serviceType = .connectionstateResponse
  ok : okFor frame = some channelId
  after : ∃ before, .router (.dispatched frame) :: before <:+ log ∧ .requested waiter ∈ before

def reports (log : List Event) : List HeartbeatMonitor.Report :=
  log.filterMap fun e ↦ match e with
    | .succeeded _ => some .success
    | .failed _ lost => some (.failure lost)
    | _ => none

variable {settings} {s s' : State} {a : Action} {e : Event} {log : List Event}

theorem react_cases (h : react settings a s = some (s', e)) :
    (∃ b router event, a = .router b ∧ s.phase.waiter?.map FrameRouter.Action.drop ≠ some b ∧
      FrameRouter.react b s.router = some (router, event) ∧ s' = { s with router } ∧
      e = .router event) ∨
    (∃ router event, s.phase = .sleeping ∧
      FrameRouter.react (.register .connectionstateResponse) s.router = some (router, event) ∧
      s' = ⟨router, s.monitor, .registered s.router.receivers.length⟩ ∧ e = .router event) ∨
    (s.phase = .sleeping ∧ s' = { s with phase := .ended } ∧ e = .stopped) ∨
    (∃ waiter, s.phase = .registered waiter ∧ s' = { s with phase := .requested waiter } ∧
      e = .requested waiter) ∨
    (∃ waiter, s.phase = .requested waiter ∧ s' = { s with phase := .awaiting waiter } ∧
      e = .sent waiter) ∨
    (∃ waiter, s.phase.waiter? = some waiter ∧ s' = (fail settings s waiter).1 ∧
      e = (fail settings s waiter).2) ∨
    (∃ waiter frame now, s.phase = .awaiting waiter ∧
      s.router.receivers[waiter]? = some (.received frame) ∧ (okFor frame).isSome = true ∧
      s' = ⟨s.router, s.monitor.recordSuccess now, .sleeping⟩ ∧ e = .succeeded waiter) := by
  have hfail : ∀ {waiter}, s.phase.waiter? = some waiter →
      some (fail settings s waiter) = some (s', e) →
      ∃ waiter, s.phase.waiter? = some waiter ∧ s' = (fail settings s waiter).1 ∧
        e = (fail settings s waiter).2 := by
    intro waiter hwaiter heq
    exact ⟨waiter, hwaiter, by rw [Option.some.inj heq], by rw [Option.some.inj heq]⟩
  cases a with
  | router b =>
    left
    simp only [react, routed] at h
    split at h
    · cases h
    · next hdrop =>
      obtain ⟨x, hx, heq⟩ := Option.map_eq_some_iff.mp h
      cases heq
      exact ⟨b, x.1, x.2, rfl, hdrop, hx, rfl, rfl⟩
  | wake =>
    right; left
    simp only [react] at h
    split at h
    · next hphase =>
      obtain ⟨x, hx, heq⟩ := Option.map_eq_some_iff.mp h
      cases heq
      exact ⟨x.1, x.2, hphase, hx, rfl, rfl⟩
    · cases h
  | stop =>
    right; right; left
    simp only [react] at h
    split at h
    · next hphase =>
      cases h
      exact ⟨hphase, rfl, rfl⟩
    · cases h
  | write =>
    right; right; right; left
    simp only [react] at h
    split at h
    · next waiter hphase =>
      cases h
      exact ⟨waiter, hphase, rfl, rfl⟩
    · cases h
  | sent =>
    right; right; right; right; left
    simp only [react] at h
    split at h
    · next waiter hphase =>
      cases h
      exact ⟨waiter, hphase, rfl, rfl⟩
    · cases h
  | sendError =>
    right; right; right; right; right; left
    simp only [react] at h
    split at h
    · next waiter hphase => exact hfail (by rw [hphase]; rfl) h
    · next waiter hphase => exact hfail (by rw [hphase]; rfl) h
    · cases h
  | expire =>
    right; right; right; right; right; left
    simp only [react] at h
    split at h
    · next waiter hphase =>
      unfold expire at h
      split at h
      · cases h
      · exact hfail (by rw [hphase]; rfl) h
    · cases h
  | receive now =>
    right; right; right; right; right
    simp only [react] at h
    split at h
    · next waiter hphase =>
      unfold receive at h
      split at h
      · next frame hframe =>
        split at h
        · next hok =>
          cases h
          exact .inr ⟨waiter, frame, now, hphase, hframe, hok, rfl, rfl⟩
        · exact .inl (hfail (by rw [hphase]; rfl) h)
      · cases h
    · cases h

def Bounded (router : FrameRouter.State) : Prop :=
  ∀ t, ∀ v ∈ router.router.queue t, v < router.receivers.length

/-- A response in the hands of a dispatch or of the waiter is one that the round may count. -/
structure InFlight (channelId : UInt8) (router : FrameRouter.State) (waiter : ℕ)
    (log : List Event) : Prop where
  lt : waiter < router.receivers.length
  typed : ∀ t, waiter ∈ router.router.queue t → t = .connectionstateResponse
  pending : ∀ frame, router.dispatching = some frame →
    frame.header.serviceType = .connectionstateResponse → (okFor frame).isSome = true →
    Answers channelId waiter frame log
  received : ∀ frame, router.receivers[waiter]? = some (.received frame) →
    (okFor frame).isSome = true →
    Answers channelId waiter frame log ∧ .router (.delivered frame waiter) ∈ log

section

variable {channelId : UInt8} {router router' : FrameRouter.State} {waiter : ℕ}
  {action : FrameRouter.Action} {event : FrameRouter.Event} {frame : KnxIpFrame}

theorem Answers.cons (h : Answers channelId waiter frame log) (e : Event) :
    Answers channelId waiter frame (e :: log) := by
  obtain ⟨before, hbefore, hrequested⟩ := h.after
  exact ⟨h.response, h.ok, before, hbefore.trans (List.suffix_cons _ _), hrequested⟩

theorem InFlight.cons (h : InFlight channelId router waiter log) (e : Event) :
    InFlight channelId router waiter (e :: log) where
  lt := h.lt
  typed := h.typed
  pending frame hd ht hok := (h.pending frame hd ht hok).cons e
  received frame hr hok := ⟨(h.received frame hr hok).1.cons e, .tail _ (h.received frame hr hok).2⟩

theorem Bounded.react (h : Bounded router)
    (hreact : FrameRouter.react action router = some (router', event)) : Bounded router' := by
  intro t v hv
  obtain ⟨hle, hsucc⟩ := FrameRouter.length_react hreact
  rcases FrameRouter.mem_queue_of_react hreact hv with hv | ⟨ha, rfl⟩
  · exact (h t v hv).trans_le hle
  · rw [hsucc t ha]
    exact Nat.lt_succ_self _

theorem InFlight.registered (h : Bounded router)
    (hreact : FrameRouter.react (.register .connectionstateResponse) router =
      some (router', event)) :
    InFlight channelId router' router.receivers.length log := by
  obtain ⟨-, hsucc⟩ := FrameRouter.length_react hreact
  obtain ⟨_, -, -, -, rfl⟩ | ⟨_, ha, -⟩ | ⟨_, ha, -⟩ | ⟨_, _, _, ha, -⟩ | ⟨_, _, _, ha, -⟩ |
    ⟨_, ha, -⟩ := FrameRouter.react_cases hreact
  · constructor
    case lt => simp
    case typed =>
      intro t hv
      rcases FrameRouter.mem_queue_of_react hreact hv with hv | ⟨ha, -⟩
      · exact absurd (h t _ hv) (lt_irrefl _)
      · cases ha
        rfl
    case pending =>
      intro frame hd
      cases hd
    case received =>
      intro frame hr
      simp at hr
  all_goals cases ha

theorem InFlight.react (h : InFlight channelId router waiter log)
    (hreact : FrameRouter.react action router = some (router', event))
    (hdrop : action ≠ .drop waiter)
    (hdispatch : ∀ frame, action = .dispatch frame →
      frame.header.serviceType = .connectionstateResponse → (okFor frame).isSome = true →
      okFor frame = some channelId ∧ .requested waiter ∈ log) :
    InFlight channelId router' waiter (.router event :: log) := by
  have hlt : waiter < router'.receivers.length :=
    h.lt.trans_le (FrameRouter.length_react hreact).1
  have htyped : ∀ t, waiter ∈ router'.router.queue t → t = .connectionstateResponse := by
    intro t hv
    rcases FrameRouter.mem_queue_of_react hreact hv with hv | ⟨-, heq⟩
    · exact h.typed t hv
    · exact absurd (heq ▸ h.lt) (lt_irrefl _)
  have hlog := h.cons (.router event)
  obtain ⟨_, rfl, hd, -, rfl⟩ | ⟨v, rfl, hv, -, rfl⟩ | ⟨frame, rfl, -, rfl, rfl⟩ |
    ⟨_, _, _, rfl, -, -, -, -, rfl⟩ | ⟨frame, tx, q, rfl, hd, hq, -, rfl, rfl⟩ |
    ⟨_, rfl, -, -, -, hs⟩ := FrameRouter.react_cases hreact
  · refine ⟨hlt, htyped, fun frame hd' ↦ ?_, fun frame hr ↦ hlog.received frame ?_⟩
    · cases hd'
    · rwa [List.getElem?_append_left h.lt] at hr
  · refine ⟨hlt, htyped, hlog.pending, fun frame hr ↦ hlog.received frame ?_⟩
    have hne : v ≠ waiter := fun heq ↦ hdrop (by rw [heq])
    rwa [List.getElem?_set_ne hne] at hr
  · refine ⟨hlt, htyped, fun frame' hd ht hok ↦ ?_, hlog.received⟩
    cases hd
    obtain ⟨hchannel, hrequested⟩ := hdispatch frame rfl ht hok
    exact ⟨ht, hchannel, log, List.suffix_refl _, hrequested⟩
  · exact ⟨hlt, htyped, hlog.pending, hlog.received⟩
  -- The frame of the dispatch goes to a waiter, perhaps to this one.
  · refine ⟨hlt, htyped, fun frame' hd' ↦ ?_, fun frame' hr hok ↦ ?_⟩
    · cases hd'
    · by_cases heq : tx = waiter
      · subst heq
        obtain rfl : frame = frame' := by simpa [h.lt] using hr
        have hmem : tx ∈ router.router.queue frame.header.serviceType := by
          rw [FrameRouter.queue, ← FrameRouter.key, hq]
          exact .head _
        exact ⟨hlog.pending frame hd (h.typed _ hmem) hok, .head _⟩
      · rw [List.getElem?_set_ne heq] at hr
        exact hlog.received frame' hr hok
  · rcases hs with rfl | rfl
    · exact ⟨hlt, htyped, by simp, hlog.received⟩
    · exact ⟨hlt, htyped, by simp, hlog.received⟩

structure Sound (channelId : UInt8) (s : State) (log : List Event) : Prop where
  bounded : Bounded s.router
  inFlight : ∀ waiter, s.phase.waiter? = some waiter → InFlight channelId s.router waiter log
  asked : ∀ waiter, s.phase.waiter? = some waiter → s.phase ≠ .registered waiter →
    .requested waiter ∈ log

def Earned (channelId : UInt8) : Event → List Event → Prop
  | .succeeded waiter, earlier =>
    ∃ frame, Answers channelId waiter frame earlier ∧ .router (.delivered frame waiter) ∈ earlier
  | _, _ => True

theorem Sound.start : Sound channelId .start [] where
  bounded := by simp [Bounded, State.start, FrameRouter.State.start, FrameRouter.queue,
    FrameRouter.new]
  inFlight := by simp [State.start, Phase.waiter?]
  asked := by simp [State.start, Phase.waiter?]

theorem Bounded.discard (h : Bounded router) (waiter : ℕ) : Bounded (router.discard waiter) := by
  unfold FrameRouter.State.discard
  split
  · intro t v hv
    simpa using h t v hv
  · exact h

theorem waiter?_fail (settings : HeartbeatMonitor.Settings) (s : State) (waiter : ℕ) :
    (fail settings s waiter).1.phase.waiter? = none := by
  unfold fail
  dsimp only
  split
  · rfl
  · rfl

theorem Sound.react (h : Sound channelId s log) (ha : Timely channelId s a)
    (hreact : react settings a s = some (s', e)) :
    Sound channelId s' (e :: log) ∧ Earned channelId e log := by
  obtain ⟨b, router, event, rfl, hdrop, hrouter, rfl, rfl⟩ |
    ⟨router, event, hphase, hrouter, rfl, rfl⟩ | ⟨hphase, rfl, rfl⟩ | ⟨w, hphase, rfl, rfl⟩ |
    ⟨w, hphase, rfl, rfl⟩ | ⟨w, hphase, rfl, rfl⟩ | ⟨w, frame, now, hphase, hr, hok, rfl, rfl⟩ :=
    react_cases hreact
  · refine ⟨⟨h.bounded.react hrouter, fun w hw ↦ ?_, fun w hw hne ↦ .tail _ (h.asked w hw hne)⟩,
      trivial⟩
    refine (h.inFlight w hw).react hrouter ?_ ?_
    · rintro rfl
      exact hdrop (by rw [hw]; rfl)
    · rintro frame rfl ht hok
      obtain ⟨hchannel, hphase⟩ := ha ht hok w hw
      exact ⟨hchannel, h.asked w hw hphase⟩
  · refine ⟨⟨h.bounded.react hrouter, fun w hw ↦ ?_, fun w hw hne ↦ ?_⟩, trivial⟩
    · obtain rfl : s.router.receivers.length = w := Option.some.inj hw
      exact .registered h.bounded hrouter
    · obtain rfl : s.router.receivers.length = w := Option.some.inj hw
      exact absurd rfl hne
  · exact ⟨⟨h.bounded, by simp [Phase.waiter?], by simp [Phase.waiter?]⟩, trivial⟩
  · refine ⟨⟨h.bounded, fun w' hw ↦ ?_, fun w' hw _ ↦ ?_⟩, trivial⟩
    · obtain rfl : w = w' := Option.some.inj hw
      exact (h.inFlight w (by rw [hphase]; rfl)).cons _
    · obtain rfl : w = w' := Option.some.inj hw
      exact .head _
  · refine ⟨⟨h.bounded, fun w' hw ↦ ?_, fun w' hw _ ↦ ?_⟩, trivial⟩
    · obtain rfl : w = w' := Option.some.inj hw
      exact (h.inFlight w (by rw [hphase]; rfl)).cons _
    · obtain rfl : w = w' := Option.some.inj hw
      exact .tail _ (h.asked w (by rw [hphase]; rfl) (by simp [hphase]))
  · have hnone := waiter?_fail settings s w
    exact ⟨⟨h.bounded.discard w, by simp [hnone], by simp [hnone]⟩, trivial⟩
  · refine ⟨⟨h.bounded, by simp [Phase.waiter?], by simp [Phase.waiter?]⟩, frame, ?_⟩
    exact (h.inFlight w (by rw [hphase]; rfl)).received frame hr hok

end

open HeartbeatMonitor (streak Counts)

/-- The monitor has counted the failed rounds, and the loop has ended if they are too many. -/
structure Monitored (settings : HeartbeatMonitor.Settings) (s : State) (log : List Event) :
    Prop where
  counts : Counts s.monitor (reports log)
  lost : s.monitor.tunnelLost = true ↔ settings.maxFailures.toNat ≤ streak (reports log)
  going : s.phase ≠ .ended → streak (reports log) < settings.maxFailures.toNat

def Judged (settings : HeartbeatMonitor.Settings) : Event → List Event → Prop
  | .failed _ lost, earlier =>
    lost = .ok (decide (settings.maxFailures.toNat ≤ streak (reports earlier) + 1))
  | _, _ => True

theorem Monitored.start (hmax : 0 < settings.maxFailures.toNat) : Monitored settings .start [] where
  counts := rfl
  lost := by
    change false = true ↔ settings.maxFailures.toNat ≤ 0
    simpa using hmax.ne'
  going _ := hmax

theorem Monitored.of_eq (h : Monitored settings s log) (hmonitor : s'.monitor = s.monitor)
    (hphase : s'.phase ≠ .ended → s.phase ≠ .ended) (hreports : reports (e :: log) = reports log) :
    Monitored settings s' (e :: log) where
  counts := by
    rw [hmonitor, hreports]
    exact h.counts
  lost := by
    rw [hmonitor, hreports]
    exact h.lost
  going hne := by
    rw [hreports]
    exact h.going (hphase hne)

theorem Monitored.fail (h : Monitored settings s log) {w : ℕ} (hgoing : s.phase ≠ .ended) :
    Monitored settings (fail settings s w).1 ((fail settings s w).2 :: log) ∧
      Judged settings (fail settings s w).2 log := by
  have hlt := h.going hgoing
  have hne : s.monitor.consecutiveFailures ≠ 255 := by
    intro heq
    have hcount : s.monitor.consecutiveFailures.toNat = streak (reports log) := h.counts
    have hmax := settings.maxFailures.toNat_lt
    rw [heq] at hcount
    change 255 = _ at hcount
    omega
  obtain ⟨hcounts, hfaithful⟩ := h.counts.recordFailureWith settings hne
  have hnot : s.monitor.tunnelLost = false := by
    simpa using mt h.lost.1 (Nat.not_le.2 hlt)
  have hcount : s.monitor.consecutiveFailures.toNat = streak (reports log) := h.counts
  refine ⟨⟨hcounts, ?_, ?_⟩, hfaithful⟩
  · change (s.monitor.recordFailureWith settings).2.tunnelLost = true ↔
      settings.maxFailures.toNat ≤ streak (reports log) + 1
    rw [HeartbeatMonitor.recordFailureWith_eq hne, hnot, hcount]
    simp
  · intro hphase
    change settings.maxFailures.toNat > streak (reports log) + 1
    by_contra hle
    apply hphase
    simp only [Heartbeat.fail, HeartbeatMonitor.recordFailureWith_eq hne, hcount,
      decide_eq_true (Nat.not_lt.1 hle)]

theorem Monitored.react (h : Monitored settings s log)
    (hmax : 0 < settings.maxFailures.toNat) (hreact : react settings a s = some (s', e)) :
    Monitored settings s' (e :: log) ∧ Judged settings e log := by
  obtain ⟨b, router, event, rfl, hdrop, hrouter, rfl, rfl⟩ |
    ⟨router, event, hphase, hrouter, rfl, rfl⟩ | ⟨hphase, rfl, rfl⟩ | ⟨w, hphase, rfl, rfl⟩ |
    ⟨w, hphase, rfl, rfl⟩ | ⟨w, hphase, rfl, rfl⟩ | ⟨w, frame, now, hphase, hr, hok, rfl, rfl⟩ :=
    react_cases hreact
  · exact ⟨h.of_eq rfl id rfl, trivial⟩
  · exact ⟨h.of_eq rfl (by simp [hphase]) rfl, trivial⟩
  · exact ⟨h.of_eq rfl (by simp [hphase]) rfl, trivial⟩
  · exact ⟨h.of_eq rfl (by simp [hphase]) rfl, trivial⟩
  · exact ⟨h.of_eq rfl (by simp [hphase]) rfl, trivial⟩
  · refine h.fail ?_
    intro hended
    rw [hended] at hphase
    cases hphase
  · have hlt := h.going (by simp [hphase])
    have hnot : s.monitor.tunnelLost = false := by
      simpa using mt h.lost.1 (Nat.not_le.2 hlt)
    refine ⟨⟨rfl, ?_, fun _ ↦ hmax⟩, trivial⟩
    change s.monitor.tunnelLost = true ↔ settings.maxFailures.toNat ≤ 0
    simpa [hnot] using hmax.ne'

/-- If every response that all is well comes in time and for the right channel, rounds succeed only
by the answer to their request. The tunnel is lost exactly after the given number of failed rounds
in a row. The monitor itself counts and reports the failures right up to the last value of its
byte. -/
theorem rounds_earned_losses_exact (settings : HeartbeatMonitor.Settings) (channelId : UInt8) :
    (∀ actions, Journal.Along (react settings) (Timely channelId) ⟨.start, []⟩ actions →
      ∀ waiter earlier, .succeeded waiter :: earlier <:+ (run settings actions).log →
        ∃ frame, Answers channelId waiter frame earlier ∧
          .router (.delivered frame waiter) ∈ earlier) ∧
    (1 ≤ settings.maxFailures → ∀ actions,
      ((run settings actions).state.monitor.tunnelLost = true ↔
        settings.maxFailures.toNat ≤ streak (reports (run settings actions).log)) ∧
      ∀ waiter lost earlier, .failed waiter lost :: earlier <:+ (run settings actions).log →
        lost = .ok (decide (settings.maxFailures.toNat ≤ streak (reports earlier) + 1))) ∧
    ∀ calls, Journal.Along (HeartbeatMonitor.answer settings) HeartbeatMonitor.BelowLimit
        ⟨.new, []⟩ calls →
      let x := Journal.run (HeartbeatMonitor.answer settings) ⟨.new, []⟩ calls
      x.state.consecutiveFailures.toNat = streak x.log ∧
      ∀ report earlier, report :: earlier <:+ x.log →
        HeartbeatMonitor.Faithful settings report earlier := by
  refine ⟨fun actions hactions waiter earlier he ↦ ?_, fun h actions ↦ ?_, fun calls hcalls ↦ ?_⟩
  · exact Journal.run_along_always
      (fun _ s log _ _ (h : Sound channelId s log) ha hreact ↦ h.react ha hreact) .start hactions he
  · have hmax : 0 < settings.maxFailures.toNat := UInt8.le_iff_toNat_le.1 h
    constructor
    · exact (Journal.run_invariant
        (fun _ s log _ _ (h : Monitored settings s log) hreact ↦ (h.react hmax hreact).1)
        (.start hmax) actions).lost
    · intro waiter lost earlier he
      exact Journal.run_always
        (fun _ s log _ _ (h : Monitored settings s log) hreact ↦ h.react hmax hreact)
        (.start hmax) actions he
  · constructor
    · exact Journal.run_along
        (fun _ m reports _ _ (h : Counts m reports) hcall hanswer ↦
          (HeartbeatMonitor.answer_counts h hcall hanswer).1) .start hcalls
    · intro report earlier he
      exact Journal.run_along_always
        (fun _ m reports _ _ (h : Counts m reports) hcall hanswer ↦
          HeartbeatMonitor.answer_counts h hcall hanswer) .start hcalls he

def answeredRound : List Action :=
  [.wake, .write, .sent, .router (.dispatch (KnxIpFrame.new .connectionstateResponse [7, 0])),
    .router .proceed, .receive 0]

theorem answered_round_earned :
    Journal.Along (react ⟨3, true⟩) (Timely 7) ⟨.start, []⟩ answeredRound ∧
      ∃ frame, okFor frame = some 7 ∧
        .router (.delivered frame 0) ∈ (run ⟨3, true⟩ answeredRound).log.tail := by
  have htimely : Journal.Along (react ⟨3, true⟩) (Timely 7) ⟨.start, []⟩ answeredRound := by
    refine ⟨trivial, trivial, trivial, ?_, trivial, trivial, trivial⟩
    intro _ _ waiter hwaiter
    refine ⟨rfl, ?_⟩
    change Phase.awaiting 0 ≠ .registered waiter
    simp
  obtain ⟨frame, hanswers, hdelivered⟩ := (rounds_earned_losses_exact ⟨3, true⟩ 7).1 answeredRound
    htimely 0 (run ⟨3, true⟩ answeredRound).log.tail (List.suffix_refl _)
  exact ⟨htimely, frame, hanswers.ok, hdelivered⟩

def foreignResponse : KnxIpFrame := KnxIpFrame.new .connectionstateResponse [9, 0]

theorem miscounted_rounds :
    ((run ⟨3, true⟩ [.wake, .write, .sent, .router (.dispatch foreignResponse), .router .proceed,
        .receive 0]).log =
      [.succeeded 0, .router (.delivered foreignResponse 0), .router (.dispatched foreignResponse),
        .sent 0, .requested 0, .router (.registered 0 .connectionstateResponse)] ∧
      okFor foreignResponse = some 9) ∧
    (Journal.run (HeartbeatMonitor.answer ⟨3, false⟩) ⟨.new, []⟩
      (List.replicate 256 .failure)).log.head? = some (.failure (.ok false)) ∧
    (Journal.run (HeartbeatMonitor.answer ⟨3, true⟩) ⟨.new, []⟩
      (List.replicate 256 .failure)).log.head? = some (.failure .panic) := by
  refine ⟨⟨rfl, rfl⟩, ?_, ?_⟩
  · exact HeartbeatMonitor.head?_replicate ⟨3, false⟩ (by decide)
  · exact HeartbeatMonitor.head?_replicate ⟨3, true⟩ (by decide)

end Heartbeat

end Knust.Transport
