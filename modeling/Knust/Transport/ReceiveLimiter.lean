import Knust.Foundation.Reactive
import Knust.Protocol.Telegram

namespace Knust.Transport.ReceiveLimiter

open Foundation Protocol

structure ReceiveLimitConfig where
  queueSize : ℕ
  perAddressMaxPerSec : UInt32

inductive ReceiveResult
  | sent
  | droppedQueueFull
  | droppedThrottled (address : GroupAddress)
  deriving DecidableEq

/-- Times are in nanoseconds. -/
structure AddressState where
  count : UInt32
  windowStart : ℕ
  deriving DecidableEq

structure ReceiveStats where
  totalReceived : UInt64
  totalSent : UInt64
  droppedQueueFull : UInt64
  droppedThrottled : UInt64
  deriving DecidableEq

structure State where
  perAddress : GroupAddress → Option AddressState
  stats : ReceiveStats
  queue : List Telegram
  closed : Bool
  clock : ℕ

def State.new : State := ⟨fun _ ↦ none, ⟨0, 0, 0, 0⟩, [], false, 0⟩

def AddressState.expired (state : AddressState) (now : ℕ) : Prop :=
  (now - state.windowStart) / 1000000000 ≥ 1

instance (state : AddressState) (now : ℕ) : Decidable (state.expired now) :=
  inferInstanceAs (Decidable (_ ≥ _))

/-- The state of one address: whether the call is throttled, and the state after it. The count
wraps around, as it does without overflow checks. -/
def throttle (max : UInt32) (entry : Option AddressState) (now : ℕ) : Bool × AddressState :=
  let state := entry.getD ⟨0, now⟩
  if state.expired now then (false, ⟨1, now⟩)
  else (state.count + 1 > max, ⟨state.count + 1, state.windowStart⟩)

namespace State

variable (config : ReceiveLimitConfig)

def isThrottled (s : State) (ga : GroupAddress) (now : ℕ) : Bool × State :=
  let result := throttle config.perAddressMaxPerSec (s.perAddress ga) now
  (result.1, { s with perAddress := Function.update s.perAddress ga (some result.2) })

def forward (s : State) (telegram : Telegram) : ReceiveResult × State :=
  -- Nothing is counted if the channel is closed.
  if s.closed then (.droppedQueueFull, s)
  else if s.queue.length ≥ config.queueSize then
    (.droppedQueueFull,
      { s with stats := { s.stats with droppedQueueFull := s.stats.droppedQueueFull + 1 } })
  else
    (.sent, { s with
      queue := s.queue ++ [telegram]
      stats := { s.stats with totalSent := s.stats.totalSent + 1 } })

def trySend (s : State) (now : ℕ) (telegram : Telegram) : ReceiveResult × State :=
  let counted := { s with
    clock := now
    stats := { s.stats with totalReceived := s.stats.totalReceived + 1 } }
  match telegram.destination with
  | .group ga =>
    let checked := counted.isThrottled config ga now
    if checked.1 then
      (.droppedThrottled ga, { checked.2 with
        stats := { checked.2.stats with
          droppedThrottled := checked.2.stats.droppedThrottled + 1 } })
    else checked.2.forward config telegram
  | .individual _ => counted.forward config telegram

end State

inductive Action
  | trySend (now : ℕ) (telegram : Telegram)
  | recv
  | close

inductive Event
  | tried (now : ℕ) (telegram : Telegram) (result : ReceiveResult) (window : Option ℕ)
  | received (telegram : Telegram)
  | closed

def window (s : State) (telegram : Telegram) : Option ℕ :=
  match telegram.destination with
  | .group ga => (s.perAddress ga).map AddressState.windowStart
  | .individual _ => none

def react (config : ReceiveLimitConfig) : Reactor Action Event State
  | .trySend now telegram, s =>
    if s.clock ≤ now then
      let result := s.trySend config now telegram
      some (result.2, .tried now telegram result.1 (window result.2 telegram))
    else none
  | .recv, s =>
    match s.queue with
    | telegram :: queue => some ({ s with queue }, .received telegram)
    | [] => none
  | .close, s => some ({ s with closed := true }, .closed)

def run (config : ReceiveLimitConfig) (actions : List Action) : Journal State Event :=
  Journal.run (react config) ⟨.new, []⟩ actions

def Accounted (stats : ReceiveStats) : Prop :=
  stats.totalReceived = stats.totalSent + stats.droppedQueueFull + stats.droppedThrottled

def sentIn (ga : GroupAddress) (start : ℕ) : Event → Bool
  | .tried _ telegram .sent (some w) => telegram.destination = .group ga ∧ w = start
  | _ => false

def passed (log : List Event) (ga : GroupAddress) (start : ℕ) : ℕ := log.countP (sentIn ga start)

def callTimes (ga : GroupAddress) : List Event → List ℕ
  | [] => []
  | .tried now telegram _ _ :: log =>
    if telegram.destination = .group ga then now :: callTimes ga log else callTimes ga log
  | _ :: log => callTimes ga log

def replay (max : UInt32) : List ℕ → Option AddressState
  | [] => none
  | now :: earlier => some (throttle max (replay max earlier) now).2

def Independent (max : UInt32) : Event → List Event → Prop
  | .tried now telegram result _, earlier =>
    ∀ ga, result = .droppedThrottled ga ↔
      telegram.destination = .group ga ∧
        (throttle max (replay max (callTimes ga earlier)) now).1 = true
  | _, _ => True

def ChannelOpen (config : ReceiveLimitConfig) (s : State) : Action → Prop
  | .trySend now telegram =>
    s.closed = false ∨ ∃ ga, telegram.destination = .group ga ∧
      (throttle config.perAddressMaxPerSec (s.perAddress ga) now).1 = true
  | _ => True

/-- No window is opened anew if nothing may pass, and the count does not reach its end. -/
def CountKept (config : ReceiveLimitConfig) (s : State) : Action → Prop
  | .trySend now telegram =>
    ∀ ga, telegram.destination = .group ga → ∀ entry, s.perAddress ga = some entry →
      if entry.expired now then 1 ≤ config.perAddressMaxPerSec else entry.count ≠ 0xFFFFFFFF
  | _ => True

section

variable {config : ReceiveLimitConfig} {s : State} {now : ℕ} {telegram : Telegram}
  {ga : GroupAddress}

theorem forward_fields (config : ReceiveLimitConfig) (s : State) (telegram : Telegram) :
    (s.forward config telegram).2.perAddress = s.perAddress ∧
      (s.forward config telegram).2.clock = s.clock := by
  unfold State.forward
  split
  · exact ⟨rfl, rfl⟩
  · split
    · exact ⟨rfl, rfl⟩
    · exact ⟨rfl, rfl⟩

theorem forward_ne_throttled (config : ReceiveLimitConfig) (s : State) (telegram : Telegram)
    (ga : GroupAddress) : (s.forward config telegram).1 ≠ .droppedThrottled ga := by
  unfold State.forward
  split
  · simp
  · split
    · simp
    · simp

theorem forward_stats (hopen : s.closed = false) (telegram : Telegram)
    (hstats : s.stats.totalReceived =
      s.stats.totalSent + s.stats.droppedQueueFull + s.stats.droppedThrottled + 1) :
    Accounted (s.forward config telegram).2.stats := by
  unfold State.forward Accounted
  rw [if_neg (by simp [hopen])]
  split
  · simp only [hstats]
    grind
  · simp only [hstats]
    grind

theorem trySend_group (hdest : telegram.destination = .group ga) :
    let counted := { s with
      clock := now
      stats := { s.stats with totalReceived := s.stats.totalReceived + 1 } }
    let checked := throttle config.perAddressMaxPerSec (s.perAddress ga) now
    let after := { counted with perAddress := Function.update s.perAddress ga (some checked.2) }
    s.trySend config now telegram =
      if checked.1 then
        (.droppedThrottled ga, { after with
          stats := { after.stats with droppedThrottled := after.stats.droppedThrottled + 1 } })
      else after.forward config telegram := by
  simp only [State.trySend, hdest]
  rfl

theorem trySend_individual {addr : IndividualAddress}
    (hdest : telegram.destination = .individual addr) :
    s.trySend config now telegram =
      ({ s with
        clock := now
        stats := { s.stats with totalReceived := s.stats.totalReceived + 1 } } : State).forward
          config telegram := by
  simp only [State.trySend, hdest]

theorem trySend_perAddress (config : ReceiveLimitConfig) (s : State) (now : ℕ)
    (telegram : Telegram) (ga : GroupAddress) :
    (s.trySend config now telegram).2.perAddress ga =
      if telegram.destination = .group ga then
        some (throttle config.perAddressMaxPerSec (s.perAddress ga) now).2
      else s.perAddress ga := by
  cases hdest : telegram.destination with
  | individual addr =>
    rw [trySend_individual hdest, (forward_fields config _ telegram).1, if_neg (by simp)]
  | group ga' =>
    have hafter : (s.trySend config now telegram).2.perAddress =
        Function.update s.perAddress ga'
          (some (throttle config.perAddressMaxPerSec (s.perAddress ga') now).2) := by
      rw [trySend_group hdest]
      split
      · rfl
      · exact (forward_fields config _ telegram).1
    rw [hafter]
    by_cases hga : ga' = ga
    · rw [hga, Function.update_self, if_pos rfl]
    · rw [Function.update_of_ne (Ne.symm hga), if_neg (by simpa using hga)]

theorem trySend_throttled_iff (config : ReceiveLimitConfig) (s : State) (now : ℕ)
    (telegram : Telegram) (ga : GroupAddress) :
    (s.trySend config now telegram).1 = .droppedThrottled ga ↔
      telegram.destination = .group ga ∧
        (throttle config.perAddressMaxPerSec (s.perAddress ga) now).1 = true := by
  cases hdest : telegram.destination with
  | individual addr =>
    rw [trySend_individual hdest]
    exact ⟨fun h ↦ absurd h (forward_ne_throttled config _ telegram ga), by simp⟩
  | group ga' =>
    rw [trySend_group hdest]
    by_cases hthrottled : (throttle config.perAddressMaxPerSec (s.perAddress ga') now).1 = true
    · rw [if_pos hthrottled]
      simp only [ReceiveResult.droppedThrottled.injEq, Address.group.injEq]
      constructor
      · rintro rfl
        exact ⟨rfl, hthrottled⟩
      · exact fun h ↦ h.1
    · rw [if_neg hthrottled]
      refine ⟨fun h ↦ absurd h (forward_ne_throttled config _ telegram ga), ?_⟩
      rintro ⟨heq, h⟩
      cases heq
      exact absurd h hthrottled

theorem trySend_clock (config : ReceiveLimitConfig) (s : State) (now : ℕ) (telegram : Telegram) :
    (s.trySend config now telegram).2.clock = now := by
  cases hdest : telegram.destination with
  | individual addr =>
    rw [trySend_individual hdest]
    exact (forward_fields config _ telegram).2
  | group ga =>
    rw [trySend_group hdest]
    split
    · rfl
    · exact (forward_fields config _ telegram).2

theorem trySend_accounted (hstats : Accounted s.stats)
    (hopen : ChannelOpen config s (.trySend now telegram)) :
    Accounted (s.trySend config now telegram).2.stats := by
  have hcounted : s.stats.totalReceived + 1 =
      s.stats.totalSent + s.stats.droppedQueueFull + s.stats.droppedThrottled + 1 := by
    rw [hstats]
  cases hdest : telegram.destination with
  | individual addr =>
    rw [trySend_individual hdest]
    have hclosed : s.closed = false := by
      rcases hopen with h | ⟨ga, h, -⟩
      · exact h
      · rw [hdest] at h
        cases h
    refine forward_stats ?_ telegram ?_
    · exact hclosed
    · exact hcounted
  | group ga =>
    rw [trySend_group hdest]
    by_cases hthrottled : (throttle config.perAddressMaxPerSec (s.perAddress ga) now).1 = true
    · rw [if_pos hthrottled]
      simp only [Accounted, hcounted]
      grind
    · rw [if_neg hthrottled]
      have hclosed : s.closed = false := by
        rcases hopen with h | ⟨ga', h, hthrottled'⟩
        · exact h
        · rw [hdest] at h
          cases h
          exact absurd hthrottled' hthrottled
      refine forward_stats ?_ telegram ?_
      · exact hclosed
      · exact hcounted

end

section

variable {config : ReceiveLimitConfig} {s s' : State} {a : Action} {e : Event} {log : List Event}

theorem react_cases (h : react config a s = some (s', e)) :
    (∃ now telegram, a = .trySend now telegram ∧ s.clock ≤ now ∧
      s' = (s.trySend config now telegram).2 ∧
      e = .tried now telegram (s.trySend config now telegram).1 (window s' telegram)) ∨
    (∃ telegram queue, e = .received telegram ∧ s' = { s with queue }) ∨
    (e = .closed ∧ s' = { s with closed := true }) := by
  cases a with
  | trySend now telegram =>
    left
    simp only [react] at h
    split at h
    · next hclock =>
      cases h
      exact ⟨now, telegram, rfl, hclock, rfl, rfl⟩
    · cases h
  | recv =>
    right; left
    simp only [react] at h
    split at h
    · next telegram queue _ =>
      cases h
      exact ⟨telegram, queue, rfl, rfl⟩
    · cases h
  | close =>
    right; right
    cases h
    exact ⟨rfl, rfl⟩

def Replays (config : ReceiveLimitConfig) (s : State) (log : List Event) : Prop :=
  ∀ ga, s.perAddress ga = replay config.perAddressMaxPerSec (callTimes ga log)

theorem Replays.react (h : Replays config s log) (hreact : react config a s = some (s', e)) :
    Replays config s' (e :: log) ∧ Independent config.perAddressMaxPerSec e log := by
  obtain ⟨now, telegram, -, -, rfl, rfl⟩ | ⟨telegram, queue, rfl, rfl⟩ | ⟨rfl, rfl⟩ :=
    react_cases hreact
  · constructor
    · intro ga
      rw [trySend_perAddress, callTimes]
      split
      · rw [h ga]
        rfl
      · exact h ga
    · intro ga
      rw [trySend_throttled_iff, h ga]
  · exact ⟨h, trivial⟩
  · exact ⟨h, trivial⟩

theorem accounted_new : Accounted State.new.stats := rfl

theorem accounted_react (h : Accounted s.stats) (ha : ChannelOpen config s a)
    (hreact : react config a s = some (s', e)) : Accounted s'.stats := by
  obtain ⟨now, telegram, rfl, -, rfl, -⟩ | ⟨telegram, queue, -, rfl⟩ | ⟨-, rfl⟩ :=
    react_cases hreact
  · exact trySend_accounted h ha
  · exact h
  · exact h

/-- What an address has passed on in its windows is counted, and no window lies in the future. -/
structure Window (max : UInt32) (entry : Option AddressState) (clock : ℕ) (p : ℕ → ℕ) : Prop where
  bounded : ∀ start, p start ≤ max.toNat
  unseen : entry = none → ∀ start, p start = 0
  counted : ∀ state, entry = some state → p state.windowStart ≤ state.count.toNat
  past : ∀ state, entry = some state → state.windowStart ≤ clock ∧
    ∀ start, state.windowStart < start → p start = 0

theorem Window.later {max : UInt32} {entry : Option AddressState} {clock now : ℕ} {p : ℕ → ℕ}
    (h : Window max entry clock p) (hnow : clock ≤ now) : Window max entry now p :=
  ⟨h.bounded, h.unseen, h.counted, fun state hs ↦ ⟨(h.past state hs).1.trans hnow,
    (h.past state hs).2⟩⟩

theorem Window.opened {max : UInt32} {now : ℕ} {p : ℕ → ℕ} (hbounded : ∀ start, p start ≤ max.toNat)
    (hpast : ∀ start, now ≤ start → p start = 0) {sent : Bool} (hsent : sent = true → 1 ≤ max) :
    Window max (some ⟨1, now⟩) now
      (fun start ↦ p start + if sent = true ∧ start = now then 1 else 0) := by
  refine ⟨fun start ↦ ?_, by simp, fun state hs ↦ ?_, fun state hs ↦ ?_⟩
  · split
    · next h =>
      have hmax : 1 ≤ max.toNat := UInt32.le_iff_toNat_le.1 (hsent h.1)
      rw [h.2, hpast now le_rfl]
      exact hmax
    · exact hbounded start
  · cases hs
    change p now + _ ≤ 1
    rw [hpast now le_rfl]
    split <;> omega
  · cases hs
    refine ⟨le_rfl, fun start hstart ↦ ?_⟩
    change now < start at hstart
    rw [hpast start hstart.le, if_neg (by omega)]

theorem toNat_succ {count : UInt32} (h : count ≠ 0xFFFFFFFF) :
    (count + 1).toNat = count.toNat + 1 := by
  have hlt := count.toNat_lt
  have hne : count.toNat ≠ 0xFFFFFFFF := fun heq ↦ h (UInt32.toNat_inj.1 heq)
  rw [UInt32.toNat_add, UInt32.toNat_one]
  omega

theorem Window.step {max : UInt32} {entry : Option AddressState} {clock now : ℕ} {p : ℕ → ℕ}
    (h : Window max entry clock p)
    (hkept : ∀ state, entry = some state →
      if state.expired now then 1 ≤ max else state.count ≠ 0xFFFFFFFF)
    {sent : Bool} (hsent : sent = true → (throttle max entry now).1 = false) (hnow : clock ≤ now) :
    Window max (some (throttle max entry now).2) now
      (fun start ↦ p start +
        if sent = true ∧ start = (throttle max entry now).2.windowStart then 1 else 0) := by
  cases entry with
  | none =>
    have hexpired : ¬ (⟨0, now⟩ : AddressState).expired now := by simp [AddressState.expired]
    have hthrottle : throttle max none now = (decide ((0 : UInt32) + 1 > max), ⟨1, now⟩) := by
      simp only [throttle, Option.getD_none, if_neg hexpired]
      rfl
    rw [hthrottle] at hsent ⊢
    refine .opened h.bounded (fun start _ ↦ h.unseen rfl start) fun hs ↦ ?_
    have := hsent hs
    simp only [decide_eq_false_iff_not, gt_iff_lt, UInt32.not_lt] at this
    exact this
  | some state =>
    have hkept := hkept state rfl
    by_cases hexpired : state.expired now
    · have hthrottle : throttle max (some state) now = (false, ⟨1, now⟩) := by
        simp only [throttle, Option.getD_some, if_pos hexpired]
      rw [if_pos hexpired] at hkept
      rw [hthrottle]
      refine .opened h.bounded (fun start hstart ↦ ?_) fun _ ↦ hkept
      refine (h.past state rfl).2 start ?_
      have : (now - state.windowStart) / 1000000000 ≥ 1 := hexpired
      omega
    · have hthrottle : throttle max (some state) now =
          (decide (state.count + 1 > max), ⟨state.count + 1, state.windowStart⟩) := by
        simp only [throttle, Option.getD_some, if_neg hexpired]
      rw [if_neg hexpired] at hkept
      rw [hthrottle] at hsent ⊢
      have hcounted := h.counted state rfl
      have hsucc := toNat_succ hkept
      refine ⟨fun start ↦ ?_, by simp, fun state' hs ↦ ?_, fun state' hs ↦ ?_⟩
      · split
        · next hs =>
          have hle : ¬ state.count + 1 > max := by simpa using hsent hs.1
          have hle := UInt32.le_iff_toNat_le.1 (UInt32.not_lt.1 hle)
          rw [hs.2]
          change p state.windowStart + 1 ≤ max.toNat
          omega
        · exact h.bounded start
      · cases hs
        change p state.windowStart + _ ≤ (state.count + 1).toNat
        rw [hsucc]
        split <;> omega
      · cases hs
        refine ⟨(h.past state rfl).1.trans hnow, fun start hstart ↦ ?_⟩
        change state.windowStart < start at hstart
        rw [(h.past state rfl).2 start hstart, if_neg]
        rintro ⟨-, heq⟩
        change start = state.windowStart at heq
        omega

def Windowed (config : ReceiveLimitConfig) (s : State) (log : List Event) : Prop :=
  ∀ ga, Window config.perAddressMaxPerSec (s.perAddress ga) s.clock (passed log ga)

theorem windowed_new (config : ReceiveLimitConfig) : Windowed config .new [] := by
  intro ga
  exact ⟨by simp [passed], by simp [passed], by simp [State.new], by simp [State.new]⟩

theorem sentIn_tried {ga : GroupAddress} {start now w : ℕ} {telegram : Telegram}
    {result : ReceiveResult} (hdest : telegram.destination = .group ga) :
    sentIn ga start (.tried now telegram result (some w)) = true ↔ result = .sent ∧ start = w := by
  cases result with
  | sent => simp [sentIn, hdest, eq_comm]
  | droppedQueueFull => simp [sentIn]
  | droppedThrottled ga => simp [sentIn]

theorem not_sentIn_tried {ga : GroupAddress} {start now : ℕ} {telegram : Telegram}
    {result : ReceiveResult} {w : Option ℕ} (hdest : telegram.destination ≠ .group ga) :
    sentIn ga start (.tried now telegram result w) = false := by
  unfold sentIn
  split
  · next heq =>
    cases heq
    simp [hdest]
  · rfl

theorem Windowed.react (h : Windowed config s log) (ha : CountKept config s a)
    (hreact : react config a s = some (s', e)) : Windowed config s' (e :: log) := by
  intro ga
  obtain ⟨now, telegram, rfl, hclock, rfl, rfl⟩ | ⟨telegram, queue, rfl, rfl⟩ | ⟨rfl, rfl⟩ :=
    react_cases hreact
  · by_cases hdest : telegram.destination = .group ga
    · have hentry := trySend_perAddress config s now telegram ga
      rw [if_pos hdest] at hentry
      have hwindow : window (s.trySend config now telegram).2 telegram =
          some (throttle config.perAddressMaxPerSec (s.perAddress ga) now).2.windowStart := by
        simp only [window, hdest, hentry, Option.map_some]
      have hsent : decide ((s.trySend config now telegram).1 = .sent) = true →
          (throttle config.perAddressMaxPerSec (s.perAddress ga) now).1 = false := by
        intro hsent
        by_contra hthrottled
        have hresult := (trySend_throttled_iff config s now telegram ga).2
          ⟨hdest, by simpa using hthrottled⟩
        rw [decide_eq_true_eq, hresult] at hsent
        cases hsent
      have hstep := (h ga).step (ha ga hdest) hsent hclock
      have hpassed : passed (.tried now telegram (s.trySend config now telegram).1
          (some (throttle config.perAddressMaxPerSec (s.perAddress ga) now).2.windowStart) :: log)
          ga = fun start ↦ passed log ga start +
            if decide ((s.trySend config now telegram).1 = .sent) = true ∧
              start = (throttle config.perAddressMaxPerSec (s.perAddress ga) now).2.windowStart
            then 1 else 0 := by
        funext start
        simp only [passed, List.countP_cons, sentIn_tried hdest, decide_eq_true_eq]
      rw [hentry, trySend_clock, hwindow, hpassed]
      exact hstep
    · have hpassed : passed (.tried now telegram (s.trySend config now telegram).1
          (window (s.trySend config now telegram).2 telegram) :: log) ga = passed log ga := by
        funext start
        simp [passed, not_sentIn_tried hdest]
      rw [trySend_perAddress, if_neg hdest, trySend_clock, hpassed]
      exact (h ga).later hclock
  · exact h ga
  · exact h ga

end

/-- As long as the channel is open to every telegram that passes the check, every call is counted
with its outcome. As long as the counts hold, an address passes on no more than its maximum in any
of its windows. And whether a call is throttled depends on no other address. -/
theorem limits_hold (config : ReceiveLimitConfig) (actions : List Action) :
    (Journal.Along (react config) (ChannelOpen config) ⟨.new, []⟩ actions →
      Accounted (run config actions).state.stats) ∧
    (Journal.Along (react config) (CountKept config) ⟨.new, []⟩ actions →
      ∀ ga start, passed (run config actions).log ga start ≤ config.perAddressMaxPerSec.toNat) ∧
    ∀ e earlier, e :: earlier <:+ (run config actions).log →
      Independent config.perAddressMaxPerSec e earlier := by
  refine ⟨fun hopen ↦ ?_, fun hkept ga ↦ ?_, fun e earlier he ↦ ?_⟩
  · have haccounted := Journal.run_along
      (fun _ s _ _ _ (h : Accounted s.stats) ha hreact ↦ accounted_react h ha hreact)
      accounted_new hopen
    exact haccounted
  · have hwindowed := Journal.run_along
      (fun _ s log _ _ (h : Windowed config s log) ha hreact ↦ h.react ha hreact)
      (windowed_new config) hkept
    exact (hwindowed ga).bounded
  · exact Journal.run_always
      (fun _ s log _ _ (h : Replays config s log) hreact ↦ h.react hreact)
      (fun _ ↦ rfl) actions he

namespace Reference

def telegram : Telegram := .groupWrite 0 .temperature [0x0C, 0x65]

def calls : List Action := [.trySend 0 telegram, .trySend 1000000000 telegram]

end Reference

theorem calls_counted :
    Accounted (run ⟨1000, 10⟩ Reference.calls).state.stats ∧
      ∀ start, passed (run ⟨1000, 10⟩ Reference.calls).log .temperature start ≤ 10 := by
  have hopen : Journal.Along (react ⟨1000, 10⟩) (ChannelOpen ⟨1000, 10⟩) ⟨.new, []⟩
      Reference.calls := ⟨.inl rfl, .inl rfl, trivial⟩
  have hkept : Journal.Along (react ⟨1000, 10⟩) (CountKept ⟨1000, 10⟩) ⟨.new, []⟩
      Reference.calls := by
    refine ⟨fun ga _ entry hentry ↦ ?_, fun ga hga entry hentry ↦ ?_, trivial⟩
    · cases hentry
    · cases hga
      cases hentry
      decide
  obtain ⟨haccounted, hpassed, -⟩ := limits_hold ⟨1000, 10⟩ Reference.calls
  exact ⟨haccounted hopen, hpassed hkept .temperature⟩

/-- A call on a closed channel is counted without its outcome, and a limit of nothing lets one
telegram through when the window is opened anew. -/
theorem limits_broken :
    (run ⟨1000, 10⟩ [.close, .trySend 0 Reference.telegram]).state.stats = ⟨1, 0, 0, 0⟩ ∧
      passed (run ⟨1000, 0⟩ Reference.calls).log .temperature 1000000000 = 1 := by
  constructor
  · rfl
  · decide +kernel

end Knust.Transport.ReceiveLimiter
