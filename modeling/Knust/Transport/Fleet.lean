import Knust.Foundation.Ownership
import Knust.Transport.Probing

namespace Knust.Transport.Fleet

open Foundation Protocol Security Client

/-- The calls of a tunnel that change it, with a bound on the frames that arrive before a
deadline. -/
inductive Call
  | connect (frames : ℕ)
  | disconnect (frames : ℕ)
  deriving DecidableEq

def Call.isConnect : Call → Bool
  | .connect _ => true
  | .disconnect _ => false

/-- Tunnels that share a registry. For each tunnel there is the call in progress, if any,
and the address that the call has claimed but not stored yet. -/
structure State where
  tunnels : ℕ → Client.State
  claimed : IndividualAddress → Bool
  knownOccupied : IndividualAddress → Bool
  calls : ℕ → Option Call
  claiming : ℕ → Option IndividualAddress

def State.built (knownOccupied : IndividualAddress → Bool) : State where
  tunnels _ := .built
  claimed _ := false
  knownOccupied := knownOccupied
  calls _ := none
  claiming _ := none

def State.load (s : State) (k : ℕ) : Client.State :=
  { s.tunnels k with claimed := s.claimed, knownOccupied := s.knownOccupied }

def State.store (s : State) (k : ℕ) (t : Client.State) (claiming : Option IndividualAddress) :
    State :=
  { s with
    tunnels := Function.update s.tunnels k t
    claimed := t.claimed
    claiming := Function.update s.claiming k claiming }

inductive Command
  | nextCall (k : ℕ)
  | step (k : ℕ) (c : Client.Command)
  | finish (k : ℕ) (call : Call) (result : Except KnxError Unit)

abbrev Command.Response : Command → Type
  | .nextCall _ => Option Call
  | .step _ c => c.Response
  | .finish .. => Unit

structure Input where
  env : Client.Env := {}
  call : Option Call := none

def pending : (c : Client.Command) → c.Response → Option IndividualAddress →
    Option IndividualAddress
  | .claim addr, .ok _, _ => some addr
  | .setAddress _, _, _ => none
  | _, _, claiming => claiming

variable (P : Primitives) (tunnel : ℕ → Tunnel)

def stepTunnel (k : ℕ) (c : Client.Command) (i : Client.Env) (s : State) : c.Response × State :=
  let (r, t) := respond P (tunnel k) c i (s.load k)
  (r, s.store k t (pending c r (s.claiming k)))

def exec : Machine Command Command.Response State Input
  | .nextCall k, i, s => some (i.call, { s with calls := Function.update s.calls k i.call })
  | .step k c, i, s => some (stepTunnel P tunnel k c i.env s)
  | .finish k _ _, _, s => some ((), { s with calls := Function.update s.calls k none })

abbrev Program (α : Type) := Task Command Command.Response KnxError α

abbrev order (c : Command) : Program c.Response := Task.perform c

def onTunnel {α : Type} (k : ℕ) (p : Handler α) : Program α := p.relabel (.step k) fun _ r ↦ r

def body (k : ℕ) : Call → Handler Unit
  | .connect frames => connect (tunnel k) frames
  | .disconnect frames => disconnect (tunnel k) frames

/-- A call borrows its tunnel exclusively, so the calls of one tunnel come one after the
other, as its owner decides. -/
def driver (k : ℕ) : ℕ → Program Unit
  | 0 => pure ()
  | rounds + 1 => do
    match ← order (.nextCall k) with
    | none => pure ()
    | some call => do
      let result ← Task.attempt (onTunnel k (body tunnel k call))
      order (.finish k call result)
      driver k rounds

def start (knownOccupied : IndividualAddress → Bool) (rounds : List ℕ) :
    Config Command Command.Response State KnxError :=
  ⟨.built knownOccupied, rounds.mapIdx (driver tunnel), []⟩

/-- No two tunnels hold an address, and what is claimed belongs to exactly one tunnel. That
tunnel holds it and is connected, unless a call of it is in progress. -/
structure Consistent (s : State) : Prop where
  exclusive : ∀ k j addr, (s.tunnels k).individualAddress = some addr →
    (s.tunnels j).individualAddress = some addr → k = j
  claimed : ∀ k addr, (s.tunnels k).individualAddress = some addr → s.claimed addr = true
  owned : ∀ addr, s.claimed addr = true → ∃ k,
    ((s.tunnels k).individualAddress = some addr ∨ s.claiming k = some addr) ∧
    (∀ j, (s.tunnels j).individualAddress = some addr ∨ s.claiming j = some addr → j = k) ∧
    (s.calls k = none →
      (s.tunnels k).individualAddress = some addr ∧ (s.tunnels k).state = .connected)

def FailsClean : Command → State → Prop
  | .finish k (.connect _) (.error _), s =>
    (s.tunnels k).state ≠ .connected ∧ (s.tunnels k).channelId = 0 ∧
      (s.tunnels k).individualAddress = none ∧ s.claiming k = none
  | _, _ => True

instance decidableFailsClean : (c : Command) → (s : State) → Decidable (FailsClean c s)
  | .finish k (.connect _) (.error _), s => inferInstanceAs (Decidable
      ((s.tunnels k).state ≠ .connected ∧ (s.tunnels k).channelId = 0 ∧
        (s.tunnels k).individualAddress = none ∧ s.claiming k = none))
  | .finish _ (.connect _) (.ok _), _ => .isTrue trivial
  | .finish _ (.disconnect _) _, _ => .isTrue trivial
  | .nextCall _, _ => .isTrue trivial
  | .step _ _, _ => .isTrue trivial

def Quiet : Except KnxError (List UInt8) → Prop
  | .ok data => ¬ Signals data
  | .error _ => False

instance decidableQuiet : (frame : Except KnxError (List UInt8)) → Decidable (Quiet frame)
  | .ok data => inferInstanceAs (Decidable (¬ Signals data))
  | .error _ => .isFalse id

/-- Once a channel is open, an address that is claimed is free, and so is the last candidate of
a selection; sending does not fail, and nothing that is received is a signal. -/
def SmoothStep (c : Client.Command) (i : Client.Env) (t : Client.State) : Prop :=
  match c with
  | .claim addr => t.claimed addr = false
  | .write _ => t.state = .connected → i.ioError = none
  | .readWithin _ => t.state = .connected → i.elapsed = true ∨ Quiet i.frame
  | .isAvailable addr => t.state = .connected → addr = .new 0 0 254 →
      t.claimed addr = false ∧ t.knownOccupied addr = false
  | _ => True

instance decidableSmoothStep (i : Client.Env) (t : Client.State) : (c : Client.Command) →
    Decidable (SmoothStep c i t)
  | .claim addr => inferInstanceAs (Decidable (t.claimed addr = false))
  | .write _ => inferInstanceAs (Decidable (t.state = .connected → i.ioError = none))
  | .readWithin _ =>
    inferInstanceAs (Decidable (t.state = .connected → i.elapsed = true ∨ Quiet i.frame))
  | .isAvailable addr =>
    inferInstanceAs (Decidable (t.state = .connected → addr = .new 0 0 254 →
      t.claimed addr = false ∧ t.knownOccupied addr = false))
  | .establishTransport | .transport .. | .read | .generateSecret | .installSession ..
  | .encryptFrame .. | .decryptFrame .. | .recordSent | .recordReceived | .recordSendError ..
  | .recordReceiveError .. | .recordConnectionError .. | .setState .. | .isConnected
  | .openChannel .. | .closeChannel | .channelId | .nextSequence | .loadExpected
  | .storeExpected .. | .setAddress .. | .releaseAddress | .startMonitor | .sleep
  | .registerWaiter | .awaitResponse .. | .recordSuccess | .recordFailure | .now
  | .enqueueIncoming .. | .closeQueue | .control .. | .receiveControl | .isShutdown | .isDrained
  | .allocate .. | .dequeueOutgoing | .knxChannelId | .clearKnxChannelId | .takeConnection => .isTrue trivial

def Smooth : Command → Input → State → Prop
  | .nextCall k, i, s => ∀ call ∈ i.call, call.isConnect = true →
      (s.tunnels k).channelId = 0 ∧ (s.tunnels k).individualAddress = none
  | .step k c, i, s => SmoothStep c i.env (s.load k)
  | .finish .., _, _ => True

instance decidableSmooth : (c : Command) → (i : Input) → (s : State) → Decidable (Smooth c i s)
  | .nextCall k, i, s => inferInstanceAs (Decidable (∀ call ∈ i.call,
      call.isConnect = true →
        (s.tunnels k).channelId = 0 ∧ (s.tunnels k).individualAddress = none))
  | .step k c, i, s => decidableSmoothStep i.env (s.load k) c
  | .finish .., _, _ => .isTrue trivial

variable {P tunnel} {k : ℕ}

structure View where
  tunnel : Client.State
  call : Option Call
  claiming : Option IndividualAddress

def view (k : ℕ) (s : State) : View := ⟨s.tunnels k, s.calls k, s.claiming k⟩

def View.Keeps (w : View) (addr : IndividualAddress) : Prop :=
  w.tunnel.individualAddress = some addr ∨ w.claiming = some addr

structure View.AtRest (w : View) : Prop where
  settled : w.claiming = none
  connected : w.tunnel.individualAddress ≠ none → w.tunnel.state = .connected

/-- The claims are what the tunnels keep, each by one of them. -/
structure Inv (s : State) : Prop where
  claimed_iff : ∀ addr, s.claimed addr = true ↔ ∃ k, (view k s).Keeps addr
  unique : ∀ k j addr, (view k s).Keeps addr → (view j s).Keeps addr → k = j
  rest : ∀ k, s.calls k = none → (view k s).AtRest

theorem Inv.consistent {s : State} (h : Inv s) : Consistent s := by
  refine ⟨fun k j addr hk hj ↦ h.unique k j addr (.inl hk) (.inl hj),
    fun k addr hk ↦ (h.claimed_iff addr).mpr ⟨k, .inl hk⟩, fun addr haddr ↦ ?_⟩
  obtain ⟨k, hk⟩ := (h.claimed_iff addr).mp haddr
  refine ⟨k, hk, fun j hj ↦ h.unique j k addr hj hk, fun hcall ↦ ?_⟩
  obtain ⟨hsettled, hconnected⟩ := h.rest k hcall
  have hheld : (s.tunnels k).individualAddress = some addr :=
    hk.resolve_right (by rw [hsettled]; simp)
  exact ⟨hheld, hconnected (by simp [view, hheld])⟩

theorem Inv.built (knownOccupied : IndividualAddress → Bool) : Inv (.built knownOccupied) :=
  ⟨by simp [State.built, view, View.Keeps, Client.State.built],
    by simp [State.built, view, View.Keeps, Client.State.built],
    fun _ _ ↦ ⟨rfl, by simp [State.built, view, Client.State.built]⟩⟩

theorem Inv.step {s s' : State} (h : Inv s) (hothers : ∀ j ≠ k, view j s' = view j s)
    (hclaimed : ∀ addr, s'.claimed addr = true ↔
      (view k s').Keeps addr ∨ s.claimed addr = true ∧ ¬ (view k s).Keeps addr)
    (hnew : ∀ addr, (view k s').Keeps addr → (view k s).Keeps addr ∨ s.claimed addr = false)
    (hrest : s'.calls k = none → (view k s').AtRest) : Inv s' := by
  have hforeign {j : ℕ} (hj : j ≠ k) {addr : IndividualAddress} (hkeeps : (view j s').Keeps addr) :
      ¬ (view k s').Keeps addr := by
    intro hk
    rw [hothers j hj] at hkeeps
    rcases hnew addr hk with hk | hfree
    · exact hj (h.unique j k addr hkeeps hk)
    · rw [(h.claimed_iff addr).mpr ⟨j, hkeeps⟩] at hfree
      cases hfree
  refine ⟨fun addr ↦ ?_, fun i j addr hi hj ↦ ?_, fun j hj ↦ ?_⟩
  · rw [hclaimed]
    constructor
    · intro hkeeps
      rcases hkeeps with hkeeps | ⟨hbefore, hnot⟩
      · exact ⟨k, hkeeps⟩
      · obtain ⟨j, hj⟩ := (h.claimed_iff addr).mp hbefore
        have hne : j ≠ k := fun heq ↦ hnot (heq ▸ hj)
        exact ⟨j, by rwa [hothers j hne]⟩
    · intro hkeeps
      obtain ⟨j, hj⟩ := hkeeps
      by_cases hjk : j = k
      · exact .inl (hjk ▸ hj)
      · rw [hothers j hjk] at hj
        exact .inr ⟨(h.claimed_iff addr).mpr ⟨j, hj⟩, fun hk ↦ hjk (h.unique j k addr hj hk)⟩
  · by_cases hik : i = k
    · by_cases hjk : j = k
      · rw [hik, hjk]
      · exact absurd (hik ▸ hi) (hforeign hjk hj)
    · by_cases hjk : j = k
      · exact absurd (hjk ▸ hj) (hforeign hik hi)
      · rw [hothers i hik] at hi
        rw [hothers j hjk] at hj
        exact h.unique i j addr hi hj
  · by_cases hjk : j = k
    · subst hjk
      exact hrest hj
    · have hview := hothers j hjk
      rw [hview]
      exact h.rest j ((congrArg View.call hview).symm.trans hj)

variable {α β : Type} {w : View} {Q : View → Result α → Prop}

end Knust.Transport.Fleet
