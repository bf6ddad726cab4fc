import Knust.Application.Robustness
import Knust.Foundation.ReceiveLoop

namespace Knust.Application

open Foundation Foundation.Task Protocol Security Transport

/-- A connection with the datagrams that are still to arrive on it, the number of those
taken so far and the number of waits that ended without one. -/
structure Arrivals (S : Type) where
  state : S
  pending : List (List UInt8)
  taken : ℕ := 0
  idle : ℕ := 0

namespace Arrivals

variable {S : Type}

def next (x : Arrivals S) (elapsed : Bool) : Option (List UInt8) × Arrivals S :=
  match x.pending, elapsed with
  | d :: ds, false => (some d, { x with pending := ds, taken := x.taken + 1 })
  | _, _ => (none, { x with idle := x.idle + 1 })

structure After (datagrams : List (List UInt8)) (rounds : ℕ) (x : Arrivals S) : Prop where
  pending : x.pending = datagrams.drop x.taken
  rounds : x.taken + x.idle = rounds

variable {datagrams : List (List UInt8)} {n : ℕ} {x : Arrivals S}

theorem After.idle (hx : After datagrams n x) (s : S) :
    After datagrams (n + 1) { x with state := s, idle := x.idle + 1 } := by
  refine ⟨hx.pending, ?_⟩
  rw [← hx.rounds]
  exact (Nat.add_assoc _ _ _).symm

theorem After.take (hx : After datagrams n x) {d : List UInt8} {ds : List (List UInt8)}
    (hd : x.pending = d :: ds) (s : S) :
    After datagrams (n + 1) { x with state := s, pending := ds, taken := x.taken + 1 } := by
  constructor
  · show ds = datagrams.drop (x.taken + 1)
    rw [← List.drop_drop, ← hx.pending, hd]
    rfl
  · rw [← hx.rounds]
    exact Nat.add_right_comm _ _ _

end Arrivals

section

open Transport.Client

def receiveBuffer (kind : TransportKind) (datagram : List UInt8) : List UInt8 :=
  match kind with
  | .udp => datagram.take 1024
  | .tcp => datagram

variable (P : Primitives) (tunnel : Tunnel)

/-- The tunnel while the datagrams arrive: its socket does not fail, and nobody shuts it
down. -/
def feeding : Machine Command Command.Response (Arrivals State) Env
  | .readWithin _, i, x =>
    let (datagram, x) := x.next i.elapsed
    some (datagram.map fun d ↦ .ok (receiveBuffer tunnel.kind d), x)
  | c, i, x =>
    let (r, s) := respond P tunnel c { i with shutdown := false } x.state
    some (r, { x with state := s })

structure Started (s : State) : Prop where
  connected : s.state = .connected
  established : s.transport = true
  queueOpen : s.queueOpen = true

def opened : Option SecureSession → List UInt8 → Result (List UInt8) × Option SecureSession
  | none, raw => (.ok raw, none)
  | some session, raw =>
    let (data, session) := session.decryptFrame P raw
    (data, some session)

/-- Every datagram is opened in its turn, and none declares a length shorter than its
header. -/
def Accepts : Option SecureSession → List (List UInt8) → Prop
  | _, [] => True
  | session, raw :: rest =>
    ∃ data session', opened P session raw = (.ok data, session') ∧
      ¬ KnxIpFrame.Understated data ∧ Accepts session' rest

def servesData : Command → Bool
  | .allocate _ | .knxChannelId => true
  | c => servesFrame c

variable {P tunnel} {x : Arrivals State} {h : Past}

theorem feeding_serve {c : Command} (hc : servesData c = true) {i : Env} {r : c.Response}
    {x' : Arrivals State} (he : feeding P tunnel c i x = some (r, x')) :
    (Started x.state → Started x'.state) ∧ x'.state.secureSession = x.state.secureSession ∧
      x' = { x with state := x'.state } := by
  cases c
  case now | allocate | knxChannelId | loadExpected | storeExpected | transport | write =>
    cases he
    exact ⟨fun hs ↦ ⟨hs.1, hs.2, hs.3⟩, rfl, rfl⟩
  case enqueueIncoming | control =>
    cases he
    refine ⟨fun hs ↦ ?_, ?_, rfl⟩
    · dsimp only
      split <;> exact ⟨hs.1, hs.2, hs.3⟩
    · dsimp only
      split <;> rfl
  all_goals cases hc

variable (P tunnel) in
structure Going (datagrams : List (List UInt8)) (rounds : ℕ) (x : Arrivals State) : Prop where
  started : Started x.state
  accepts : Accepts P x.state.secureSession (x.pending.map (receiveBuffer tunnel.kind))
  after : x.After datagrams rounds

variable {datagrams : List (List UInt8)} {n : ℕ}

theorem Going.serve (c : Command) (hc : servesData c = true) (i : Env) (x : Arrivals State)
    (r : c.Response) (x' : Arrivals State) (hx : Going P tunnel datagrams n x)
    (he : feeding P tunnel c i x = some (r, x')) : Going P tunnel datagrams n x' := by
  obtain ⟨hstarted, hsession, hx'⟩ := feeding_serve hc he
  refine ⟨hstarted hx.started, ?_, ?_⟩
  · rw [hsession, hx']
    exact hx.accepts
  · rw [hx']
    exact ⟨hx.after.pending, hx.after.rounds⟩

end

namespace Routing

open Transport.Routing

def feeding : Machine Command Command.Response (Arrivals State) Env
  | .recvFromWithin _, i, x =>
    let (datagram, x) := x.next i.elapsed
    some (datagram.map fun d ↦ .ok (d.take bufferSize), x)
  | c, i, x =>
    let (r, s) := respond c { i with shutdown := false } x.state
    some (r, { x with state := s })

structure Started (s : State) : Prop where
  connected : s.state = .connected
  queueOpen : s.queueOpen = true

/-- The datagram is a frame, and what is handed on of it does not declare a length
shorter than its header. -/
def Acceptable (datagram : List UInt8) : Prop :=
  ∃ frame, KnxIpFrame.parse (datagram.take bufferSize) = .ok frame ∧
    (frame.header.serviceType = .routingLostMessage ∨ frame.header.serviceType = .routingBusy ∨
      ¬ KnxIpFrame.Understated frame.body)

def servesData : Command → Bool
  | .allocate _ | .knxChannelId => true
  | c => servesFrame c

variable {x : Arrivals State} {h : Past}

theorem feeding_serve {c : Command} (hc : servesData c = true) {i : Env} {r : c.Response}
    {x' : Arrivals State} (he : feeding c i x = some (r, x')) :
    (Started x.state → Started x'.state) ∧ x' = { x with state := x'.state } := by
  cases c
  case now | allocate | knxChannelId =>
    cases he
    exact ⟨fun hs ↦ hs, rfl⟩
  case enqueueIncoming | control =>
    cases he
    refine ⟨fun hs ↦ ?_, rfl⟩
    dsimp only
    split <;> exact ⟨hs.1, hs.2⟩
  all_goals cases hc

structure Going (datagrams : List (List UInt8)) (rounds : ℕ) (x : Arrivals State) : Prop where
  started : Started x.state
  accepts : ∀ d ∈ x.pending, Acceptable d
  after : x.After datagrams rounds

variable {datagrams : List (List UInt8)} {n : ℕ}

theorem Going.serve (c : Command) (hc : servesData c = true) (i : Env) (x : Arrivals State)
    (r : c.Response) (x' : Arrivals State) (hx : Going datagrams n x)
    (he : feeding c i x = some (r, x')) : Going datagrams n x' := by
  obtain ⟨hstarted, hx'⟩ := feeding_serve hc he
  rw [hx']
  exact ⟨hstarted hx.started, hx.accepts, hx.after.pending, hx.after.rounds⟩

end Routing

namespace Reference

def started : Client.State :=
  { Client.State.built with transport := true, state := .connected, channelId := 1 }

def secured : Client.State := { started with secureSession := some Security.Reference.client }

end Reference

end Knust.Application
