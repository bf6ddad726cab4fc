import Knust.Application.PlainReception
import Knust.Application.RequestLoss
import Knust.Transport.ServerCalls

namespace Knust.Application.Delivery

open Foundation Foundation.Task Protocol Security Transport Transport.Client

/-- What is started at the server: a call for one session, or the handler of a frame
that the client wrote when a request of the given call arrived. -/
inductive Call
  | send (telegram : Telegram)
  | acknowledge (answered : ℕ) (data : List UInt8)
  deriving DecidableEq

structure Arrival where
  call : ℕ
  reception : Reception

/-- A server that sends telegrams to one client, the client, and all that has passed
between them. What was sent once may arrive at any time, any number of times, or
never. -/
structure Exchange where
  server : Config Server.Command Server.Command.Response Server.State KnxError
  calls : List Call
  client : State
  arrivals : List Arrival

inductive Event
  | send (telegram : Telegram)
  | resume (k : ℕ) (i : Server.Env)
  | deliver (n : ℕ) (inputs : ℕ → Env)
  | acknowledge (n m : ℕ)

section

variable (P : Primitives) (tunnel : Tunnel) (server : TunnelServer) (session : ClientSession)

def program : Call → Server.Handler Unit
  | .send telegram => Server.sendToSession session telegram
  | .acknowledge _ data => do
    let _ ← Server.handleFrame P server data session.link

def Exchange.spawn (x : Exchange) (call : Call) : Exchange :=
  { x with
    server := { x.server with pool := x.server.pool ++ [program P server session call] }
    calls := x.calls ++ [call] }

def Exchange.receive (x : Exchange) (k : ℕ) (frame : List UInt8) (inputs : ℕ → Env) : Exchange :=
  match (receivingTask 1).runAlone (delivering P tunnel frame) inputs x.client [] with
  | some e =>
    { x with client := e.state, arrivals := ⟨k, receptionOf e.history⟩ :: x.arrivals }
  | none => x

def transmission (r : Server.Step) : Option (List UInt8) :=
  match r.command with
  | .sendFrame _ frame => some frame
  | _ => none

def Exchange.step (x : Exchange) : Event → Exchange
  | .send telegram => x.spawn P server session (.send telegram)
  | .resume k i => { x with server := x.server.resume (Server.exec P) k i }
  | .deliver n inputs =>
    match x.server.trace[n]? with
    | some r =>
      match transmission r with
      | some frame => x.receive P tunnel r.task frame inputs
      | none => x
    | none => x
  | .acknowledge n m =>
    match x.arrivals[n]? with
    | some a =>
      match a.reception.answers[m]? with
      | some data => x.spawn P server session (.acknowledge a.call data)
      | none => x
    | none => x

def Exchange.run (x : Exchange) (events : List Event) : Exchange :=
  events.foldl (Exchange.step P tunnel server session) x

def Exchange.start (s : Server.State) (client : State) : Exchange := ⟨⟨s, [], []⟩, [], client, []⟩

end

namespace Exchange

variable (x : Exchange)

def history (k : ℕ) : History Server.Command Server.Command.Response :=
  Foundation.history k x.server.trace

def next (k : ℕ) : Option Server.Command :=
  match x.server.pool[k]? with
  | some (.call c _) => some c
  | _ => none

def Running (k : ℕ) : Prop := (x.next k).isSome = true

def returned (k : ℕ) : Option (Result Unit) :=
  match x.server.pool[k]? with
  | some (.done r) => some r
  | _ => none

def Accepted (k : ℕ) : Prop := ∃ a ∈ x.arrivals, a.call = k ∧ a.reception.accepted = true

def isDraw (r : Server.Step) : Bool :=
  match r.command with
  | .loadSendSeq _ => true
  | _ => false

def drewLast : Option ℕ := (x.server.trace.find? isDraw).map Record.task

section

variable (session : ClientSession)

/-- An acknowledgement that is handed to a call that waits answers a request of that
call. -/
def AnswersItsCall (channel : ℕ) : Call → Prop
  | .acknowledge answered _ => ∀ owner < x.calls.length, x.Running owner →
    ⟨.expectAck session.cells, channel⟩ ∈ x.history owner → owner = answered
  | .send _ => True

def DrawsInStep : Prop :=
  ∀ cells ∈ x.server.state.cells[session.cells]?,
    cells.sendSeq = x.client.expectedSequenceNumber

/-- A frame with the number that the client expects is one of the call that drew its
number last. -/
def OfLastCall (r : Server.Step) : Prop :=
  ⟨.loadSendSeq session.cells, x.client.expectedSequenceNumber⟩ ∈ x.history r.task →
    x.drewLast = some r.task

def PromptCommand (k : ℕ) : Server.Command → Prop
  | .deliverAck channel _ => ∀ call ∈ x.calls[k]?, x.AnswersItsCall session channel call
  | .loadSendSeq _ => x.DrawsInStep session
  | _ => True

def Prompt : Event → Prop
  | .resume k _ => ∀ c ∈ x.next k, x.PromptCommand session k c
  | .deliver n _ => ∀ r ∈ x.server.trace[n]?, (transmission r).isSome = true →
    x.OfLastCall session r
  | .send _ | .acknowledge _ _ => True

end

instance (k : ℕ) : Decidable (x.Running k) := inferInstanceAs (Decidable (_ = true))

instance (session : ClientSession) (channel : ℕ) (call : Call) :
    Decidable (x.AnswersItsCall session channel call) := by
  cases call <;> unfold AnswersItsCall <;> infer_instance

instance (session : ClientSession) : Decidable (x.DrawsInStep session) := by
  unfold DrawsInStep
  infer_instance

instance (session : ClientSession) (r : Server.Step) : Decidable (x.OfLastCall session r) := by
  unfold OfLastCall
  infer_instance

instance (session : ClientSession) (k : ℕ) :
    (c : Server.Command) → Decidable (x.PromptCommand session k c)
  | .deliverAck channel _ =>
    inferInstanceAs (Decidable (∀ call ∈ x.calls[k]?, x.AnswersItsCall session channel call))
  | .loadSendSeq _ => inferInstanceAs (Decidable (x.DrawsInStep session))
  | .isShutdown | .requestShutdown | .sleep | .now | .recvFrom .. | .recvFrame ..
  | .streamClosed .. | .sendFrame .. | .generateSecret | .fetchSecureSessionId
  | .getSecureSession .. | .getRecipient .. | .insertSecureSession .. | .removeSecureSession ..
  | .isAuthenticated .. | .verifyAuthenticateMac .. | .encryptFrame .. | .decryptFrame ..
  | .openSession .. | .releaseSessions | .getSession .. | .touchSession .. | .removeSession ..
  | .staleSessions | .removeSessions .. | .allSessions | .touch .. | .loadRecvSeq ..
  | .storeRecvSeq .. | .lockSend .. | .unlockSend .. | .storeSendSeq .. | .expectAck ..
  | .awaitAck .. | .takePendingAck .. | .publish .. => .isTrue trivial

instance (session : ClientSession) (event : Event) : Decidable (x.Prompt session event) := by
  cases event <;> unfold Prompt <;> infer_instance

variable {x}

theorem next_eq_some {k : ℕ} {c : Server.Command} :
    x.next k = some c ↔ ∃ next, x.server.pool[k]? = some (.call c next) := by
  constructor
  · intro h
    unfold next at h
    split at h
    · rename_i c' next hp
      cases h
      exact ⟨next, hp⟩
    · cases h
  · rintro ⟨_, hp⟩
    simp [next, hp]

theorem running_iff {k : ℕ} : x.Running k ↔ ∃ c next, x.server.pool[k]? = some (.call c next) := by
  simp only [Running, Option.isSome_iff_exists, next_eq_some]

end Exchange

section

variable (P : Primitives) (tunnel : Tunnel) (server : TunnelServer) (session : ClientSession)

def PromptRun (x : Exchange) : List Event → Prop
  | [] => True
  | event :: events =>
    x.Prompt session event ∧ PromptRun (x.step P tunnel server session event) events

instance (x : Exchange) (events : List Event) :
    Decidable (PromptRun P tunnel server session x events) := by
  induction events generalizing x with
  | nil => exact .isTrue trivial
  | cons event events ih =>
    unfold PromptRun
    have := ih (x.step P tunnel server session event)
    infer_instance

def rule : Call → History Server.Command Server.Command.Response → Server.Command → Prop
  | .send _ => Server.callRule session
  | .acknowledge _ data => fun _ ↦ Server.ackRule server data

def post : Call → History Server.Command Server.Command.Response → Result Unit → Prop
  | .send _ => Server.callPost
  | .acknowledge _ _ => fun _ _ ↦ True

structure Plain (x : Exchange) : Prop where
  recipients : ∀ peer, x.server.state.secureSessions peer = none
  client : x.client.secureSession = none
  found : ∀ k, ¬ Server.HasRecipient (x.history k)

structure Consistent (x : Exchange) : Prop where
  tracks : x.server.Tracks (rule server session) post x.calls
  plain : server.secureConfig = none → Plain x
  held : ∀ k, Server.Locked session (x.history k) →
    x.server.state.cells[session.cells]?.map ClientCells.sendLock = some true
  single : ∀ j k, Server.Locked session (x.history j) → Server.Locked session (x.history k) → j = k
  drawn : server.secureConfig = none → ∀ k seq, Server.Locked session (x.history k) →
    ⟨.loadSendSeq session.cells, seq⟩ ∈ x.history k →
    x.drewLast = some k ∧ (x.client.expectedSequenceNumber = seq ∨ x.Accepted k)
  requests : ∀ r ∈ x.server.trace, ∀ frame, transmission r = some frame →
    (∃ telegram, x.calls[r.task]? = some (.send telegram)) ∧
      Server.Numbered session frame (x.history r.task)
  arrived : ∀ a ∈ x.arrivals, a.call < x.server.pool.length
  acknowledged : ∀ a ∈ x.arrivals, ∀ data ∈ a.reception.answers, ∃ ack, data = ackFrame ack
  answered : server.secureConfig = none → ∀ a ∈ x.arrivals, ∀ ack,
    ackFrame ack ∈ a.reception.answers → ack.statusCode = TunnellingAck.statusOk →
    x.Running a.call → x.Accepted a.call
  origins : ∀ (k answered : ℕ) (data : List UInt8),
    x.calls[k]? = some (.acknowledge answered data) →
    ∃ a ∈ x.arrivals, a.call = answered ∧ data ∈ a.reception.answers
  channels : ∀ k channel ack, ⟨.expectAck session.cells, channel⟩ ∈ x.history k → x.Running k →
    x.server.state.acks[channel]? = some (.sent ack) →
    ack.statusCode = TunnellingAck.statusOk → x.Accepted k
  awaited : ∀ k, Server.Acked (x.history k) → x.Accepted k

variable {P tunnel server session} {x y : Exchange}

theorem ackFrame_injective {ack ack' : TunnellingAck} (h : ackFrame ack = ackFrame ack') :
    ack = ack' := by
  have hparse (ack : TunnellingAck) : KnxIpFrame.parse (ackFrame ack) = _ :=
    KnxIpFrame.parse_serialize_new .tunnellingAck (by simp [TunnellingAck.serialize])
  have hbody := (hparse ack).symm.trans ((congrArg KnxIpFrame.parse h).trans (hparse ack'))
  have hserialize : ack.serialize = ack'.serialize :=
    congrArg KnxIpFrame.body (Outcome.ok.inj hbody)
  have hack := congrArg TunnellingAck.parse hserialize
  rw [TunnellingAck.parse_serialize, TunnellingAck.parse_serialize] at hack
  exact Outcome.ok.inj hack

theorem locked_of_callRule {h : History Server.Command Server.Command.Response}
    {c : Server.Command} (hc : Server.callRule session h c) {seq : UInt8}
    (hseq : ⟨.loadSendSeq session.cells, seq⟩ ∈ h) : Server.Locked session h := by
  cases c
  case lockSend =>
    rw [hc.2] at hseq
    cases hseq
  case loadSendSeq =>
    rw [hc.2] at hseq
    simp at hseq
  case getRecipient | encryptFrame => exact hc
  case expectAck | storeSendSeq | unlockSend => exact hc.2
  case sendFrame | awaitAck => exact hc.1
  all_goals exact hc.elim

theorem obeys_program_send (telegram : Telegram) :
    (program P server session (.send telegram)).Obeys (rule server session (.send telegram))
      (post (.send telegram)) [] :=
  Server.obeys_sendToSession_callRule telegram

theorem obeys_program_acknowledge (answered : ℕ) (ack : TunnellingAck) :
    (program P server session (.acknowledge answered (ackFrame ack))).Obeys
      (rule server session (.acknowledge answered (ackFrame ack)))
      (post (.acknowledge answered (ackFrame ack))) [] :=
  (Server.obeys_handleFrame_ackRule P server ack session.link).bind_true fun _ _ _ ↦ trivial

theorem Exchange.Accepted.mono {k : ℕ} (ha : x.Accepted k) (hsub : x.arrivals ⊆ y.arrivals) :
    y.Accepted k := by
  obtain ⟨a, hmem, ha⟩ := ha
  exact ⟨a, hsub hmem, ha⟩

theorem Consistent.spawn (hx : Consistent server session x) {call : Call}
    (hobeys : (program P server session call).Obeys (rule server session call) (post call) [])
    (horigin : ∀ answered data, call = .acknowledge answered data →
      ∃ a ∈ x.arrivals, a.call = answered ∧ data ∈ a.reception.answers) :
    Consistent server session (x.spawn P server session call) := by
  -- The new task has no past, so that only the old ones matter.
  have hrunning (k : ℕ) (hr : (x.spawn P server session call).Running k) :
      x.Running k ∨ k = x.server.pool.length := by
    obtain ⟨c, next, hp⟩ := Exchange.running_iff.mp hr
    rcases Nat.lt_trichotomy k x.server.pool.length with hk | hk | hk
    · left
      rw [Exchange.spawn, List.getElem?_append_left hk] at hp
      exact Exchange.running_iff.mpr ⟨c, next, hp⟩
    · exact .inr hk
    · rw [Exchange.spawn, List.getElem?_eq_none (by simp; omega)] at hp
      cases hp
  have hcalls (k : ℕ) (c : Call) (hc : x.calls[k]? = some c) :
      (x.spawn P server session call).calls[k]? = some c := by
    rw [Exchange.spawn, List.getElem?_append_left (List.getElem?_eq_some_iff.mp hc).1, hc]
  refine ⟨hx.tracks.spawn hobeys, fun hs ↦ ⟨(hx.plain hs).1, (hx.plain hs).2, (hx.plain hs).3⟩,
    hx.held, hx.single, hx.drawn, ?_, ?_, hx.acknowledged, ?_, ?_, ?_, hx.awaited⟩
  · intro r hr frame hframe
    obtain ⟨⟨telegram, htelegram⟩, hn⟩ := hx.requests r hr frame hframe
    exact ⟨⟨telegram, hcalls _ _ htelegram⟩, hn⟩
  · intro a ha
    have := hx.arrived a ha
    simp only [Exchange.spawn, List.length_append]
    omega
  · intro hs a ha ack hack hok hr
    rcases hrunning _ hr with hr | hr
    · exact hx.answered hs a ha ack hack hok hr
    · exact absurd (hx.arrived a ha) (by omega)
  · intro k answered data hk
    rcases Nat.lt_or_ge k x.calls.length with hlt | hge
    · rw [Exchange.spawn, List.getElem?_append_left hlt] at hk
      exact hx.origins k answered data hk
    · rw [Exchange.spawn, List.getElem?_append_right hge] at hk
      exact horigin answered data (List.mem_singleton.mp (List.mem_of_getElem? hk)).symm
  · intro k channel ack hchannel hr hsent hok
    rcases hrunning _ hr with hr | rfl
    · exact hx.channels k channel ack hchannel hr hsent hok
    · have hnil : x.history x.server.pool.length = [] := history_eq_nil hx.tracks.spawned
      exact absurd (hnil ▸ hchannel) (by simp)

structure Resumed (P : Primitives) (server : TunnelServer) (session : ClientSession)
    (x y : Exchange) (k : ℕ) (c : Server.Command) (r : c.Response) : Prop where
  next : x.next k = some c
  allowed : ∃ call, x.calls[k]? = some call ∧ rule server session call (x.history k) c
  executed : ∃ i, Server.exec P c i x.server.state = some (r, y.server.state)
  trace : y.server.trace = ⟨k, c, r, x.server.state, y.server.state⟩ :: x.server.trace
  running : ∀ j, y.Running j → x.Running j
  length : y.server.pool.length = x.server.pool.length
  calls : y.calls = x.calls
  client : y.client = x.client
  arrivals : y.arrivals = x.arrivals

theorem resume_cases (hx : Consistent server session x) (k : ℕ) (i : Server.Env) :
    x.step P tunnel server session (.resume k i) = x ∨ ∃ c r,
      Resumed P server session x (x.step P tunnel server session (.resume k i)) k c r := by
  obtain h | ⟨c, next, r, s, hp, he, h⟩ := Config.resume_cases (Server.exec P) x.server k i
  · left
    rw [Exchange.step, h]
  right
  have hk : k < x.calls.length := by
    rw [hx.tracks.length]
    exact (List.getElem?_eq_some_iff.mp hp).1
  refine ⟨c, r, Exchange.next_eq_some.mpr ⟨next, hp⟩, ⟨_, List.getElem?_eq_getElem hk, ?_⟩, ⟨i, ?_⟩, ?_, ?_, ?_, rfl, rfl, rfl⟩
  · exact (hx.tracks.obeys k _ _ (List.getElem?_eq_getElem hk) hp).1
  · rw [Exchange.step, h]
    exact he
  · rw [Exchange.step, h]
  · intro j hj
    rw [Exchange.running_iff] at hj ⊢
    by_cases hjk : k = j
    · subst hjk
      exact ⟨c, next, hp⟩
    · rwa [Exchange.step, h, List.getElem?_set_ne hjk] at hj
  · rw [Exchange.step, h, List.length_set]

section

variable {k j : ℕ} {c : Server.Command} {r : c.Response} (hr : Resumed P server session x y k c r)

include hr

theorem Resumed.mem_history {e : (c : Server.Command) × c.Response} :
    e ∈ y.history j ↔ (k = j ∧ e = ⟨c, r⟩) ∨ e ∈ x.history j := by
  rw [Exchange.history, hr.trace]
  exact mem_history_cons

theorem Resumed.accepted (ha : x.Accepted j) : y.Accepted j :=
  ha.mono (hr.arrivals ▸ List.Subset.refl _)

theorem Resumed.concernsCalls : c.concernsCalls = true := by
  obtain ⟨call, -, hrule⟩ := hr.allowed
  cases call with
  | send _ => exact Server.concernsCalls_of_callRule hrule
  | acknowledge _ _ => exact Server.concernsCalls_of_ackRule hrule

theorem Resumed.callRule (hc : ∀ data, ¬ Server.ackRule server data c) :
    (∃ telegram, x.calls[k]? = some (.send telegram)) ∧
      Server.callRule session (x.history k) c := by
  obtain ⟨call, hcall, hrule⟩ := hr.allowed
  cases call with
  | send telegram => exact ⟨⟨telegram, hcall⟩, hrule⟩
  | acknowledge _ data => exact absurd hrule (hc data)

theorem Resumed.locked (hl : Server.Locked session (y.history j)) :
    Server.Locked session (x.history j) ∨ k = j ∧ c = .lockSend session.cells := by
  have hheld : ⟨.unlockSend session.cells, ()⟩ ∉ x.history j := fun hu ↦
    hl.held (hr.mem_history.mpr (.inr hu))
  rcases hr.mem_history.mp hl.acquired with ⟨hk, he⟩ | hacquired
  · exact .inr ⟨hk, (congrArg Sigma.fst he).symm⟩
  · exact .inl ⟨hacquired, hheld⟩

theorem Resumed.held (hx : Consistent server session x) (hl : Server.Locked session (y.history j)) :
    y.server.state.cells[session.cells]?.map ClientCells.sendLock = some true := by
  obtain ⟨i, he⟩ := hr.executed
  by_cases hc : c = .lockSend session.cells
  · subst hc
    exact (Server.exec_lockSend he).2
  obtain hl' | ⟨-, hc'⟩ := hr.locked hl
  swap
  · exact absurd hc' hc
  by_cases hu : c = .unlockSend session.cells
  · subst hu
    -- Only the holder gives the lock back, and it then no longer holds it.
    obtain ⟨-, -, hlocked⟩ := hr.callRule fun _ ↦ id
    obtain rfl : k = j := hx.single _ _ hlocked hl'
    exact absurd (hr.mem_history.mpr (.inl ⟨rfl, rfl⟩)) hl.held
  · rw [Server.exec_sendLock hr.concernsCalls he hc hu]
    exact hx.held j hl'

theorem Resumed.single (hx : Consistent server session x) {j' : ℕ}
    (hl : Server.Locked session (y.history j)) (hl' : Server.Locked session (y.history j')) :
    j = j' := by
  obtain ⟨i, he⟩ := hr.executed
  by_cases hc : c = .lockSend session.cells
  · subst hc
    have hfree (m : ℕ) : ¬ Server.Locked session (x.history m) := by
      intro hm
      have := (Server.exec_lockSend he).1.symm.trans (hx.held m hm)
      cases this
    obtain hm | ⟨rfl, -⟩ := hr.locked hl
    · exact absurd hm (hfree _)
    obtain hm | ⟨rfl, -⟩ := hr.locked hl'
    · exact absurd hm (hfree _)
    rfl
  · exact hx.single j j' ((hr.locked hl).resolve_right fun h ↦ hc h.2)
      ((hr.locked hl').resolve_right fun h ↦ hc h.2)

theorem Resumed.drewLast :
    y.drewLast = if Exchange.isDraw ⟨k, c, r, x.server.state, y.server.state⟩ then some k
      else x.drewLast := by
  rw [Exchange.drewLast, hr.trace, List.find?_cons]
  cases Exchange.isDraw ⟨k, c, r, x.server.state, y.server.state⟩ <;> rfl

theorem Resumed.drawn (hx : Consistent server session x) (hs : server.secureConfig = none)
    {i : Server.Env} (hprompt : x.Prompt session (.resume k i)) {seq : UInt8}
    (hl : Server.Locked session (y.history j))
    (hseq : ⟨.loadSendSeq session.cells, seq⟩ ∈ y.history j) :
    y.drewLast = some j ∧ (y.client.expectedSequenceNumber = seq ∨ y.Accepted j) := by
  rw [hr.drewLast, hr.client]
  rcases hr.mem_history.mp hseq with ⟨rfl, he⟩ | hseq
  · -- The call draws its number now.
    cases he
    obtain ⟨i, he⟩ := hr.executed
    simp only [Server.exec] at he
    obtain ⟨cells, cells', hcells, hf, -⟩ := Server.State.withCells_eq_some he
    cases hf
    exact ⟨rfl, .inl (hprompt _ hr.next cells hcells).symm⟩
  · by_cases hlock : Server.Locked session (x.history j)
    · obtain ⟨hlast, hseq⟩ := hx.drawn hs j seq hlock hseq
      split
      · rename_i hdraw
        -- No other call can draw while this one holds the lock.
        have hc : c = .loadSendSeq session.cells := by
          cases c
          case loadSendSeq =>
            obtain ⟨-, rfl, -⟩ := hr.callRule fun _ ↦ id
            rfl
          all_goals cases hdraw
        subst hc
        obtain ⟨-, -, hk⟩ := hr.callRule fun _ ↦ id
        have hlocked : Server.Locked session (x.history k) := by
          rw [hk]
          exact ⟨by simp, by simp⟩
        obtain rfl := hx.single _ _ hlocked hlock
        exact ⟨rfl, hseq.imp id hr.accepted⟩
      · exact ⟨hlast, hseq.imp id hr.accepted⟩
    · obtain ⟨rfl, rfl⟩ := (hr.locked hl).resolve_left hlock
      obtain ⟨-, -, hnil⟩ := hr.callRule fun _ ↦ id
      rw [hnil] at hseq
      cases hseq

theorem Resumed.requests (hx : Consistent server session x) {q : Server.Step}
    (hq : q ∈ y.server.trace) {frame : List UInt8} (hframe : transmission q = some frame) :
    (∃ telegram, y.calls[q.task]? = some (.send telegram)) ∧
      Server.Numbered session frame (y.history q.task) := by
  have hmono (j : ℕ) (hn : Server.Numbered session frame (x.history j)) :
      Server.Numbered session frame (y.history j) := by
    obtain ⟨seq, hseq, ⟨peer, entry, hp⟩ | hbuilt⟩ := hn
    · exact ⟨seq, hr.mem_history.mpr (.inr hseq),
        .inl ⟨peer, entry, hr.mem_history.mpr (.inr hp)⟩⟩
    · exact ⟨seq, hr.mem_history.mpr (.inr hseq), .inr hbuilt⟩
  rw [hr.calls]
  rw [hr.trace] at hq
  rcases List.mem_cons.mp hq with rfl | hq
  · cases c
    case sendFrame link data =>
      cases hframe
      obtain ⟨hcall, -, hn⟩ := hr.callRule fun _ ↦ id
      exact ⟨hcall, hmono _ hn⟩
    all_goals cases hframe
  · obtain ⟨hcall, hn⟩ := hx.requests q hq frame hframe
    exact ⟨hcall, hmono _ hn⟩

theorem Resumed.channels (hx : Consistent server session x) {i : Server.Env}
    (hprompt : server.secureConfig = none → x.Prompt session (.resume k i)) {channel : ℕ}
    {ack : TunnellingAck} (hchannel : ⟨.expectAck session.cells, channel⟩ ∈ y.history j)
    (hrunning : y.Running j) (hsent : y.server.state.acks[channel]? = some (.sent ack))
    (hok : ack.statusCode = TunnellingAck.statusOk) : y.Accepted j := by
  obtain ⟨i, he⟩ := hr.executed
  apply hr.accepted
  have hrunning' := hr.running j hrunning
  rcases hr.mem_history.mp hchannel with ⟨rfl, hnew⟩ | hchannel
  · cases hnew
    rw [Server.exec_expectAck he] at hsent
    cases hsent
  rcases Server.exec_sent hr.concernsCalls he hsent with hsent | rfl
  · exact hx.channels j channel ack hchannel hrunning' hsent hok
  · -- The acknowledgement arrives now, and it is one of this call.
    obtain ⟨call, hcall, hrule⟩ := hr.allowed
    cases call with
    | send _ => exact hrule.elim
    | acknowledge answered data =>
      obtain ⟨hs, rfl⟩ := hrule
      have hj : j < x.calls.length := by
        obtain ⟨c', next', hj⟩ := Exchange.running_iff.mp hrunning'
        rw [hx.tracks.length]
        exact (List.getElem?_eq_some_iff.mp hj).1
      obtain rfl := hprompt hs _ hr.next _ hcall j hj hrunning' hchannel
      obtain ⟨a, ha, rfl, hdata⟩ := hx.origins k _ _ hcall
      exact hx.answered hs a ha ack hdata hok hrunning'

theorem Resumed.awaited (hx : Consistent server session x) (hacked : Server.Acked (y.history j)) :
    y.Accepted j := by
  apply hr.accepted
  obtain ⟨channel, ack, hmem, hok⟩ := hacked
  rcases hr.mem_history.mp hmem with ⟨rfl, hnew⟩ | hmem
  · cases hnew
    obtain ⟨i, he⟩ := hr.executed
    obtain ⟨-, -, hchannel⟩ := hr.callRule fun _ ↦ id
    have hrunning : x.Running k := by simp [Exchange.Running, hr.next]
    exact hx.channels k channel ack hchannel hrunning (Server.exec_awaitAck he) hok
  · exact hx.awaited j ⟨channel, ack, hmem, hok⟩

theorem Resumed.plain (hx : Plain x) : Plain y := by
  obtain ⟨i, he⟩ := hr.executed
  have hsessions := Server.exec_secureSessions
    (Server.editsSecureSessions_of_concernsCalls hr.concernsCalls) he
  refine ⟨fun peer ↦ ?_, hr.client ▸ hx.client, fun j hj ↦ ?_⟩
  · rw [hsessions]
    exact hx.recipients peer
  · obtain ⟨peer, entry, hmem⟩ := hj
    rcases hr.mem_history.mp hmem with ⟨rfl, hnew⟩ | hmem
    · cases hnew
      have hfound : x.server.state.secureSessions peer = some entry :=
        congrArg Prod.fst (Option.some.inj he)
      rw [hx.recipients peer] at hfound
      cases hfound
    · exact hx.found j ⟨peer, entry, hmem⟩

end

theorem Consistent.resume (hx : Consistent server session x) {k : ℕ} {i : Server.Env}
    (hprompt : server.secureConfig = none → x.Prompt session (.resume k i)) :
    Consistent server session (x.step P tunnel server session (.resume k i)) := by
  obtain h | ⟨c, r, hr⟩ := @resume_cases P tunnel server session x hx k i
  · rw [h]
    exact hx
  refine ⟨hx.tracks.resume k i, fun hs ↦ hr.plain (hx.plain hs), fun j ↦ hr.held hx,
    fun j j' ↦ hr.single hx, fun hs j seq ↦ hr.drawn hx hs (hprompt hs),
    fun q hq frame ↦ hr.requests hx hq, ?_, ?_, ?_, ?_,
    fun j channel ack ↦ hr.channels hx hprompt, fun j ↦ hr.awaited hx⟩
  · intro a ha
    rw [hr.length]
    exact hx.arrived a (hr.arrivals ▸ ha)
  · exact fun a ha ↦ hx.acknowledged a (hr.arrivals ▸ ha)
  · intro hs a ha ack hack hok hrunning
    exact hr.accepted (hx.answered hs a (hr.arrivals ▸ ha) ack hack hok (hr.running _ hrunning))
  · exact hx.origins

def Exchange.afterRound (x : Exchange) (k : ℕ) (client : State) (reception : Reception) :
    Exchange :=
  { x with client, arrivals := ⟨k, reception⟩ :: x.arrivals }

section

variable {k : ℕ} {client : State} {reception : Reception} {sequence : UInt8}

theorem accepted_afterRound {j : ℕ} (ha : x.Accepted j) :
    (x.afterRound k client reception).Accepted j :=
  ha.mono (List.subset_cons_self _ _)

theorem Consistent.drawn_afterRound (hx : Consistent server session x)
    (hs : server.secureConfig = none)
    (hseq : ⟨.loadSendSeq session.cells, sequence⟩ ∈ x.history k)
    (hheard : Heard session.channelId sequence x.client.expectedSequenceNumber client reception)
    (hlast : ⟨.loadSendSeq session.cells, x.client.expectedSequenceNumber⟩ ∈ x.history k →
      x.drewLast = some k) {j : ℕ} {seq : UInt8} (hl : Server.Locked session (x.history j))
    (hload : ⟨.loadSendSeq session.cells, seq⟩ ∈ x.history j) :
    x.drewLast = some j ∧ (client.expectedSequenceNumber = seq ∨
      (x.afterRound k client reception).Accepted j) := by
  obtain ⟨hdrew, hexpected⟩ := hx.drawn hs j seq hl hload
  refine ⟨hdrew, ?_⟩
  have hsame (hc : client.expectedSequenceNumber = x.client.expectedSequenceNumber) :
      client.expectedSequenceNumber = seq ∨ (x.afterRound k client reception).Accepted j := by
    rw [hc]
    exact hexpected.imp id accepted_afterRound
  cases hheard with
  | accepted hr _ =>
    rw [hr] at hseq
    obtain rfl : j = k := Option.some.inj (hdrew.symm.trans (hlast hseq))
    exact .inr ⟨_, List.mem_cons_self, rfl, rfl⟩
  | repeated _ hc => exact hsame hc
  | rejected hc => exact hsame hc
  | unheard hc => exact hsame hc

theorem Consistent.answered_afterRound (hx : Consistent server session x)
    (hs : server.secureConfig = none)
    (hseq : ⟨.loadSendSeq session.cells, sequence⟩ ∈ x.history k)
    (hheard : Heard session.channelId sequence x.client.expectedSequenceNumber client reception)
    {telegram : Telegram} (hcall : x.calls[k]? = some (.send telegram)) {ack : TunnellingAck}
    (hack : ackFrame ack ∈ reception.answers) (hok : ack.statusCode = TunnellingAck.statusOk)
    (hrunning : x.Running k) : (x.afterRound k client reception).Accepted k := by
  obtain ⟨c, next, hp⟩ := Exchange.running_iff.mp hrunning
  have hlocked := locked_of_callRule (hx.tracks.obeys k _ _ hcall hp).1 hseq
  obtain ⟨-, hexpected⟩ := hx.drawn hs k sequence hlocked hseq
  cases hheard with
  | accepted _ _ => exact ⟨_, List.mem_cons_self, rfl, rfl⟩
  | repeated hr _ =>
    -- The number is behind the expected one, so that it has been accepted before.
    refine accepted_afterRound (hexpected.resolve_left fun he ↦ ?_)
    rw [← he] at hr
    have hnat := congrArg UInt8.toNat hr
    rw [UInt8.toNat_sub] at hnat
    simp only [UInt8.toNat_one] at hnat
    have := x.client.expectedSequenceNumber.toNat_lt
    omega
  | rejected _ =>
    rw [ackFrame_injective (List.mem_singleton.mp hack)] at hok
    cases hok
  | unheard _ => cases hack

end

theorem Consistent.receive (hx : Consistent server session x) {q : Server.Step} {n : ℕ}
    (hq : x.server.trace[n]? = some q) {frame : List UInt8} (hframe : transmission q = some frame)
    (inputs : ℕ → Env)
    (hprompt : server.secureConfig = none → x.Prompt session (.deliver n inputs)) :
    Consistent server session (x.receive P tunnel q.task frame inputs) := by
  have hmem := List.mem_of_getElem? hq
  obtain ⟨⟨telegram, hcall⟩, hn⟩ := hx.requests q hmem frame hframe
  cases hend : (receivingTask 1).runAlone (delivering P tunnel frame) inputs x.client [] with
  | none =>
    rw [Exchange.receive, hend]
    exact hx
  | some e =>
    rw [Exchange.receive, hend]
    show Consistent server session (x.afterRound q.task e.state (receptionOf e.history))
    have hround (hs : server.secureConfig = none) : ∃ sequence,
        ⟨.loadSendSeq session.cells, sequence⟩ ∈ x.history q.task ∧
          RoundEnd session.channelId sequence x.client.expectedSequenceNumber e.state e.history := by
      obtain ⟨sequence, hseq, hfound | ⟨sent, code, hbuilt⟩⟩ := hn
      · exact absurd hfound ((hx.plain hs).found _)
      · obtain ⟨e', he', hr⟩ := (attains_round (hx.plain hs).client hbuilt).exists_runAlone inputs
        obtain rfl := Option.some.inj (hend.symm.trans he')
        exact ⟨sequence, hseq, hr⟩
    refine ⟨hx.tracks, ?_, hx.held, hx.single, ?_, hx.requests, ?_, ?_, ?_, ?_, ?_, ?_⟩
    · intro hs
      obtain ⟨sequence, -, hr⟩ := hround hs
      exact ⟨(hx.plain hs).recipients, hr.plain, (hx.plain hs).found⟩
    · intro hs j seq hl hload
      obtain ⟨sequence, hseq, hr⟩ := hround hs
      exact hx.drawn_afterRound hs hseq hr.heard (hprompt hs q hq (by simp [hframe])) hl hload
    · intro a ha
      rcases List.mem_cons.mp ha with rfl | ha
      · exact hx.tracks.spawned q hmem
      · exact hx.arrived a ha
    · intro a ha data hdata
      rcases List.mem_cons.mp ha with rfl | ha
      · exact eq_ackFrame_of_mem_answers hend hdata
      · exact hx.acknowledged a ha data hdata
    · intro hs a ha ack hack hok hrunning
      rcases List.mem_cons.mp ha with rfl | ha
      · obtain ⟨sequence, hseq, hr⟩ := hround hs
        exact hx.answered_afterRound hs hseq hr.heard hcall hack hok hrunning
      · exact accepted_afterRound (hx.answered hs a ha ack hack hok hrunning)
    · intro k answered data hk
      obtain ⟨a, ha, hdata⟩ := hx.origins k answered data hk
      exact ⟨a, List.mem_cons_of_mem _ ha, hdata⟩
    · intro k channel ack hchannel hrunning hsent hok
      exact accepted_afterRound (hx.channels k channel ack hchannel hrunning hsent hok)
    · intro k hacked
      exact accepted_afterRound (hx.awaited k hacked)

theorem Consistent.step (hx : Consistent server session x) (event : Event)
    (hprompt : server.secureConfig = none → x.Prompt session event) :
    Consistent server session (x.step P tunnel server session event) := by
  cases event with
  | send telegram => exact hx.spawn (obeys_program_send telegram) (by simp)
  | resume k i => exact hx.resume hprompt
  | deliver n inputs =>
    rw [Exchange.step]
    split
    · rename_i q hq
      split
      · rename_i frame hframe
        exact hx.receive hq hframe inputs hprompt
      · exact hx
    · exact hx
  | acknowledge n m =>
    rw [Exchange.step]
    split
    · rename_i a ha
      split
      · rename_i data hdata
        have hmem := List.mem_of_getElem? ha
        have hanswer := List.mem_of_getElem? hdata
        obtain ⟨ack, rfl⟩ := hx.acknowledged a hmem _ hanswer
        refine hx.spawn (obeys_program_acknowledge a.call ack) ?_
        rintro _ _ ⟨⟩
        exact ⟨a, hmem, rfl, hanswer⟩
      · exact hx
    · exact hx

theorem Consistent.run (hx : Consistent server session x) (events : List Event)
    (hprompt : server.secureConfig = none → PromptRun P tunnel server session x events) :
    Consistent server session (x.run P tunnel server session events) := by
  induction events generalizing x with
  | nil => exact hx
  | cons event events ih =>
    exact ih (hx.step event fun hs ↦ (hprompt hs).1) fun hs ↦ (hprompt hs).2

structure Matches (server : TunnelServer) (s : Server.State) (client : State) : Prop where
  recipients : server.secureConfig = none → ∀ peer, s.secureSessions peer = none
  client : server.secureConfig = none → client.secureSession = none

theorem Matches.consistent {s : Server.State} {client : State} (hm : Matches server s client) :
    Consistent server session (.start s client) := by
  have hlocked (k : ℕ) : ¬ Server.Locked session ((Exchange.start s client).history k) :=
    fun hl ↦ absurd hl.acquired (by simp [Exchange.history, Exchange.start, history])
  refine ⟨⟨rfl, by simp [Exchange.start], by simp [Exchange.start]⟩, fun hs ↦
    ⟨hm.recipients hs, hm.client hs, ?_⟩, fun k hk ↦ absurd hk (hlocked k),
    fun j k hj ↦ absurd hj (hlocked j), fun _ k _ hk ↦ absurd hk (hlocked k),
    by simp [Exchange.start], by simp [Exchange.start], by simp [Exchange.start],
    by simp [Exchange.start], by simp [Exchange.start], ?_, ?_⟩
  · rintro k ⟨peer, entry, hp⟩
    cases hp
  · intro k channel ack hchannel
    cases hchannel
  · rintro k ⟨channel, ack, hacked, -⟩
    cases hacked

/-- In a run whose events all come in time no telegram is reported delivered and
lost. -/
theorem accepted_of_prompt (P : Primitives) (tunnel : Tunnel) (server : TunnelServer)
    (session : ClientSession) (s : Server.State) (client : State) (hm : Matches server s client)
    (events : List Event) (hprompt : server.secureConfig = none →
      PromptRun P tunnel server session (.start s client) events) (k : ℕ) (telegram : Telegram) :
    let x := Exchange.run P tunnel server session (.start s client) events
    x.calls[k]? = some (.send telegram) → x.returned k = some (.ok ()) → x.Accepted k := by
  intro x hcall hreturned
  have hx : Consistent server session x := hm.consistent.run events hprompt
  have hdone : x.server.pool[k]? = some (.done (.ok ())) := by
    unfold Exchange.returned at hreturned
    split at hreturned
    · rename_i r h
      rw [h, Option.some.inj hreturned]
    · cases hreturned
  exact hx.awaited k (hx.tracks.obeys k _ _ hcall hdone rfl)

end

instance (x : Exchange) (k : ℕ) : Decidable (x.Accepted k) := by
  unfold Exchange.Accepted
  infer_instance

namespace Reference

open Security.Reference (primitives)
open Client.Reference (tunnel)
open Application.Reference (temperature)

def server : TunnelServer := { Server.Reference.secureServer with secureConfig := none }

def acknowledged : List Event :=
  .send temperature :: List.replicate 5 (.resume 0 {}) ++
    [.deliver 0 fun _ ↦ {}, .acknowledge 0 0] ++ List.replicate 3 (.resume 1 {}) ++
    List.replicate 3 (.resume 0 {})

/-- The request for a second telegram is lost, and the acknowledgement of the first one
arrives once more. -/
def acknowledgedTwice : List Event :=
  acknowledged ++ .send temperature :: List.replicate 5 (.resume 2 {}) ++ .acknowledge 0 0 ::
    List.replicate 3 (.resume 3 {}) ++ List.replicate 3 (.resume 2 {})

def start : Exchange := .start Server.Reference.connected Application.Reference.connected

theorem matches_start :
    Matches server Server.Reference.connected Application.Reference.connected :=
  ⟨fun _ _ ↦ rfl, fun _ ↦ rfl⟩

theorem returned_acknowledged :
    let x := Exchange.run primitives tunnel server Server.Reference.client start acknowledged
    x.calls[0]? = some (.send temperature) ∧ x.returned 0 = some (.ok ()) := by
  decide +kernel

theorem promptRun_acknowledged :
    PromptRun primitives tunnel server Server.Reference.client start acknowledged := by
  decide +kernel

end Reference

section

open Security.Reference (primitives)
open Client.Reference (tunnel)
open Application.Reference (temperature)

/-- An exchange in which everything arrives once, and in time. -/
theorem accepted_of_prompt_acknowledged :
    let x := Exchange.run primitives tunnel Reference.server Server.Reference.client
      Reference.start Reference.acknowledged
    x.returned 0 = some (.ok ()) ∧ x.Accepted 0 :=
  ⟨Reference.returned_acknowledged.2, accepted_of_prompt primitives tunnel Reference.server
    Server.Reference.client _ _ Reference.matches_start _
    (fun _ ↦ Reference.promptRun_acknowledged) 0 temperature Reference.returned_acknowledged.1
    Reference.returned_acknowledged.2⟩

/-- The second call takes the acknowledgement of the first one for its own and returns
`Ok`, although the client never sees its telegram. -/
theorem late_ack_completes_lost_telegram :
    let x := Exchange.run primitives tunnel Reference.server Server.Reference.client
      Reference.start Reference.acknowledgedTwice
    x.calls[2]? = some (.send temperature) ∧ x.returned 2 = some (.ok ()) ∧ ¬ x.Accepted 2 := by
  decide +kernel

end

end Knust.Application.Delivery

