import Knust.Application.Instance

namespace Knust.Application.Instance

open Foundation Foundation.Task Protocol Transport Transport.Queue

def Command.editsReceiver : Command → Bool
  | .takeReceiver | .finish .. => true
  | _ => false

def Command.editsConnection : Command → Bool
  | .storeConnection .. | .takeConnection => true
  | _ => false

def Command.editsTasks : Command → Bool
  | .startReconnection | .spawn .. | .begin .. | .finish .. => true
  | _ => false

def Command.editsQueue : Command → Bool
  | .enqueue .. | .dequeue .. | .closeQueue => true
  | _ => false

def Command.editsSlots : Command → Bool
  | .startReconnection | .storeTask .. | .takeTask .. => true
  | _ => false

structure State.Unedited (c : Command) (s s' : State) : Prop where
  receiver : c.editsReceiver = false → s'.receiver = s.receiver
  connection : c.editsConnection = false → s'.connection = s.connection ∧ s'.stored = s.stored
  tasks : c.editsTasks = false → s'.tasks = s.tasks
  queue : c.editsQueue = false → s'.queue = s.queue
  slots : c.editsSlots = false → s'.slots = s.slots

abbrev receiverTaken : (c : Command) × c.Response := ⟨.takeReceiver, true⟩

def State.kinds (s : State) : List TaskKind := s.tasks.map Spawned.kind

section

variable {knx : Knx} {c : Command} {i : Env} {s s' : State} {r : c.Response}

theorem exec_unedited (he : exec knx c i s = some (r, s')) : s.Unedited c s' := by
  cases c
  case releaseConnection guard =>
    cases guard
    all_goals
      cases he
      exact ⟨fun _ ↦ rfl, fun _ ↦ ⟨rfl, rfl⟩, fun _ ↦ rfl, fun _ ↦ rfl, fun _ ↦ rfl⟩
  case finish handle =>
    simp only [exec] at he
    split at he
    · cases he
      exact ⟨nofun, fun _ ↦ ⟨rfl, rfl⟩, nofun, fun _ ↦ rfl, fun _ ↦ rfl⟩
    · cases he
      exact ⟨nofun, fun _ ↦ ⟨rfl, rfl⟩, nofun, fun _ ↦ rfl, fun _ ↦ rfl⟩
    · cases he
  all_goals
    simp only [exec] at he
    (repeat' split at he) <;> cases he <;>
      (refine ⟨?_, ?_, ?_, ?_, ?_⟩ <;>
        first
        | exact fun _ ↦ rfl
        | exact fun _ ↦ ⟨rfl, rfl⟩
        | (intro h; cases h))

theorem exec_takeReceiver {taken : Bool} (he : exec knx .takeReceiver i s = some (taken, s')) :
    (taken = true ∧ s.receiver = .stored ∧ s' = { s with receiver := .taken }) ∨
      (taken = false ∧ s' = s) := by
  simp only [exec] at he
  split at he
  · rename_i hstored
    cases he
    exact .inl ⟨rfl, hstored, rfl⟩
  · cases he
    exact .inr ⟨rfl, rfl⟩

theorem exec_finish {handle : ℕ} {u : Unit} (he : exec knx (.finish handle) i s = some (u, s')) :
    ∃ t, s.tasks[handle]? = some t ∧ s'.tasks = s.tasks.set handle ⟨t.kind, .finished⟩ ∧
      (s'.receiver = s.receiver ∨ s'.receiver = .dropped) := by
  simp only [exec] at he
  split at he
  · rename_i connection phase ht
    cases he
    exact ⟨_, ht, rfl, .inr rfl⟩
  · rename_i kind phase _ ht
    cases he
    exact ⟨_, ht, rfl, .inl rfl⟩
  · cases he

theorem exec_receiver (he : exec knx c i s = some (r, s')) (hs : s'.receiver = .stored) :
    s.receiver = .stored ∧ (⟨c, r⟩ : (c : Command) × c.Response) ≠ ⟨.takeReceiver, true⟩ := by
  cases c
  case takeReceiver =>
    obtain ⟨-, -, rfl⟩ | ⟨rfl, rfl⟩ := exec_takeReceiver he
    · cases hs
    · exact ⟨hs, nofun⟩
  case finish handle =>
    obtain ⟨t, -, -, hsame | hdropped⟩ := exec_finish he
    · exact ⟨hsame ▸ hs, nofun⟩
    · rw [hdropped] at hs
      cases hs
  all_goals exact ⟨(exec_unedited he).receiver rfl ▸ hs, nofun⟩

theorem push_closed (config : QueueConfig) (direction : Direction) (telegram : Telegram)
    {queue : QueueState} (hclosed : queue.closed = true) :
    queue.push config direction telegram = (.err (.transport .queueClosed), queue) := by
  cases direction
  · simp only [QueueState.push, QueueState.pushIncoming, hclosed, if_true]
  · simp only [QueueState.push, QueueState.pushOutgoing, hclosed, if_true]

theorem pop_closed (heap : HeapPop PriorityTelegram PriorityTelegram.cmp) (direction : Direction)
    (queue : QueueState) : (queue.pop heap direction).2.closed = queue.closed := by
  cases direction with
  | incoming =>
    obtain ⟨t, rest, -, h⟩ | ⟨-, -, h⟩ | ⟨-, -, h⟩ := QueueState.popIncoming_cases queue
    all_goals exact congrArg (fun popped ↦ popped.2.closed) h
  | outgoing =>
    obtain ⟨p, rest, -, h⟩ | ⟨-, -, h⟩ | ⟨-, -, h⟩ := QueueState.popOutgoing_cases heap queue
    all_goals exact congrArg (fun popped ↦ popped.2.closed) h

theorem exec_closed (he : exec knx c i s = some (r, s')) (hs : s.queue.closed = true) :
    s'.queue.closed = true := by
  cases c
  case enqueue direction telegram =>
    simp only [exec, push_closed knx.queueConfig direction telegram hs] at he
    cases he
    exact hs
  case dequeue direction =>
    have hpop := pop_closed knx.heap direction s.queue
    simp only [exec] at he
    split at he
    · rename_i telegram queue hq
      cases he
      rw [hq] at hpop
      exact hpop.trans hs
    · rename_i queue hq
      cases he
      rw [hq] at hpop
      exact hpop.trans hs
    · cases he
  case closeQueue =>
    cases he
    rfl
  all_goals exact (exec_unedited he).queue rfl ▸ hs

theorem exec_readConnection {connection : Option Connection}
    (he : exec knx .readConnection i s = some (connection, s')) :
    connection = s.connection ∧ s' = { s with readers := s.readers + 1 } := by
  simp only [exec] at he
  split at he
  · cases he
  · cases he
    exact ⟨rfl, rfl⟩

theorem exec_storeConnection {link : Link} {u : Unit}
    (he : exec knx (.storeConnection link) i s = some (u, s')) :
    s' = { s with connection := some ⟨s.stored, link⟩, stored := s.stored + 1 } := by
  simp only [exec] at he
  split at he
  · cases he
    rfl
  · cases he

theorem exec_connection (he : exec knx c i s = some (r, s'))
    (hs : ∀ x, s.connection = some x → x.number + 1 = s.stored) :
    s.stored ≤ s'.stored ∧ (∀ x, s'.connection = some x → x.number + 1 = s'.stored) := by
  cases c
  case storeConnection link =>
    rw [exec_storeConnection he]
    refine ⟨Nat.le_succ _, ?_⟩
    rintro x ⟨⟩
    rfl
  case takeConnection =>
    simp only [exec] at he
    split at he
    · cases he
      exact ⟨le_rfl, nofun⟩
    · cases he
  all_goals
    obtain ⟨hconnection, hstored⟩ := (exec_unedited he).connection rfl
    rw [hconnection, hstored]
    exact ⟨le_rfl, hs⟩

theorem kinds_set {handle : ℕ} {kind : TaskKind} {phase : Phase} (phase' : Phase)
    (ht : s.tasks[handle]? = some ⟨kind, phase⟩) :
    (s.tasks.set handle ⟨kind, phase'⟩).map Spawned.kind = s.kinds := by
  obtain ⟨hlt, hget⟩ := List.getElem?_eq_some_iff.mp ht
  have hkind : (s.tasks.map Spawned.kind).get ⟨handle, by simpa using hlt⟩ = kind := by
    simp [hget]
  rw [List.map_set, State.kinds]
  conv_lhs => rw [← hkind]
  exact List.set_getElem_self _

theorem exec_kinds (he : exec knx c i s = some (r, s')) :
    s'.kinds = s.kinds ∨ ∃ kind, s'.kinds = s.kinds ++ [kind] ∧
      (c = .spawn kind ∨ (c = .startReconnection ∧ kind = .reconnection)) := by
  cases c
  case startReconnection =>
    simp only [exec] at he
    (repeat' split at he) <;> cases he
    · exact .inr ⟨.reconnection, by simp [State.kinds, State.spawn], .inr ⟨rfl, rfl⟩⟩
    · exact .inl rfl
  case spawn kind =>
    cases he
    exact .inr ⟨kind, by simp [State.kinds, State.spawn], .inl rfl⟩
  case begin handle kind =>
    simp only [exec] at he
    split at he
    · rename_i hspawned
      cases he
      exact .inl (kinds_set .running hspawned)
    · cases he
  case finish handle =>
    obtain ⟨t, ht, htasks, -⟩ := exec_finish he
    rw [State.kinds, htasks]
    exact .inl (kinds_set .finished ht)
  all_goals
    left
    rw [State.kinds, (exec_unedited he).tasks rfl, State.kinds]

theorem kinds_subset (he : exec knx c i s = some (r, s')) {kind : TaskKind}
    (hkind : kind ∈ s.kinds) : kind ∈ s'.kinds := by
  obtain hsame | ⟨new, hnew, -⟩ := exec_kinds he
  · rwa [hsame]
  · rw [hnew]
    exact List.mem_append_left _ hkind

theorem exec_begin {handle : ℕ} {kind : TaskKind} {u : Unit}
    (he : exec knx (.begin handle kind) i s = some (u, s')) : kind ∈ s.kinds := by
  simp only [exec] at he
  split at he
  · rename_i hspawned
    exact List.mem_map_of_mem (List.mem_of_getElem? hspawned)
  · cases he

end

/-- The commands that the body of a task may issue: it uses the connection that it has
captured, and only the control task deals with the control events. -/
def Command.Within (kind : TaskKind) : Command → Prop
  | .send connection _ | .recv connection | .validateSequenceNumber connection _
  | .sendTunnellingAck connection _ _ _ | .nextSequence connection =>
    kind.connection? = some connection
  | .receiveControl | .startReconnection => ∃ connection, kind = .control connection
  | .readConnection | .takeReceiver | .spawn .. | .begin .. | .finish .. | .storeTask .. => False
  | _ => True

abbrev StaysWithin {α : Type} (kind : TaskKind) (p : Handler α) : Prop :=
  p.Follows fun _ c ↦ c.Within kind

section

variable {kind : TaskKind} {connection : Connection}

theorem staysWithin_rethrow {α : Type} (x : Except KnxError α) : StaysWithin kind (rethrow x) := by
  cases x <;> exact .done _

theorem staysWithin_enterState (state : KnxState) : StaysWithin kind (enterState state) :=
  .bind (.perform fun _ ↦ trivial) fun _ ↦ .perform fun _ ↦ trivial

theorem staysWithin_open (target : Target) : StaysWithin kind
    (Instance.perform (.open target) >>= fun opened ↦ rethrow opened) :=
  .bind (.perform fun _ ↦ trivial) staysWithin_rethrow

variable (knx : Knx)

theorem staysWithin_openUdpTunnel : StaysWithin kind (openUdpTunnel knx) :=
  .bind (.done _) fun _ ↦ .bind (.done _) fun _ ↦ staysWithin_open _

theorem staysWithin_openTcpTunnel : StaysWithin kind (openTcpTunnel knx) :=
  .bind (.done _) fun _ ↦ staysWithin_open _

theorem staysWithin_createConnection : StaysWithin kind (createConnection knx) := by
  unfold createConnection
  split
  · exact staysWithin_openUdpTunnel knx
  · exact staysWithin_openUdpTunnel knx
  · exact staysWithin_openTcpTunnel knx
  · exact staysWithin_open _
  · exact .done _

theorem staysWithin_connectionResult : StaysWithin kind (connectionResult knx) := by
  have hudp : StaysWithin kind (openUdpTunnel knx >>= fun link ↦ keepChannelId link >>= fun _ ↦
      (pure (.ok link) : Handler (Except KnxError Link))) := by
    refine .bind (staysWithin_openUdpTunnel knx) fun link ↦ .bind ?_ fun _ ↦ .done _
    cases link with
    | tunnel channelId => exact .perform fun _ ↦ trivial
    | routing => exact .done _
  unfold connectionResult
  split
  · exact hudp
  · exact hudp
  · exact .bind (staysWithin_openTcpTunnel knx) fun _ ↦ .done _
  · exact .attempt (staysWithin_open _)
  · exact .done _

theorem staysWithin_connect : StaysWithin kind (connect knx) := by
  refine .bind (staysWithin_enterState _) fun _ ↦
    .bind (staysWithin_connectionResult knx) fun result ↦ ?_
  cases result with
  | ok link => exact .bind (.perform fun _ ↦ trivial) fun _ ↦ staysWithin_enterState _
  | error e => exact .bind (staysWithin_enterState _) fun _ ↦ .done _

theorem staysWithin_closeTaken (taken : Option Connection) : StaysWithin kind (closeTaken taken) := by
  cases taken with
  | none => exact .perform fun _ ↦ trivial
  | some connection =>
    exact .bind (.perform fun _ ↦ trivial) fun closed ↦ .bind (.perform fun _ ↦ trivial) fun _ ↦
      staysWithin_rethrow closed

theorem staysWithin_disconnect : StaysWithin kind disconnect :=
  .bind (staysWithin_enterState _) fun _ ↦ .bind (.perform fun _ ↦ trivial) fun taken ↦
    .bind (staysWithin_closeTaken taken) fun _ ↦ staysWithin_enterState _

theorem staysWithin_sendTelegram (telegram : Telegram) :
    StaysWithin kind (sendTelegram knx telegram) :=
  .bind (.perform fun _ ↦ trivial) fun _ ↦ .done _

theorem staysWithin_awaitTask (slot : Slot) (timeoutMs : ℕ) :
    StaysWithin kind (awaitTask slot timeoutMs) := by
  refine .bind (.perform fun _ ↦ trivial) fun handle ↦ ?_
  cases handle with
  | none => exact fun h ↦ ⟨trivial, fun _ ↦ trivial⟩
  | some handle => exact fun h ↦ ⟨trivial, fun _ ↦ ⟨trivial, fun _ ↦ trivial⟩⟩

theorem staysWithin_stop : StaysWithin kind stop :=
  .bind (.perform fun _ ↦ trivial) fun _ ↦ .bind (.perform fun _ ↦ trivial) fun _ ↦
    .bind (staysWithin_awaitTask _ _) fun _ ↦ .bind (staysWithin_awaitTask _ _) fun _ ↦
    .bind (staysWithin_awaitTask _ _) fun _ ↦ .bind (staysWithin_awaitTask _ _) fun _ ↦
    .bind (staysWithin_awaitTask _ _) fun _ ↦ .bind (staysWithin_awaitTask _ _) fun _ ↦
    .perform fun _ ↦ trivial

theorem staysWithin_enqueueCemi (cemiData : List UInt8) : StaysWithin kind (enqueueCemi cemiData) :=
  .bind (.perform fun _ ↦ trivial) fun _ ↦ .bind (.done _) fun _ ↦ .perform fun _ ↦ trivial

theorem staysWithin_handleTunnellingRequest (hkind : kind.connection? = some connection)
    (body : List UInt8) : StaysWithin kind (handleTunnellingRequest body connection) := by
  refine .bind (.done _) fun request ↦ ?_
  cases connection.link with
  | routing => exact staysWithin_enqueueCemi _
  | tunnel channelId =>
    have hack (status : UInt8) : StaysWithin kind (Instance.perform (.sendTunnellingAck connection
        request.communicationChannelId request.sequenceCounter status) >>= fun _ ↦ pure ()) :=
      .bind (.perform fun _ ↦ hkind) fun _ ↦ .done _
    refine .bind (.perform fun _ ↦ hkind) fun validation ↦ ?_
    cases validation with
    | valid => exact .bind (hack _) fun _ ↦ staysWithin_enqueueCemi _
    | duplicate => exact hack _
    | invalid expected received => exact hack _

theorem staysWithin_handleDisconnectRequest (body : List UInt8) (currentChannelId : Option UInt8) :
    StaysWithin kind (handleDisconnectRequest body currentChannelId) := by
  unfold handleDisconnectRequest
  split
  · exact .done _
  · refine .bind (.done _) fun request ↦ ?_
    dsimp only
    split
    · exact .bind (.perform fun _ ↦ trivial) fun _ ↦ .perform fun _ ↦ trivial
    · exact .done _

theorem staysWithin_handleIncomingFrame (hkind : kind.connection? = some connection)
    (data : List UInt8) (currentChannelId : Option UInt8) :
    StaysWithin kind (handleIncomingFrame data currentChannelId connection) := by
  refine .bind (.done _) fun frame ↦ ?_
  split
  · exact .bind (staysWithin_handleTunnellingRequest hkind _) fun _ ↦ .done _
  · exact .bind (staysWithin_enqueueCemi _) fun _ ↦ .done _
  · exact .bind (staysWithin_handleDisconnectRequest _ _) fun _ ↦ .done _
  · exact .bind (.done _) fun _ ↦ .done _
  · exact .bind (.done _) fun _ ↦ .done _
  · exact .bind (.done _) fun _ ↦ .done _
  all_goals exact .done _

theorem staysWithin_receivingTask (rounds : ℕ) :
    StaysWithin (.receiving connection) (receivingTask connection rounds) := by
  induction rounds with
  | zero => exact .done _
  | succ rounds ih =>
    have hstopping : StaysWithin (.receiving connection)
        (Instance.perform .closeQueue >>= fun _ ↦ pure true) :=
      .bind (.perform fun _ ↦ trivial) fun _ ↦ .done _
    refine .bind (.perform fun _ ↦ trivial) fun stopped ↦ ?_
    cases stopped with
    | true => exact hstopping
    | false =>
      refine .bind (.perform fun _ ↦ rfl) fun received ↦ ?_
      match received with
      | some (.error _) => exact hstopping
      | none =>
        refine .bind (.perform fun _ ↦ trivial) fun stopped ↦ ?_
        cases stopped with
        | true => exact hstopping
        | false => exact ih
      | some (.ok data) =>
        refine .bind (.perform fun _ ↦ trivial) fun allocated ↦ ?_
        cases allocated with
        | false => exact ih
        | true =>
          exact .bind (.perform fun _ ↦ trivial) fun currentChannelId ↦
            .bind (.attempt (staysWithin_handleIncomingFrame rfl _ _)) fun _ ↦ ih

theorem staysWithin_isDrained : StaysWithin kind isDrained := by
  refine .bind (.perform fun _ ↦ trivial) fun stopped ↦ ?_
  cases stopped with
  | true => exact .perform fun _ ↦ trivial
  | false => exact .done _

theorem staysWithin_processingTask (rounds : ℕ) : StaysWithin kind (processingTask rounds) := by
  induction rounds with
  | zero => exact .done _
  | succ rounds ih =>
    refine .bind staysWithin_isDrained fun drained ↦ ?_
    cases drained with
    | true => exact .done _
    | false =>
      refine .bind (.perform fun _ ↦ trivial) fun telegram ↦ ?_
      cases telegram with
      | none => exact .done _
      | some telegram => exact .bind (.perform fun _ ↦ trivial) fun _ ↦ ih

theorem staysWithin_sendingTask (rounds : ℕ) :
    StaysWithin (.sending connection) (sendingTask connection rounds) := by
  have hbuild (telegram : Telegram) :
      StaysWithin (.sending connection) (buildOutgoingFrame telegram connection) := by
    unfold buildOutgoingFrame
    split
    · exact .bind (.perform fun _ ↦ rfl) fun _ ↦ .done _
    · exact .done _
  induction rounds with
  | zero => exact .done _
  | succ rounds ih =>
    refine .bind staysWithin_isDrained fun drained ↦ ?_
    cases drained with
    | true => exact .done _
    | false =>
      refine .bind (.perform fun _ ↦ trivial) fun telegram ↦ ?_
      cases telegram with
      | none => exact .done _
      | some telegram =>
        exact .bind (hbuild telegram) fun _ ↦ .bind (.perform fun _ ↦ rfl) fun _ ↦ ih

theorem staysWithin_refreshTask (rounds : ℕ) : StaysWithin kind (refreshTask knx rounds) := by
  induction rounds with
  | zero => exact .done _
  | succ rounds ih =>
    refine .bind (.perform fun _ ↦ trivial) fun stopped ↦ ?_
    cases stopped with
    | true => exact .done _
    | false =>
      refine .bind (.perform fun _ ↦ trivial) fun _ ↦ .bind (.perform fun _ ↦ trivial) fun stopped ↦ ?_
      cases stopped with
      | true => exact .done _
      | false =>
        refine .bind (.perform fun _ ↦ trivial) fun stale ↦ ?_
        cases stale with
        | none => exact ih
        | some address =>
          exact .bind (.perform fun _ ↦ trivial) fun _ ↦
            .bind (.attempt (staysWithin_sendTelegram knx _)) fun _ ↦ ih

theorem staysWithin_cleanupTask (rounds : ℕ) : StaysWithin kind (cleanupTask rounds) := by
  induction rounds with
  | zero => exact .done _
  | succ rounds ih =>
    refine .bind (.perform fun _ ↦ trivial) fun stopped ↦ ?_
    cases stopped with
    | true => exact .done _
    | false => exact .bind (.perform fun _ ↦ trivial) fun _ ↦ ih

theorem staysWithin_drainTask (rounds : ℕ) : StaysWithin kind (drainTask rounds) := by
  induction rounds with
  | zero => exact .done _
  | succ rounds ih =>
    exact .bind (.perform fun _ ↦ trivial) fun _ ↦ .bind (.perform fun _ ↦ trivial) fun _ ↦ ih

theorem staysWithin_reconnectionTask (delayMs attempt rounds : ℕ) :
    StaysWithin kind (reconnectionTask knx delayMs attempt rounds) := by
  induction rounds generalizing delayMs attempt with
  | zero => exact .done _
  | succ rounds ih =>
    refine .bind (.perform fun _ ↦ trivial) fun stopped ↦ ?_
    cases stopped with
    | true => exact .done _
    | false =>
      simp only [Bool.false_eq_true, if_false]
      split
      · exact .done _
      refine .bind (.attempt (staysWithin_createConnection knx)) fun created ↦ ?_
      cases created with
      | error e => exact .bind (.perform fun _ ↦ trivial) fun _ ↦ ih _ _
      | ok link =>
        refine .bind (.perform fun _ ↦ trivial) fun _ ↦ .bind (.perform fun _ ↦ trivial) fun _ ↦ ?_
        have hrest : StaysWithin kind (Instance.perform (.notifyConnectionStateChanged .connected) >>=
            fun _ ↦ pure true) := .bind (.perform fun _ ↦ trivial) fun _ ↦ .done _
        cases establishConnection knx link with
        | none => exact hrest
        | some channelId => exact .bind (.perform fun _ ↦ trivial) fun _ ↦ hrest

theorem staysWithin_handleTunnelLost (channelId : UInt8) (reason : String) :
    StaysWithin (.control connection) (handleTunnelLost knx channelId reason) := by
  refine .bind (staysWithin_enterState _) fun _ ↦ .bind (.perform fun _ ↦ trivial) fun taken ↦
    .bind (.attempt (staysWithin_closeTaken taken)) fun _ ↦ ?_
  split
  · exact .bind (.perform fun _ ↦ ⟨connection, rfl⟩) fun _ ↦ .done _
  · exact .done _

theorem staysWithin_controlTask (rounds : ℕ) :
    StaysWithin (.control connection) (controlTask knx connection rounds) := by
  induction rounds with
  | zero => exact .done _
  | succ rounds ih =>
    refine .bind (.perform fun _ ↦ ⟨connection, rfl⟩) fun event ↦ ?_
    match event with
    | some (.sendDisconnectResponse channelId) =>
      exact .bind (.bind (.perform fun _ ↦ rfl) fun _ ↦ .perform fun _ ↦ trivial) fun _ ↦ ih
    | some (.tunnelLost channelId reason) =>
      refine .bind (staysWithin_handleTunnelLost knx channelId reason) fun _ ↦ ?_
      split
      · exact ih
      · exact .done _
    | none =>
      refine .bind (.perform fun _ ↦ trivial) fun stopped ↦ ?_
      cases stopped with
      | true => exact .done _
      | false => exact ih

theorem staysWithin_taskBody (kind : TaskKind) (rounds : ℕ) :
    StaysWithin kind (taskBody knx kind rounds) := by
  cases kind with
  | drain => exact staysWithin_drainTask rounds
  | cleanup => exact staysWithin_cleanupTask rounds
  | control connection => exact staysWithin_controlTask knx rounds
  | receiving connection => exact staysWithin_receivingTask rounds
  | processing => exact staysWithin_processingTask rounds
  | sending connection => exact staysWithin_sendingTask rounds
  | refresh => exact staysWithin_refreshTask knx rounds
  | reconnection => exact staysWithin_reconnectionTask knx _ _ rounds

end

def Command.InStart : Command → Prop
  | .readConnection | .takeReceiver | .spawn .. | .releaseConnection .. => True
  | .storeTask slot _ => slot ≠ .reconnect
  | _ => False

theorem follows_start : start.Follows fun _ c ↦ c.InStart := by
  have htask {slot : Slot} (hslot : slot ≠ .reconnect) (kind : TaskKind) :
      (startTask slot kind).Follows fun _ c ↦ c.InStart :=
    .bind (.perform fun _ ↦ trivial) fun _ ↦ .perform fun _ ↦ hslot
  refine .bind (.perform fun _ ↦ trivial) fun connection ↦ .bind (.attempt ?_) fun started ↦
    .bind (.perform fun _ ↦ trivial) fun _ ↦ ?_
  · cases connection with
    | none => exact .done _
    | some connection =>
      refine .bind (.bind (.perform fun _ ↦ trivial) fun taken ↦ ?_) fun _ ↦
        .bind (htask (by decide) _) fun _ ↦ .bind (htask (by decide) _) fun _ ↦
        .bind (.bind (.perform fun _ ↦ trivial) fun _ ↦ .done _) fun _ ↦ htask (by decide) _
      cases taken with
      | false => exact .done _
      | true => exact htask (by decide) _
  · cases started with
    | ok u => exact .done _
    | error e => exact .done _

/-- A task, and likewise a call, begins and ends with commands of the runtime. -/
def Command.Frames : Command → Prop
  | .begin .. | .finish .. => True
  | _ => False

theorem follows_program (knx : Knx) (activity : Activity) : (program knx activity).Follows
    fun _ c ↦ c.Frames ∨ c.InStart ∨ ∃ kind, c.Within kind := by
  have hwithin {α : Type} {kind : TaskKind} {p : Handler α} (hp : StaysWithin kind p) :
      p.Follows fun _ c ↦ c.Frames ∨ c.InStart ∨ ∃ kind, c.Within kind :=
    fun h ↦ (hp h).imp fun _ _ hc ↦ .inr (.inr ⟨kind, hc⟩)
  have hcall {p : Handler Unit} (hp : StaysWithin .drain p) :
      p.Follows fun _ c ↦ c.Frames ∨ c.InStart ∨ ∃ kind, c.Within kind := hwithin hp
  cases activity with
  | connect => exact hcall (staysWithin_connect knx)
  | disconnect => exact hcall staysWithin_disconnect
  | start => exact fun h ↦ (follows_start h).imp fun _ _ hc ↦ .inr (.inl hc)
  | stop => exact hcall staysWithin_stop
  | shutdown => exact hcall (.bind staysWithin_stop fun _ ↦ staysWithin_disconnect)
  | sendTelegram telegram => exact hcall (staysWithin_sendTelegram knx telegram)
  | task handle kind rounds =>
    refine .bind (.perform fun _ ↦ .inl trivial) fun _ ↦
      .bind (hwithin (staysWithin_taskBody knx kind rounds)) fun ended ↦ ?_
    cases ended with
    | false => exact .done _
    | true => exact .perform fun _ ↦ .inl trivial

end Knust.Application.Instance
