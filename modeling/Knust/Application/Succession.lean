import Knust.Application.Lifecycle

namespace Knust.Application.Instance

open Foundation Foundation.Task Protocol Transport

/-- The connection that a task uses with the command, to send or to receive. -/
def Command.uses : Command → Option Connection
  | .send connection _ | .recv connection | .validateSequenceNumber connection _
  | .sendTunnellingAck connection _ _ _ | .nextSequence connection => some connection
  | _ => none

def Begun (kind : TaskKind) (h : History Command Command.Response) : Prop :=
  ∃ handle, ⟨.begin handle kind, ()⟩ ∈ h

def Renewed (trace : List Step) : Prop :=
  ∃ r ∈ trace, (∃ link, r.command = .storeConnection link) ∧
    Begun .reconnection (history r.task trace)

/-- A connection is used by the tasks that have captured it. It is captured by the start
that has taken the receiver, which has read it before. -/
def lineageRule (h : History Command Command.Response) : Command → Prop
  | .readConnection => receiverTaken ∉ h
  | .spawn kind => kind ≠ .reconnection ∧ ∀ connection, kind.connection? = some connection →
      ⟨.readConnection, some connection⟩ ∈ h ∧ receiverTaken ∈ h
  | .begin .. => h = []
  | .startReconnection => ∃ connection, Begun (.control connection) h
  | c => ∀ connection, c.uses = some connection →
      ∃ kind, Begun kind h ∧ kind.connection? = some connection

variable {h : Past}

theorem Begun.cons {kind : TaskKind} (hb : Begun kind h) (e : (c : Command) × c.Response) :
    Begun kind (e :: h) :=
  hb.imp fun _ hmem ↦ List.mem_cons_of_mem e hmem

theorem lineageRule_of_within {kind : TaskKind} (hb : Begun kind h) {c : Command}
    (hc : c.Within kind) : lineageRule h c := by
  cases c
  case startReconnection =>
    obtain ⟨connection, rfl⟩ := hc
    exact ⟨connection, hb⟩
  case readConnection => exact hc.elim
  case spawn => exact hc.elim
  case begin => exact hc.elim
  case finish => exact hc.elim
  all_goals
    intro connection hused
    cases hused <;> exact ⟨kind, hb, hc⟩

theorem lineageRule_of_call {c : Command} (hc : c.Within .drain) : lineageRule h c := by
  cases c
  case startReconnection =>
    obtain ⟨connection, hkind⟩ := hc
    cases hkind
  case readConnection => exact hc.elim
  case spawn => exact hc.elim
  case begin => exact hc.elim
  case finish => exact hc.elim
  all_goals
    intro connection hused
    cases hused <;> exact absurd hc nofun

theorem obeys_start_lineage : start.Obeys lineageRule (fun _ _ ↦ True) [] := by
  have hstore (slot : Slot) (handle : ℕ) (h : Past) :
      lineageRule h (.storeTask slot handle) := nofun
  have hspawn (kind : TaskKind) (hkind : kind ≠ .reconnection ∧ kind.connection? = none)
      (h : Past) : lineageRule h (.spawn kind) :=
    ⟨hkind.1, fun connection hc ↦ by rw [hkind.2] at hc; cases hc⟩
  refine ⟨by simp [lineageRule], fun connection ↦ ?_⟩
  cases connection with
  | none => exact ⟨nofun, fun _ ↦ trivial⟩
  | some connection =>
    refine ⟨nofun, fun taken ↦ ?_⟩
    cases taken with
    | false => exact ⟨nofun, fun _ ↦ trivial⟩
    | true =>
      have hcapture (kind : TaskKind) (hkind : kind ≠ .reconnection ∧
          kind.connection? = some connection) (h : Past) :
          lineageRule (h ++ [receiverTaken, ⟨.readConnection, some connection⟩]) (.spawn kind) := by
        refine ⟨hkind.1, fun captured hc ↦ ?_⟩
        rw [hkind.2] at hc
        cases hc
        simp
      refine ⟨hcapture (.control connection) (by simp [TaskKind.connection?]) [], fun control ↦
        ⟨hstore _ _ _, fun _ ↦ ?_⟩⟩
      refine ⟨hcapture (.receiving connection) (by simp [TaskKind.connection?]) [_, _],
        fun receiving ↦ ⟨hstore _ _ _, fun _ ↦ ?_⟩⟩
      refine ⟨hspawn .processing (by simp [TaskKind.connection?]) _, fun processing ↦
        ⟨hstore _ _ _, fun _ ↦ ?_⟩⟩
      refine ⟨hcapture (.sending connection) (by simp [TaskKind.connection?]) [_, _, _, _, _, _],
        fun sending ↦ ?_⟩
      exact ⟨hspawn .refresh (by simp [TaskKind.connection?]) _, fun refresh ↦
        ⟨hstore _ _ _, fun _ ↦ ⟨nofun, fun _ ↦ trivial⟩⟩⟩

theorem obeys_program_lineage (knx : Knx) (activity : Activity) :
    (program knx activity).Obeys lineageRule (fun _ _ ↦ True) [] := by
  have hcall {p : Handler Unit} (hp : StaysWithin .drain p) :
      p.Obeys lineageRule (fun _ _ ↦ True) [] :=
    (hp []).imp fun _ _ hc ↦ lineageRule_of_call hc
  cases activity with
  | connect => exact hcall (staysWithin_connect knx)
  | disconnect => exact hcall staysWithin_disconnect
  | start => exact obeys_start_lineage
  | stop => exact hcall staysWithin_stop
  | shutdown => exact hcall (.bind staysWithin_stop fun _ ↦ staysWithin_disconnect)
  | sendTelegram telegram => exact hcall (staysWithin_sendTelegram knx telegram)
  | task handle kind rounds =>
    refine ⟨rfl, fun _ ↦ ?_⟩
    have hbody : (taskBody knx kind rounds).Obeys lineageRule (fun h _ ↦ Begun kind h)
        [⟨.begin handle kind, ()⟩] :=
      (staysWithin_taskBody knx kind rounds []).carry
        (fun _ _ hb hc ↦ lineageRule_of_within hb hc) (fun _ _ _ hb _ ↦ hb.cons _)
        ⟨handle, List.mem_cons_self⟩
    refine hbody.bind_true fun h ended _ ↦ ?_
    cases ended with
    | false => trivial
    | true => exact ⟨nofun, fun _ ↦ trivial⟩

/-- Up to the number `n` the connections have been stored before the receiver was taken.
Only these can have been captured, and a reconnection leads beyond them. -/
structure Succession (n : ℕ) (trace : List Step) (s : State) : Prop where
  latest : ∀ connection, s.connection = some connection → connection.number + 1 = s.stored
  read : ∀ k connection, ⟨.readConnection, some connection⟩ ∈ history k trace →
    connection.number < s.stored
  bound : n ≤ s.stored
  starter : ∀ k connection, receiverTaken ∈ history k trace →
    ⟨.readConnection, some connection⟩ ∈ history k trace → connection.number < n
  captured : ∀ kind ∈ s.kinds, ∀ connection, kind.connection? = some connection →
    connection.number < n
  begun : ∀ k kind, Begun kind (history k trace) → kind ∈ s.kinds
  idle : s.receiver = .stored → (∀ k, receiverTaken ∉ history k trace) ∧
    ∀ kind ∈ s.kinds, kind.connection? = none ∧ kind ≠ .reconnection
  renewed : Renewed trace → n < s.stored

theorem Succession.start : Succession 0 [] .new where
  latest := nofun
  read := nofun
  bound := le_rfl
  starter := nofun
  captured := by
    intro kind hkind connection hconnection
    simp only [State.kinds, State.new, List.map_cons, List.map_nil, List.mem_cons,
      List.not_mem_nil, or_false] at hkind
    rcases hkind with rfl | rfl <;> cases hconnection
  begun := by rintro k kind ⟨handle, hmem⟩; cases hmem
  idle := fun _ ↦ ⟨nofun, by simp [State.kinds, State.new, TaskKind.connection?]⟩
  renewed := by rintro ⟨r, hr, -⟩; cases hr

section

variable {knx : Knx} {n k : ℕ} {c : Command} {i : Env} {r : c.Response} {s s' : State}
  {trace : List Step}

theorem Succession.read_cons (hinv : Succession n trace s) (he : exec knx c i s = some (r, s'))
    (j : ℕ) (connection : Connection) (hread : ⟨.readConnection, some connection⟩ ∈
      history j (⟨k, c, r, s, s'⟩ :: trace)) : connection.number < s.stored := by
  rcases mem_history_cons.mp hread with ⟨-, hnow⟩ | hold
  · cases hnow
    have hlatest := hinv.latest connection (exec_readConnection he).1.symm
    omega
  · exact hinv.read j connection hold

theorem Succession.begun_cons (hinv : Succession n trace s) (he : exec knx c i s = some (r, s'))
    (j : ℕ) (kind : TaskKind) (hbegun : Begun kind (history j (⟨k, c, r, s, s'⟩ :: trace))) :
    kind ∈ s'.kinds := by
  obtain ⟨handle, hmem⟩ := hbegun
  rcases mem_history_cons.mp hmem with ⟨-, hnow⟩ | hold
  · cases hnow
    exact kinds_subset he (exec_begin he)
  · exact kinds_subset he (hinv.begun j kind ⟨handle, hold⟩)

theorem Succession.take (hinv : Succession n trace s)
    (he : exec knx .takeReceiver i s = some (true, s')) :
    Succession s.stored (⟨k, .takeReceiver, true, s, s'⟩ :: trace) s' := by
  have hbegun := hinv.begun_cons (k := k) he
  have hread := hinv.read_cons (k := k) he
  obtain ⟨-, hstored, rfl⟩ | ⟨hfalse, -⟩ := exec_takeReceiver he
  swap
  · cases hfalse
  obtain ⟨-, hidle⟩ := hinv.idle hstored
  refine ⟨hinv.latest, hread, le_rfl, fun j connection _ h ↦ hread j connection h, ?_, hbegun,
    nofun, ?_⟩
  · intro kind hkind connection hconnection
    rw [(hidle kind hkind).1] at hconnection
    cases hconnection
  · rintro ⟨r', -, -, hb⟩
    exact absurd rfl (hidle _ (hbegun _ _ hb)).2

theorem Succession.exec (hinv : Succession n trace s) (hrule : lineageRule (history k trace) c)
    (he : exec knx c i s = some (r, s'))
    (htaken : receiverTaken ≠ (⟨c, r⟩ : (c : Command) × c.Response)) :
    Succession n (⟨k, c, r, s, s'⟩ :: trace) s' := by
  obtain ⟨hmono, hlatest⟩ := exec_connection he hinv.latest
  have hold {j : ℕ} (hj : receiverTaken ∈ history j (⟨k, c, r, s, s'⟩ :: trace)) :
      receiverTaken ∈ history j trace :=
    (mem_history_cons.mp hj).resolve_left fun h ↦ htaken h.2
  refine ⟨hlatest, fun j connection h ↦ (hinv.read_cons he j connection h).trans_le hmono,
    hinv.bound.trans hmono, ?_, ?_, hinv.begun_cons he, ?_, ?_⟩
  · intro j connection hj hread
    rcases mem_history_cons.mp hread with ⟨rfl, hnow⟩ | hread
    · -- The call that has taken the receiver does not read again.
      cases hnow
      exact absurd (hold hj) hrule
    · exact hinv.starter j connection (hold hj) hread
  · intro kind hkind connection hconnection
    obtain hsame | ⟨new, hnew, hcommand⟩ := exec_kinds he
    · exact hinv.captured kind (hsame ▸ hkind) connection hconnection
    rw [hnew, List.mem_append, List.mem_singleton] at hkind
    rcases hkind with hkind | rfl
    · exact hinv.captured kind hkind connection hconnection
    rcases hcommand with rfl | ⟨-, rfl⟩
    · obtain ⟨hread, htook⟩ := hrule.2 connection hconnection
      exact hinv.starter k connection htook hread
    · cases hconnection
  · intro hstored
    obtain ⟨hbefore, hne⟩ := exec_receiver he hstored
    obtain ⟨hnever, hkinds⟩ := hinv.idle hbefore
    refine ⟨fun j hj ↦ hnever j (hold hj), fun kind hkind ↦ ?_⟩
    obtain hsame | ⟨new, hnew, hcommand⟩ := exec_kinds he
    · exact hkinds kind (hsame ▸ hkind)
    rw [hnew, List.mem_append, List.mem_singleton] at hkind
    rcases hkind with hkind | rfl
    · exact hkinds kind hkind
    rcases hcommand with rfl | ⟨rfl, -⟩
    · refine ⟨Option.eq_none_iff_forall_ne_some.mpr fun connection hc ↦ ?_, hrule.1⟩
      exact hnever k (hrule.2 connection hc).2
    · obtain ⟨connection, hb⟩ := hrule
      cases (hkinds _ (hinv.begun k _ hb)).1
  · rintro ⟨r', hmember, ⟨link, hlink⟩, handle, hb⟩
    rcases List.mem_cons.mp hmember with rfl | hr'
    · cases hlink
      have hbound := hinv.bound
      rw [exec_storeConnection he]
      exact Nat.lt_succ_of_le hbound
    · refine (hinv.renewed ⟨r', hr', ⟨link, hlink⟩, handle, ?_⟩).trans_le hmono
      rcases mem_history_cons.mp hb with ⟨htask, hnow⟩ | hb
      · -- A task begins before it does anything else.
        cases hnow
        have hmem : r'.event ∈ history k trace := by
          rw [show k = r'.task from htask]
          exact mem_history hr'
        rw [show history k trace = [] from hrule] at hmem
        cases hmem
      · exact hb

end

theorem keeps_succession (knx : Knx) :
    Config.Keeps (exec knx) lineageRule fun trace s ↦ ∃ n, Succession n trace s := by
  rintro trace s k c i r s' - ⟨n, hinv⟩ hrule he
  by_cases htaken : receiverTaken = (⟨c, r⟩ : (c : Command) × c.Response)
  · cases htaken
    exact ⟨_, hinv.take he⟩
  · exact ⟨n, hinv.exec hrule he htaken⟩

/-- After a reconnection has stored its connection, in every run, no task sends or
receives on the connection that is stored: whatever is sent, answered or received goes
over one that was stored before. -/
theorem reconnected_connection_unused (knx : Knx) (moves : List (Move Activity Env)) (r : Step)
    (earlier : List Step) (hr : r :: earlier <:+ (run knx moves).trace)
    (hrenewed : Renewed earlier) {connection : Connection}
    (huses : r.command.uses = some connection) : r.before.connection ≠ some connection := by
  have hgrants : Config.Grants (exec knx) lineageRule (fun trace s ↦ ∃ n, Succession n trace s)
      fun r earlier ↦ Renewed earlier → ∀ connection, r.command.uses = some connection →
        r.before.connection ≠ some connection := by
    rintro trace s k c i r s' - ⟨n, hinv⟩ hrule he hrenewed connection huses hstored
    have hbegun : ∃ kind, Begun kind (history k trace) ∧ kind.connection? = some connection := by
      cases c
      case send => exact hrule connection huses
      case recv => exact hrule connection huses
      case validateSequenceNumber => exact hrule connection huses
      case sendTunnellingAck => exact hrule connection huses
      case nextSequence => exact hrule connection huses
      all_goals cases huses
    obtain ⟨kind, hb, hkind⟩ := hbegun
    have hcaptured := hinv.captured kind (hinv.begun k kind hb) connection hkind
    have hlatest := hinv.latest connection hstored
    have hbeyond := hinv.renewed hrenewed
    omega
  exact Config.run_always (by simp) (obeys_program_lineage knx) ⟨0, .start⟩
    (keeps_succession knx) hgrants moves r earlier hr hrenewed connection huses

namespace Reference

def first : Connection := ⟨0, .tunnel 7⟩

def second : Connection := ⟨1, .tunnel 8⟩

def disconnectRequest : List UInt8 :=
  (KnxIpFrame.new .disconnectRequest (ChannelRequest.serialize ⟨7, .routeBack⟩)).serialize

/-- The instance is connected and started, and the gateway sends its request twice. When
the first one is handled the tunnel is reconnected. -/
def reconnection : List (Move Activity Env) :=
  .spawn .connect :: steps 0 7 { opened := .ok 7 } ++ .spawn .start :: steps 1 12 ++
    .spawn (.task 3 (.receiving first) 2) :: steps 2 13 { frame := .ok disconnectRequest } ++
    .spawn (.task 2 (.control first) 4) :: steps 3 11 ++
    .spawn (.task 7 .reconnection 1) :: steps 4 8 { opened := .ok 8 }

/-- Afterwards a telegram is given to the queue, and the sending task deals with it. -/
def sending : List (Move Activity Env) :=
  reconnection ++ .spawn (.sendTelegram (.groupWrite 0 .temperature [0x0C, 0x65])) :: steps 5 1 ++
    .spawn (.task 5 (.sending first) 1) :: steps 6 5

end Reference

set_option maxRecDepth 8000 in
theorem sending_trace : ∃ r earlier, (run Reference.knx Reference.sending).trace = r :: earlier ∧
    Renewed earlier ∧ (∃ frame, r.command = .send Reference.first frame) ∧
    r.before.connection = some Reference.second := by
  refine ⟨_, _, rfl, ⟨_, List.mem_of_getElem? (i := 9) rfl, ⟨_, rfl⟩, 7, ?_⟩, ⟨_, rfl⟩, rfl⟩
  exact List.mem_of_getElem? (i := 7) rfl

theorem sent_telegram_misses_stored_connection :
    ∃ r earlier, (run Reference.knx Reference.sending).trace = r :: earlier ∧ Renewed earlier ∧
      r.command.uses = some Reference.first ∧ r.before.connection ≠ some Reference.first := by
  obtain ⟨r, earlier, htrace, hrenewed, ⟨frame, hsend⟩, -⟩ := sending_trace
  have huses : r.command.uses = some Reference.first := by
    rw [hsend]
    rfl
  exact ⟨r, earlier, htrace, hrenewed, huses, reconnected_connection_unused Reference.knx
    Reference.sending r earlier (htrace ▸ List.suffix_refl _) hrenewed huses⟩

set_option maxRecDepth 8000 in
theorem telegram_leaves_on_first_connection :
    (run Reference.knx Reference.reconnection).state.connection = some Reference.second ∧
      (run Reference.knx Reference.reconnection).state.state = .connected ∧
      ∃ r earlier, (run Reference.knx Reference.sending).trace = r :: earlier ∧
        Renewed earlier ∧ (∃ frame, r.command = .send Reference.first frame) ∧
        r.before.connection = some Reference.second :=
  ⟨rfl, rfl, sending_trace⟩

end Knust.Application.Instance
