import Knust.Application.InstanceRules
import Knust.Foundation.Sequential

namespace Knust.Application.Instance

open Foundation Foundation.Task Protocol Transport

/-- The last thing that the callbacks were told is the state, which is none that a call
goes through. -/
structure Settled (s : State) : Prop where
  notified : s.notified.head? = some s.state.toConnectionState
  notConnecting : s.state ≠ .connecting
  notDisconnecting : s.state ≠ .disconnecting

abbrev CallEnding := Ending Command Command.Response State KnxError Unit

structure ConnectSettles (e : CallEnding) : Prop where
  settled : Settled e.state
  connected_iff : e.state.state = .connected ↔ e.outcome = .ok ()
  failed : ∀ err, e.outcome = .err err → e.state.state = .error ∨ e.state.state = .disconnected

structure DisconnectSettles (e : CallEnding) : Prop where
  settled : Settled e.state
  disconnected : e.state.state = .disconnected ∨ e.state.state = .error

def Secured (knx : Knx) : Prop :=
  knx.config.connectionType = .secureTunneling →
    knx.secure = true ∧ knx.config.security.isSome = true

/-- The connection is of a type whose errors do not end the call early, or there is none:
the tunnel can be secured as configured, and its transport gets connected. -/
def Proceeds (knx : Knx) (i : Env) : Prop :=
  knx.config.connectionType = .routing ∨ knx.config.connectionType = .secureRouting ∨
    (Secured knx ∧ i.opened.isOk = true)

def State.entering (s : State) (state : KnxState) : State :=
  { s with state, notified := state.toConnectionState :: s.notified }

section

variable {knx : Knx} {inputs : ℕ → Env} {s : State} {h : Past}

theorem exists_gatewayAddr (knx : Knx) (hrouting : knx.config.connectionType ≠ .routing)
    (hsecure : knx.config.connectionType ≠ .secureRouting) :
    ∃ addr, gatewayAddr knx = .ok addr := by
  have hvalid := knx.valid
  unfold gatewayAddr
  cases hip : knx.config.gatewayIp with
  | some ip => exact ⟨_, rfl⟩
  | none =>
    unfold validateConfig at hvalid
    rw [hip] at hvalid
    cases htype : knx.config.connectionType
    case routing => exact absurd htype hrouting
    case secureRouting => exact absurd htype hsecure
    all_goals
      rw [htype] at hvalid
      cases hvalid

theorem tunnelSecurity_cases (knx : Knx) :
    (Secured knx ∧ ∃ security, tunnelSecurity knx = .ok security) ∨
      (¬ Secured knx ∧ ∃ e, tunnelSecurity knx = .err e) := by
  unfold Secured tunnelSecurity
  by_cases htype : knx.config.connectionType = .secureTunneling
  · cases hsecure : knx.secure with
    | false => exact .inr ⟨by simp [htype], _, by simp [htype, validationError]; rfl⟩
    | true =>
      cases hsecurity : knx.config.security with
      | none => exact .inr ⟨by simp [htype], _, by simp [htype, missingParameter]; rfl⟩
      | some security => exact .inl ⟨by simp, some security, by simp [htype]⟩
  · exact .inl ⟨fun h ↦ absurd h htype, none, by simp [htype]⟩

abbrev ResultEnding := Ending Command Command.Response State KnxError (Except KnxError Link)

/-- There is a result, or the call has failed, and nothing but the channel has changed. -/
structure Resulting (knx : Knx) (i : Env) (s : State) (e : ResultEnding) : Prop where
  state : ∃ channelId, e.state = { s with channelId }
  outcome : (Proceeds knx i ∧ ∃ r, e.outcome = .ok r) ∨ (¬ Proceeds knx i ∧ ∃ e', e.outcome = .err e')

theorem concludes_open (htunnel : knx.config.connectionType ≠ .routing ∧
      knx.config.connectionType ≠ .secureRouting) (hsecured : Secured knx) (target : Target)
    {f : Link → Handler (Except KnxError Link)}
    (hf : ∀ link inputs h, (f link).Concludes (exec knx) inputs
      (fun e ↦ (∃ channelId, e.state = { s with channelId }) ∧ e.outcome = .ok (.ok link)) s h) :
    (Instance.perform (.open target) >>= fun r ↦ rethrow r >>= f).Concludes (exec knx) inputs
      (Resulting knx (inputs 0) s) s h := by
  cases hopen : (inputs 0).opened with
  | ok channelId =>
    have hproceeds : Proceeds knx (inputs 0) := .inr (.inr ⟨hsecured, by rw [hopen]; rfl⟩)
    refine .call (by rw [exec, hopen]) ?_
    obtain ⟨e, he, hstate, houtcome⟩ := hf (target.link channelId) (fun n ↦ inputs (n + 1)) _
    exact ⟨e, he, hstate, .inl ⟨hproceeds, _, houtcome⟩⟩
  | error e =>
    have hfails : ¬ Proceeds knx (inputs 0) := by
      rintro (hr | hr | ⟨-, hok⟩)
      · exact htunnel.1 hr
      · exact htunnel.2 hr
      · rw [hopen] at hok
        cases hok
    refine .call (by rw [exec, hopen]) (.done ?_)
    exact ⟨⟨s.channelId, rfl⟩, .inr ⟨hfails, e, rfl⟩⟩

theorem concludes_connectionResult (knx : Knx) (inputs : ℕ → Env) (s : State) (h : Past) :
    (connectionResult knx).Concludes (exec knx) inputs (Resulting knx (inputs 0) s) s h := by
  unfold connectionResult
  have hudp (htunnel : knx.config.connectionType ≠ .routing ∧
      knx.config.connectionType ≠ .secureRouting) :
      (openUdpTunnel knx >>= fun link ↦ keepChannelId link >>= fun _ ↦
        pure (Except.ok link)).Concludes (exec knx) inputs (Resulting knx (inputs 0) s) s h := by
    obtain ⟨addr, haddr⟩ := exists_gatewayAddr knx htunnel.1 htunnel.2
    obtain ⟨hsecured, security, hsecurity⟩ | ⟨hsecured, e, hsecurity⟩ := tunnelSecurity_cases knx
    · simp only [openUdpTunnel, haddr, hsecurity]
      refine concludes_open htunnel hsecured (.udp addr security) fun link inputs h ↦ ?_
      cases link with
      | tunnel channelId => exact .call rfl (.done ⟨⟨_, rfl⟩, rfl⟩)
      | routing => exact .done ⟨⟨_, rfl⟩, rfl⟩
    · simp only [openUdpTunnel, haddr, hsecurity]
      refine .done ⟨⟨_, rfl⟩, .inr ⟨?_, e, rfl⟩⟩
      rintro (hr | hr | ⟨hs, -⟩)
      · exact htunnel.1 hr
      · exact htunnel.2 hr
      · exact hsecured hs
  cases htype : knx.config.connectionType with
  | tunneling => exact hudp (by simp [htype])
  | secureTunneling => exact hudp (by simp [htype])
  | tcpTunneling =>
    obtain ⟨addr, haddr⟩ := exists_gatewayAddr knx (by simp [htype]) (by simp [htype])
    simp only [openTcpTunnel, haddr]
    have hsecured : Secured knx := fun h ↦ by rw [htype] at h; cases h
    exact concludes_open (by simp [htype]) hsecured _ fun link inputs h ↦ .done ⟨⟨_, rfl⟩, rfl⟩
  | routing =>
    have hproceeds : Proceeds knx (inputs 0) := .inl htype
    cases hopen : (inputs 0).opened with
    | ok channelId =>
      refine .call (by rw [exec, hopen]) (.done ?_)
      exact ⟨⟨_, rfl⟩, .inl ⟨hproceeds, _, rfl⟩⟩
    | error e =>
      refine .call (by rw [exec, hopen]) (.done ?_)
      exact ⟨⟨_, rfl⟩, .inl ⟨hproceeds, _, rfl⟩⟩
  | secureRouting => exact .done ⟨⟨_, rfl⟩, .inl ⟨.inr (.inl htype), _, rfl⟩⟩

theorem runAlone_store (link : Link) {α : Type} (p : Handler α) :
    (Instance.perform (.storeConnection link) >>= fun _ ↦ p).runAlone (exec knx) inputs s h =
      if s.unlocked = true then p.runAlone (exec knx) (fun n ↦ inputs (n + 1))
        { s with connection := some ⟨s.stored, link⟩, stored := s.stored + 1 }
        (⟨.storeConnection link, ()⟩ :: h)
      else none := by
  have hcall : (Instance.perform (.storeConnection link) >>= fun _ ↦ p) =
      .call (.storeConnection link) fun _ ↦ p := rfl
  rw [hcall, runAlone, exec]
  by_cases hlock : s.unlocked = true
  · rw [if_pos hlock, if_pos hlock]
  · rw [if_neg hlock, if_neg hlock]

theorem connect_runAlone (knx : Knx) (inputs : ℕ → Env) (s : State) :
    ∃ r rest, Resulting knx (inputs 2) (s.entering .connecting) r ∧
      (connect knx).runAlone (exec knx) inputs s [] =
        (.done r.outcome >>= concludeConnect).runAlone (exec knx) rest r.state r.history := by
  obtain ⟨r, hr, hresulting⟩ := concludes_connectionResult knx (fun n ↦ inputs (n + 2))
    (s.entering .connecting)
    [⟨.notifyConnectionStateChanged .connecting, ()⟩, ⟨.setState .connecting, ()⟩]
  obtain ⟨rest, hrest⟩ := runAlone_bind hr concludeConnect
  exact ⟨r, rest, hresulting, hrest⟩

theorem connect_settles_iff {e : CallEnding}
    (he : (connect knx).runAlone (exec knx) inputs s [] = some e) :
    ConnectSettles e ↔ Proceeds knx (inputs 2) := by
  obtain ⟨r, rest, ⟨⟨channelId, hstate⟩, houtcome⟩, hrun⟩ := connect_runAlone knx inputs s
  rw [hrun] at he
  obtain ⟨hproceeds, result, hresult⟩ | ⟨hfails, err, herr⟩ := houtcome
  · rw [hresult] at he
    refine ⟨fun _ ↦ hproceeds, fun _ ↦ ?_⟩
    cases result with
    | ok link =>
      rw [ok_bind, concludeConnect, runAlone_store] at he
      split at he
      · cases he
        exact ⟨⟨rfl, nofun, nofun⟩, ⟨fun _ ↦ rfl, fun _ ↦ rfl⟩, nofun⟩
      · cases he
    | error err =>
      cases he
      exact ⟨⟨rfl, nofun, nofun⟩, ⟨nofun, nofun⟩, fun _ _ ↦ .inl rfl⟩
  · rw [herr] at he
    cases he
    refine ⟨fun hsettles ↦ absurd ?_ hsettles.settled.notConnecting, fun h ↦ absurd h hfails⟩
    rw [hstate]
    rfl

theorem exists_connect (hs : s.unlocked = true) :
    ∃ e, (connect knx).runAlone (exec knx) inputs s [] = some e := by
  obtain ⟨r, rest, ⟨⟨channelId, hstate⟩, houtcome⟩, hrun⟩ := connect_runAlone knx inputs s
  rw [hrun]
  obtain ⟨-, result, hresult⟩ | ⟨-, err, herr⟩ := houtcome
  · rw [hresult]
    cases result with
    | ok link =>
      have hunlocked : r.state.unlocked = true := by
        rw [hstate]
        exact hs
      rw [ok_bind, concludeConnect, runAlone_store, if_pos hunlocked]
      exact ⟨_, rfl⟩
    | error err => exact ⟨_, rfl⟩
  · rw [herr]
    exact ⟨_, rfl⟩

theorem runAlone_take {α : Type} (f : Option Connection → Handler α) :
    (Instance.perform .takeConnection >>= f).runAlone (exec knx) inputs s h =
      if s.unlocked = true then (f s.connection).runAlone (exec knx) (fun n ↦ inputs (n + 1))
        { s with connection := none, writing := true } (⟨.takeConnection, s.connection⟩ :: h)
      else none := by
  have hcall : (Instance.perform .takeConnection >>= f) = .call .takeConnection f := rfl
  rw [hcall, runAlone, exec]
  by_cases hlock : s.unlocked = true
  · rw [if_pos hlock, if_pos hlock]
  · rw [if_neg hlock, if_neg hlock]

def Closes (connection : Option Connection) (i : Env) : Prop :=
  connection = none ∨ i.result.isOk = true

structure Closing (connection : Option Connection) (i : Env) (s : State) (e : CallEnding) :
    Prop where
  state : e.state = { s with writing := false }
  closed : ∀ c, connection = some c → ∃ r, ⟨.close c, r⟩ ∈ e.history
  outcome : (Closes connection i ∧ e.outcome = .ok ()) ∨
    (¬ Closes connection i ∧ ∃ err, e.outcome = .err err)

theorem concludes_closeTaken (knx : Knx) (inputs : ℕ → Env) (connection : Option Connection) :
    (closeTaken connection).Concludes (exec knx) inputs (Closing connection (inputs 0) s) s h := by
  cases connection with
  | none => exact .call rfl (.done ⟨rfl, nofun, .inl ⟨.inl rfl, rfl⟩⟩)
  | some connection =>
    cases hclosed : (inputs 0).result with
    | ok =>
      refine .call (by rw [exec, hclosed]) (.call rfl (.done ?_))
      refine ⟨rfl, ?_, .inl ⟨.inr ?_, rfl⟩⟩
      · rintro c ⟨⟩
        exact ⟨_, List.mem_cons_of_mem _ List.mem_cons_self⟩
      · rw [hclosed]
        rfl
    | error err =>
      refine .call (by rw [exec, hclosed]) (.call rfl (.done ?_))
      refine ⟨rfl, ?_, .inr ⟨?_, err, rfl⟩⟩
      · rintro c ⟨⟩
        exact ⟨_, List.mem_cons_of_mem _ List.mem_cons_self⟩
      · rintro (hnone | hok)
        · cases hnone
        · rw [hclosed] at hok
          cases hok

theorem disconnect_runAlone (knx : Knx) (inputs : ℕ → Env) (s : State) :
    (s.unlocked = false ∧ disconnect.runAlone (exec knx) inputs s [] = none) ∨
    ∃ r rest, Closing s.connection (inputs 3)
        { s.entering .disconnecting with connection := none, writing := true } r ∧
      disconnect.runAlone (exec knx) inputs s [] =
        (.done r.outcome >>= fun _ ↦ enterState .disconnected).runAlone (exec knx) rest r.state
          r.history := by
  have hentered : disconnect.runAlone (exec knx) inputs s [] =
      (Instance.perform .takeConnection >>= fun connection ↦ closeTaken connection >>= fun _ ↦
        enterState .disconnected).runAlone (exec knx) (fun n ↦ inputs (n + 2))
        (s.entering .disconnecting)
        [⟨.notifyConnectionStateChanged .disconnecting, ()⟩, ⟨.setState .disconnecting, ()⟩] := rfl
  have hlock : (s.entering .disconnecting).unlocked = s.unlocked := rfl
  rw [hentered, runAlone_take, hlock]
  cases s.unlocked with
  | false => exact .inl ⟨rfl, rfl⟩
  | true =>
    obtain ⟨r, hr, hclosing⟩ := concludes_closeTaken knx (fun n ↦ inputs (n + 1 + 2))
      (s.entering .disconnecting).connection
    obtain ⟨rest, hrest⟩ := runAlone_bind hr fun _ ↦ enterState .disconnected
    exact .inr ⟨r, rest, hclosing, hrest⟩

theorem disconnect_settles_iff {e : CallEnding}
    (he : disconnect.runAlone (exec knx) inputs s [] = some e) :
    DisconnectSettles e ↔ Closes s.connection (inputs 3) := by
  obtain ⟨-, hnone⟩ | ⟨r, rest, ⟨hstate, -, houtcome⟩, hrun⟩ :=
    disconnect_runAlone knx inputs s
  · rw [hnone] at he
    cases he
  rw [hrun] at he
  obtain ⟨hcloses, hok⟩ | ⟨hfails, err, herr⟩ := houtcome
  · rw [hok] at he
    cases he
    exact ⟨fun _ ↦ hcloses, fun _ ↦ ⟨⟨rfl, nofun, nofun⟩, .inl rfl⟩⟩
  · rw [herr] at he
    cases he
    refine ⟨fun hsettles ↦ absurd ?_ hsettles.settled.notDisconnecting, fun h ↦ absurd h hfails⟩
    rw [hstate]
    rfl

theorem exists_disconnect (hs : s.unlocked = true) :
    ∃ e, disconnect.runAlone (exec knx) inputs s [] = some e := by
  obtain ⟨hlocked, -⟩ | ⟨r, rest, ⟨-, -, houtcome⟩, hrun⟩ :=
    disconnect_runAlone knx inputs s
  · rw [hs] at hlocked
    cases hlocked
  rw [hrun]
  obtain ⟨-, hok⟩ | ⟨-, err, herr⟩ := houtcome
  · rw [hok]
    exact ⟨_, rfl⟩
  · rw [herr]
    exact ⟨_, rfl⟩

end

/-- The connection calls return, and leave the instance in a settled state exactly when no
error of a tunnel, or of the connection that is closed, makes them return early. The
third input of a connect is what its opening meets with, the fourth one of a
disconnect what its closing does. -/
theorem connection_calls_settle_iff (knx : Knx) (inputs : ℕ → Env) (s : State) :
    (∀ e, (connect knx).runAlone (exec knx) inputs s [] = some e →
      (ConnectSettles e ↔ Proceeds knx (inputs 2))) ∧
    (∀ e, disconnect.runAlone (exec knx) inputs s [] = some e →
      (DisconnectSettles e ↔ Closes s.connection (inputs 3))) ∧
    (s.unlocked = true → (∃ e, (connect knx).runAlone (exec knx) inputs s [] = some e) ∧
      ∃ e, disconnect.runAlone (exec knx) inputs s [] = some e) :=
  ⟨fun _ he ↦ connect_settles_iff he, fun _ he ↦ disconnect_settles_iff he,
    fun hs ↦ ⟨exists_connect hs, exists_disconnect hs⟩⟩

namespace Reference

def config : ConnectionConfig where
  connectionType := .tunneling
  gatewayIp := some (.v4 ⟨[192, 168, 1, 30], rfl⟩)
  gatewayPort := some 3671
  localIp := none
  individualAddress := ⟨0x11F0⟩
  security := none
  timeoutMs := 5000
  autoReconnect := true
  reconnectBackoff := ⟨1000, 30000, (2 * ·), 10⟩
  connectTimeoutMs := 5000

def knx : Knx where
  config := config
  valid := rfl
  secure := false
  queueConfig := ⟨1000, true⟩
  heap := Queue.PriorityTelegram.scanningHeap

def connected : State :=
  { State.new with
    stored := 1, connection := some ⟨0, .tunnel 7⟩, state := .connected, channelId := some 7
    notified := [.connected, .connecting] }

end Reference

/-- A gateway that does not answer leaves the instance connecting, and a connection whose
closing fails leaves it disconnecting. -/
theorem failed_calls_do_not_settle :
    (∃ e, (connect Reference.knx).runAlone (exec Reference.knx)
        (fun _ ↦ { opened := .error (.transport (.timeout 5000)) }) .new [] = some e ∧
      e.outcome = .err (.transport (.timeout 5000)) ∧ e.state.state = .connecting ∧
      ¬ ConnectSettles e) ∧
    ∃ e, disconnect.runAlone (exec Reference.knx)
        (fun _ ↦ { result := .error (.transport .connectionClosed) }) Reference.connected [] =
          some e ∧
      e.outcome = .err (.transport .connectionClosed) ∧ e.state.state = .disconnecting ∧
      ¬ DisconnectSettles e :=
  ⟨⟨_, rfl, rfl, rfl, fun h ↦ h.settled.notConnecting rfl⟩,
    ⟨_, rfl, rfl, rfl, fun h ↦ h.settled.notDisconnecting rfl⟩⟩

abbrev queueClosed : (c : Command) × c.Response := ⟨.closeQueue, ()⟩

/-- The control receiver can be taken once, and a closed queue stays closed. -/
structure Spent (trace : List Step) (s : State) : Prop where
  stored : s.receiver = .stored → ∀ k, receiverTaken ∉ history k trace
  single : ∀ j k, receiverTaken ∈ history j trace → receiverTaken ∈ history k trace → j = k
  closed : ∀ k, queueClosed ∈ history k trace → s.queue.closed = true

theorem keeps_spent {knx : Knx} : Config.Keeps (exec knx) (fun _ _ ↦ True) Spent := by
  intro trace s k c i r s' _ hinv _ he
  refine ⟨fun hstored j hj ↦ ?_, fun j j' hj hj' ↦ ?_, fun j hj ↦ ?_⟩
  · obtain ⟨hbefore, hne⟩ := exec_receiver he hstored
    rcases mem_history_cons.mp hj with ⟨-, hnow⟩ | hold
    · exact hne hnow.symm
    · exact hinv.stored hbefore j hold
  · -- A receiver that is taken now had not been taken before.
    have hfirst : receiverTaken = (⟨c, r⟩ : (c : Command) × c.Response) → s.receiver = .stored := by
      intro h
      cases h
      obtain ⟨-, hstored, -⟩ | ⟨hfalse, -⟩ := exec_takeReceiver he
      · exact hstored
      · cases hfalse
    rcases mem_history_cons.mp hj with ⟨rfl, hnow⟩ | hold
    · rcases mem_history_cons.mp hj' with ⟨rfl, -⟩ | hold'
      · rfl
      · exact absurd hold' (hinv.stored (hfirst hnow) j')
    · rcases mem_history_cons.mp hj' with ⟨rfl, hnow'⟩ | hold'
      · exact absurd hold (hinv.stored (hfirst hnow') j)
      · exact hinv.single j j' hold hold'
  · rcases mem_history_cons.mp hj with ⟨-, hnow⟩ | hold
    · cases hnow
      cases he
      rfl
    · exact exec_closed he (hinv.closed j hold)

/-- A start that succeeds has taken the receiver, and a stop has closed the queue. -/
def callEnd : Activity → History Command Command.Response → Result Unit → Prop
  | .start, h, r => r = .ok () → receiverTaken ∈ h
  | .stop, h, _ => queueClosed ∈ h
  | _, _, _ => True

theorem obeys_program_callEnd (knx : Knx) (activity : Activity) :
    (program knx activity).Obeys (fun _ _ ↦ True) (callEnd activity) [] := by
  have hrest {α : Type} {e : (c : Command) × c.Response} {h : Past}
      (he : e ∈ h) (p : Handler α) : p.Obeys (fun _ _ ↦ True) (fun h _ ↦ e ∈ h) h :=
    .unrestricted (A := fun h ↦ e ∈ h) (fun _ _ _ ↦ trivial)
      (fun _ _ h ↦ List.mem_cons_of_mem _ h) he p
  cases activity
  case start =>
    refine ⟨trivial, fun connection ↦ ?_⟩
    cases connection with
    | none => exact ⟨trivial, fun _ ↦ nofun⟩
    | some connection =>
      refine ⟨trivial, fun taken ↦ ?_⟩
      cases taken with
      | false => exact ⟨trivial, fun _ ↦ nofun⟩
      | true => exact (hrest List.mem_cons_self _).mono fun _ _ h _ ↦ h
  case stop => exact ⟨trivial, fun _ ↦ ⟨trivial, fun _ ↦ hrest List.mem_cons_self _⟩⟩
  all_goals exact obeys_true _ _

/-- A start that is made now fails on a connected instance, and telegrams are turned away
in both directions: an outgoing one by the call, an incoming one on its way to the
callbacks. -/
structure Refuses (knx : Knx) (s : State) : Prop where
  start : ∀ connection inputs, s.connection = some connection → s.writing = false →
    start.Concludes (exec knx) inputs
      (fun e ↦ e.outcome = validationError "Control receiver already taken") s []
  sendTelegram : ∀ telegram inputs, (sendTelegram knx telegram).Concludes (exec knx) inputs
    (fun e ↦ e.outcome = .err (.transport .queueClosed) ∧ e.state = s) s []
  enqueueIncoming : ∀ telegram i, exec knx (.enqueue .incoming telegram) i s =
    some (.err (.transport .queueClosed), s)

theorem refuses {knx : Knx} {s : State} (hreceiver : s.receiver ≠ .stored)
    (hclosed : s.queue.closed = true) : Refuses knx s := by
  refine ⟨fun connection inputs hconnection hwriting ↦ ?_, fun telegram inputs ↦ ?_,
    fun telegram i ↦ ?_⟩
  · have hread : exec knx .readConnection (inputs 0) s =
        some (some connection, { s with readers := s.readers + 1 }) := by
      rw [exec, hwriting, hconnection]
      rfl
    have htake : exec knx .takeReceiver (inputs 1) { s with readers := s.readers + 1 } =
        some (false, { s with readers := s.readers + 1 }) := by
      rw [exec]
      split
      · rename_i hstored
        exact absurd hstored hreceiver
      · rfl
    exact .call hread (.call htake (.call rfl (.done rfl)))
  · have hpush := push_closed knx.queueConfig .outgoing
      { telegram with source := knx.config.individualAddress } hclosed
    exact .call (by rw [exec, hpush]) (.done ⟨rfl, rfl⟩)
  · rw [exec, push_closed knx.queueConfig .incoming telegram hclosed]

/-- Once a start has succeeded and the instance has been stopped, no other start succeeds
in any run, and nothing gets through any more. -/
theorem stopped_instance_stays_down (knx : Knx) (moves : List (Move Activity Env))
    {first stopped : ℕ} (hstart : (started moves)[first]? = some .start)
    (hstarted : (run knx moves).pool[first]? = some (.done (.ok ())))
    (hstop : (started moves)[stopped]? = some .stop)
    (hstopped : (run knx moves).pool[stopped]? = some (.done (.ok ()))) :
    Refuses knx (run knx moves).state ∧
      ∀ second, (started moves)[second]? = some .start → second ≠ first →
        (run knx moves).pool[second]? ≠ some (.done (.ok ())) := by
  have hsound : (run knx moves).Sound (exec knx) (fun _ _ ↦ True) Spent :=
    Config.run_sound (.start (by simp) ⟨fun _ _ ↦ nofun, nofun, nofun⟩)
      (fun activity ↦ (obeys_program_callEnd knx activity).mono fun _ _ _ ↦ trivial) keeps_spent
      moves
  have htracks : (run knx moves).Tracks (fun _ _ _ ↦ True) callEnd (started moves) :=
    Config.run_tracks_start (obeys_program_callEnd knx) _ moves
  have htaken := htracks.obeys first _ _ hstart hstarted rfl
  have hclosed := htracks.obeys stopped _ _ hstop hstopped
  refine ⟨refuses (fun hstored ↦ hsound.inv.stored hstored first htaken)
    (hsound.inv.closed stopped hclosed), fun second hsecond hne hdone ↦ hne ?_⟩
  exact hsound.inv.single second first (htracks.obeys second _ _ hsecond hdone rfl) htaken

namespace Reference

def steps (k n : ℕ) (i : Env := {}) : List (Move Activity Env) := List.replicate n (.resume k i)

/-- The instance is connected, started, stopped and started again. Nobody has to wait
for the tasks, whose joins run into their timeouts. -/
def restart : List (Move Activity Env) :=
  .spawn .connect :: steps 0 7 { opened := .ok 7 } ++ .spawn .start :: steps 1 12 ++
    .spawn .stop :: steps 2 20 { elapsed := true } ++ .spawn .start :: steps 3 3

end Reference

set_option maxRecDepth 8000 in
theorem restarted_instance_stays_down :
    Refuses Reference.knx (run Reference.knx Reference.restart).state ∧
      ∀ second, (started Reference.restart)[second]? = some .start → second ≠ 1 →
        (run Reference.knx Reference.restart).pool[second]? ≠ some (.done (.ok ())) :=
  stopped_instance_stays_down Reference.knx Reference.restart
    (show (started Reference.restart)[1]? = some .start from rfl) rfl
    (show (started Reference.restart)[2]? = some .stop from rfl) rfl

set_option maxRecDepth 8000 in
theorem second_start_fails :
    (started Reference.restart)[1]? = some .start ∧ (started Reference.restart)[3]? = some .start ∧
      (run Reference.knx Reference.restart).pool[1]? = some (.done (.ok ())) ∧
      (run Reference.knx Reference.restart).pool[2]? = some (.done (.ok ())) ∧
      (run Reference.knx Reference.restart).state.state = .connected ∧
      (run Reference.knx Reference.restart).pool[3]? =
        some (.done (validationError "Control receiver already taken")) :=
  ⟨rfl, rfl, rfl, rfl, rfl, rfl⟩

end Knust.Application.Instance
