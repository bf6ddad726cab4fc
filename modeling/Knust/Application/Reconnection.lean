import Knust.Application.Succession

namespace Knust.Application.Instance

open Foundation Foundation.Task Protocol Transport

/-- A lost tunnel has been dealt with since the slot of the reconnection was last
emptied, which only a stop does. -/
def lossHandled : List Step → Bool
  | [] => false
  | r :: earlier =>
    match r.command with
    | .startReconnection => true
    | .takeTask .reconnect => false
    | _ => lossHandled earlier

def lossPending : History Command Command.Response → Bool
  | [] => false
  | ⟨.receiveControl, some (.tunnelLost _ _)⟩ :: _ => true
  | ⟨.startReconnection, _⟩ :: _ => false
  | _ :: h => lossPending h

def State.NotReconnecting (s : State) : Prop :=
  ∀ t ∈ s.tasks, t.kind = .reconnection → t.phase = .finished

instance (s : State) : Decidable s.NotReconnecting :=
  inferInstanceAs (Decidable (∀ t ∈ s.tasks, t.kind = .reconnection → t.phase = .finished))

def StartsReconnection (r : Step) : Prop :=
  r.after.tasks = r.before.tasks ++ [⟨.reconnection, .spawned⟩]

instance (r : Step) : Decidable (StartsReconnection r) :=
  inferInstanceAs (Decidable (r.after.tasks = r.before.tasks ++ [⟨.reconnection, .spawned⟩]))

def slotRule (_ : History Command Command.Response) : Command → Prop
  | .storeTask slot _ => slot ≠ .reconnect
  | _ => True

section

variable {knx : Knx}

theorem obeys_program_slot (activity : Activity) :
    (program knx activity).Obeys slotRule (fun _ _ ↦ True) [] := by
  refine (follows_program knx activity []).imp fun h c hc ↦ ?_
  cases c
  case storeTask slot handle =>
    rcases hc with hc | hc | ⟨kind, hc⟩
    · exact hc.elim
    · exact hc
    · exact hc.elim
  all_goals trivial

def SlotTold (trace : List Step) (s : State) : Prop :=
  (s.slots .reconnect).isNone = !lossHandled trace

theorem exec_startReconnection {i : Env} {s s' : State} {starts : Bool}
    (he : exec knx .startReconnection i s = some (starts, s')) :
    starts = (s.slots .reconnect).isNone ∧ (s'.slots .reconnect).isNone = false ∧
      s'.tasks = if starts then s.tasks ++ [⟨.reconnection, .spawned⟩] else s.tasks := by
  simp only [exec] at he
  split at he
  · cases he
  split at he
  · rename_i hnone
    cases he
    exact ⟨hnone.symm, by simp, rfl⟩
  · rename_i hsome
    cases he
    have hfull : (s.slots .reconnect).isNone = false := Bool.eq_false_iff.mpr hsome
    exact ⟨hfull.symm, hfull, rfl⟩

theorem keeps_slotTold : Config.Keeps (exec knx) slotRule SlotTold := by
  intro trace s k c i r s' _ hinv hrule he
  cases c
  case startReconnection => exact (exec_startReconnection he).2.1
  case takeTask slot =>
    simp only [exec] at he
    split at he
    · cases he
    cases he
    cases slot
    case reconnect => simp [SlotTold, lossHandled]
    all_goals simpa [SlotTold, lossHandled] using hinv
  case storeTask slot handle =>
    simp only [exec] at he
    split at he
    · cases he
    cases he
    have hother : Function.update s.slots slot (some handle) .reconnect = s.slots .reconnect :=
      Function.update_of_ne (Ne.symm hrule) _ _
    exact (congrArg Option.isNone hother).trans hinv
  all_goals
    have hslots := (exec_unedited he).slots rfl
    rw [SlotTold, hslots]
    exact hinv

/-- A task that has received a lost tunnel deals with it before it receives again and
before it ends. -/
def lossRule (h : History Command Command.Response) : Command → Prop
  | .receiveControl | .finish _ => lossPending h = false
  | _ => True

def Command.Detached : Command → Prop
  | .receiveControl | .startReconnection | .finish .. => False
  | _ => True

theorem Obeys.detached {α : Type} {p : Handler α} {g h : Past}
    (hp : p.Obeys (fun _ c ↦ c.Detached) (fun _ _ ↦ True) g) (hh : lossPending h = false) :
    p.Obeys lossRule (fun h _ ↦ lossPending h = false) h := by
  refine hp.carry (A := fun h ↦ lossPending h = false) (fun h c _ hc ↦ ?_) (fun h c r ha hc ↦ ?_) hh
  · cases c
    case receiveControl => exact hc.elim
    case finish => exact hc.elim
    all_goals trivial
  · cases c
    case receiveControl => exact hc.elim
    case startReconnection => exact hc.elim
    all_goals exact ha

theorem detached_of_within {kind : TaskKind} (hkind : ∀ connection, kind ≠ .control connection)
    {c : Command} (hc : c.Within kind) : c.Detached := by
  cases c
  case receiveControl =>
    obtain ⟨connection, h⟩ := hc
    exact hkind connection h
  case startReconnection =>
    obtain ⟨connection, h⟩ := hc
    exact hkind connection h
  case finish => exact hc.elim
  all_goals trivial

theorem detached_of_inStart {c : Command} (hc : c.InStart) : c.Detached := by
  cases c
  case receiveControl => exact hc.elim
  case startReconnection => exact hc.elim
  case finish => exact hc.elim
  all_goals trivial

theorem obeys_handleTunnelLost (hauto : knx.config.autoReconnect = true) (channelId : UInt8)
    (reason : String) (h : Past) :
    (handleTunnelLost knx channelId reason).Obeys lossRule
      (fun h r ↦ lossPending h = false ∧ r = .ok ()) h := by
  refine ⟨trivial, fun _ ↦ ⟨trivial, fun _ ↦ ⟨trivial, fun taken ↦ ?_⟩⟩⟩
  simp only [hauto, if_true]
  cases taken with
  | none => exact ⟨trivial, fun _ ↦ ⟨trivial, fun _ ↦ ⟨rfl, rfl⟩⟩⟩
  | some connection =>
    refine ⟨trivial, fun closed ↦ ⟨trivial, fun _ ↦ ?_⟩⟩
    cases closed with
    | ok u => exact ⟨trivial, fun _ ↦ ⟨rfl, rfl⟩⟩
    | error e => exact ⟨trivial, fun _ ↦ ⟨rfl, rfl⟩⟩

theorem obeys_controlTask (hauto : knx.config.autoReconnect = true) (connection : Connection)
    (rounds : ℕ) {h : Past} (hh : lossPending h = false) :
    (controlTask knx connection rounds).Obeys lossRule (fun h _ ↦ lossPending h = false) h := by
  induction rounds generalizing h with
  | zero => exact hh
  | succ rounds ih =>
    refine ⟨hh, fun event ↦ ?_⟩
    match event with
    | some (.sendDisconnectResponse channelId) => exact ⟨trivial, fun _ ↦ ⟨trivial, fun _ ↦ ih hh⟩⟩
    | some (.tunnelLost channelId reason) =>
      refine (obeys_handleTunnelLost hauto channelId reason _).bind (fun h _ hend ↦ ?_)
        (fun _ _ hend ↦ hend.1) (fun _ hend ↦ hend.1)
      rw [if_pos hauto]
      exact ih hend.1
    | none =>
      refine ⟨trivial, fun stopped ↦ ?_⟩
      cases stopped with
      | true => exact hh
      | false => exact ih hh

theorem obeys_program_loss (hauto : knx.config.autoReconnect = true) (activity : Activity) :
    (program knx activity).Obeys lossRule (fun h _ ↦ lossPending h = false) [] := by
  have hcall {p : Handler Unit} (hp : StaysWithin .drain p) :
      p.Obeys lossRule (fun h _ ↦ lossPending h = false) [] :=
    Obeys.detached ((hp []).imp fun _ _ hc ↦ detached_of_within (by simp) hc) rfl
  cases activity with
  | connect => exact hcall (staysWithin_connect knx)
  | disconnect => exact hcall staysWithin_disconnect
  | start => exact Obeys.detached ((follows_start []).imp fun _ _ hc ↦ detached_of_inStart hc) rfl
  | stop => exact hcall staysWithin_stop
  | shutdown => exact hcall (.bind staysWithin_stop fun _ ↦ staysWithin_disconnect)
  | sendTelegram telegram => exact hcall (staysWithin_sendTelegram knx telegram)
  | task handle kind rounds =>
    have hbody : (taskBody knx kind rounds).Obeys lossRule (fun h _ ↦ lossPending h = false)
        [⟨.begin handle kind, ()⟩] := by
      cases kind
      case control connection => exact obeys_controlTask hauto connection rounds rfl
      all_goals
        exact Obeys.detached ((staysWithin_taskBody knx _ rounds []).imp fun _ _ hc ↦
          detached_of_within (by simp) hc) rfl
    refine ⟨trivial, fun _ ↦ hbody.bind (fun h ended hh ↦ ?_) (fun _ _ hh ↦ hh) (fun _ hh ↦ hh)⟩
    cases ended with
    | false => exact hh
    | true => exact ⟨hh, fun _ ↦ hh⟩

end

section

variable {knx : Knx} {moves : List (Move Activity Env)}

theorem startsReconnection_iff {r : Step} {earlier : List Step}
    (hr : r :: earlier <:+ (run knx moves).trace) (hcommand : r.command = .startReconnection) :
    StartsReconnection r ↔ lossHandled earlier = false := by
  have hgrants : Config.Grants (exec knx) slotRule SlotTold fun r earlier ↦
      r.command = .startReconnection → (StartsReconnection r ↔ lossHandled earlier = false) := by
    intro trace s k c i starts s' _ hinv _ he hcommand
    cases hcommand
    obtain ⟨hstarts, -, htasks⟩ := exec_startReconnection he
    rw [hinv] at hstarts
    rw [StartsReconnection, htasks, ← Bool.not_eq_true', ← hstarts]
    cases starts with
    | true => simp
    | false => simp
  exact Config.run_always (by simp) obeys_program_slot rfl keeps_slotTold hgrants moves r earlier hr
    hcommand

theorem loss_in_hand (hauto : knx.config.autoReconnect = true) {k : ℕ}
    (hk : lossPending (history k (run knx moves).trace) = true) :
    ∃ c, (run knx moves).Issues k c ∧ c ≠ .receiveControl ∧ ∀ handle, c ≠ .finish handle := by
  have htracks : (run knx moves).Tracks (fun _ ↦ lossRule) (fun _ h _ ↦ lossPending h = false)
      (started moves) :=
    Config.run_tracks_start (obeys_program_loss hauto) _ moves
  have hlt : k < (run knx moves).pool.length := by
    by_contra hge
    rw [history_eq_nil fun r hr ↦ (htracks.spawned r hr).trans_le (not_lt.mp hge)] at hk
    cases hk
  have hlt' : k < (started moves).length := htracks.length ▸ hlt
  have hobeys := htracks.obeys k _ _ (List.getElem?_eq_getElem hlt') (List.getElem?_eq_getElem hlt)
  cases hp : (run knx moves).pool[k] with
  | done r =>
    rw [hp] at hobeys
    rw [show lossPending _ = false from hobeys] at hk
    cases hk
  | call c next =>
    rw [hp] at hobeys
    refine ⟨c, ⟨next, by rw [List.getElem?_eq_getElem hlt, hp]⟩, ?_, ?_⟩
    · rintro rfl
      rw [show lossPending _ = false from hobeys.1] at hk
      cases hk
    · rintro handle rfl
      rw [show lossPending _ = false from hobeys.1] at hk
      cases hk

end

/-- With the automatic reconnection, in every run: when a lost tunnel is dealt with while
no reconnection is running, a new one is started exactly if none was dealt with since
the slot was last emptied. And every lost tunnel is dealt with: a task that has received
one neither ends nor receives again before. -/
theorem reconnection_started_iff (knx : Knx) (hauto : knx.config.autoReconnect = true)
    (moves : List (Move Activity Env)) :
    (∀ r earlier, r :: earlier <:+ (run knx moves).trace → r.command = .startReconnection →
      r.before.NotReconnecting → (StartsReconnection r ↔ lossHandled earlier = false)) ∧
    ∀ k, lossPending (history k (run knx moves).trace) = true →
      ∃ c, (run knx moves).Issues k c ∧ c ≠ .receiveControl ∧ ∀ handle, c ≠ .finish handle :=
  ⟨fun _ _ hr hcommand _ ↦ startsReconnection_iff hr hcommand, fun _ hk ↦ loss_in_hand hauto hk⟩

namespace Reference

def repetition : List (Move Activity Env) := reconnection ++ steps 3 10

end Reference

set_option maxRecDepth 8000 in
theorem first_loss_starts_reconnection :
    (∀ r earlier, r :: earlier <:+ (run Reference.knx Reference.repetition).trace →
      r.command = .startReconnection → r.before.NotReconnecting →
      (StartsReconnection r ↔ lossHandled earlier = false)) ∧
    ∀ k, lossPending (history k (run Reference.knx Reference.repetition).trace) = true →
      ∃ c, (run Reference.knx Reference.repetition).Issues k c ∧ c ≠ .receiveControl ∧
        ∀ handle, c ≠ .finish handle :=
  reconnection_started_iff Reference.knx rfl Reference.repetition

set_option maxRecDepth 8000 in
theorem second_loss_starts_no_reconnection :
    ∃ r earlier, (run Reference.knx Reference.repetition).trace = r :: earlier ∧
      r.command = .startReconnection ∧ r.before.NotReconnecting ∧ ¬ StartsReconnection r := by
  refine ⟨_, _, rfl, rfl, ?_, ?_⟩
  · decide +kernel
  · decide +kernel

section

variable {knx : Knx} {s : State} {connection : Connection}

end

end Knust.Application.Instance
