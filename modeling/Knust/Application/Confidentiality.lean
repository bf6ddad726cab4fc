import Knust.Application.WriteRules
import Knust.Transport.SessionAcceptance

namespace Knust.Application

open Foundation Foundation.Task Protocol Security Transport Transport.Client

section

variable (P : Primitives) (tunnel : Tunnel)

def Encrypts (r : Step) (frame : List UInt8) : Prop :=
  ∃ plain session, r.event = ⟨.encryptFrame plain, some (.ok frame)⟩ ∧
    r.before.secureSession = some session ∧ (session.encryptFrame P plain).1 = .ok frame

def Confidential (trace : List Step) : Prop :=
  ∀ r earlier, r :: earlier <:+ trace → ∀ frame, r.command = .write frame →
    ∃ r' ∈ earlier, Encrypts P r' frame

def throughSession (r : Step) : Bool :=
  match r.command with
  | .transport caller => !bypasses caller
  | _ => true

/-- What happens to a tunnel after `connect_secure` has installed a session: the
rest of that call, and any other use of the tunnel in any order. -/
def run (established : State) (frames : ℕ) (moves : List (Move Activity Env)) :
    Config Command Command.Response State KnxError :=
  (⟨established, [connectOverSession tunnel frames], []⟩ : Config _ _ _ _).run
    (exec P tunnel) (program tunnel) moves

def Secured (trace : List Step) (s : State) : Prop :=
  s.secureSession.isSome = true ∧ ∀ r ∈ trace, r.before.secureSession.isSome = true

variable {P tunnel}

theorem keeps_secured : Config.Keeps (exec P tunnel) writeRule Secured := by
  rintro trace s k c i r s' - ⟨hs, htrace⟩ - he
  refine ⟨exec_secureSession_isSome hs he, fun r' hr ↦ ?_⟩
  rcases List.mem_cons.mp hr with rfl | hr
  · exact hs
  · exact htrace r' hr

theorem encrypts_of_event {r : Step} (hr : r.Executed (exec P tunnel))
    (hs : r.before.secureSession.isSome = true) {plain : List UInt8}
    {response : Option (Result (List UInt8))} (he : r.event = ⟨.encryptFrame plain, response⟩) :
    ∃ session, r.before.secureSession = some session ∧
      response = some (session.encryptFrame P plain).1 := by
  obtain ⟨k, c, x, before, after⟩ := r
  cases he
  obtain ⟨i, hr⟩ := hr
  obtain ⟨session, hsession⟩ : ∃ session, before.secureSession = some session :=
    Option.isSome_iff_exists.mp hs
  refine ⟨session, hsession, ?_⟩
  simp only [exec, respond, State.withSession, hsession, Option.some.injEq, Prod.mk.injEq] at hr
  exact hr.1.symm

theorem grants_encrypted :
    Config.Grants (exec P tunnel) writeRule Secured fun r earlier ↦
      (∀ r' ∈ earlier, throughSession r') → ∀ frame, r.command = .write frame →
        ∃ r' ∈ earlier, Encrypts P r' frame := by
  rintro trace s k c i r s' hexec ⟨-, hsecured⟩ hrule - hthrough frame rfl
  rcases hrule with ⟨plain, h⟩ | ⟨plain, h⟩ | ⟨caller, found, hb, h⟩
  · obtain ⟨r', hr', -, he⟩ := mem_of_mem_history h
    obtain ⟨session, hsession, hok⟩ := encrypts_of_event (hexec r' hr') (hsecured r' hr') he
    exact ⟨r', hr', plain, session, he, hsession, (Option.some.inj hok).symm⟩
  · obtain ⟨r', hr', -, he⟩ := mem_of_mem_history h
    obtain ⟨session, -, ⟨⟩⟩ := encrypts_of_event (hexec r' hr') (hsecured r' hr') he
  · obtain ⟨r', hr', -, he⟩ := mem_of_mem_history h
    obtain ⟨k, c, x, before, after⟩ := r'
    cases he
    simpa [throughSession, hb] using hthrough _ hr'

variable (P tunnel)

/-- A tunnel with a secure session sends nothing in plain text as long as the three
methods that bypass the session are not used. -/
theorem confidential_of_throughSession (established : State)
    (hsecure : established.secureSession.isSome = true) (frames : ℕ)
    (moves : List (Move Activity Env))
    (hthrough : ∀ r ∈ (run P tunnel established frames moves).trace, throughSession r) :
    Confidential P (run P tunnel established frames moves).trace := by
  intro r earlier hr
  have hpool : ∀ p ∈ [connectOverSession tunnel frames], p.Obeys writeRule (fun _ _ ↦ True) [] := by
    simpa using follows_connectOverSession tunnel frames []
  apply Config.run_always hpool (fun t ↦ follows_program tunnel t []) ⟨hsecure, by simp⟩
    keeps_secured grants_encrypted moves r earlier hr
  intro r' hr'
  exact hthrough r' (hr.mem (List.mem_cons_of_mem _ hr'))

def writtenFrames (trace : List Step) : List (List UInt8) :=
  trace.filterMap fun r ↦ match r.command with
    | .write frame => some frame
    | _ => none

theorem Confidential.writtenFrames {trace : List Step} (h : Confidential P trace)
    {frame : List UInt8} (hf : frame ∈ writtenFrames trace) :
    frame.take 4 = [0x06, 0x10, 0x09, 0x50] := by
  obtain ⟨r, hr, hc⟩ := List.mem_filterMap.mp hf
  split at hc
  · obtain ⟨later, earlier, rfl⟩ := List.append_of_mem hr
    cases hc
    obtain ⟨r', -, plain, session, -, -, he⟩ := h r earlier ⟨later, rfl⟩ frame ‹_›
    exact SecureSession.take_of_encryptFrame P plain he
  · cases hc

end

namespace Reference

open Security.Reference (primitives client)
open Client.Reference (tunnel security inputs sessionStatus)

def established : State := { State.built with transport := true, secureSession := some client }

example :
    ((secureHandshake tunnel primitives security).runAlone (exec primitives tunnel)
      (inputs sessionStatus) .built []).map (fun e ↦ (e.outcome, e.state.transport)) =
      some (.ok client, true) := by
  decide +kernel

def connectResponse : List UInt8 :=
  let frame := KnxIpFrame.new .connectResponse
    ([0x01, 0x00] ++ Hpai.routeBack.serialize ++ [0x04, 0x04, 0x11, 0x01])
  (SecureSession.sealedWrapper primitives Security.Reference.server.sessionKey.key 1
    (SecureSession.sequenceBytes 0) frame.serialize).bytes

def connectMoves : List (Move Activity Env) :=
  List.replicate 6 (.resume 0 {}) ++ [.resume 0 { frame := .ok connectResponse }] ++
    List.replicate 3 (.resume 0 {})

def telegram : Telegram := .groupWrite 0 .temperature [0x0C, 0x65]

def telegramMoves : List (Move Activity Env) :=
  connectMoves ++ [.spawn (.sending 1), .resume 1 {}, .resume 1 { outgoing := some telegram }] ++
    List.replicate 7 (.resume 1 {})

def heartbeatMoves : List (Move Activity Env) :=
  connectMoves ++ [.spawn (.heartbeat 1)] ++ List.replicate 6 (.resume 1 {})

theorem throughSession_telegram :
    ∀ r ∈ (run primitives tunnel established 0 telegramMoves).trace, throughSession r := by
  decide +kernel

theorem connectionstateRequest_mem_writtenFrames :
    (KnxIpFrame.new .connectionstateRequest ([0x01, 0x00] ++ Hpai.routeBack.serialize)).serialize ∈
      writtenFrames (run primitives tunnel established 0 heartbeatMoves).trace := by
  decide +kernel

end Reference

section

open Reference
open Security.Reference (primitives)
open Client.Reference (tunnel)

theorem confidential_telegram :
    established.secureSession.isSome = true ∧
    (∀ r ∈ (run primitives tunnel established 0 telegramMoves).trace, throughSession r) ∧
    Confidential primitives (run primitives tunnel established 0 telegramMoves).trace :=
  ⟨rfl, throughSession_telegram,
    confidential_of_throughSession _ _ _ rfl _ _ throughSession_telegram⟩

theorem heartbeat_in_plain_text :
    established.secureSession.isSome = true ∧
    ¬ Confidential primitives (run primitives tunnel established 0 heartbeatMoves).trace := by
  refine ⟨rfl, fun h ↦ ?_⟩
  have hplain := h.writtenFrames _ connectionstateRequest_mem_writtenFrames
  revert hplain
  decide

end

end Knust.Application
