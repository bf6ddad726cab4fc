import Knust.Foundation.Interference
import Knust.Transport.ServerAborts

namespace Knust.Transport.Server

open Foundation Foundation.Task Protocol Security

def State.Unsecured (s : State) : Prop := ∀ peer, s.secureSessions peer = none

def Command.isInsertion : Command → Bool
  | .insertSecureSession .. => true
  | _ => false

section

variable {P : Primitives} {c : Command}

theorem exec_unsecured (hc : c.isInsertion = false) (i : Env) (s : State) (r : c.Response)
    (s' : State) (hs : s.Unsecured) (he : exec P c i s = some (r, s')) : s'.Unsecured := by
  intro peer
  by_cases hremove : ∃ removed, c = .removeSecureSession removed
  · obtain ⟨removed, rfl⟩ := hremove
    cases he
    show Function.update s.secureSessions removed none peer = none
    rw [Function.update_apply]
    split
    · rfl
    · exact hs peer
  · have hedits : c.editsSecureSessions = false := by
      cases c
      case insertSecureSession => cases hc
      case removeSecureSession removed => exact absurd ⟨removed, rfl⟩ hremove
      all_goals rfl
    rw [exec_secureSessions hedits he]
    exact hs peer

end

def Command.isUnsecured : Command → Bool
  | .recvFrame .. | .insertSecureSession .. | .verifyAuthenticateMac .. | .encryptFrame ..
  | .decryptFrame .. => false
  | _ => true

/-- Such a server finds no session, and its socket does not abort. -/
def isUnlinked : (c : Command) × c.Response → Prop
  | ⟨.getSecureSession _, entry⟩ => entry = none
  | ⟨.getRecipient _, entry⟩ => entry = none
  | ⟨.sendFrame _ _, a⟩ => a ≠ .panic
  | ⟨c, _⟩ => c.isUnsecured = true

theorem isSensible_of_isUnlinked {e : (c : Command) × c.Response} (h : isUnlinked e) :
    isSensible e := by
  obtain ⟨c, r⟩ := e
  cases c
  case recvFrame | decryptFrame | encryptFrame | verifyAuthenticateMac => cases h
  case sendFrame => exact h
  all_goals trivial

theorem exec_isUnlinked {P : Primitives} (c : Command) (hc : c.isUnsecured = true) (i : Env)
    (s : State) (r : c.Response) (s' : State) (hs : s.Unsecured)
    (he : exec P c i s = some (r, s')) : s'.Unsecured ∧ isUnlinked ⟨c, r⟩ := by
  refine ⟨exec_unsecured (by cases c <;> first | rfl | cases hc) i s r s' hs he, ?_⟩
  cases c
  case getSecureSession peer | getRecipient peer =>
    cases he
    simp [isUnlinked, hs peer]
  case sendFrame =>
    cases he
    unfold sendResult
    split
    · exact Outcome.ok_ne_panic _
    · exact Outcome.err_ne_panic _
  all_goals exact hc

def unsecuredRule (h : History Command Command.Response) (c : Command) : Prop :=
  (∀ e ∈ h, isUnlinked e) → c.isUnsecured = true

theorem obeys_linked {α : Type} {e : (c : Command) × c.Response} (he : ¬ isUnlinked e) (h : Past)
    (p : Handler α) : p.Obeys unsecuredRule (fun _ _ ↦ True) (e :: h) := by
  refine (Obeys.unrestricted (A := fun h ↦ e ∈ h) ?_ ?_ List.mem_cons_self p).mono
    fun _ _ _ ↦ trivial
  · exact fun h c hmem hh ↦ absurd (hh e hmem) he
  · exact fun h e' hmem ↦ List.mem_cons_of_mem e' hmem

theorem follows_getSecureSession {α : Type} {peer : SocketAddr} {f : Option ℕ → Handler α}
    (hf : (f none).Follows unsecuredRule) :
    (Server.perform (.getSecureSession peer) >>= f).Follows unsecuredRule := by
  refine fun h ↦ ⟨fun _ ↦ rfl, fun entry ↦ ?_⟩
  cases entry with
  | none => exact hf _
  | some entry =>
    exact obeys_linked (e := ⟨.getSecureSession peer, some entry⟩) (Option.some_ne_none entry) h _

theorem dispatches_unsecuredRule (link : ClientLink) : Dispatches unsecuredRule link where
  serving c hc h _ := by cases c <;> first | rfl | cases hc
  opening _ _ _ := rfl
  reply serviceType body link := by
    refine .bind (fun h ↦ ⟨fun _ ↦ rfl, fun entry ↦ ?_⟩) fun _ ↦
      .bind (.perform fun _ _ ↦ rfl) fun _ ↦ .done _
    cases entry with
    | none => trivial
    | some entry =>
      exact obeys_linked (e := ⟨.getRecipient link.peerAddr, some entry⟩)
        (Option.some_ne_none entry) h _

theorem follows_unsecuredRule_handleFrame (P : Primitives) {server : TunnelServer}
    (hserver : server.secureConfig = none) (data : List UInt8) (link : ClientLink) :
    (handleFrame P server data link).Follows unsecuredRule := by
  refine .bind (.done _) fun frame ↦ ?_
  split
  · simp only [handleSessionRequest, hserver]
    exact .done _
  · exact .bind (.bind (.done _) fun _ ↦ follows_getSecureSession (.done _)) fun _ ↦ .done _
  · exact follows_getSecureSession (.done _)
  · exact (dispatches_unsecuredRule link).dispatchPlainFrame server frame false

theorem survives_handleFrame {P : Primitives} {server : TunnelServer}
    (hserver : server.secureConfig = none) {data : List UInt8}
    (hdata : ¬ KnxIpFrame.Understated data) (link : ClientLink) :
    (handleFrame P server data link).Survives (exec P) State.Unsecured := by
  have htame := obeys_handleFrame_tame P server data link (h := []) fun _ ↦ hdata
  refine Survives.of_obeys (((follows_unsecuredRule_handleFrame P hserver data link) []).and
    htame |>.mono ?_) exec_isUnlinked (by simp)
  exact fun h r hr hh ↦ hr.2 fun e he ↦ isSensible_of_isUnlinked (hh e he)

end Knust.Transport.Server
