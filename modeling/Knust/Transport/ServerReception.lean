import Knust.Transport.Acknowledgement
import Knust.Transport.Server

namespace Knust.Transport.Server

open Foundation Foundation.Task Foundation.Numbering Protocol Security

/-- The frame as it was before it was encrypted, if the command right before was to
encrypt it. -/
def plainText (frame : List UInt8) : History Command Command.Response → List UInt8
  | ⟨.encryptFrame _ plain, _⟩ :: _ => plain
  | _ => frame

def answers : History Command Command.Response → List (List UInt8)
  | [] => []
  | ⟨.sendFrame _ frame, _⟩ :: h => answers h ++ [plainText frame h]
  | _ :: h => answers h

def isAcceptance : (c : Command) × c.Response → Bool
  | ⟨.storeRecvSeq .., _⟩ => true
  | _ => false

def receptionOf (h : History Command Command.Response) : Reception :=
  ⟨h.any isAcceptance, answers h⟩

/-- The session is in the table, which is free, expects the given counter, and can be
answered. -/
structure Serving (session : ClientSession) (expected : UInt8) (s : State) : Prop where
  registered : s.sessions session.channelId = some session
  free : s.sessionsHeld = false
  counting : ∃ c, s.cells[session.cells]? = some c ∧ c.recvSeq = expected
  answerable : ∀ entry, s.secureSessions session.link.peerAddr = some entry →
    ∃ e, s.entries[entry]? = some e ∧ e.session.sessionKey.initialized = true

variable {P : Primitives} {session : ClientSession} {expected : UInt8} {s : State}

theorem Serving.setCells (hs : Serving session expected s) {c : ClientCells} {v : UInt8}
    (hc : c.recvSeq = v) :
    Serving session v { s with cells := s.cells.set session.cells c } := by
  obtain ⟨c₀, hc₀, -⟩ := hs.counting
  refine ⟨hs.registered, hs.free, ⟨c, ?_, hc⟩, hs.answerable⟩
  obtain ⟨hlt, -⟩ := List.getElem?_eq_some_iff.mp hc₀
  exact List.getElem?_set_self hlt

theorem Serving.encryptFrame (hs : Serving session expected s) {n : ℕ} {e : SecureSessionEntry}
    (he : s.entries[n]? = some e) (plain : List UInt8) :
    Serving session expected { s with
      entries := s.entries.set n { e with session := (e.session.encryptFrame P plain).2 } } := by
  refine ⟨hs.registered, hs.free, hs.counting, fun entry hentry ↦ ?_⟩
  obtain ⟨e₁, he₁, hinit⟩ := hs.answerable entry hentry
  by_cases hn : n = entry
  · subst hn
    obtain ⟨hlt, -⟩ := List.getElem?_eq_some_iff.mp he
    obtain rfl : e = e₁ := by simpa [he] using he₁
    refine ⟨_, List.getElem?_set_self hlt, ?_⟩
    rw [SecureSession.encryptFrame_eq P plain hinit]
    exact hinit
  · exact ⟨e₁, by rw [List.getElem?_set_ne hn]; exact he₁, hinit⟩

theorem attains_sendReply (hs : Serving session expected s) (serviceType : ServiceType)
    (body : List UInt8) (h : Past) :
    (sendReply serviceType body session.link).Attains (exec P) (fun s' h' _ ↦
      Serving session expected s' ∧ h'.any isAcceptance = h.any isAcceptance ∧
        answers h' = answers h ++ [(KnxIpFrame.new serviceType body).serialize]) s h := by
  intro i₁
  refine ⟨_, s, rfl, ?_⟩
  cases hrecipient : s.secureSessions session.link.peerAddr with
  | none =>
    intro i₂
    exact ⟨_, s, rfl, hs, by simp [isAcceptance], rfl⟩
  | some entry =>
    obtain ⟨e, he, hinit⟩ := hs.answerable entry hrecipient
    intro i₂
    refine ⟨_, _, by simp only [exec, State.withEntry, he]; rfl, ?_⟩
    rw [SecureSession.encryptFrame_eq P _ hinit]
    intro i₃
    refine ⟨_, _, rfl, ?_, by simp [isAcceptance], rfl⟩
    have hs' := hs.encryptFrame (P := P) he (KnxIpFrame.new serviceType body).serialize
    rwa [SecureSession.encryptFrame_eq P _ hinit] at hs'

theorem attains_validateRecvSeq (hs : Serving session expected s) (received : UInt8) (h : Past) :
    (validateRecvSeq session received).Attains (exec P) (Checked (Serving session) received expected
      ⟨.loadRecvSeq session.cells, expected⟩ ⟨.storeRecvSeq session.cells (expected + 1), ()⟩ h) s
      h := by
  obtain ⟨c, hc, rfl⟩ := hs.counting
  have hset := hs.setCells (c := c) rfl
  intro i₁
  refine ⟨_, _, by simp only [exec, State.withCells, hc]; rfl, ?_⟩
  show Attains _ _ _ _ (ite _ _ _)
  split
  · rename_i hr
    obtain ⟨c₁, hc₁, -⟩ := hset.counting
    intro i₂
    refine ⟨_, _, by simp only [exec, State.withCells, hc₁]; rfl, ?_⟩
    exact .valid hr (hset.setCells rfl)
  · rename_i hr
    show Attains _ _ _ _ (ite _ _ _)
    split
    · rename_i hr'
      exact .duplicate hr' hset
    · rename_i hr'
      exact .invalid hr hr' hset

theorem attains_handleTunnellingRequest (hs : Serving session expected s) (sequence : UInt8)
    (rawCemi : List UInt8) :
    (handleTunnellingRequest
      (TunnellingRequest.serialize ⟨session.channelId, sequence, rawCemi⟩)).Attains (exec P)
      (fun s' h _ ↦ Received (Serving session) session.channelId sequence expected s' (receptionOf h)) s [] := by
  unfold handleTunnellingRequest
  rw [TunnellingRequest.parse_serialize, Task.ok_bind]
  obtain ⟨c, hc, rfl⟩ := hs.counting
  intro i₁
  refine ⟨_, s, by simp only [exec, State.withSessions, hs.free]; rfl, ?_⟩
  rw [hs.registered]
  intro i₂
  refine ⟨_, _, by simp only [exec, State.withCells, hc]; rfl, ?_⟩
  have htouched := hs.setCells (c := { c with lastHeartbeat := i₂.now }) rfl
  refine (attains_validateRecvSeq htouched sequence _).bind (fun s₁ h₁ result hv ↦ ?_)
    (fun _ _ _ hv ↦ by cases hv) (fun _ _ hv ↦ by cases hv)
  cases hv with
  | valid hr hs₁ =>
    refine (attains_sendReply hs₁ .tunnellingAck _ _).bind ?_ ?_ ?_
    · rintro s₂ h₂ _ ⟨hs₂, hstored, hanswers⟩
      have hreceived {s' : State} {h : Past}
          (hs' : Serving session (c.recvSeq + 1) s') (ha : h.any isAcceptance = h₂.any isAcceptance)
          (hb : answers h = answers h₂) :
          Received (Serving session) session.channelId sequence c.recvSeq s' (receptionOf h) := by
        rw [receptionOf, ha, hb, hstored, hanswers]
        exact .valid hr hs'
      intro i₃
      refine ⟨_, s₂, rfl, ?_⟩
      show Attains _ _ _ _ (Task.attempt (.done (parseCemiToTelegram i₃.now rawCemi)) >>= _)
      rcases parseCemiToTelegram i₃.now rawCemi with telegram | e | _
      · intro i₄
        exact ⟨_, _, rfl, hreceived ⟨hs₂.registered, hs₂.free, hs₂.counting, hs₂.answerable⟩ rfl rfl⟩
      · exact hreceived hs₂ rfl rfl
      · exact hreceived hs₂ rfl rfl
    · rintro s₂ h₂ e ⟨hs₂, hstored, hanswers⟩
      rw [receptionOf, hstored, hanswers]
      exact .valid hr hs₂
    · rintro s₂ h₂ ⟨hs₂, hstored, hanswers⟩
      rw [receptionOf, hstored, hanswers]
      exact .valid hr hs₂
  | duplicate hr hs₁ =>
    refine (attains_sendReply hs₁ .tunnellingAck _ _).mono ?_
    rintro s₂ h₂ _ ⟨hs₂, hstored, hanswers⟩
    rw [receptionOf, hstored, hanswers]
    exact .duplicate hr hs₂
  | invalid hr hr' hs₁ =>
    refine (attains_sendReply hs₁ .tunnellingAck _ _).mono ?_
    rintro s₂ h₂ _ ⟨hs₂, hstored, hanswers⟩
    rw [receptionOf, hstored, hanswers]
    exact .invalid hr hr' hs₂

theorem handlesByCounter (session : ClientSession) (start : UInt8) (cemis : List (List UInt8))
    (count : ℕ) :
    HandlesByCounter (exec P)
      (fun p ↦ handleTunnellingRequest (requestAt session.channelId start cemis p).serialize)
      receptionOf (Serving session) session.channelId start count := by
  intro expected p s _ hs
  exact attains_handleTunnellingRequest hs _ _

def Reference.connected : State := State.bound.insertSession (.udp Reference.peer) 1 0

def Reference.client : ClientSession := ⟨1, .udp Reference.peer, 0⟩

theorem Reference.serving_connected : Serving client 0 connected where
  registered := rfl
  free := rfl
  counting := ⟨_, rfl, rfl⟩
  answerable _ he := absurd he (by simp [connected, State.insertSession, State.bound])

end Knust.Transport.Server
