import Knust.Transport.SessionTable

namespace Knust.Transport

def ClientLink.isStream : ClientLink → Bool
  | .udp _ => false
  | .tcp .. => true

namespace Server

open Foundation Foundation.Task Protocol Security

def OpenedBy (trace : List Step) (k : ℕ) (session : ClientSession) : Prop :=
  ∃ o ∈ trace, o.task = k ∧
    o.event = ⟨.openSession session.link, some session.channelId⟩ ∧
    o.after.sessions session.channelId = some session

theorem OpenedBy.cons {trace : List Step} {k : ℕ} {session : ClientSession}
    (h : OpenedBy trace k session) (r : Step) : OpenedBy (r :: trace) k session := by
  obtain ⟨o, ho, hrest⟩ := h
  exact ⟨o, List.mem_cons_of_mem r ho, hrest⟩

section

variable {P : Primitives} {c : Command} {i : Env} {s s' : State} {a : c.Response}

theorem exec_cells_length (h : exec P c i s = some (a, s')) : s.cells.length ≤ s'.cells.length := by
  by_cases hc : c.editsTable = true
  swap
  · exact (exec_table (by simpa using hc) h).2.ge
  cases c
  case openSession link =>
    obtain ⟨-, rfl⟩ := exec_openSession h
    cases a <;> simp [State.insertSession]
  case removeSession =>
    obtain ⟨-, rfl⟩ := exec_removeSession h
    rfl
  case removeSessions =>
    obtain rfl := exec_removeSessions h
    rfl
  all_goals cases hc

end

def Known (trace : List Step) (s : State) (id : UInt8) (session : ClientSession) : Prop :=
  s.sessions id = some session ∨ ∃ o ∈ trace, o.after.sessions id = some session

/-- A session is stored under its own identifier, and has cells that no other one has
or had. -/
structure Dated (trace : List Step) (s : State) : Prop where
  keyed : s.WellKeyed
  known : ∀ id session, Known trace s id session → session.channelId = id ∧
    session.cells < s.cells.length ∧ ∀ id' session', s.sessions id' = some session' →
      session'.cells = session.cells → session' = session

theorem Dated.start : Dated [] .bound := by
  refine ⟨fun _ _ h ↦ (nomatch h), fun id session h ↦ ?_⟩
  rcases h with h | ⟨o, ho, -⟩
  · cases h
  · cases ho

theorem Dated.exec {P : Primitives} {c : Command} {i : Env} {s s' : State} {a : c.Response}
    {trace : List Step} (hs : Dated trace s) (he : exec P c i s = some (a, s')) (k : ℕ) :
    Dated (⟨k, c, a, s, s'⟩ :: trace) s' := by
  have hkeyed := exec_wellKeyed hs.keyed he
  have hle := exec_cells_length he
  refine ⟨hkeyed, fun id session hknown ↦ ?_⟩
  have hsplit : s'.sessions id = some session ∨ Known trace s id session := by
    rcases hknown with h | ⟨o, ho, h⟩
    · exact .inl h
    · rcases List.mem_cons.mp ho with rfl | ho
      · exact .inl h
      · exact .inr (.inr ⟨o, ho, h⟩)
  have hold (h : Known trace s id session) : session.channelId = id ∧
      session.cells < s'.cells.length ∧ ∀ id' session', s'.sessions id' = some session' →
        session'.cells = session.cells → session' = session := by
    obtain ⟨hid, hlt, hunique⟩ := hs.known id session h
    refine ⟨hid, hlt.trans_le hle, fun id' session' h' hcells ↦ ?_⟩
    rcases exec_session he h' with h' | ⟨-, -, -, hcells', -⟩
    · exact hunique id' session' h' hcells
    · omega
  rcases hsplit with h | h
  swap
  · exact hold h
  rcases exec_session he h with h₀ | ⟨hevent, hid, -, hcells, hlt⟩
  · exact hold (.inl h₀)
  refine ⟨hid, by omega, fun id' session' h' hcells' ↦ ?_⟩
  rcases exec_session he h' with h₀ | ⟨hevent', -⟩
  · have := (hs.known id' session' (.inl h₀)).2.1
    omega
  · -- Only one session is opened in a step.
    injection hevent'.symm.trans hevent with _ hids
    obtain rfl := Option.some.inj hids
    exact Option.some.inj (h'.symm.trans h)

def Command.isHandling : Command → Bool
  | .insertSecureSession _ entry => entry.session.sessionKey.initialized
  | .openSession .. | .isShutdown | .requestShutdown | .sleep | .recvFrom .. | .recvFrame ..
  | .streamClosed .. | .staleSessions | .removeSessions .. | .allSessions | .lockSend ..
  | .unlockSend .. | .loadSendSeq .. | .storeSendSeq .. | .expectAck .. | .awaitAck .. => false
  | _ => true

def Command.handles (onStream : Bool) (c : Command) : Prop :=
  c.isHandling = true ∨ ∃ link, c = .openSession link ∧ link.isStream = onStream

theorem serves_isHandling : Serves fun _ c ↦ c.isHandling = true where
  serving c hc _ := by cases c <;> first | rfl | cases hc
  reply serviceType body recipient := by
    refine .bind (.bind (.perform fun _ ↦ rfl) fun entry ↦ ?_) fun _ ↦
      .bind (.perform fun _ ↦ rfl) fun _ ↦ .done _
    cases entry with
    | none => exact .done _
    | some entry => exact .bind (.perform fun _ ↦ rfl) fun _ ↦ .done _

theorem dispatches_handles (link : ClientLink) :
    Dispatches (fun _ c ↦ c.handles link.isStream) link where
  serving c hc h := .inl (serves_isHandling.serving c hc h)
  reply _ _ _ h := (serves_isHandling.reply _ _ _ h).imp fun _ _ hc ↦ .inl hc
  opening hpai _ := .inr ⟨_, rfl, by cases link <;> rfl⟩

theorem isHandling_of_isHandshake {c : Command} (hc : c.isHandshake = true) :
    c.isHandling = true := by
  cases c
  case insertSecureSession => exact (Bool.and_eq_true_iff.mp hc).1
  all_goals first | rfl | cases hc

def Command.isSending : Command → Bool
  | .lockSend .. | .unlockSend .. | .loadSendSeq .. | .storeSendSeq .. | .getRecipient ..
  | .encryptFrame .. | .expectAck .. | .sendFrame .. | .awaitAck .. => true
  | _ => false

theorem follows_sendLocked_isSending (session : ClientSession) (telegram : Telegram) :
    (sendLocked session telegram).Follows fun _ c ↦ c.isSending = true := by
  have hattempts (seq : UInt8) (frame : List UInt8) (attempts : ℕ) :
      (sendAttempts session seq frame attempts).Follows fun _ c ↦ c.isSending = true := by
    induction attempts with
    | zero => exact .done _
    | succ attempts ih =>
      refine .bind (.perform fun _ ↦ rfl) fun channel ↦ .bind (.bind (.perform fun _ ↦ rfl)
        fun _ ↦ .done _) fun _ ↦ .bind (.perform fun _ ↦ rfl) fun ack ↦ ?_
      cases ack with
      | none => exact ih
      | some ack =>
        show Follows _ (ite _ _ _)
        split
        · exact .perform fun _ ↦ rfl
        · exact .done _
  refine .bind (.perform fun _ ↦ rfl) fun seq ↦ .bind (.bind (.perform fun _ ↦ rfl)
    fun recipient ↦ ?_) fun frame ↦ hattempts seq frame 2
  cases recipient with
  | none => exact .done _
  | some entry => exact .bind (.perform fun _ ↦ rfl) fun _ ↦ .done _

def Command.isOpening : Command → Bool
  | .openSession _ => true
  | _ => false

def lastOpened : History Command Command.Response → Option UInt8
  | [] => none
  | ⟨.openSession _, some id⟩ :: _ => some id
  | _ :: h => lastOpened h

theorem lastOpened_cons {c : Command} (hc : c.isOpening = false) (a : c.Response) (h : Past) :
    lastOpened (⟨c, a⟩ :: h) = lastOpened h := by
  cases c
  case openSession => cases hc
  all_goals rfl

theorem exists_of_lastOpened {h : Past} {id : UInt8} (hid : lastOpened h = some id) :
    ∃ link, ⟨.openSession link, some id⟩ ∈ h := by
  fun_induction lastOpened h with
  | case1 => cases hid
  | case2 link id' h =>
    cases hid
    exact ⟨link, List.mem_cons_self⟩
  | case3 e h hne ih =>
    obtain ⟨link, hmem⟩ := ih hid
    exact ⟨link, List.mem_cons_of_mem e hmem⟩

def confirming : History Command Command.Response → Bool
  | ⟨.openSession _, some _⟩ :: _ => true
  | ⟨.getRecipient _, _⟩ :: h | ⟨.encryptFrame _ _, _⟩ :: h => confirming h
  | _ => false

def Confirmed : History Command Command.Response → Prop
  | [] => True
  | ⟨.encryptFrame _ _, a⟩ :: h => (confirming h = true → a.isOk = true) ∧ Confirmed h
  | ⟨.sendFrame _ _, a⟩ :: h => (confirming h = true → a = .ok ()) ∧ Confirmed h
  | _ :: h => Confirmed h

/-- What the handling of a frame tells about the session that was opened last: an
error hides one only if it could not be confirmed. -/
def Assigns (before : Option UInt8) (h : History Command Command.Response) :
    Result (Option UInt8) → Prop
  | .ok (some id) => lastOpened h = some id
  | .ok none => lastOpened h = before
  | .err _ => Confirmed h → lastOpened h = before
  | .panic => True

section

variable {h : Past} {before : Option UInt8}

theorem obeys_lastOpened {α : Type} {p : Handler α}
    (hp : p.Follows fun _ c ↦ c.isHandling = true) (hh : lastOpened h = before) :
    p.Obeys (fun _ c ↦ c.isHandling = true) (fun h' _ ↦ lastOpened h' = before) h :=
  (hp h).carry (fun _ _ _ hc ↦ hc)
    (fun h c a ha hc ↦ (lastOpened_cons (by cases c <;> first | rfl | cases hc) a h).trans ha) hh

theorem obeys_serving_assigns {p : Handler Unit}
    (hp : p.Follows fun _ c ↦ c.isHandling = true) (hh : lastOpened h = before) :
    (p >>= fun _ ↦ pure none).Obeys (fun _ _ ↦ True) (Assigns before) h :=
  ((obeys_lastOpened hp hh).imp fun _ _ _ ↦ trivial).bind (fun _ _ h ↦ h) (fun _ _ h _ ↦ h) (fun _ _ ↦ trivial)

theorem obeys_sendReply_confirmed (serviceType : ServiceType) (body : List UInt8)
    (link : ClientLink) (hh : confirming h = true) :
    (sendReply serviceType body link).Obeys (fun _ _ ↦ True)
      (fun h' r ↦ ∀ e, r = .err e → ¬ Confirmed h') h := by
  have hsend (frame : List UInt8) (h' : Past)
      (hh' : confirming h' = true) : (sendFrame link frame).Obeys (fun _ _ ↦ True)
        (fun h' r ↦ ∀ e, r = .err e → ¬ Confirmed h') h' := by
    refine ⟨trivial, fun a e ha hc ↦ ?_⟩
    cases ha.symm.trans (hc.1 hh')
  refine ⟨trivial, fun recipient ↦ ?_⟩
  cases recipient with
  | none => exact hsend _ _ hh
  | some entry =>
    refine ⟨trivial, fun a ↦ ?_⟩
    cases a with
    | ok frame => exact hsend frame _ hh
    | err e => exact fun _ _ hc ↦ nomatch hc.1 hh
    | panic => exact fun _ hr ↦ nomatch hr

theorem obeys_handleConnectRequest_assigns (server : TunnelServer) (body : List UInt8)
    (link : ClientLink) (hh : lastOpened h = before) :
    (handleConnectRequest server body link).Obeys (fun _ _ ↦ True) (Assigns before) h := by
  unfold handleConnectRequest
  cases ConnectRequest.parse body with
  | err e => exact fun _ ↦ hh
  | panic => trivial
  | ok request =>
    refine ⟨trivial, fun a ↦ ?_⟩
    cases a with
    | some id =>
      let body := (connectResponse server (some id)).serialize
      let link' := resolveLink request.dataEndpoint link
      have hreply := obeys_sendReply_confirmed (h := ⟨.openSession link', some id⟩ :: h)
        .connectResponse body link' rfl
      have hlast := obeys_lastOpened (h := ⟨.openSession link', some id⟩ :: h)
        (serves_isHandling.reply .connectResponse body link') rfl
      refine (hreply.and hlast).bind ?_ ?_ fun _ _ ↦ trivial
      · exact fun _ _ hr ↦ hr.2
      · exact fun _ e hr hc ↦ absurd hc (hr.1 e rfl)
    | none =>
      let link' := resolveLink request.dataEndpoint link
      have hlast := obeys_lastOpened (h := ⟨.openSession link', none⟩ :: h)
        (serves_isHandling.reply .connectResponse (connectResponse server none).serialize
          link').attempt hh
      refine (hlast.imp fun _ _ _ ↦ trivial).bind (fun h' sent hh' ↦ ⟨trivial, fun _ ↦ ?_⟩)
        (fun _ _ hh' _ ↦ hh') fun _ _ ↦ trivial
      cases sent with
      | ok _ => exact hh'
      | error e => exact fun _ ↦ hh'

theorem obeys_dispatchPlainFrame_assigns (server : TunnelServer) (frame : KnxIpFrame)
    (link : ClientLink) (wasEncrypted : Bool) (hh : lastOpened h = before) :
    (dispatchPlainFrame server frame link wasEncrypted).Obeys (fun _ _ ↦ True)
      (Assigns before) h := by
  have hserves := serves_isHandling
  unfold dispatchPlainFrame
  split
  · exact hh
  split
  · exact obeys_handleConnectRequest_assigns server _ _ hh
  · exact obeys_serving_assigns (hserves.handleTunnellingRequest _) hh
  · exact obeys_serving_assigns (hserves.handleTunnellingAck _) hh
  · exact obeys_serving_assigns (hserves.handleConnectionstateRequest _ _) hh
  · exact obeys_serving_assigns (hserves.handleDisconnectRequest _ _) hh
  · exact hh

end

section

variable (P : Primitives) (server : TunnelServer) {h : Past} {before : Option UInt8}

theorem follows_handleFrame_handles (data : List UInt8) (link : ClientLink) :
    (handleFrame P server data link).Follows fun _ c ↦ c.handles link.isStream := by
  have hhandling {p : Handler Unit} (hp : p.Follows fun _ c ↦ c.isHandshake = true) :
      p.Follows fun _ c ↦ c.handles link.isStream :=
    fun h ↦ (hp h).imp fun _ _ hc ↦ .inl (isHandling_of_isHandshake hc)
  refine .bind (.done _) fun frame ↦ ?_
  split
  · exact .bind (hhandling (follows_handleSessionRequest_isHandshake P server _ _)) fun _ ↦ .done _
  · exact .bind (hhandling (follows_handleSessionAuthenticate_isHandshake _ _)) fun _ ↦ .done _
  · refine .bind (.perform fun _ ↦ .inl rfl) fun entry ↦ ?_
    cases entry with
    | none => exact .done _
    | some entry =>
      refine .bind (.perform fun _ ↦ .inl rfl) fun authenticated ↦ ?_
      cases authenticated with
      | false => exact .done _
      | true =>
        refine .bind (.perform fun _ ↦ .inl rfl) fun decrypted ↦ .bind (.done _) fun inner ↦
          .bind (.done _) fun frame ↦ ?_
        exact (dispatches_handles link).dispatchPlainFrame server frame true
  · exact (dispatches_handles link).dispatchPlainFrame server frame false

theorem obeys_handleFrame_assigns (data : List UInt8) (link : ClientLink)
    (hh : lastOpened h = before) :
    (handleFrame P server data link).Obeys (fun _ _ ↦ True) (Assigns before) h := by
  unfold handleFrame
  cases KnxIpFrame.parse data with
  | err e => exact fun _ ↦ hh
  | panic => trivial
  | ok frame =>
    have hhandling {p : Handler Unit} (hp : p.Follows fun _ c ↦ c.isHandshake = true) :
        p.Follows fun _ c ↦ c.isHandling = true :=
      fun h ↦ (hp h).imp fun _ _ ↦ isHandling_of_isHandshake
    rw [Task.ok_bind]
    split
    · exact obeys_serving_assigns (hhandling (follows_handleSessionRequest_isHandshake P server _ _))
        hh
    · exact obeys_serving_assigns (hhandling (follows_handleSessionAuthenticate_isHandshake _ _)) hh
    · refine ⟨trivial, fun entry ↦ ?_⟩
      cases entry with
      | none => exact hh
      | some entry =>
        refine ⟨trivial, fun authenticated ↦ ?_⟩
        cases authenticated with
        | false => exact hh
        | true =>
          refine ⟨trivial, fun decrypted ↦ ?_⟩
          cases decrypted with
          | err e => exact fun _ ↦ hh
          | panic => trivial
          | ok inner =>
            show Obeys _ _ _ (.done (KnxIpFrame.parse inner) >>= fun frame ↦
              dispatchPlainFrame server frame link true)
            cases KnxIpFrame.parse inner with
            | err e => exact fun _ ↦ hh
            | panic => trivial
            | ok frame => exact obeys_dispatchPlainFrame_assigns server _ _ _ hh
    · exact obeys_dispatchPlainFrame_assigns server _ _ _ hh

end

section

variable {rule : Past → Command → Prop} {A : Option UInt8 → Past → Prop}
  {Q : Past → Result (Option UInt8) → Prop}

/-- What has to hold after a frame on a stream was handled, while the channel is still
known that is to be cleaned up. -/
def AfterFrame (A : Option UInt8 → History Command Command.Response → Prop)
    (Q : History Command Command.Response → Result (Option UInt8) → Prop) (assigned : Option UInt8)
    (h : History Command Command.Response) : Result (Option UInt8) → Prop
  | .ok (some id) => A (some id) h
  | .ok none | .err _ => A assigned h
  | .panic => Q h .panic

theorem obeys_streamLoop_of_frames (P : Primitives) (server : TunnelServer) (transport : ℕ)
    (peer : SocketAddr) (hstop : ∀ assigned h b, A assigned h →
      rule h .isShutdown ∧ A assigned (⟨.isShutdown, b⟩ :: h))
    (hclose : ∀ assigned h, A assigned h → rule h (.streamClosed transport peer) ∧
      Q (⟨.streamClosed transport peer, ()⟩ :: h) (.ok assigned))
    (hframe : ∀ assigned data h, A assigned h → rule h (.recvFrame transport peer data) ∧
      (handleFrame P server data (.tcp transport peer)).Obeys rule (AfterFrame A Q assigned)
        (⟨.recvFrame transport peer data, ()⟩ :: h)) (frames : List (List UInt8))
    {assigned : Option UInt8} {h : Past} (hh : A assigned h) :
    (streamLoop P server transport peer frames assigned).Obeys rule Q h := by
  induction frames generalizing assigned h with
  | nil =>
    obtain ⟨hrule, hend⟩ := hclose assigned h hh
    exact ⟨hrule, fun _ ↦ hend⟩
  | cons data frames ih =>
    refine ⟨(hstop assigned h false hh).1, fun shutdown ↦ ?_⟩
    have hh := (hstop assigned h shutdown hh).2
    cases shutdown with
    | true =>
      obtain ⟨hrule, hend⟩ := hclose assigned _ hh
      exact ⟨hrule, fun _ ↦ hend⟩
    | false =>
      obtain ⟨hrule, hhandled⟩ := hframe assigned data _ hh
      refine ⟨hrule, fun _ ↦ ?_⟩
      have hcaught := hhandled.attempt (δ := KnxError) (T := fun h r ↦ match r with
        | .ok (.ok (some id)) => A (some id) h
        | .ok (.ok none) | .ok (.error _) => A assigned h
        | .err _ => False
        | .panic => Q h .panic) (fun h a ha ↦ ?_) (fun _ _ ha ↦ ha) (fun _ ha ↦ ha)
      · refine hcaught.bind (fun h result ha ↦ ?_) (fun _ _ ha ↦ ha.elim) fun _ ha ↦ ha
        rcases result with e | _ | id
        · exact ih ha
        · exact ih ha
        · exact ih ha
      · cases a <;> exact ha

end

end Server

end Knust.Transport
