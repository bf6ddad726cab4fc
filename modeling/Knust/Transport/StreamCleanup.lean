import Knust.Transport.ServerAborts

namespace Knust.Transport.Server

open Foundation Foundation.Task Protocol Security

def Command.isDatagram : Command → Bool
  | .recvFrom .. => true
  | _ => false

def servesDatagrams (h : History Command Command.Response) : Bool := h.any fun e ↦ e.1.isDatagram

def ServesStream (h : History Command Command.Response) (transport : ℕ) (peer : SocketAddr) :
    Prop :=
  ⟨.streamClosed transport peer, ()⟩ ∈ h ∨ ∃ data, ⟨.recvFrame transport peer data, ()⟩ ∈ h

/-- No session is left that was opened on the stream of the task, and no secure session
was left for its peer when the task ended. -/
structure CleanedUp (x : Config Command Command.Response State KnxError) (j : ℕ)
    (peer : SocketAddr) : Prop where
  sessions : ∀ id session, x.state.sessions id = some session → ¬ OpenedBy x.trace j session
  secure : ∃ r, x.trace.find? (fun r ↦ r.task = j) = some r ∧ r.after.secureSessions peer = none

def CleansUp (x : Config Command Command.Response State KnxError) : Prop :=
  ∀ j transport peer result, x.pool[j]? = some (.done result) →
    ServesStream (history j x.trace) transport peer → CleanedUp x j peer

/-- A command of a task that serves a stream meets no obstacle: no frame declares a length
shorter than its header, wrapped or not, a session is opened only when none that was
opened on the stream is left, and its confirmation can be sent. -/
def TidyCommand (P : Primitives) (x : Config Command Command.Response State KnxError) (k : ℕ)
    (i : Env) : Command → Prop
  | .recvFrame _ _ data => ¬ KnxIpFrame.Understated data
  | .decryptFrame entry data => ∀ e ∈ x.state.entries[entry]?, ∀ inner,
      (e.session.decryptFrame P data).1 = .ok inner → ¬ KnxIpFrame.Understated inner
  | .openSession _ => ∀ id session, x.state.sessions id = some session →
      ¬ OpenedBy x.trace k session
  | .sendFrame _ _ => confirming (history k x.trace) = true → i.ioError = none
  | _ => True

def ServesTidily (P : Primitives) (x : Config Command Command.Response State KnxError) :
    Move Activity Env → Prop
  | .spawn _ => True
  | .resume k i => servesDatagrams (history k x.trace) = false →
      ∀ c ∈ x.next k, TidyCommand P x k i c

def Removed : History Command Command.Response → Prop
  | [] => False
  | ⟨.removeSession _, _⟩ :: h =>
    (∃ transport peer, ⟨.streamClosed transport peer, ()⟩ ∈ h) ∨ Removed h
  | _ :: h => Removed h

/-- No session is opened on a stream that is closed, and the one that was opened last is
removed then. -/
def cleanupRule (h : History Command Command.Response) : Command → Prop
  | .openSession _ => ∀ transport peer, ⟨.streamClosed transport peer, ()⟩ ∉ h
  | .removeSession id => ∀ transport peer, ⟨.streamClosed transport peer, ()⟩ ∈ h →
      Confirmed h → lastOpened h = some id
  | .insertSecureSession _ entry => entry.session.sessionKey.initialized = true
  | _ => True

def cleanupEnd (h : History Command Command.Response) (_ : Result Unit) : Prop :=
  ∀ transport peer, ServesStream h transport peer → servesDatagrams h = false ∧
    (Sensible h → Confirmed h → (lastOpened h = none ∨ Removed h) ∧
      h.head? = some ⟨.removeSecureSession peer, ()⟩)

theorem Confirmed.tail {e : (c : Command) × c.Response} {h : Past} (hh : Confirmed (e :: h)) :
    Confirmed h := by
  obtain ⟨c, a⟩ := e
  cases c
  case encryptFrame | sendFrame => exact hh.2
  all_goals exact hh

def Command.isAside : Command → Bool
  | .recvFrame .. | .streamClosed .. => false
  | .insertSecureSession _ entry => entry.session.sessionKey.initialized
  | _ => true

theorem isAside_of_isHandling {c : Command} (hc : c.isHandling = true) : c.isAside = true := by
  cases c <;> first | rfl | exact hc

theorem isAside_of_handles {onStream : Bool} {c : Command} (hc : c.handles onStream) :
    c.isAside = true := by
  rcases hc with hc | ⟨link, rfl, -⟩
  · exact isAside_of_isHandling hc
  · rfl

theorem permits_isAside : Permits fun _ c ↦ c.isAside = true where
  plain c hc _ := by cases c <;> first | rfl | cases hc
  reply _ _ _ h := (serves_isHandling.reply _ _ _ h).imp fun _ _ ↦ isAside_of_isHandling
  tunnelled session telegram := by
    have hlocked : (sendLocked session telegram).Follows fun _ c ↦ c.isAside = true :=
      fun h ↦ (follows_sendLocked_isSending session telegram h).imp fun _ c hc ↦ by
        cases c <;> first | rfl | cases hc
    exact .bind (.perform fun _ ↦ rfl) fun _ ↦ .bind (.attempt hlocked) fun result ↦
      .bind (.perform fun _ ↦ rfl) fun _ ↦ follows_rethrow result

section

variable {h : Past}

theorem ServesStream.of_cons {transport : ℕ} {peer : SocketAddr} {c : Command} {a : c.Response}
    (hs : ServesStream (⟨c, a⟩ :: h) transport peer) (hc : c.isAside = true) :
    ServesStream h transport peer := by
  rcases hs with he | ⟨data, he⟩
  · rcases List.mem_cons.mp he with he | he
    · cases he
      cases hc
    · exact .inl he
  · rcases List.mem_cons.mp he with he | he
    · cases he
      cases hc
    · exact .inr ⟨data, he⟩

def Unstreamed (h : History Command Command.Response) : Prop :=
  ∀ transport peer, ¬ ServesStream h transport peer

theorem Unstreamed.cons (hh : Unstreamed h) {c : Command} (hc : c.isAside = true)
    (a : c.Response) : Unstreamed (⟨c, a⟩ :: h) :=
  fun transport peer hs ↦ hh transport peer (hs.of_cons hc)

theorem Unstreamed.cleanupRule (hh : Unstreamed h) {c : Command} (hc : c.isAside = true) :
    cleanupRule h c := by
  cases c
  case openSession => exact fun transport peer he ↦ hh transport peer (.inl he)
  case removeSession => exact fun transport peer he ↦ absurd (.inl he) (hh transport peer)
  case insertSecureSession => exact hc
  all_goals trivial

theorem obeys_cleanup_of_aside {p : Handler Unit} (hp : p.Follows fun _ c ↦ c.isAside = true) :
    p.Obeys cleanupRule cleanupEnd [] := by
  have hstart : Unstreamed [] := by
    rintro transport peer (he | ⟨data, he⟩) <;> cases he
  refine ((hp []).carry (fun _ _ hh hc ↦ hh.cleanupRule hc) (fun _ _ a hh hc ↦ hh.cons hc a)
    hstart).mono ?_
  exact fun h _ hh transport peer hs ↦ absurd hs (hh transport peer)

theorem follows_dispatchLoop_aside (P : Primitives) (server : TunnelServer)
    (datagrams : List (SocketAddr × List UInt8)) :
    (dispatchLoop P server datagrams).Follows fun _ c ↦ c.isAside = true := by
  induction datagrams with
  | nil => exact .done _
  | cons d datagrams ih =>
    refine .bind (.perform fun _ ↦ rfl) fun shutdown ↦ ?_
    cases shutdown with
    | true => exact .done _
    | false =>
      refine .bind (.perform fun _ ↦ rfl) fun taken ↦ ?_
      cases taken with
      | false => exact .done _
      | true =>
        have hframe : (handleFrame P server (d.2.take 1024) (.udp d.1)).Follows
            fun _ c ↦ c.isAside = true :=
          fun h ↦ (follows_handleFrame_handles P server _ _ h).imp fun _ _ ↦ isAside_of_handles
        exact .bind (.attempt hframe) fun _ ↦ ih

structure Attends (peer : SocketAddr) (h : History Command Command.Response) : Prop where
  datagrams : servesDatagrams h = false
  unclosed : ∀ transport peer, ⟨.streamClosed transport peer, ()⟩ ∉ h
  received : ∀ transport peer' data, ⟨.recvFrame transport peer' data, ()⟩ ∈ h → peer' = peer

theorem Attends.cons {peer : SocketAddr} (hh : Attends peer h) {c : Command}
    (hc : c.isDatagram = false) (hclose : ∀ transport peer, c ≠ .streamClosed transport peer)
    (hrecv : ∀ transport peer' data, c = .recvFrame transport peer' data → peer' = peer)
    (a : c.Response) : Attends peer (⟨c, a⟩ :: h) where
  datagrams := by
    rw [servesDatagrams, List.any_cons, hc]
    exact hh.datagrams
  unclosed transport peer' he := by
    rcases List.mem_cons.mp he with he | he
    · cases he
      exact hclose _ _ rfl
    · exact hh.unclosed transport peer' he
  received transport peer' data he := by
    rcases List.mem_cons.mp he with he | he
    · cases he
      exact hrecv _ _ _ rfl
    · exact hh.received transport peer' data he

theorem Attends.cleanupRule {peer : SocketAddr} (hh : Attends peer h) {c : Command}
    (hc : c.isAside = true) : cleanupRule h c := by
  cases c
  case openSession => exact hh.unclosed
  case removeSession => exact fun transport peer he ↦ absurd he (hh.unclosed transport peer)
  case insertSecureSession => exact hc
  all_goals trivial

def Attended (peer : SocketAddr) (assigned : Option UInt8)
    (h : History Command Command.Response) : Prop :=
  Attends peer h ∧ (Confirmed h → lastOpened h = assigned)

def streamEnd (transport : ℕ) (peer : SocketAddr) (h : History Command Command.Response) :
    Result (Option UInt8) → Prop
  | .ok assigned => ∃ h', h = ⟨.streamClosed transport peer, ()⟩ :: h' ∧ Attended peer assigned h'
  | .err _ => False
  | .panic => Attends peer h ∧ ¬ Sensible h

variable (P : Primitives) (server : TunnelServer)

theorem obeys_handleFrame_attends (data : List UInt8) (link : ClientLink) {peer : SocketAddr}
    (hh : Attends peer h) :
    (handleFrame P server data link).Obeys cleanupRule
      (fun h' _ ↦ Attends peer h' ∧ (Confirmed h' → Confirmed h)) h := by
  refine (follows_handleFrame_handles P server data link h).carry
    (fun _ _ hh hc ↦ hh.1.cleanupRule (isAside_of_handles hc)) (fun h' c a hh' hc ↦ ?_) ⟨hh, id⟩
  refine ⟨hh'.1.cons ?_ ?_ ?_ a, fun hconfirmed ↦ hh'.2 hconfirmed.tail⟩
  · rcases hc with hc | ⟨link', rfl, -⟩
    · cases c <;> first | rfl | cases hc
    · rfl
  · rintro transport peer rfl
    cases isAside_of_handles hc
  · rintro transport peer data rfl
    cases isAside_of_handles hc

theorem obeys_handleFrame_attended (data : List UInt8) (transport : ℕ) (peer : SocketAddr)
    {assigned : Option UInt8} (hh : Attended peer assigned h) :
    (handleFrame P server data (.tcp transport peer)).Obeys cleanupRule
      (AfterFrame (Attended peer) (streamEnd transport peer) assigned)
        (⟨.recvFrame transport peer data, ()⟩ :: h) := by
  have hattends : Attends peer (⟨.recvFrame transport peer data, ()⟩ :: h) := by
    refine hh.1.cons (c := .recvFrame transport peer data) rfl (fun _ _ h ↦ nomatch h) ?_ ()
    intro _ _ _ hrecv
    cases hrecv
    rfl
  refine (((obeys_handleFrame_attends P server data (.tcp transport peer) hattends).and
    (obeys_handleFrame_assigns P server data (.tcp transport peer) rfl)).and
    (obeys_handleFrame_tame P server data (.tcp transport peer)
      fun hs ↦ hs _ List.mem_cons_self)).mono ?_
  rintro h' r ⟨⟨⟨hattends', hconfirmed⟩, hassigns⟩, htame⟩
  have hbefore (hc : Confirmed h') : lastOpened h = assigned := hh.2 (hconfirmed hc).tail
  rcases r with (_ | id) | e | _
  · exact ⟨hattends', fun hc ↦ (show lastOpened h' = lastOpened h from hassigns).trans (hbefore hc)⟩
  · exact ⟨hattends', fun _ ↦ hassigns⟩
  · exact ⟨hattends', fun hc ↦ (show lastOpened h' = lastOpened h from hassigns hc).trans
      (hbefore hc)⟩
  · exact ⟨hattends', fun hs ↦ absurd rfl (htame hs)⟩

theorem obeys_streamLoop_cleanup (transport : ℕ) (peer : SocketAddr) (frames : List (List UInt8))
    {assigned : Option UInt8} (hh : Attended peer assigned h) :
    (streamLoop P server transport peer frames assigned).Obeys cleanupRule
      (streamEnd transport peer) h := by
  refine obeys_streamLoop_of_frames P server transport peer (A := Attended peer)
    (fun assigned h b hh ↦ ⟨trivial, ?_⟩) (fun assigned h hh ↦ ⟨trivial, h, rfl, hh⟩)
    (fun assigned data h hh ↦ ⟨trivial, obeys_handleFrame_attended P server data transport peer hh⟩)
    frames hh
  exact ⟨hh.1.cons (c := .isShutdown) rfl (fun _ _ h ↦ nomatch h) (fun _ _ _ h ↦ nomatch h) b, hh.2⟩

theorem Attends.servesStream {transport : ℕ} {peer : SocketAddr} (hh : Attends peer h)
    {transport' : ℕ} {peer' : SocketAddr}
    (hs : ServesStream (⟨.streamClosed transport peer, ()⟩ :: h) transport' peer') :
    peer' = peer := by
  rcases hs with he | ⟨data, he⟩
  · rcases List.mem_cons.mp he with he | he
    · cases he
      rfl
    · exact absurd he (hh.unclosed transport' peer')
  · rcases List.mem_cons.mp he with he | he
    · cases he
    · exact hh.received transport' peer' data he

theorem obeys_program_cleanup (activity : Activity) :
    (program P server activity).Obeys cleanupRule cleanupEnd [] := by
  cases activity with
  | accept transport peer frames =>
    refine ⟨trivial, fun shutdown ↦ ?_⟩
    cases shutdown with
    | true =>
      rintro transport peer (he | ⟨data, he⟩)
      · cases List.mem_singleton.mp he
      · cases List.mem_singleton.mp he
    | false =>
      have hstart : Attended peer none [⟨.isShutdown, false⟩] := by
        refine ⟨⟨rfl, fun _ _ he ↦ ?_, fun _ _ _ he ↦ ?_⟩, fun _ ↦ rfl⟩
        · cases List.mem_singleton.mp he
        · cases List.mem_singleton.mp he
      refine (obeys_streamLoop_cleanup P server transport peer frames hstart).bind ?_
        (fun _ _ he ↦ he.elim) ?_
      · rintro h assigned ⟨h', rfl, hattends, hassigned⟩
        cases assigned with
        | none =>
          refine ⟨trivial, fun _ transport' peer' hs ↦ ?_⟩
          obtain rfl := hattends.servesStream (hs.of_cons rfl)
          exact ⟨hattends.datagrams, fun _ hc ↦ ⟨.inl (hassigned hc), rfl⟩⟩
        | some id =>
          refine ⟨fun _ _ _ hc ↦ hassigned hc, fun removed ↦ ⟨trivial, fun _ ↦ ?_⟩⟩
          intro transport' peer' hs
          obtain rfl := hattends.servesStream ((hs.of_cons rfl).of_cons rfl)
          refine ⟨hattends.datagrams, fun _ _ ↦ ⟨.inr (.inl ?_), rfl⟩⟩
          exact ⟨transport, peer', List.mem_cons_self⟩
      · rintro h ⟨hattends, hnot⟩ transport' peer' -
        exact ⟨hattends.datagrams, fun hs ↦ absurd hs hnot⟩
  | send telegram => exact obeys_cleanup_of_aside (permits_isAside.send telegram)
  | shutdown => exact obeys_cleanup_of_aside (permits_isAside.perform rfl)

end

structure Provisioned (trace : List Step) (s : State) : Prop extends Dated trace s where
  initialized : ∀ e ∈ s.entries, e.session.sessionKey.initialized = true

section

variable {P : Primitives} {c : Command} {i : Env} {a : c.Response}

theorem exec_initialized {s s' : State} {h : Past}
    (hs : ∀ e ∈ s.entries, e.session.sessionKey.initialized = true) (hrule : cleanupRule h c)
    (he : exec P c i s = some (a, s')) :
    ∀ e ∈ s'.entries, e.session.sessionKey.initialized = true := by
  intro e hmem
  obtain h | ⟨peer, new, rfl, h⟩ | ⟨n, old, session, hn, h, hkey, -⟩ := exec_entries he
  · rw [h] at hmem
    exact hs e hmem
  · rw [h] at hmem
    rcases List.mem_append.mp hmem with hmem | hmem
    · exact hs e hmem
    · obtain rfl := List.mem_singleton.mp hmem
      exact hrule
  · rw [h] at hmem
    rcases List.mem_or_eq_of_mem_set hmem with hmem | rfl
    · exact hs e hmem
    · rw [hkey]
      exact hs old (List.mem_of_getElem? hn)

theorem keeps_provisioned : Config.Keeps (exec P) cleanupRule Provisioned :=
  fun _ _ k _ _ _ _ _ hs hrule he ↦
    ⟨hs.toDated.exec he k, exec_initialized hs.initialized hrule he⟩

end

section

variable {P : Primitives} {x : Config Command Command.Response State KnxError} {k : ℕ} {c : Command}
  {i : Env} {a : c.Response} {s : State}

theorem TidyCommand.sensible (htidy : TidyCommand P x k i c)
    (he : exec P c i x.state = some (a, s))
    (hinit : ∀ e ∈ x.state.entries, e.session.sessionKey.initialized = true) :
    isSensible ⟨c, a⟩ := by
  cases c
  case recvFrame => exact htidy
  case decryptFrame entry data =>
    simp only [exec] at he
    obtain ⟨e, hentry, rfl, -⟩ := State.withEntry_eq_some he
    exact ⟨SecureSession.decryptFrame_ne_panic P _ _, htidy e hentry⟩
  case encryptFrame entry frame =>
    simp only [exec] at he
    obtain ⟨e, hentry, rfl, -⟩ := State.withEntry_eq_some he
    rw [isSensible, SecureSession.encryptFrame_eq P frame (hinit e (List.mem_of_getElem? hentry))]
    exact Outcome.ok_ne_panic _
  case verifyAuthenticateMac entry userId mac =>
    simp only [exec] at he
    obtain ⟨e, -, rfl, -⟩ := State.withEntry_eq_some he
    exact SecureSession.verifyAuthenticateMac_ne_panic P _ _ _ _
  case sendFrame link frame =>
    cases he
    show sendResult link i ≠ .panic
    unfold sendResult
    split
    · exact Outcome.ok_ne_panic _
    · exact Outcome.err_ne_panic _
  all_goals trivial

theorem TidyCommand.confirmed (htidy : TidyCommand P x k i c)
    (he : exec P c i x.state = some (a, s))
    (hinit : ∀ e ∈ x.state.entries, e.session.sessionKey.initialized = true)
    (hh : Confirmed (history k x.trace)) : Confirmed (⟨c, a⟩ :: history k x.trace) := by
  cases c
  case encryptFrame entry frame =>
    simp only [exec] at he
    obtain ⟨e, hentry, rfl, -⟩ := State.withEntry_eq_some he
    refine ⟨fun _ ↦ ?_, hh⟩
    rw [SecureSession.encryptFrame_eq P frame (hinit e (List.mem_of_getElem? hentry))]
    rfl
  case sendFrame link frame =>
    cases he
    refine ⟨fun hc ↦ ?_, hh⟩
    unfold sendResult
    rw [htidy hc]
  all_goals exact hh

end

section

variable {h : Past}

theorem servesDatagrams_of_cons {e : (c : Command) × c.Response}
    (he : servesDatagrams (e :: h) = false) : servesDatagrams h = false := by
  rw [servesDatagrams, List.any_cons, Bool.or_eq_false_iff] at he
  exact he.2

theorem Removed.of_cons {c : Command} {a : c.Response} (hr : Removed (⟨c, a⟩ :: h)) :
    Removed h ∨ (∃ id, c = .removeSession id) ∧
      ∃ transport peer, ⟨.streamClosed transport peer, ()⟩ ∈ h := by
  cases c
  case removeSession id =>
    rcases hr with hclosed | hr
    · exact .inr ⟨⟨id, rfl⟩, hclosed⟩
    · exact .inl hr
  all_goals exact .inl hr

theorem exists_streamClosed_of_removed (hr : Removed h) :
    ∃ transport peer, ⟨.streamClosed transport peer, ()⟩ ∈ h := by
  induction h with
  | nil => cases hr
  | cons e h ih =>
    have hclosed : ∃ transport peer, ⟨.streamClosed transport peer, ()⟩ ∈ h := by
      rcases hr.of_cons with hr | ⟨-, hclosed⟩
      · exact ih hr
      · exact hclosed
    obtain ⟨transport, peer, he⟩ := hclosed
    exact ⟨transport, peer, List.mem_cons_of_mem e he⟩

end

/-- A task that serves a stream has one session at most that it opened, the last one, as
long as it has not cleaned up. -/
structure Orderly (P : Primitives) (x : Config Command Command.Response State KnxError) :
    Prop where
  sound : x.Sound (exec P) cleanupRule Provisioned
  tracks : ∃ ts : List Unit, x.Tracks (fun _ ↦ cleanupRule) (fun _ ↦ cleanupEnd) ts
  fine : ∀ j, servesDatagrams (history j x.trace) = false →
    Sensible (history j x.trace) ∧ Confirmed (history j x.trace)
  owned : ∀ j, servesDatagrams (history j x.trace) = false → ∀ id session,
    x.state.sessions id = some session → OpenedBy x.trace j session →
    lastOpened (history j x.trace) = some id ∧ ¬ Removed (history j x.trace)

section

variable {P : Primitives} {x : Config Command Command.Response State KnxError}

theorem OpenedBy.of_step {k j : ℕ} {c : Command} {i : Env} {a : c.Response} {s : State}
    {session : ClientSession} {id : UInt8} (hdated : Dated x.trace x.state)
    (he : exec P c i x.state = some (a, s)) (hsession : s.sessions id = some session)
    (hopened : OpenedBy (⟨k, c, a, x.state, s⟩ :: x.trace) j session) :
    (x.state.sessions id = some session ∧ OpenedBy x.trace j session) ∨
      (j = k ∧ (⟨c, a⟩ : (c : Command) × c.Response) = ⟨.openSession session.link, some id⟩) := by
  obtain ⟨o, ho, htask, hevent, hafter⟩ := hopened
  rcases exec_session he hsession with hold | ⟨hnew, -, -, hcells, -⟩
  · rcases List.mem_cons.mp ho with rfl | ho
    · -- An identifier that is in use is not given out.
      cases hevent
      rw [(hdated.keyed id session hold).1] at he
      have hfree := (allocateChannelId_eq_some (exec_openSession he).1.symm).2
      rw [hold] at hfree
      cases hfree
    · exact .inl ⟨hold, o, ho, htask, hevent, hafter⟩
  · rcases List.mem_cons.mp ho with rfl | ho
    · exact .inr ⟨htask.symm, hnew⟩
    · have hlt := (hdated.known _ session (.inr ⟨o, ho, hafter⟩)).2.1
      omega

theorem Orderly.resume (hx : Orderly P x) {k : ℕ} {i : Env}
    (htidy : ServesTidily P x (.resume k i)) : Orderly P (x.resume (exec P) k i) := by
  have hsound := hx.sound.resume keeps_provisioned k i
  have htracks : ∃ ts : List Unit,
      (x.resume (exec P) k i).Tracks (fun _ ↦ cleanupRule) (fun _ ↦ cleanupEnd) ts :=
    hx.tracks.imp fun ts hts ↦ hts.resume k i
  obtain h | ⟨c, next, a, s, hp, he, h⟩ := Config.resume_cases (exec P) x k i
  · rw [h]
    exact hx
  rw [h] at hsound htracks ⊢
  have hrule := (hx.sound.obeys k _ hp).1
  refine ⟨hsound, htracks, fun j hj ↦ ?_, fun j hj id session hsession hopened ↦ ?_⟩
  · by_cases hjk : k = j
    · subst hjk
      rw [history_cons_self ⟨k, c, a, x.state, s⟩] at hj ⊢
      have hserves := servesDatagrams_of_cons hj
      obtain ⟨hsensible, hconfirmed⟩ := hx.fine k hserves
      have htidy := htidy hserves c (Config.next_of_call hp)
      have hinit := hx.sound.inv.initialized
      refine ⟨fun e hmem ↦ ?_, htidy.confirmed he hinit hconfirmed⟩
      rcases List.mem_cons.mp hmem with rfl | hmem
      · exact htidy.sensible he hinit
      · exact hsensible e hmem
    · rw [history_cons_of_ne hjk] at hj ⊢
      exact hx.fine j hj
  · rcases hopened.of_step hx.sound.inv.toDated he hsession with ⟨hold, hbefore⟩ | ⟨rfl, hevent⟩
    · by_cases hjk : k = j
      swap
      · rw [history_cons_of_ne hjk] at hj ⊢
        exact hx.owned j hj id session hold hbefore
      subst hjk
      rw [history_cons_self ⟨k, c, a, x.state, s⟩] at hj ⊢
      have hserves := servesDatagrams_of_cons hj
      obtain ⟨hlast, hnot⟩ := hx.owned k hserves id session hold hbefore
      refine ⟨?_, fun hr ↦ ?_⟩
      · refine (lastOpened_cons ?_ a _).trans hlast
        -- A session is opened only when none of the stream is left.
        cases c
        case openSession link =>
          exact absurd hbefore (htidy hserves _ (Config.next_of_call hp) id session hold)
        all_goals rfl
      · rcases hr.of_cons with hr | ⟨⟨removed, rfl⟩, transport, peer, hclosed⟩
        · exact hnot hr
        · -- The session that is removed in the end is the one that was opened last.
          have hid := hrule transport peer hclosed (hx.fine k hserves).2
          obtain rfl := Option.some.inj (hlast.symm.trans hid)
          obtain ⟨-, rfl⟩ := exec_removeSession he
          simp at hsession
    · cases hevent
      rw [history_cons_self ⟨j, _, _, x.state, s⟩]
      refine ⟨rfl, fun hr ↦ ?_⟩
      rcases hr.of_cons with hr | ⟨⟨_, hc⟩, -⟩
      · obtain ⟨transport, peer, hclosed⟩ := exists_streamClosed_of_removed hr
        exact hrule transport peer hclosed
      · cases hc

theorem Orderly.spawn (hx : Orderly P x) {p : Handler Unit}
    (hp : p.Obeys cleanupRule cleanupEnd []) :
    Orderly P { x with pool := x.pool ++ [p] } := by
  obtain ⟨ts, hts⟩ := hx.tracks
  exact ⟨hx.sound.spawn (hp.mono fun _ _ _ ↦ trivial), ⟨_, hts.spawn (t := ()) hp⟩, hx.fine,
    hx.owned⟩

theorem Orderly.cleansUp (hx : Orderly P x) : CleansUp x := by
  intro j transport peer result hdone hserves
  obtain ⟨ts, hts⟩ := hx.tracks
  have hj : j < ts.length := hts.length ▸ (List.getElem?_eq_some_iff.mp hdone).1
  obtain ⟨hdatagrams, hend⟩ :=
    hts.obeys j _ _ (List.getElem?_eq_getElem hj) hdone transport peer hserves
  obtain ⟨hsensible, hconfirmed⟩ := hx.fine j hdatagrams
  obtain ⟨hremoved, hhead⟩ := hend hsensible hconfirmed
  refine ⟨fun id session hsession hopened ↦ ?_, ?_⟩
  · obtain ⟨hlast, hnot⟩ := hx.owned j hdatagrams id session hsession hopened
    rcases hremoved with hnone | hremoved
    · rw [hlast] at hnone
      cases hnone
    · exact hnot hremoved
  · rw [head?_history, Option.map_eq_some_iff] at hhead
    obtain ⟨r, hr, hevent⟩ := hhead
    refine ⟨r, hr, ?_⟩
    obtain ⟨i, he⟩ := (hx.sound.executed r (List.mem_of_find?_eq_some hr)).of_event hevent
    simp only [exec, Option.some.injEq, Prod.mk.injEq, true_and] at he
    rw [← he]
    exact Function.update_self ..

end

/-- In every run in which the tasks of the streams meet no obstacle, every stream that is
closed has been cleaned up after. -/
theorem streams_clean_up (P : Primitives) (server : TunnelServer)
    (datagrams : List (SocketAddr × List UInt8)) (sweeps : ℕ) (moves : List (Move Activity Env))
    (hmoves : Config.Along (exec P) (program P server) (ServesTidily P)
      (start P server datagrams sweeps) moves) :
    CleansUp (run P server datagrams sweeps moves) := by
  have hdispatch := obeys_cleanup_of_aside (follows_dispatchLoop_aside P server datagrams)
  have hsweep := obeys_cleanup_of_aside (permits_isAside.sweepLoop sweeps)
  have hstart : Orderly P (start P server datagrams sweeps) := by
    refine ⟨.start (fun p hp ↦ ?_) ?_, ⟨[(), ()], rfl, fun _ h ↦ (nomatch h), fun k _ p _ hp ↦ ?_⟩,
      ?_, ?_⟩
    · rcases List.mem_pair.mp hp with rfl | rfl
      · exact hdispatch.mono fun _ _ _ ↦ trivial
      · exact hsweep.mono fun _ _ _ ↦ trivial
    · exact ⟨.start, fun _ h ↦ nomatch h⟩
    · rcases List.mem_pair.mp (List.mem_of_getElem? hp) with rfl | rfl
      · exact hdispatch
      · exact hsweep
    · exact fun _ _ ↦ ⟨fun _ h ↦ (nomatch h), trivial⟩
    · exact fun _ _ _ _ h ↦ nomatch h
  refine Orderly.cleansUp (Config.run_along (fun x m hx hm ↦ ?_) hstart hmoves)
  cases m with
  | spawn t => exact hx.spawn (obeys_program_cleanup P server t)
  | resume k i => exact hx.resume hm

namespace Reference

open Security.Reference (primitives)

/-- The move meets no obstacle at first sight: nothing is wrapped and no session was
opened before. -/
def smooth (x : Config Command Command.Response State KnxError) : Move Activity Env → Bool
  | .spawn _ => true
  | .resume k i => match x.next k with
    | some (.recvFrame _ _ data) => KnxIpFrame.parse data ≠ .panic
    | some (.decryptFrame ..) => false
    | some (.openSession _) => x.trace.all fun o ↦ !o.command.isOpening
    | some (.sendFrame ..) => i.ioError = none
    | _ => true

theorem servesTidily_of_smooth (P : Primitives)
    (x : Config Command Command.Response State KnxError) (m : Move Activity Env)
    (hm : smooth x m = true) : ServesTidily P x m := by
  cases m with
  | spawn t => trivial
  | resume k i =>
    intro _ c hc
    rw [smooth, hc] at hm
    cases c
    case recvFrame =>
      intro h
      exact of_decide_eq_true hm (KnxIpFrame.parse_eq_panic_iff.mpr h)
    case decryptFrame => cases hm
    case openSession =>
      rintro id session - ⟨o, ho, -, hevent, -⟩
      have hcommand : o.command = .openSession session.link := congrArg Sigma.fst hevent
      have := List.all_eq_true.mp hm o ho
      simp [hcommand, Command.isOpening] at this
    case sendFrame => exact fun _ ↦ of_decide_eq_true hm
    all_goals trivial

theorem along_smooth : Config.Along (exec primitives) (program primitives plainServer)
    (fun x m ↦ smooth x m = true) (start primitives plainServer [] 0) closing := by
  decide +kernel

def connectedTwice : List (Move Activity Env) :=
  .spawn (.accept 0 peer [connectRequest, connectRequest]) :: List.replicate 14 (.resume 2 {})

def firstSession : ClientSession := ⟨1, .tcp 0 peer, 0⟩

def opensFirst : (c : Command) × c.Response → Bool
  | ⟨.openSession link, some id⟩ => link = firstSession.link && id = firstSession.channelId
  | _ => false

def keepsFirst (x : Config Command Command.Response State KnxError) : Bool :=
  (match x.pool[2]? with
    | some (Task.done _) => true
    | _ => false) &&
  (history 2 x.trace).any (fun e ↦ e.1 = .streamClosed 0 peer) &&
  x.state.sessions 1 = some firstSession &&
  x.trace.any fun o ↦ o.task = 2 && opensFirst o.event && o.after.sessions 1 = some firstSession

theorem keepsFirst_connectedTwice :
    keepsFirst (run primitives plainServer [] 0 connectedTwice) = true := by
  decide +kernel

end Reference

open Security.Reference (primitives)

/-- A client connects on a stream, which is closed then. -/
theorem closed_stream_is_cleaned_up :
    CleansUp (run primitives Reference.plainServer [] 0 Reference.closing) :=
  streams_clean_up primitives Reference.plainServer [] 0 Reference.closing
    (Reference.along_smooth.imp (Reference.servesTidily_of_smooth primitives))

/-- If a client connects twice on a stream, the first session outlives the stream. -/
theorem first_session_outlives_stream :
    ¬ CleansUp (run primitives Reference.plainServer [] 0 Reference.connectedTwice) := by
  have hkeeps := Reference.keepsFirst_connectedTwice
  generalize run primitives Reference.plainServer [] 0 Reference.connectedTwice = x at hkeeps ⊢
  simp only [Reference.keepsFirst, Bool.and_eq_true, decide_eq_true_eq, List.any_eq_true] at hkeeps
  obtain ⟨⟨⟨hdone, ⟨c, a⟩, hclosed, rfl⟩, hsession⟩, o, ho, ⟨htask, hopens⟩, hafter⟩ := hkeeps
  have hended : ∃ result, x.pool[2]? = some (.done result) := by
    split at hdone
    · exact ⟨_, ‹_›⟩
    · cases hdone
  obtain ⟨result, hended⟩ := hended
  have hevent : o.event = ⟨.openSession Reference.firstSession.link, some 1⟩ := by
    unfold Reference.opensFirst at hopens
    split at hopens
    · rw [Bool.and_eq_true, decide_eq_true_eq, decide_eq_true_eq] at hopens
      obtain ⟨rfl, rfl⟩ := hopens
      assumption
    · cases hopens
  intro hclean
  exact (hclean 2 0 Reference.peer result hended (.inl hclosed)).sessions 1 _ hsession
    ⟨o, ho, htask, hevent, hafter⟩

end Knust.Transport.Server
