import Knust.Transport.SessionOwners

namespace Knust.Transport.Server

open Foundation Foundation.Task Protocol Security

/-- A session that is removed when a stream is closed was opened on it, one that is
removed after a failed send is the one that was sent to, and one that is removed by a
sweep is the one that the sweep found under its identifier. -/
structure RightfulRemoval (r : Step) (earlier : List Step) (session : ClientSession) : Prop where
  closing : ∀ id transport peer, r.command = .removeSession id →
    ⟨.streamClosed transport peer, ()⟩ ∈ history r.task earlier → OpenedBy earlier r.task session
  sending : ∀ id sessions, r.command = .removeSession id →
    ⟨.allSessions, sessions⟩ ∈ history r.task earlier →
    session ∈ sessions ∧ (history r.task earlier).head? = some ⟨.unlockSend session.cells, ()⟩
  sweeping : ∀ ids, r.command = .removeSessions ids →
    ∃ o, earlier.find? (fun o ↦ o.task = r.task) = some o ∧ o.event = ⟨.staleSessions, ids⟩ ∧
      o.before.sessions session.channelId = some session

def RemovesRightfully (r : Step) (earlier : List Step) : Prop :=
  ∀ id session, r.before.sessions id = some session → r.after.sessions id = none →
    RightfulRemoval r earlier session

/-- The identifiers that an event makes its task remember as long as it runs: that of a
session opened on a stream, and those that a broadcast goes through. -/
def noted : (c : Command) × c.Response → List UInt8
  | ⟨.openSession (.tcp ..), some id⟩ => [id]
  | ⟨.allSessions, sessions⟩ => sessions.map ClientSession.channelId
  | _ => []

def found : History Command Command.Response → List UInt8
  | ⟨.staleSessions, ids⟩ :: _ => ids
  | _ => []

def remembered (h : History Command Command.Response) : List UInt8 := found h ++ h.flatMap noted

def OpensForgotten (x : Config Command Command.Response State KnxError) :
    Move Activity Env → Prop
  | .spawn _ => True
  | .resume k _ => ∀ c ∈ x.next k, c.isOpening = true →
      ∀ id ∈ allocateChannelId x.state.sessions,
        ∀ j < x.pool.length, j ≠ k → (x.next j).isSome = true →
          id ∉ remembered (history j x.trace)

instance (x : Config Command Command.Response State KnxError) :
    (m : Move Activity Env) → Decidable (OpensForgotten x m)
  | .spawn _ => .isTrue trivial
  | .resume k _ => inferInstanceAs (Decidable (∀ c ∈ x.next k, c.isOpening = true →
      ∀ id ∈ allocateChannelId x.state.sessions,
        ∀ j < x.pool.length, j ≠ k → (x.next j).isSome = true →
          id ∉ remembered (history j x.trace)))

structure Remembers (x : Config Command Command.Response State KnxError) : Prop where
  opened : ∀ j, (x.next j).isSome = true → ∀ transport peer id,
    ⟨.openSession (.tcp transport peer), some id⟩ ∈ history j x.trace →
    ∀ session, x.state.sessions id = some session → OpenedBy x.trace j session
  listed : ∀ j, (x.next j).isSome = true → ∀ sessions, ⟨.allSessions, sessions⟩ ∈ history j x.trace →
    ∀ listed ∈ sessions, ∀ session, x.state.sessions listed.channelId = some session →
      session = listed
  found : ∀ j, (x.next j).isSome = true → ∀ o ids, x.trace.find? (fun o ↦ o.task = j) = some o →
    o.event = ⟨.staleSessions, ids⟩ → ∀ id ∈ ids, ∀ session, x.state.sessions id = some session →
      o.before.sessions id = some session

def removalRule (h : History Command Command.Response) : Command → Prop
  | .openSession _ => ∀ sessions, ⟨.allSessions, sessions⟩ ∉ h
  | .removeSession id =>
    (∀ transport peer, ⟨.streamClosed transport peer, ()⟩ ∈ h →
      ∃ transport peer, ⟨.openSession (.tcp transport peer), some id⟩ ∈ h) ∧
    ∀ sessions, ⟨.allSessions, sessions⟩ ∈ h → ∃ session ∈ sessions,
      session.channelId = id ∧ h.head? = some ⟨.unlockSend session.cells, ()⟩
  | .removeSessions ids => h.head? = some ⟨.staleSessions, ids⟩
  | _ => True

section

variable {P : Primitives} {c : Command} {i : Env} {s s' : State} {a : c.Response}

theorem exec_removed (h : exec P c i s = some (a, s')) {id : UInt8} {session : ClientSession}
    (hbefore : s.sessions id = some session) (hafter : s'.sessions id = none) :
    c = .removeSession id ∨ ∃ ids, c = .removeSessions ids ∧ id ∈ ids := by
  have hne : s'.sessions id ≠ s.sessions id := by
    rw [hbefore, hafter]
    exact nofun
  by_cases hc : c.editsTable = true
  swap
  · exact absurd (congrFun (exec_table (by simpa using hc) h).1 id) hne
  cases c
  case openSession link =>
    obtain ⟨ha, rfl⟩ := exec_openSession h
    cases a with
    | none => exact absurd rfl hne
    | some new =>
      by_cases hid : id = new
      · subst hid
        simp [State.insertSession] at hafter
      · exact absurd (Function.update_of_ne hid ..) hne
  case removeSession removed =>
    obtain ⟨-, rfl⟩ := exec_removeSession h
    by_cases hid : id = removed
    · exact .inl (by rw [hid])
    · exact absurd (Function.update_of_ne hid ..) hne
  case removeSessions ids =>
    obtain rfl := exec_removeSessions h
    by_cases hid : id ∈ ids
    · exact .inr ⟨ids, rfl, hid⟩
    · exact absurd (if_neg hid) hne
  all_goals cases hc

end

section

variable {h : Past} {id : UInt8}

theorem mem_remembered_of_opened {transport : ℕ} {peer : SocketAddr}
    (he : ⟨.openSession (.tcp transport peer), some id⟩ ∈ h) : id ∈ remembered h :=
  List.mem_append_right _ (List.mem_flatMap.mpr ⟨_, he, List.mem_cons_self⟩)

theorem mem_remembered_of_listed {sessions : List ClientSession} {session : ClientSession}
    (he : ⟨.allSessions, sessions⟩ ∈ h) (hs : session ∈ sessions) :
    session.channelId ∈ remembered h :=
  List.mem_append_right _ (List.mem_flatMap.mpr ⟨_, he, List.mem_map_of_mem hs⟩)

theorem mem_remembered_of_found {ids : List UInt8} (he : h.head? = some ⟨.staleSessions, ids⟩)
    (hid : id ∈ ids) : id ∈ remembered h := by
  cases h with
  | nil => cases he
  | cons e h =>
    cases he
    exact List.mem_append_left _ hid

end

section

variable {P : Primitives} {x : Config Command Command.Response State KnxError}

theorem mem_allSessions {i : Env} {s s' : State} {sessions : List ClientSession}
    (he : exec P .allSessions i s = some (sessions, s')) (hs : s.WellKeyed)
    {session : ClientSession} (hmem : session ∈ sessions) :
    s.sessions session.channelId = some session ∧ s' = s := by
  simp only [exec] at he
  cases (State.withSessions_eq_some he).2
  obtain ⟨id, -, hid⟩ := List.mem_filterMap.mp hmem
  rw [(hs id session hid).1]
  exact ⟨hid, rfl⟩

theorem exec_staleSessions {i : Env} {s s' : State} {ids : List UInt8}
    (he : exec P .staleSessions i s = some (ids, s')) : s' = s := by
  simp only [exec] at he
  cases (State.withSessions_eq_some he).2
  rfl

theorem Remembers.resume (hx : Remembers x) (hsound : x.Sound (exec P) removalRule fun _ s ↦ s.WellKeyed)
    {k : ℕ} {i : Env} (hforgotten : OpensForgotten x (.resume k i)) :
    Remembers (x.resume (exec P) k i) := by
  obtain h | ⟨c, next, a, s, hp, he, h⟩ := Config.resume_cases (exec P) x k i
  · rw [h]
    exact hx
  rw [h]
  have hrunning (j : ℕ) (hj : (Config.next ⟨s, x.pool.set k (next a),
      ⟨k, c, a, x.state, s⟩ :: x.trace⟩ j).isSome = true) : (x.next j).isSome = true := by
    by_cases hjk : j = k
    · rw [hjk, Config.next_of_call hp]
      rfl
    · rwa [Config.next_set_of_ne x hjk] at hj
  -- A session that is new has an identifier that no other task remembers.
  have hnew (j : ℕ) (hjk : j ≠ k) (hj : (x.next j).isSome = true) {id : UInt8} {session : ClientSession}
      (hsession : s.sessions id = some session) (hid : id ∈ remembered (history j x.trace)) :
      x.state.sessions id = some session := by
    rcases exec_session he hsession with hold | ⟨hevent, -, halloc, -⟩
    · exact hold
    · cases hevent
      exact absurd hid
        (hforgotten _ (Config.next_of_call hp) rfl id halloc j (Config.lt_of_next hj) hjk hj)
  refine ⟨fun j hj transport peer id hmem session hsession ↦ ?_,
    fun j hj sessions hmem listed hlisted session hsession ↦ ?_,
    fun j hj o ids ho hevent id hid session hsession ↦ ?_⟩
  · replace hj := hrunning j hj
    rcases exec_session he hsession with hold | ⟨hevent, hchannel, -⟩
    · rcases mem_history_cons.mp hmem with ⟨hk, heq⟩ | hmem
      · cases heq
        rw [(allocateChannelId_eq_some (exec_openSession he).1.symm).2] at hold
        cases hold
      · exact (hx.opened j hj transport peer id hmem session hold).cons _
    · by_cases hjk : j = k
      · subst hchannel hjk
        exact ⟨_, List.mem_cons_self, rfl, hevent, hsession⟩
      · rw [history_cons_of_ne (Ne.symm hjk)] at hmem
        have hold := hnew j hjk hj hsession (mem_remembered_of_opened hmem)
        exact (hx.opened j hj transport peer id hmem session hold).cons _
  · replace hj := hrunning j hj
    rcases mem_history_cons.mp hmem with ⟨hk, heq⟩ | hmem'
    · cases heq
      obtain ⟨hthere, rfl⟩ := mem_allSessions he hsound.inv hlisted
      exact Option.some.inj (hsession.symm.trans hthere)
    · refine hx.listed j hj sessions hmem' listed hlisted session ?_
      by_cases hjk : j = k
      · subst hjk
        rcases exec_session he hsession with hold | ⟨hevent, -⟩
        · exact hold
        · cases hevent
          exact absurd hmem' ((hsound.obeys j _ hp).1 sessions)
      · exact hnew j hjk hj hsession (mem_remembered_of_listed hmem' hlisted)
  · replace hj := hrunning j hj
    by_cases hjk : j = k
    · subst hjk
      rw [List.find?_cons_of_pos (by simp)] at ho
      cases ho
      cases hevent
      cases exec_staleSessions he
      exact hsession
    · rw [List.find?_cons_of_neg (by simpa using Ne.symm hjk)] at ho
      refine hx.found j hj o ids ho hevent id hid session (hnew j hjk hj hsession ?_)
      refine mem_remembered_of_found ?_ hid
      rw [head?_history, ho, Option.map_some, hevent]

theorem Remembers.spawn (hx : Remembers x) (hsound : x.Sound (exec P) removalRule fun _ s ↦ s.WellKeyed)
    (p : Handler Unit) : Remembers { x with pool := x.pool ++ [p] } := by
  have hnone := history_eq_nil hsound.spawned
  refine ⟨fun j hj transport peer id hmem ↦ ?_, fun j hj sessions hmem ↦ ?_,
    fun j hj o ids ho hevent ↦ ?_⟩
  · rcases Config.next_append x p hj with hj | rfl
    · exact hx.opened j hj transport peer id hmem
    · simp [hnone] at hmem
  · rcases Config.next_append x p hj with hj | rfl
    · exact hx.listed j hj sessions hmem
    · simp [hnone] at hmem
  · rcases Config.next_append x p hj with hj | rfl
    · exact hx.found j hj o ids ho hevent
    · have hhead := head?_history x.pool.length x.trace
      rw [hnone] at hhead
      rw [show x.trace.find? _ = some o from ho] at hhead
      cases hhead

theorem Remembers.removesRightfully (hx : Remembers x)
    (hsound : x.Sound (exec P) removalRule fun _ s ↦ s.WellKeyed) {k : ℕ} {i : Env} {c : Command}
    {next : c.Response → Handler Unit} {a : c.Response} {s : State}
    (hp : x.pool[k]? = some (.call c next)) (he : exec P c i x.state = some (a, s)) :
    RemovesRightfully ⟨k, c, a, x.state, s⟩ x.trace := by
  intro id session hbefore hafter
  have hrunning : (x.next k).isSome = true := by
    rw [Config.next_of_call hp]
    rfl
  have hrule := (hsound.obeys k _ hp).1
  rcases exec_removed he hbefore hafter with rfl | ⟨ids, rfl, hid⟩
  · refine ⟨fun _ transport peer _ hclosed ↦ ?_, fun _ sessions _ hlist ↦ ?_, nofun⟩
    · obtain ⟨transport, peer, hopened⟩ := hrule.1 transport peer hclosed
      exact hx.opened k hrunning transport peer id hopened session hbefore
    · obtain ⟨listed, hlisted, rfl, hhead⟩ := hrule.2 sessions hlist
      obtain rfl := hx.listed k hrunning sessions hlist listed hlisted session hbefore
      exact ⟨hlisted, hhead⟩
  · refine ⟨nofun, nofun, fun ids' hids' ↦ ?_⟩
    cases hids'
    have hhead : (history k x.trace).head? = _ := hrule
    rw [head?_history, Option.map_eq_some_iff] at hhead
    obtain ⟨o, ho, hevent⟩ := hhead
    rw [(hsound.inv id session hbefore).1]
    exact ⟨o, ho, hevent, hx.found k hrunning o ids ho hevent id hid session hbefore⟩

end

/-- The commands that tell what a task is: it broadcasts, or its stream is closed. -/
def Command.isListing : Command → Bool
  | .allSessions | .streamClosed .. => true
  | _ => false

section

variable {h : Past}

def Unlisted (h : History Command Command.Response) : Prop := ∀ e ∈ h, e.1.isListing = false

theorem Unlisted.cons (hh : Unlisted h) {c : Command} (hc : c.isListing = false) (a : c.Response) :
    Unlisted (⟨c, a⟩ :: h) := by
  intro e he
  rcases List.mem_cons.mp he with rfl | he
  · exact hc
  · exact hh e he

theorem Unlisted.removalRule (hh : Unlisted h) {c : Command}
    (hc : ∀ ids, c ≠ .removeSessions ids) : removalRule h c := by
  cases c
  case openSession => exact fun sessions he ↦ nomatch hh _ he
  case removeSession => exact ⟨fun _ _ he ↦ (nomatch hh _ he), fun _ he ↦ (nomatch hh _ he)⟩
  case removeSessions ids => exact absurd rfl (hc ids)
  all_goals trivial

theorem isListing_of_handles {onStream : Bool} {c : Command} (hc : c.handles onStream) :
    c.isListing = false ∧ ∀ ids, c ≠ .removeSessions ids := by
  rcases hc with hc | ⟨link, rfl, -⟩
  · refine ⟨?_, fun ids hids ↦ ?_⟩
    · cases c <;> first | rfl | cases hc
    · subst hids
      cases hc
  · exact ⟨rfl, fun ids hids ↦ nomatch hids⟩

/-- The sessions of a stream that is still open: those that were opened, all of them on
the stream, and the one to be removed at the end. -/
structure Streaming (assigned : Option UInt8) (h : History Command Command.Response) : Prop where
  unlisted : Unlisted h
  onStream : ∀ link id, ⟨.openSession link, some id⟩ ∈ h → link.isStream = true
  assigned : ∀ id, assigned = some id → ∃ link, ⟨.openSession link, some id⟩ ∈ h

theorem Streaming.cons {assigned : Option UInt8} (hh : Streaming assigned h) {c : Command}
    (hc : c.isListing = false) (hopen : ∀ link, c = .openSession link → link.isStream = true)
    (a : c.Response) : Streaming assigned (⟨c, a⟩ :: h) where
  unlisted := hh.unlisted.cons hc a
  onStream link id he := by
    rcases List.mem_cons.mp he with he | he
    · cases he
      exact hopen link rfl
    · exact hh.onStream link id he
  assigned id hid := by
    obtain ⟨link, he⟩ := hh.assigned id hid
    exact ⟨link, List.mem_cons_of_mem _ he⟩

theorem Streaming.exists_opened {assigned : Option UInt8} (hh : Streaming assigned h) {id : UInt8}
    (hid : assigned = some id) :
    ∃ transport peer, ⟨.openSession (.tcp transport peer), some id⟩ ∈ h := by
  obtain ⟨link, he⟩ := hh.assigned id hid
  cases link with
  | udp peer => cases hh.onStream _ _ he
  | tcp transport peer => exact ⟨transport, peer, he⟩

variable (P : Primitives) (server : TunnelServer)

theorem obeys_handleFrame_unlisted (data : List UInt8) (peer : SocketAddr) (hh : Unlisted h) :
    (handleFrame P server data (.udp peer)).Obeys removalRule (fun h _ ↦ Unlisted h) h :=
  (follows_handleFrame_handles P server data (.udp peer) h).carry
    (fun _ _ hh hc ↦ hh.removalRule (isListing_of_handles hc).2)
    (fun _ _ a hh hc ↦ hh.cons (isListing_of_handles hc).1 a) hh

theorem obeys_handleFrame_streaming (data : List UInt8) (transport : ℕ) (peer : SocketAddr)
    {Q : Past → Result (Option UInt8) → Prop} (hpanic : ∀ h, Q h .panic) {assigned : Option UInt8}
    (hh : Streaming assigned h) :
    (handleFrame P server data (.tcp transport peer)).Obeys removalRule
      (AfterFrame Streaming Q assigned) h := by
  have hcarry : (handleFrame P server data (.tcp transport peer)).Obeys removalRule
      (fun h _ ↦ Streaming assigned h) h := by
    refine (follows_handleFrame_handles P server data (.tcp transport peer) h).carry
      (fun _ _ hh hc ↦ hh.unlisted.removalRule (isListing_of_handles hc).2)
      (fun _ c a hh hc ↦ hh.cons (isListing_of_handles hc).1 (fun link hlink ↦ ?_) a) hh
    subst hlink
    rcases hc with hc | ⟨link', hlink', hstream⟩
    · cases hc
    · cases hlink'
      exact hstream
  refine (hcarry.and (obeys_handleFrame_assigns P server data _ rfl)).mono ?_
  intro h r hr
  rcases r with (_ | id) | e | _
  · exact hr.1
  · refine ⟨hr.1.unlisted, hr.1.onStream, fun id' hid ↦ ?_⟩
    cases hid
    exact exists_of_lastOpened hr.2
  · exact hr.1
  · exact hpanic h

theorem obeys_dispatchLoop_removal (datagrams : List (SocketAddr × List UInt8)) (hh : Unlisted h) :
    (dispatchLoop P server datagrams).Obeys removalRule (fun _ _ ↦ True) h := by
  induction datagrams generalizing h with
  | nil => trivial
  | cons d datagrams ih =>
    refine ⟨trivial, fun shutdown ↦ ?_⟩
    replace hh : Unlisted (⟨.isShutdown, shutdown⟩ :: h) := hh.cons rfl shutdown
    cases shutdown with
    | true => trivial
    | false =>
      refine ⟨trivial, fun taken ↦ ?_⟩
      replace hh := hh.cons (c := .recvFrom d.1 (d.2.take 1024)) rfl taken
      cases taken with
      | false => trivial
      | true =>
        have hframe := (obeys_handleFrame_unlisted P server (d.2.take 1024) d.1 hh).attempt
          (δ := KnxError) (T := fun h _ ↦ Unlisted h) (fun _ _ h ↦ h) (fun _ _ h ↦ h) (fun _ h ↦ h)
        exact hframe.bind_true fun _ _ hh ↦ ih hh

theorem obeys_streamLoop_removal (transport : ℕ) (peer : SocketAddr) (frames : List (List UInt8))
    {assigned : Option UInt8} (hh : Streaming assigned h) :
    (streamLoop P server transport peer frames assigned).Obeys removalRule
      (fun h r ↦ ∀ id, r = .ok (some id) →
        (∀ sessions, ⟨.allSessions, sessions⟩ ∉ h) ∧
        ∃ transport peer, ⟨.openSession (.tcp transport peer), some id⟩ ∈ h) h := by
  refine obeys_streamLoop_of_frames P server transport peer (A := Streaming)
    (fun _ _ b hh ↦ ⟨trivial, hh.cons (c := .isShutdown) rfl nofun b⟩)
    (fun _ h hh ↦ ⟨trivial, fun id hid ↦ ⟨fun sessions he ↦ ?_, ?_⟩⟩)
    (fun _ data _ hh ↦ ⟨trivial, obeys_handleFrame_streaming P server data transport peer
      (fun _ _ hid ↦ nomatch hid) (hh.cons (c := .recvFrame transport peer data) rfl nofun ())⟩)
    frames hh
  · rcases List.mem_cons.mp he with he | he
    · cases he
    · exact nomatch hh.unlisted _ he
  · obtain ⟨transport', peer', he⟩ := hh.exists_opened (Outcome.ok.inj hid)
    exact ⟨transport', peer', List.mem_cons_of_mem _ he⟩

structure Broadcasting (sessions : List ClientSession) (h : History Command Command.Response) :
    Prop where
  listed : ∀ sessions', ⟨.allSessions, sessions'⟩ ∈ h → sessions' = sessions
  unclosed : ∀ transport peer, ⟨.streamClosed transport peer, ()⟩ ∉ h

variable {sessions : List ClientSession}

theorem Broadcasting.cons (hh : Broadcasting sessions h) {c : Command} (hc : c.isListing = false)
    (a : c.Response) :
    Broadcasting sessions (⟨c, a⟩ :: h) where
  listed sessions' he := by
    rcases List.mem_cons.mp he with he | he
    · cases he
      cases hc
    · exact hh.listed sessions' he
  unclosed transport peer he := by
    rcases List.mem_cons.mp he with he | he
    · cases he
      cases hc
    · exact hh.unclosed transport peer he

theorem obeys_sendToSession_removal (hh : Broadcasting sessions h) (session : ClientSession)
    (telegram : Telegram) :
    (sendToSession session telegram).Obeys removalRule (fun h r ↦ Broadcasting sessions h ∧
      (r ≠ .panic → h.head? = some ⟨.unlockSend session.cells, ()⟩)) h := by
  have hlocked : (sendLocked session telegram).Obeys removalRule
      (fun h _ ↦ Broadcasting sessions h) (⟨.lockSend session.cells, ()⟩ :: h) := by
    refine (follows_sendLocked_isSending session telegram []).carry (fun h c _ hc ↦ ?_)
      (fun h c a hh hc ↦ hh.cons ?_ a) (hh.cons (c := .lockSend session.cells) rfl ())
    · cases c <;> trivial
    · cases c <;> first | rfl | cases hc
  refine ⟨trivial, fun _ ↦ ?_⟩
  refine (hlocked.attempt (δ := KnxError) (T := fun h r ↦ Broadcasting sessions h ∧
    ∀ e, r ≠ .err e) (fun _ _ hh ↦ ⟨hh, nofun⟩) (fun _ _ hh ↦ ⟨hh, nofun⟩)
    (fun _ hh ↦ ⟨hh, nofun⟩)).bind (fun h result hh ↦ ⟨trivial, fun _ ↦ ?_⟩) ?_ ?_
  · have hunlocked := hh.1.cons (c := .unlockSend session.cells) rfl ()
    cases result <;> exact ⟨hunlocked, fun _ ↦ rfl⟩
  · exact fun _ e hh ↦ absurd rfl (hh.2 e)
  · exact fun _ hh ↦ ⟨hh.1, fun h ↦ absurd rfl h⟩

theorem obeys_sendAll_removal (telegram : Telegram) {rest : List ClientSession}
    (hrest : rest ⊆ sessions) (hh : Broadcasting sessions h) :
    (sendAll telegram rest).Obeys removalRule (fun _ _ ↦ True) h := by
  induction rest generalizing h with
  | nil => trivial
  | cons session rest ih =>
    have hsub := List.cons_subset.mp hrest
    refine ((obeys_sendToSession_removal hh session telegram).attempt (δ := KnxError)
      (T := fun h r ↦ Broadcasting sessions h ∧
        (r ≠ .panic → h.head? = some ⟨.unlockSend session.cells, ()⟩))
      (fun _ _ hh ↦ ⟨hh.1, fun _ ↦ hh.2 nofun⟩) (fun _ _ hh ↦ ⟨hh.1, fun _ ↦ hh.2 nofun⟩)
      (fun _ hh ↦ ⟨hh.1, fun h ↦ absurd rfl h⟩)).bind_true fun h result hh ↦ ?_
    cases result with
    | ok _ => exact ih hsub.2 hh.1
    | error e =>
      refine ⟨⟨fun transport peer he ↦ absurd he (hh.1.unclosed transport peer), ?_⟩, fun removed ↦ ?_⟩
      · intro sessions' he
        rw [hh.1.listed sessions' he]
        exact ⟨session, hsub.1, rfl, hh.2 nofun⟩
      · exact ih hsub.2 (hh.1.cons rfl removed)

theorem obeys_sweepLoop_removal (sweeps : ℕ) :
    (sweepLoop sweeps).Obeys removalRule (fun _ _ ↦ True) h := by
  induction sweeps generalizing h with
  | zero => trivial
  | succ sweeps ih =>
    refine ⟨trivial, fun slept ↦ ?_⟩
    cases slept with
    | false => trivial
    | true =>
      refine ⟨trivial, fun shutdown ↦ ?_⟩
      cases shutdown with
      | true => trivial
      | false =>
        refine ⟨trivial, fun stale ↦ ?_⟩
        cases stale with
        | nil => exact ih
        | cons id stale => exact ⟨rfl, fun _ ↦ ih⟩

theorem obeys_program_removal (activity : Activity) :
    (program P server activity).Obeys removalRule (fun _ _ ↦ True) [] := by
  cases activity with
  | accept transport peer frames =>
    refine ⟨trivial, fun shutdown ↦ ?_⟩
    cases shutdown with
    | true => trivial
    | false =>
      have hstart : Streaming none [⟨.isShutdown, false⟩] := by
        refine ⟨fun e he ↦ ?_, fun link id he ↦ ?_, nofun⟩
        · cases List.mem_singleton.mp he
          rfl
        · cases List.mem_singleton.mp he
      refine (obeys_streamLoop_removal P server transport peer frames hstart).bind_true ?_
      intro h assigned hh
      cases assigned with
      | none => exact ⟨trivial, fun _ ↦ trivial⟩
      | some id =>
        obtain ⟨hunlisted, hopened⟩ := hh id rfl
        refine ⟨⟨fun _ _ _ ↦ hopened, fun sessions he ↦ absurd he (hunlisted sessions)⟩, fun _ ↦ ?_⟩
        exact ⟨trivial, fun _ ↦ trivial⟩
  | send telegram =>
    refine ⟨trivial, fun sessions ↦ ?_⟩
    refine obeys_sendAll_removal telegram (List.Subset.refl sessions) ⟨fun sessions' he ↦ ?_, ?_⟩
    · cases List.mem_singleton.mp he
      rfl
    · intro transport peer he
      cases List.mem_singleton.mp he
  | shutdown => exact ⟨trivial, fun _ ↦ trivial⟩

end

/-- In every run in which a session is opened only under an identifier that no other task
remembers, sessions are removed only by those that have a reason to. -/
theorem removals_rightful (P : Primitives) (server : TunnelServer)
    (datagrams : List (SocketAddr × List UInt8)) (sweeps : ℕ) (moves : List (Move Activity Env))
    (hmoves : Config.Along (exec P) (program P server) OpensForgotten
      (start P server datagrams sweeps) moves) (r : Step) (earlier : List Step)
    (hr : r :: earlier <:+ (run P server datagrams sweeps moves).trace) :
    RemovesRightfully r earlier := by
  let Holds (x : Config Command Command.Response State KnxError) : Prop :=
    x.Sound (exec P) removalRule (fun _ s ↦ s.WellKeyed) ∧ Remembers x ∧
      ∀ r earlier, r :: earlier <:+ x.trace → RemovesRightfully r earlier
  have hkeeps : Config.Keeps (exec P) removalRule fun _ s ↦ s.WellKeyed :=
    fun _ _ _ _ _ _ _ _ hs _ he ↦ exec_wellKeyed hs he
  have hstart : Holds (start P server datagrams sweeps) := by
    refine ⟨.start (fun p hp ↦ ?_) (fun _ _ h ↦ nomatch h), ⟨?_, ?_, ?_⟩, fun _ _ h ↦ ?_⟩
    · rcases List.mem_pair.mp hp with rfl | rfl
      · exact obeys_dispatchLoop_removal P server datagrams (fun _ h ↦ nomatch h)
      · exact obeys_sweepLoop_removal sweeps
    · exact fun _ _ _ _ _ h ↦ nomatch h
    · exact fun _ _ _ h ↦ nomatch h
    · exact fun _ _ _ _ h ↦ nomatch h
    · exact absurd h.length_le (by simp [start])
  refine (Config.run_along (fun x m hx hm ↦ ?_) hstart hmoves : Holds _).2.2 r earlier hr
  obtain ⟨hsound, hremembers, hrightful⟩ := hx
  cases m with
  | spawn t =>
    exact ⟨hsound.spawn (obeys_program_removal P server t), hremembers.spawn hsound _, hrightful⟩
  | resume k i =>
    refine ⟨hsound.resume hkeeps k i, hremembers.resume hsound hm, fun r earlier hr ↦ ?_⟩
    rw [Config.step] at hr
    obtain h | ⟨c, next, a, s, hp, he, h⟩ := Config.resume_cases (exec P) x k i
    · rw [h] at hr
      exact hrightful r earlier hr
    · rw [h] at hr
      rcases List.suffix_cons_iff.mp hr with hr | hr
      · cases hr
        exact hremembers.removesRightfully hsound hp he
      · exact hrightful r earlier hr

namespace Reference

open Security.Reference (primitives)

/-- On the stream the client connects and disconnects. A client with a datagram socket
gets the same channel before the stream is closed. -/
def reused : List (Move Activity Env) :=
  .spawn (.accept 0 peer [connectRequest, disconnectRequest 1]) ::
    (List.replicate 12 (.resume 2 {}) ++ List.replicate 5 (.resume 0 {}) ++
      List.replicate 2 (.resume 2 {}))

/-- Whether the last step removed a session of the client with the socket, by a task
whose stream was closed and which never opened such a session. -/
def removesForeign : List Step → Bool
  | [] => false
  | r :: earlier => r.command = .removeSession 1 && r.before.sessions 1 = some ⟨1, .udp peer, 1⟩ &&
      r.after.sessions 1 = none &&
      (history r.task earlier).any (fun e ↦ e.1 = .streamClosed 0 peer) &&
      (history r.task earlier).all fun e ↦ e.1 ≠ .openSession (.udp peer)

theorem along_closing : Config.Along (exec primitives) (program primitives plainServer)
    OpensForgotten (start primitives plainServer [] 0) closing := by
  decide +kernel

theorem command_closing : ((run primitives plainServer [] 0 closing).trace.drop 1).head?.map
    Record.command = some (.removeSession 1) := by
  decide +kernel

theorem removesForeign_reused : removesForeign (run primitives plainServer
    [(peer, connectRequest)] 0 reused).trace = true := by
  decide +kernel

end Reference

open Security.Reference (primitives)

/-- The session that a client opened on its stream is removed with it. -/
theorem closed_stream_removes_own_session :
    ∃ r earlier, r :: earlier <:+
        (run primitives Reference.plainServer [] 0 Reference.closing).trace ∧
      r.command = .removeSession 1 ∧ RemovesRightfully r earlier := by
  have hcommand := Reference.command_closing
  have hsuffix := List.drop_suffix 1
    (run primitives Reference.plainServer [] 0 Reference.closing).trace
  generalize hdrop : List.drop 1 _ = rest at hcommand hsuffix
  cases rest with
  | nil => cases hcommand
  | cons r earlier =>
    refine ⟨r, earlier, hsuffix, Option.some.inj hcommand, ?_⟩
    exact removals_rightful primitives Reference.plainServer [] 0 Reference.closing
      Reference.along_closing r earlier hsuffix

/-- When the stream is closed, the client with the socket loses the channel that it got
after the one on the stream had disconnected. -/
theorem closed_stream_removes_reused_channel :
    ∃ r earlier, r :: earlier <:+ (run primitives Reference.plainServer
        [(Reference.peer, Reference.connectRequest)] 0 Reference.reused).trace ∧
      ¬ RemovesRightfully r earlier := by
  have hforeign := Reference.removesForeign_reused
  generalize (run primitives Reference.plainServer
    [(Reference.peer, Reference.connectRequest)] 0 Reference.reused).trace = trace at hforeign ⊢
  cases trace with
  | nil => cases hforeign
  | cons r earlier =>
    simp only [Reference.removesForeign, Bool.and_eq_true, decide_eq_true_eq, List.any_eq_true,
      List.all_eq_true] at hforeign
    obtain ⟨⟨⟨⟨hcommand, hbefore⟩, hafter⟩, ⟨c, a⟩, hclosed, rfl⟩, hnever⟩ := hforeign
    refine ⟨r, earlier, List.suffix_refl _, fun hr ↦ ?_⟩
    obtain ⟨o, ho, htask, hevent, -⟩ := (hr 1 _ hbefore hafter).closing 1 0 _ hcommand hclosed
    refine hnever o.event ?_ (by rw [hevent])
    rw [← htask]
    exact mem_history ho

end Knust.Transport.Server
