import Knust.Transport.ServerRules

namespace Knust.Transport.Server

open Foundation Foundation.Task Protocol Security

def received : (c : Command) × c.Response → Option (Option (SocketAddr × List UInt8))
  | ⟨.recvFrom peer data, taken⟩ => some (if taken then some (peer, data) else none)
  | ⟨.recvFrame _ peer data, _⟩ => some (some (peer, data))
  | ⟨.streamClosed _ _, _⟩ => some none
  | _ => none

def inHand (h : History Command Command.Response) : Option (SocketAddr × List UInt8) :=
  (h.findSome? received).join

def Command.isLocal : Command → Bool
  | .recvFrom .. | .recvFrame .. | .streamClosed .. | .insertSecureSession .. => false
  | _ => true

theorem received_of_isLocal {c : Command} (hc : c.isLocal = true) (r : c.Response) :
    received ⟨c, r⟩ = none := by
  cases c <;> first | rfl | cases hc

theorem inHand_cons {e : (c : Command) × c.Response} (he : received e = none) (h : Past) :
    inHand (e :: h) = inHand h := by
  rw [inHand, List.findSome?_cons, he, inHand]

/-- The last frame received came from the peer, and since then it was decrypted
under the entry stored for that peer, which passed for authenticated. -/
def Admitted (peer : SocketAddr) (data : List UInt8) (entry : ℕ) (inner : List UInt8)
    (h : History Command Command.Response) : Prop :=
  ∃ later earlier, h = later ++ ⟨.decryptFrame entry data, .ok inner⟩ ::
      ⟨.isAuthenticated entry, true⟩ :: ⟨.getSecureSession peer, some entry⟩ :: earlier ∧
    (∀ e ∈ later, received e = none) ∧ inHand earlier = some (peer, data)

def tunnelServices : List ServiceType :=
  [.connectRequest, .tunnellingRequest, .tunnellingAck, .connectionstateRequest,
    .disconnectRequest]

/-- The task is working on a service of the tunnel that arrived in a SecureWrapper
and was admitted. -/
def Admission (h : History Command Command.Response) : Prop :=
  ∃ peer data entry inner frame, Admitted peer data entry inner h ∧
    KnxIpFrame.serviceTypeOf data = some .secureWrapper ∧ KnxIpFrame.parse inner = .ok frame ∧
    frame.header.serviceType ∈ tunnelServices

theorem Admission.cons {h : Past} (ha : Admission h) {e : (c : Command) × c.Response}
    (he : received e = none) : Admission (e :: h) := by
  obtain ⟨peer, data, entry, inner, frame, ⟨later, earlier, rfl, hlater, hhand⟩, hframe⟩ := ha
  refine ⟨peer, data, entry, inner, frame, ⟨e :: later, earlier, rfl, ?_, hhand⟩, hframe⟩
  exact List.forall_mem_cons.mpr ⟨he, hlater⟩

def Command.storesUnauthenticated : Command → Prop
  | .insertSecureSession _ e => e.session.state ≠ .authenticated
  | _ => True

/-- With a frame in hand channels are only touched for an admitted one, and no
session is stored as authenticated. -/
def admissionRule (h : History Command Command.Response) (c : Command) : Prop :=
  (c.touchesChannels = true → inHand h = none ∨ Admission h) ∧ c.storesUnauthenticated

theorem storesUnauthenticated_of_isLocal {c : Command} (hc : c.isLocal = true) :
    c.storesUnauthenticated := by
  cases c <;> trivial

theorem obeys_of_local {α : Type} {p : Handler α} {h h₀ : Past}
    (hp : p.Obeys (fun _ c ↦ c.isLocal = true) (fun _ _ ↦ True) h₀)
    (hh : inHand h = none ∨ Admission h) :
    p.Obeys admissionRule (fun h _ ↦ inHand h = none ∨ Admission h) h := by
  refine hp.carry (fun h c ha hc ↦ ⟨fun _ ↦ ha, storesUnauthenticated_of_isLocal hc⟩) ?_ hh
  intro h c r ha hc
  have hr := received_of_isLocal hc r
  rw [inHand_cons hr]
  exact ha.imp_right fun ha ↦ ha.cons hr

theorem follows_maybeEncrypt_local (frame : List UInt8) (peer : SocketAddr) :
    (maybeEncrypt frame peer).Follows fun _ c ↦ c.isLocal = true := by
  refine .bind (.perform fun _ ↦ rfl) fun entry ↦ ?_
  cases entry with
  | none => exact .done _
  | some entry => exact .bind (.perform fun _ ↦ rfl) fun _ ↦ .done _

theorem follows_sendFrame_local (link : ClientLink) (frame : List UInt8) :
    (sendFrame link frame).Follows fun _ c ↦ c.isLocal = true :=
  .bind (.perform fun _ ↦ rfl) fun _ ↦ .done _

theorem follows_sendAttempts_local (session : ClientSession) (seq : UInt8) (frame : List UInt8)
    (attempts : ℕ) : (sendAttempts session seq frame attempts).Follows fun _ c ↦ c.isLocal = true := by
  induction attempts with
  | zero => exact .done _
  | succ attempts ih =>
    refine .bind (.perform fun _ ↦ rfl) fun channel ↦ .bind (follows_sendFrame_local _ _) fun _ ↦
      .bind (.perform fun _ ↦ rfl) fun ack ↦ ?_
    cases ack with
    | none => exact ih
    | some ack =>
      show Follows _ (ite _ _ _)
      split
      · exact .perform fun _ ↦ rfl
      · exact .done _

theorem permits_isLocal : Permits fun _ c ↦ c.isLocal = true where
  plain c hc _ := by cases c <;> first | rfl | cases hc
  reply _ _ _ := .bind (follows_maybeEncrypt_local _ _) fun _ ↦ follows_sendFrame_local _ _
  tunnelled session telegram := by
    refine .bind (.perform fun _ ↦ rfl) fun _ ↦ .bind (.attempt ?_) fun result ↦
      .bind (.perform fun _ ↦ rfl) fun _ ↦ follows_rethrow result
    exact .bind (.perform fun _ ↦ rfl) fun seq ↦ .bind (follows_maybeEncrypt_local _ _) fun _ ↦
      follows_sendAttempts_local _ _ _ _

variable (P : Primitives) {server : TunnelServer}

theorem admissionRule_of_isHandshake {c : Command} (hc : c.isHandshake = true) (h : Past) :
    admissionRule h c := by
  cases c
  case generateSecret | fetchSecureSessionId | sendFrame | getSecureSession | verifyAuthenticateMac
      | removeSecureSession => exact ⟨nofun, trivial⟩
  case insertSecureSession => exact ⟨nofun, bne_iff_ne.mp (Bool.and_eq_true_iff.mp hc).2⟩
  all_goals cases hc

theorem dispatchPlainFrame_of_not_mem {frame : KnxIpFrame}
    (hf : frame.header.serviceType ∉ tunnelServices) (link : ClientLink) (wasEncrypted : Bool) :
    dispatchPlainFrame server frame link wasEncrypted = .done (.ok none) := by
  unfold dispatchPlainFrame
  split
  · rfl
  split <;> first | rfl | simp_all [tunnelServices]

variable {h : Past}

theorem obeys_handleSecureWrapper {data : List UInt8} {link : ClientLink}
    (hh : inHand h = some (link.peerAddr, data))
    (hs : KnxIpFrame.serviceTypeOf data = some .secureWrapper) :
    (handleSecureWrapper server data link).Obeys admissionRule (fun _ _ ↦ True) h := by
  refine ⟨⟨nofun, trivial⟩, fun entry ↦ ?_⟩
  cases entry with
  | none => trivial
  | some entry =>
    refine ⟨⟨nofun, trivial⟩, fun authenticated ↦ ?_⟩
    cases authenticated with
    | false => trivial
    | true =>
      refine ⟨⟨nofun, trivial⟩, fun decrypted ↦ ?_⟩
      cases decrypted with
      | err e => trivial
      | panic => trivial
      | ok inner =>
        show Obeys _ _ _ (.done (KnxIpFrame.parse inner) >>= fun frame ↦
          dispatchPlainFrame server frame link true)
        refine Obeys.done_bind fun frame hframe ↦ ?_
        by_cases hm : frame.header.serviceType ∈ tunnelServices
        · have hlocal := permits_isLocal.dispatchPlainFrame server frame link true []
          refine (obeys_of_local hlocal (.inr ?_)).mono fun _ _ _ ↦ trivial
          exact ⟨link.peerAddr, data, entry, inner, frame, ⟨[], h, rfl, by simp, hh⟩, hs, hframe, hm⟩
        · rw [dispatchPlainFrame_of_not_mem hm]
          trivial

section

variable (hsecure : server.secureConfig.isSome)

include hsecure

theorem obeys_handleFrame (data : List UInt8) (link : ClientLink)
    (hh : inHand h = some (link.peerAddr, data)) :
    (handleFrame P server data link).Obeys admissionRule (fun _ _ ↦ True) h := by
  refine Obeys.done_bind fun frame hframe ↦ ?_
  have hs : KnxIpFrame.serviceTypeOf data = some frame.header.serviceType := by
    rw [KnxIpFrame.serviceTypeOf, hframe]
  have hhandshake {p : Handler Unit} (hp : p.Follows fun _ c ↦ c.isHandshake = true) :
      p.Follows admissionRule := fun h ↦ (hp h).imp fun h _ hc ↦ admissionRule_of_isHandshake hc h
  split
  · exact Follows.bind (hhandshake (follows_handleSessionRequest_isHandshake P server _ _))
      (fun _ ↦ .done _) h
  · exact Follows.bind (hhandshake (follows_handleSessionAuthenticate_isHandshake _ _))
      (fun _ ↦ .done _) h
  -- Only this branch leads to the channels: outside a wrapper a secure server stops.
  · rename_i hw
    rw [hw] at hs
    exact obeys_handleSecureWrapper hh hs
  · rw [dispatchPlainFrame, if_pos (by simp [hsecure])]
    trivial

theorem obeys_attempt_handleFrame (data : List UInt8) (link : ClientLink)
    (hh : inHand h = some (link.peerAddr, data)) :
    (handleFrame P server data link).attempt.Obeys admissionRule
      (fun _ (_ : Outcome KnxError _) ↦ True) h :=
  (obeys_handleFrame P hsecure data link hh).attempt_true

theorem follows_dispatchLoop_admission (datagrams : List (SocketAddr × List UInt8)) :
    (dispatchLoop P server datagrams).Follows admissionRule := by
  induction datagrams with
  | nil => exact .done _
  | cons d datagrams ih =>
    refine .bind (.perform fun _ ↦ ⟨nofun, trivial⟩) fun shutdown ↦ ?_
    cases shutdown with
    | true => exact .done _
    | false =>
      refine fun h ↦ ⟨⟨nofun, trivial⟩, fun taken ↦ ?_⟩
      cases taken with
      | false => trivial
      | true =>
        exact (obeys_attempt_handleFrame P hsecure (d.2.take 1024) (.udp d.1) rfl).bind_true
          fun h _ _ ↦ ih h

theorem obeys_streamLoop (transport : ℕ) (peer : SocketAddr) (frames : List (List UInt8))
    (assigned : Option UInt8) (h : Past) :
    (streamLoop P server transport peer frames assigned).Obeys admissionRule
      (fun h r ↦ ∀ a, r = .ok a → inHand h = none) h := by
  induction frames generalizing assigned h with
  | nil => exact ⟨⟨nofun, trivial⟩, fun _ _ _ ↦ rfl⟩
  | cons data frames ih =>
    refine ⟨⟨nofun, trivial⟩, fun shutdown ↦ ?_⟩
    cases shutdown with
    | true => exact ⟨⟨nofun, trivial⟩, fun _ _ _ ↦ rfl⟩
    | false =>
      refine ⟨⟨nofun, trivial⟩, fun _ ↦ ?_⟩
      refine (obeys_attempt_handleFrame P hsecure data (.tcp transport peer) rfl).bind ?_
        (fun _ _ _ ↦ nofun) (fun _ _ ↦ nofun)
      intro h result _
      rcases result with e | _ | id
      · exact ih assigned h
      · exact ih assigned h
      · exact ih (some id) h

theorem obeys_program (activity : Activity) :
    (program P server activity).Obeys admissionRule (fun _ _ ↦ True) [] := by
  cases activity with
  | accept transport peer frames =>
    refine ⟨⟨nofun, trivial⟩, fun shutdown ↦ ?_⟩
    cases shutdown with
    | true => trivial
    | false =>
      refine (obeys_streamLoop P hsecure transport peer frames none _).bind_true ?_
      intro h assigned hh
      cases assigned with
      | none => exact ⟨⟨nofun, trivial⟩, fun _ ↦ trivial⟩
      | some id =>
        refine ⟨⟨fun _ ↦ .inl (hh _ rfl), trivial⟩, fun _ ↦ ?_⟩
        exact ⟨⟨nofun, trivial⟩, fun _ ↦ trivial⟩
  | send telegram =>
    exact (obeys_of_local (permits_isLocal.send telegram []) (.inl rfl)).mono fun _ _ _ ↦ trivial
  | shutdown => exact ⟨⟨nofun, trivial⟩, fun _ ↦ trivial⟩

end

variable {P}

def Decrypts (P : Primitives) (r : Step) (entry : ℕ) (data inner : List UInt8) : Prop :=
  ∃ e, r.event = ⟨.decryptFrame entry data, .ok inner⟩ ∧ r.before.entries[entry]? = some e ∧
    (e.session.decryptFrame P data).1 = .ok inner

def Verifies (P : Primitives) (r : Step) (entry : ℕ) : Prop :=
  ∃ userId mac e, r.command = .verifyAuthenticateMac entry userId mac ∧
    r.before.entries[entry]? = some e ∧
    (e.session.verifyAuthenticateMac P e.clientPublicKey userId mac).1 = .ok true

def Verified (P : Primitives) (trace : List Step) (s : State) : Prop :=
  ∀ n e, s.entries[n]? = some e → e.session.state = .authenticated → ∃ r ∈ trace, Verifies P r n

theorem keeps_verified : Config.Keeps (exec P) admissionRule (Verified P) := by
  intro trace s k c i r s' hexec hinv hrule he n e hn hstate
  have old : ∀ e, s.entries[n]? = some e → e.session.state = .authenticated →
      ∃ r' ∈ (⟨k, c, r, s, s'⟩ : Step) :: trace, Verifies P r' n := by
    intro e hn hstate
    obtain ⟨r', hr', hv⟩ := hinv n e hn hstate
    exact ⟨r', List.mem_cons_of_mem _ hr', hv⟩
  obtain h | ⟨peer, new, rfl, h⟩ | ⟨m, e', session, hm, h, -, hs⟩ := exec_entries he
  · rw [h] at hn
    exact old e hn hstate
  · rw [h] at hn
    rcases Nat.lt_trichotomy n s.entries.length with hlt | rfl | hlt
    · rw [List.getElem?_append_left hlt] at hn
      exact old e hn hstate
    · obtain rfl : new = e := by simpa using hn
      exact absurd hstate hrule.2
    · rw [List.getElem?_eq_none (by simp; omega)] at hn
      cases hn
  · by_cases hnm : m = n
    · subst hnm
      rw [h, List.getElem?_set_self (List.getElem?_eq_some_iff.mp hm).1, Option.some.injEq] at hn
      subst hn
      rcases hs with hs | ⟨userId, mac, rfl, hv⟩
      · exact old e' hm (hs ▸ hstate)
      · exact ⟨_, List.mem_cons_self, userId, mac, e', rfl, hm, hv⟩
    · rw [h, List.getElem?_set_ne hnm] at hn
      exact old e hn hstate

def Affects (r : Step) : Prop :=
  r.after.sessions ≠ r.before.sessions ∨ r.after.cells ≠ r.before.cells ∨
    r.after.acks ≠ r.before.acks ∨ r.after.published ≠ r.before.published

theorem grants_admission :
    Config.Grants (exec P) admissionRule (Verified P) fun r earlier ↦
      Affects r → inHand (history r.task earlier) = none ∨ Admission (history r.task earlier) := by
  intro trace s k c i r s' _ _ hrule he ha
  cases hc : c.touchesChannels with
  | true => exact hrule.1 hc
  | false =>
    obtain ⟨h₁, h₂, h₃, h₄⟩ := exec_channels hc he
    rcases ha with h | h | h | h
    · exact absurd h₁ h
    · exact absurd h₂ h
    · exact absurd h₃ h
    · exact absurd h₄ h

theorem grants_verified :
    Config.Grants (exec P) admissionRule (Verified P) fun r earlier ↦
      ∀ entry, r.event = ⟨.isAuthenticated entry, true⟩ → ∃ r' ∈ earlier, Verifies P r' entry := by
  intro trace s k c i r s' _ hinv _ he entry hevent
  cases hevent
  simp only [exec] at he
  obtain ⟨e, hn, hstate, -⟩ := State.withEntry_eq_some he
  exact hinv entry e hn (by simpa [SecureSession.isAuthenticated] using hstate.symm)

section

variable {r : Step}

theorem stored_of_event (hr : r.Executed (exec P)) {peer : SocketAddr} {entry : ℕ}
    (he : r.event = ⟨.getSecureSession peer, some entry⟩) :
    r.command = .getSecureSession peer ∧ r.before.secureSessions peer = some entry := by
  obtain ⟨k, c, x, before, after⟩ := r
  cases he
  obtain ⟨i, hr⟩ := hr
  simp only [exec, Option.some.injEq, Prod.mk.injEq] at hr
  exact ⟨rfl, hr.1⟩

theorem decrypts_of_event (hr : r.Executed (exec P)) {entry : ℕ} {data inner : List UInt8}
    (he : r.event = ⟨.decryptFrame entry data, .ok inner⟩) : Decrypts P r entry data inner := by
  obtain ⟨k, c, x, before, after⟩ := r
  cases he
  obtain ⟨i, hr⟩ := hr
  simp only [exec] at hr
  obtain ⟨e, hn, hinner, -⟩ := State.withEntry_eq_some hr
  exact ⟨e, rfl, hn, hinner.symm⟩

end

theorem Admitted.inHand_eq {peer : SocketAddr} {data inner : List UInt8} {entry : ℕ} {h : Past}
    (ha : Admitted peer data entry inner h) : inHand h = some (peer, data) := by
  obtain ⟨later, earlier, rfl, hlater, hhand⟩ := ha
  induction later with
  | nil => exact hhand
  | cons e later ih =>
    obtain ⟨he, hlater⟩ := List.forall_mem_cons.mp hlater
    rw [List.cons_append, inHand_cons he]
    exact ih hlater

theorem Admitted.records {peer : SocketAddr} {data inner : List UInt8} {entry task : ℕ}
    {earlier : List Step} (ha : Admitted peer data entry inner (history task earlier)) :
    (∃ r ∈ earlier, r.task = task ∧ r.event = ⟨.getSecureSession peer, some entry⟩) ∧
    (∃ r ∈ earlier, r.task = task ∧ r.event = ⟨.isAuthenticated entry, true⟩) ∧
    ∃ r ∈ earlier, r.task = task ∧ r.event = ⟨.decryptFrame entry data, .ok inner⟩ := by
  obtain ⟨later, before, hh, -, -⟩ := ha
  refine ⟨?_, ?_, ?_⟩ <;>
  · apply mem_of_mem_history
    simp [hh]

/-- The frame from the peer that the task is working on came in a SecureWrapper.
It decrypted to a service of the tunnel under the entry stored for the peer, and
that entry had been verified when it was found to be authenticated. -/
def Authorized (P : Primitives) (task : ℕ) (peer : SocketAddr) (data : List UInt8)
    (earlier : List Step) : Prop :=
  ∃ entry inner frame,
    KnxIpFrame.serviceTypeOf data = some .secureWrapper ∧
    Admitted peer data entry inner (history task earlier) ∧
    KnxIpFrame.parse inner = .ok frame ∧ frame.header.serviceType ∈ tunnelServices ∧
    (∃ r ∈ earlier, r.task = task ∧ r.command = .getSecureSession peer ∧
      r.before.secureSessions peer = some entry) ∧
    (∃ r ∈ earlier, r.task = task ∧ Decrypts P r entry data inner) ∧
    ∃ r before, r :: before <:+ earlier ∧ r.task = task ∧
      r.event = ⟨.isAuthenticated entry, true⟩ ∧ ∃ r' ∈ before, Verifies P r' entry

variable (P server)

theorem obeys_pool (hsecure : server.secureConfig.isSome)
    (datagrams : List (SocketAddr × List UInt8)) (sweeps : ℕ) :
    ∀ p ∈ [dispatchLoop P server datagrams, sweepLoop sweeps],
      p.Obeys admissionRule (fun _ _ ↦ True) [] := by
  simp only [List.forall_mem_cons, List.not_mem_nil, false_implies, implies_true, and_true]
  refine ⟨follows_dispatchLoop_admission P hsecure datagrams [], ?_⟩
  exact (obeys_of_local (permits_isLocal.sweepLoop sweeps []) (.inl rfl)).mono fun _ _ _ ↦ trivial

/-- With secure configuration, the work on a received frame changes channels only
if the frame was authorized. -/
theorem channels_change_only_when_authorized (hsecure : server.secureConfig.isSome)
    (datagrams : List (SocketAddr × List UInt8)) (sweeps : ℕ) (moves : List (Move Activity Env))
    (r : Step) (earlier : List Step)
    (hr : r :: earlier <:+ (run P server datagrams sweeps moves).trace)
    (peer : SocketAddr) (data : List UInt8)
    (hhand : inHand (history r.task earlier) = some (peer, data)) (ha : Affects r) :
    Authorized P r.task peer data earlier := by
  have hpool := obeys_pool P server hsecure datagrams sweeps
  have hverified : Verified P [] .bound := by
    intro n e hn
    cases hn
  have hexec : ∀ r' ∈ earlier, r'.Executed (exec P) := fun r' hr' ↦
    (Config.run_sound (.start hpool hverified) (obeys_program P hsecure) keeps_verified
      moves).executed r' (hr.mem (List.mem_cons_of_mem _ hr'))
  have hadmission := Config.run_always hpool (obeys_program P hsecure) hverified keeps_verified
    grants_admission moves r earlier hr ha
  rw [hhand] at hadmission
  obtain ⟨peer', data', entry, inner, frame, hadmitted, hwrapper, hparse, hservice⟩ :=
    hadmission.resolve_left nofun
  obtain ⟨rfl, rfl⟩ : peer = peer' ∧ data = data' := by
    simpa [hhand] using hadmitted.inHand_eq
  obtain ⟨⟨r₁, hr₁, ht₁, he₁⟩, ⟨r₂, hr₂, ht₂, he₂⟩, r₃, hr₃, ht₃, he₃⟩ := hadmitted.records
  obtain ⟨later, before, rfl⟩ := List.append_of_mem hr₂
  have hsuffix : r₂ :: before <:+ later ++ r₂ :: before := List.suffix_append ..
  have hchecked := Config.run_always hpool (obeys_program P hsecure) hverified keeps_verified
    grants_verified moves r₂ before ((hsuffix.trans (List.suffix_cons r _)).trans hr) entry he₂
  exact ⟨entry, inner, frame, hwrapper, hadmitted, hparse, hservice,
    ⟨r₁, hr₁, ht₁, stored_of_event (hexec r₁ hr₁) he₁⟩,
    ⟨r₃, hr₃, ht₃, decrypts_of_event (hexec r₃ hr₃) he₃⟩, r₂, before, hsuffix, ht₂, he₂, hchecked⟩

open Security.Reference (primitives)

def Reference.opened : List Step → Option (Bool × Option (SocketAddr × List UInt8))
  | [] => none
  | r :: earlier => some ((r.before.sessions 1).isNone && (r.after.sessions 1).isSome,
      inHand (history r.task earlier))

theorem Reference.opened_seventeen :
    Reference.opened (run primitives Reference.secureServer Reference.datagrams 0
      (Reference.steps 17)).trace = some (true, some (Reference.peer,
        Reference.wrapped 0 .connectRequest ConnectRequest.newRouteBack.serialize)) := by
  decide +kernel

theorem connect_request_authorized :
    ∃ r earlier, (run primitives Reference.secureServer Reference.datagrams 0
        (Reference.steps 17)).trace = r :: earlier ∧ Affects r ∧
      Authorized primitives r.task Reference.peer
        (Reference.wrapped 0 .connectRequest ConnectRequest.newRouteBack.serialize) earlier := by
  have hopened := Reference.opened_seventeen
  generalize ht : (run primitives Reference.secureServer Reference.datagrams 0
    (Reference.steps 17)).trace = trace at hopened ⊢
  cases trace with
  | nil => cases hopened
  | cons r earlier =>
    simp only [Reference.opened, Option.some.injEq, Prod.mk.injEq, Bool.and_eq_true,
      Option.isNone_iff_eq_none] at hopened
    obtain ⟨⟨hbefore, hafter⟩, hhand⟩ := hopened
    have haffects : Affects r := by
      left
      intro h
      rw [h, hbefore] at hafter
      cases hafter
    exact ⟨r, earlier, rfl, haffects, channels_change_only_when_authorized primitives
      Reference.secureServer rfl _ _ _ r earlier ⟨[], ht.symm⟩ _ _ hhand haffects⟩

end Knust.Transport.Server
