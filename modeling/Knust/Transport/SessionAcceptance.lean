import Knust.Foundation.Sequential
import Knust.Security.Handshake
import Knust.Transport.Connect

namespace Knust.Transport.Client

open Foundation Foundation.Task Protocol Security

def contribution : (c : Command) × c.Response → Option (Block 32 ⊕ List UInt8)
  | ⟨.generateSecret, secret⟩ => some (.inl secret)
  | ⟨.read, .ok data⟩ => some (.inr data)
  | ⟨.readWithin _, some (.ok data)⟩ => some (.inr data)
  | _ => none

def contributions (h : History Command Command.Response) : List (Block 32 ⊕ List UInt8) :=
  (h.filterMap contribution).reverse

def Exchange (h : History Command Command.Response) (secret : Block 32)
    (first second : List UInt8) : Prop :=
  [.inl secret, .inr first, .inr second] <+: contributions h

theorem contributions_cons (e : (c : Command) × c.Response) (h : Past) :
    contributions (e :: h) = contributions h ++ (contribution e).toList := by
  cases he : contribution e <;> simp [contributions, he]

theorem Exchange.cons {h : Past} {secret : Block 32} {first second : List UInt8}
    (hx : Exchange h secret first second) (e : (c : Command) × c.Response) :
    Exchange (e :: h) secret first second := by
  rw [Exchange, contributions_cons]
  exact hx.trans (List.prefix_append _ _)

theorem Exchange.unique {h : Past} {secret secret' : Block 32}
    {first first' second second' : List UInt8} (hx : Exchange h secret first second)
    (hx' : Exchange h secret' first' second') :
    secret = secret' ∧ first = first' ∧ second = second' := by
  have heq := (List.prefix_of_prefix_length_le hx hx' le_rfl).eq_of_length rfl
  simpa using heq

def Installed (h : History Command Command.Response) : Prop :=
  ∃ session, ⟨.installSession session, ()⟩ ∈ h

section

variable (P : Primitives) (security : SecurityConfig)

def waitingSession (secret : Block 32) : SecureSession :=
  ((SecureSession.new P (sessionConfig security)).initializeSession P secret).2

def DeviceVerified (secret : Block 32) (r : SessionResponse) : Prop :=
  (waitingSession P security secret).verifyDevice P ⟨secret⟩ r.sessionId r.publicKey r.mac.val =
    .ok ()

/-- A SessionResponse of the device, and a SessionStatus that reports success. -/
def Authentic (secret : Block 32) (first second : List UInt8) : Prop :=
  (∃ frame r, KnxIpFrame.parse first = .ok frame ∧
    frame.header.serviceType = .sessionResponse ∧ SessionResponse.parse frame.body = .ok r ∧
    DeviceVerified P security secret r) ∧
  ∃ frame status, KnxIpFrame.parse second = .ok frame ∧
    frame.header.serviceType = .sessionStatus ∧ SessionStatus.parse frame.body = .ok status ∧
    status.isSuccess = true

def AuthenticBodies (secret : Block 32) (first second : List UInt8) : Prop :=
  (∃ r, SessionResponse.parse (first.drop 6) = .ok r ∧ DeviceVerified P security secret r) ∧
  ∃ status, SessionStatus.parse (second.drop 6) = .ok status ∧ status.isSuccess = true

def Framed (serviceType : ServiceType) (size : ℕ) (data : List UInt8) : Prop :=
  ∃ frame, KnxIpFrame.parse data = .ok frame ∧ frame.header.serviceType = serviceType ∧
    size ≤ frame.body.length

instance (serviceType : ServiceType) (size : ℕ) (data : List UInt8) :
    Decidable (Framed serviceType size data) :=
  match h : KnxIpFrame.parse data with
  | .ok frame =>
    decidable_of_iff (frame.header.serviceType = serviceType ∧ size ≤ frame.body.length)
      (by simp [Framed, h])
  | .err _ => isFalse (by simp [Framed, h])
  | .panic => isFalse (by simp [Framed, h])

theorem sessionResponse_body {first : List UInt8} {frame : KnxIpFrame} {r : SessionResponse}
    (hf : KnxIpFrame.parse first = .ok frame) (hr : SessionResponse.parse frame.body = .ok r) :
    SessionResponse.parse (first.drop 6) = .ok r ∧ 50 ≤ frame.body.length := by
  obtain ⟨rest, hd⟩ := KnxIpFrame.body_of_parse hf
  obtain ⟨rest', hb⟩ := SessionResponse.parse_eq_ok_iff.mp hr
  refine ⟨SessionResponse.parse_eq_ok_iff.mpr ⟨rest' ++ rest, by rw [hd, hb, List.append_assoc]⟩, ?_⟩
  rw [hb]
  simp [SessionResponse.serialize]
  omega

variable {second : List UInt8}

theorem sessionStatus_body {frame : KnxIpFrame} {status : SessionStatus}
    (hf : KnxIpFrame.parse second = .ok frame) (hs : SessionStatus.parse frame.body = .ok status) :
    SessionStatus.parse (second.drop 6) = .ok status ∧ 2 ≤ frame.body.length := by
  obtain ⟨rest, hd⟩ := KnxIpFrame.body_of_parse hf
  obtain ⟨reserved, rest', hb⟩ := SessionStatus.parse_eq_ok_iff.mp hs
  refine ⟨SessionStatus.parse_eq_ok_iff.mpr ⟨reserved, rest' ++ rest, by rw [hd, hb]; rfl⟩, ?_⟩
  rw [hb]
  simp

theorem authentic_iff {secret : Block 32} {first : List UInt8} :
    Authentic P security secret first second ↔
      AuthenticBodies P security secret first second ∧
        Framed .sessionResponse 50 first ∧ Framed .sessionStatus 2 second := by
  constructor
  · rintro ⟨⟨frame, r, hf, ht, hr, hv⟩, frame', status, hf', ht', hs, hok⟩
    obtain ⟨hr, hlen⟩ := sessionResponse_body hf hr
    obtain ⟨hs, hlen'⟩ := sessionStatus_body hf' hs
    exact ⟨⟨⟨r, hr, hv⟩, status, hs, hok⟩, ⟨frame, hf, ht, hlen⟩, frame', hf', ht', hlen'⟩
  · rintro ⟨⟨⟨r, hr, hv⟩, status, hs, hok⟩, ⟨frame, hf, ht, hlen⟩, frame', hf', ht', hlen'⟩
    refine ⟨⟨frame, r, hf, ht, ?_, hv⟩, frame', status, hf', ht', ?_, hok⟩
    · obtain ⟨r', rest, hb⟩ := SessionResponse.exists_serialize hlen
      have hparse : SessionResponse.parse frame.body = .ok r' := by
        rw [hb, SessionResponse.parse_serialize]
      have hr' := (sessionResponse_body hf hparse).1
      rw [hr] at hr'
      rw [hparse, hr']
    · obtain ⟨b₀, b₁, rest, hb⟩ : ∃ b₀ b₁ rest, frame'.body = b₀ :: b₁ :: rest := by
        match hb : frame'.body, hlen' with
        | b₀ :: b₁ :: rest, _ => exact ⟨b₀, b₁, rest, rfl⟩
      have hparse : SessionStatus.parse frame'.body = .ok ⟨b₁⟩ :=
        SessionStatus.parse_eq_ok_iff.mpr ⟨b₀, rest, hb⟩
      have hs' := (sessionStatus_body hf' hparse).1
      rw [hs] at hs'
      rw [hparse, hs']

theorem sessionResponseFields_eq {first : List UInt8} (h : 56 ≤ first.length) :
    ∃ r, SessionResponse.parse (first.drop 6) = .ok r ∧
      sessionResponseFields first = .ok (r.sessionId, r.publicKey, r.mac.val) := by
  obtain ⟨header, body, rfl⟩ := Block.exists_append (n := 6) (show 6 ≤ first.length by omega)
  have hdrop : (header.val ++ body).drop 6 = body := List.drop_left' header.property
  obtain ⟨r, rest, rfl⟩ := SessionResponse.exists_serialize (show 50 ≤ body.length by
    rw [List.length_append, Block.length] at h
    omega)
  refine ⟨r, by rw [hdrop, SessionResponse.parse_serialize], ?_⟩
  have hkey : (slice (header.val ++ (r.serialize ++ rest)) 8 40 : Result _) = .ok r.publicKey.val :=
    slice_middle (header.val ++ u16Bytes r.sessionId) (r.mac.val ++ rest)
      (by simp [SessionResponse.serialize]) (by simp) (by simp)
  have hmac : (slice (header.val ++ (r.serialize ++ rest)) 40 56 : Result _) = .ok r.mac.val :=
    slice_middle (header.val ++ u16Bytes r.sessionId ++ r.publicKey.val) rest
      (by simp [SessionResponse.serialize]) (by simp) (by simp)
  have hindex (i : ℕ) := index_append (ε := KnxError) header.val (r.serialize ++ rest) i
  rw [Block.length] at hindex
  have hhi : (index (header.val ++ (r.serialize ++ rest)) 6 : Result _) =
      .ok (hiByte r.sessionId) :=
    (hindex 0).trans (by simp [SessionResponse.serialize, u16Bytes_eq, index])
  have hlo : (index (header.val ++ (r.serialize ++ rest)) 7 : Result _) =
      .ok (loByte r.sessionId) :=
    (hindex 1).trans (by simp [SessionResponse.serialize, u16Bytes_eq, index])
  rw [sessionResponseFields, if_neg (by omega), hhi, hlo, hkey, hmac]
  simp

theorem sessionStatusCode_eq (h : 8 ≤ second.length) :
    ∃ status, SessionStatus.parse (second.drop 6) = .ok status ∧
      sessionStatusCode second = .ok status.status := by
  obtain ⟨header, body, rfl⟩ := Block.exists_append (n := 6) (show 6 ≤ second.length by omega)
  have hdrop : (header.val ++ body).drop 6 = body := List.drop_left' header.property
  obtain ⟨b₀, b₁, rest, rfl⟩ : ∃ b₀ b₁ rest, body = b₀ :: b₁ :: rest := by
    rw [List.length_append, Block.length] at h
    match body, h with
    | b₀ :: b₁ :: rest, _ => exact ⟨b₀, b₁, rest, rfl⟩
    | [_], h => simp at h
    | [], h => simp at h
  refine ⟨⟨b₁⟩, SessionStatus.parse_eq_ok_iff.mpr ⟨b₀, rest, hdrop⟩, ?_⟩
  have hindex := index_append (ε := KnxError) header.val (b₀ :: b₁ :: rest) 1
  rw [Block.length] at hindex
  rw [sessionStatusCode, if_neg (by omega)]
  exact hindex.trans rfl

theorem not_sessionStatus_of_short (h : second.length < 8) (status : SessionStatus) :
    SessionStatus.parse (second.drop 6) ≠ .ok status := by
  rw [SessionStatus.parse, if_pos (by rw [List.length_drop]; omega)]
  simp [parseError]

/-- How a handshake ends: with a session, if the bodies are right, or else with an
error. No session is installed yet. -/
structure HandshakeEnd (before after : State) (h : History Command Command.Response)
    (r : Result SecureSession) : Prop where
  kept : after.secureSession = before.secureSession
  notInstalled : ¬ Installed h
  result : (∃ session secret first second, r = .ok session ∧ Exchange h secret first second ∧
      AuthenticBodies P security secret first second) ∨
    (∃ e, r = .err e) ∧ ∀ secret first second, Exchange h secret first second →
      ¬ AuthenticBodies P security secret first second

/-- A handshake that is still under way: no session is installed, and the secret and
the frames taken in so far are those of the list. -/
structure Underway (before now : State) (h : History Command Command.Response)
    (taken : List (Block 32 ⊕ List UInt8)) : Prop where
  kept : now.secureSession = before.secureSession
  notInstalled : ¬ Installed h
  taken_eq : contributions h = taken

variable {P security} {tunnel : Tunnel} {before now : State} {h : Past}
  {taken : List (Block 32 ⊕ List UInt8)}

theorem Underway.step (hu : Underway before now h taken) {c : Command} {i : Env} {r : c.Response}
    {s : State} (hc : c.keepsSession = true) (hr : exec P tunnel c i now = some (r, s)) :
    Underway before s (⟨c, r⟩ :: h) (taken ++ (contribution ⟨c, r⟩).toList) := by
  refine ⟨(exec_secureSession hc hr).trans hu.kept, ?_, ?_⟩
  · rintro ⟨session, hs⟩
    rcases List.mem_cons.mp hs with he | hs
    · cases he
      cases hc
    · exact hu.notInstalled ⟨session, hs⟩
  · rw [contributions_cons, hu.taken_eq]

theorem Underway.failed (hu : Underway before now h taken) (hlen : taken.length < 3)
    (e : KnxError) : HandshakeEnd P security before now h (.err e) := by
  refine ⟨hu.kept, hu.notInstalled, .inr ⟨⟨e, rfl⟩, fun secret first second hx ↦ ?_⟩⟩
  have hle := hx.length_le
  rw [hu.taken_eq] at hle
  simp only [List.length_cons, List.length_nil] at hle
  omega

theorem Underway.exchange {secret : Block 32} {first second : List UInt8}
    (hu : Underway before now h [.inl secret, .inr first, .inr second]) :
    Exchange h secret first second := by
  rw [Exchange, hu.taken_eq]

theorem ensures_recvHandshake (hu : Underway before now h taken) (hlen : taken.length < 3)
    {f : List UInt8 → Handler SecureSession}
    (hf : ∀ s h data, Underway before s h (taken ++ [.inr data]) →
      (f data).Ensures (exec P tunnel) (HandshakeEnd P security before) s h) :
    (recvHandshake tunnel >>= f).Ensures (exec P tunnel) (HandshakeEnd P security before) now h := by
  intro i raw s hr
  have hu' := hu.step rfl hr
  rcases raw with _ | e | data
  · exact hu'.failed (by simpa [contribution] using hlen) _
  · exact hu'.failed (by simpa [contribution] using hlen) _
  · exact hf _ _ data hu'

theorem ensures_write (hu : Underway before now h taken) (hlen : taken.length < 3)
    (frame : List UInt8) {f : Unit → Handler SecureSession}
    (hf : ∀ s h, Underway before s h taken →
      (f ()).Ensures (exec P tunnel) (HandshakeEnd P security before) s h) :
    (do
      .done (← perform (.write frame))
      f () : Handler SecureSession).Ensures (exec P tunnel) (HandshakeEnd P security before) now h := by
  intro i r s hr
  have hu' : Underway before s (⟨.write frame, r⟩ :: h) taken := by
    simpa [contribution] using hu.step rfl hr
  cases r with
  | ok _ => exact hf _ _ hu'
  | err e => exact hu'.failed hlen e
  | panic =>
    simp only [exec, respond, writeResult, Option.some.injEq, Prod.mk.injEq] at hr
    split at hr <;> cases hr.1

theorem ensures_awaitSessionStatus {secret : Block 32} {first : List UInt8}
    (hu : Underway before now h [.inl secret, .inr first])
    (hfirst : ∃ r, SessionResponse.parse (first.drop 6) = .ok r ∧
      DeviceVerified P security secret r) (session : SecureSession) :
    (awaitSessionStatus tunnel session).Ensures (exec P tunnel)
      (HandshakeEnd P security before) now h := by
  refine ensures_recvHandshake hu (by simp) fun s h second hu ↦ ?_
  have hrejected (e : KnxError) (hs : ∀ status, SessionStatus.parse (second.drop 6) = .ok status →
      status.isSuccess = false) : HandshakeEnd P security before s h (.err e) := by
    refine ⟨hu.kept, hu.notInstalled, .inr ⟨⟨e, rfl⟩, ?_⟩⟩
    rintro secret' first' second' hx ⟨-, status, hparse, hok⟩
    obtain ⟨-, -, rfl⟩ := hx.unique hu.exchange
    rw [hs status hparse] at hok
    cases hok
  -- The length is the only check that is made before the status is read.
  by_cases hlen : second.length < 8
  · rw [sessionStatusCode, if_pos hlen]
    exact hrejected _ fun status hparse ↦ absurd hparse (not_sessionStatus_of_short hlen status)
  obtain ⟨status, hparse, hcode⟩ := sessionStatusCode_eq (show 8 ≤ second.length by omega)
  rw [hcode]
  show Ensures _ _ _ _ (.done (session.completeAuthentication status.status).1 >>= _)
  unfold SecureSession.completeAuthentication
  split
  · rename_i hne
    refine hrejected _ fun status' hparse' ↦ ?_
    rw [hparse, Outcome.ok.injEq] at hparse'
    simpa [SessionStatus.isSuccess, SessionStatus.statusOk, ← hparse'] using hne
  · rename_i hne
    refine ⟨hu.kept, hu.notInstalled, .inl ⟨_, secret, first, second, rfl, hu.exchange, hfirst,
      status, hparse, ?_⟩⟩
    simp [SessionStatus.isSuccess, SessionStatus.statusOk, not_not.mp hne]

theorem ensures_awaitSessionResponse {secret : Block 32}
    (hu : Underway before now h [.inl secret]) :
    (awaitSessionResponse tunnel P security (waitingSession P security secret)).Ensures
      (exec P tunnel) (HandshakeEnd P security before) now h := by
  refine ensures_recvHandshake hu (by simp) fun s h first hu ↦ ?_
  by_cases hlen : first.length < 56
  · rw [sessionResponseFields, if_pos hlen]
    exact hu.failed (by simp) _
  obtain ⟨r, hparse, hfields⟩ := sessionResponseFields_eq (show 56 ≤ first.length by omega)
  rw [hfields]
  show Ensures _ _ _ _ (.done ((waitingSession P security secret).processSessionResponse P
    r.sessionId r.publicKey r.mac.val).1 >>= _)
  rcases processSessionResponse_cases P (s := waitingSession P security secret) rfl r.sessionId
    r.publicKey r.mac.val with ⟨hv, answer, hanswer⟩ | ⟨-, e, he⟩
  · rw [hanswer]
    exact ensures_write (f := fun _ ↦ awaitSessionStatus tunnel _) hu (by simp) _
      fun s h hu ↦ ensures_awaitSessionStatus hu ⟨r, hparse, hv⟩ _
  · rw [he]
    exact hu.failed (by simp) e

theorem ensures_secureHandshake (s : State) :
    (secureHandshake tunnel P security).Ensures (exec P tunnel)
      (HandshakeEnd P security s) s [] := by
  have hu : Underway s s [] [] := ⟨rfl, by simp [Installed], rfl⟩
  intro i established s₁ h₁
  have hu₁ := hu.step rfl h₁
  cases established with
  | err e => exact hu₁.failed (by simp [contribution]) e
  | panic =>
    simp only [exec, respond, Option.some.injEq] at h₁
    split at h₁ <;> cases h₁
  | ok _ =>
    intro i secret s₂ h₂
    exact ensures_write (f := fun _ ↦ awaitSessionResponse tunnel P security _)
      (hu₁.step rfl h₂) (by simp [contribution]) _ fun s h hu ↦ ensures_awaitSessionResponse hu

/-- How `connect_secure` ends: without a session and with an error, or with a session
installed for bodies that are right. -/
def ConnectEnd (P : Primitives) (security : SecurityConfig) (before after : State)
    (h : History Command Command.Response) (r : Result Unit) : Prop :=
  (Installed h ∧ ∃ secret first second, Exchange h secret first second ∧
    AuthenticBodies P security secret first second) ∨
  ¬ Installed h ∧ (∃ e, r = .err e) ∧ after.secureSession = before.secureSession ∧
    ∀ secret first second, Exchange h secret first second →
      ¬ AuthenticBodies P security secret first second

theorem ensures_connectSecure (frames : ℕ) (s : State) :
    (connectSecure tunnel P security frames).Ensures (exec P tunnel)
      (ConnectEnd P security s) s [] := by
  have hfailed (after : State) (h : Past) (e : KnxError)
      (hend : HandshakeEnd P security s after h (.err e)) :
      ConnectEnd P security s after h (.err e) := by
    obtain ⟨hkept, hinst, ⟨_, _, _, _, ⟨⟩, _⟩ | ⟨-, hx⟩⟩ := hend
    exact .inr ⟨hinst, ⟨e, rfl⟩, hkept, hx⟩
  refine (ensures_secureHandshake s).bind (fun s₁ h session hend ↦ ?_) hfailed ?_
  · obtain ⟨-, -, ⟨-, secret, first, second, -, hx, hb⟩ | ⟨⟨_, ⟨⟩⟩, -⟩⟩ := hend
    intro i r s₂ _
    -- From here on the exchange is part of the history, whatever else happens.
    refine Ensures.mono (Ensures.invariant (A := fun _ h ↦ Installed h ∧
      Exchange h secret first second) ?_ ?_ _) fun s h r hA ↦
        .inl ⟨hA.1, secret, first, second, hA.2, hb⟩
    · rintro c i s r s' h ⟨⟨session, hs⟩, hx⟩ -
      exact ⟨⟨session, List.mem_cons_of_mem _ hs⟩, hx.cons _⟩
    · exact ⟨⟨session, List.mem_cons_self⟩, hx.cons _⟩
  · rintro s₁ h ⟨-, -, ⟨_, _, _, _, ⟨⟩, _⟩ | ⟨⟨_, ⟨⟩⟩, -⟩⟩

variable (P security tunnel)

def Genuine (h : History Command Command.Response) : Prop :=
  ∃ secret first second, Exchange h secret first second ∧
    Authentic P security secret first second

/-- A session is installed only after a genuine exchange; after any other an error
is returned and the session of the tunnel is the one it had. -/
def AdmitsOnlyGenuine (before : State)
    (e : Ending Command Command.Response State KnxError Unit) : Prop :=
  (Installed e.history → Genuine P security e.history) ∧
  (¬ Genuine P security e.history → (∃ error, e.outcome = .err error) ∧
    ¬ Installed e.history ∧ e.state.secureSession = before.secureSession)

/-- `connect_secure` admits only genuine exchanges exactly if frames whose bodies are
right also have the right headers: it does not look at the headers. -/
theorem admitsOnlyGenuine_iff (frames : ℕ) (inputs : ℕ → Env) (s : State) :
    ∃ e, (connectSecure tunnel P security frames).runAlone (exec P tunnel) inputs s [] = some e ∧
      (AdmitsOnlyGenuine P security s e ↔
        ∀ secret first second, Exchange e.history secret first second →
          AuthenticBodies P security secret first second →
          Framed .sessionResponse 50 first ∧ Framed .sessionStatus 2 second) := by
  obtain ⟨e, he⟩ : ∃ e, (connectSecure tunnel P security frames).runAlone (exec P tunnel) inputs s
      [] = some e := exists_runAlone (fun _ _ _ ↦ rfl) _ inputs s []
  refine ⟨e, he, ?_⟩
  have hend := (ensures_connectSecure frames s).runAlone he
  constructor
  -- Bodies that are right lead to a session, and then the headers are claimed to be.
  · rintro ⟨hgenuine, -⟩ secret first second hx hb
    rcases hend with ⟨hinst, -⟩ | ⟨-, -, -, hnot⟩
    · obtain ⟨_, _, _, hx', ha⟩ := hgenuine hinst
      obtain ⟨rfl, rfl, rfl⟩ := hx'.unique hx
      exact ((authentic_iff P security).mp ha).2
    · exact absurd hb (hnot secret first second hx)
  · intro hframed
    rcases hend with ⟨-, secret, first, second, hx, hb⟩ | ⟨hinst, herr, hkept, -⟩
    · have hg : Genuine P security e.history :=
        ⟨secret, first, second, hx, (authentic_iff P security).mpr ⟨hb, hframed _ _ _ hx hb⟩⟩
      exact ⟨fun _ ↦ hg, fun hn ↦ absurd hg hn⟩
    · exact ⟨fun hi ↦ absurd hi hinst, fun _ ↦ ⟨herr, hinst, hkept⟩⟩

end

namespace Reference

open Security.Reference (primitives clientSecret serverSecret server)

def security : SecurityConfig := ⟨"gateway", some "secret"⟩

def sessionResponse : List UInt8 :=
  match server.deviceMac primitives ⟨serverSecret⟩ (primitives.x25519Public clientSecret) 1 with
  | .ok mac =>
    (KnxIpFrame.new .sessionResponse
      (u16Bytes 1 ++ (primitives.x25519Public serverSecret).val ++ mac)).serialize
  | _ => []

def sessionStatus : List UInt8 := (KnxIpFrame.new .sessionStatus [0x00, 0x00]).serialize

def heartbeatAnswer : List UInt8 :=
  (KnxIpFrame.new .connectionstateResponse [0x01, 0x00]).serialize

/-- The device answers the SessionRequest, the given frame follows the
SessionAuthenticate, and then the transport is closed. -/
def inputs (second : List UInt8) : ℕ → Env
  | 1 => { secret := clientSecret }
  | 3 => { frame := .ok sessionResponse }
  | 5 => { frame := .ok second }
  | _ => {}

def connected (second : List UInt8) :
    Option (Ending Command Command.Response State KnxError Unit) :=
  (connectSecure tunnel primitives security 0).runAlone (exec primitives tunnel) (inputs second)
    .built []

def isInstallation : (c : Command) × c.Response → Bool
  | ⟨.installSession _, _⟩ => true
  | _ => false

theorem connected_heartbeatAnswer :
    (connected heartbeatAnswer).map (fun e ↦ (contributions e.history, e.history.any isInstallation)) =
      some ([.inl clientSecret, .inr sessionResponse, .inr heartbeatAnswer], true) := by
  decide +kernel

theorem connected_sessionStatus :
    (connected sessionStatus).map (fun e ↦ (contributions e.history, e.history.any isInstallation)) =
      some ([.inl clientSecret, .inr sessionResponse, .inr sessionStatus], true) := by
  decide +kernel

theorem framed_sessionResponse : Framed .sessionResponse 50 sessionResponse := by
  decide +kernel

end Reference

theorem installed_of_any {h : Past} (hi : h.any Reference.isInstallation = true) : Installed h := by
  obtain ⟨⟨c, r⟩, he, hc⟩ := List.any_eq_true.mp hi
  cases c with
  | installSession session => exact ⟨session, he⟩
  | _ => cases hc

open Reference in
theorem admitsOnlyGenuine_sessionStatus :
    ∃ e, connected sessionStatus = some e ∧ Installed e.history ∧
      AdmitsOnlyGenuine Security.Reference.primitives security .built e := by
  obtain ⟨e', he', hrun⟩ := Option.map_eq_some_iff.mp connected_sessionStatus
  obtain ⟨e, he, hadmits⟩ := admitsOnlyGenuine_iff Security.Reference.primitives security tunnel 0
    (inputs sessionStatus) .built
  obtain rfl : e' = e := Option.some.inj (he'.symm.trans he)
  obtain ⟨htaken, hinst⟩ := Prod.mk.inj hrun
  refine ⟨e', he, installed_of_any hinst, hadmits.mpr fun secret first second hx _ ↦ ?_⟩
  rw [Exchange, htaken] at hx
  obtain ⟨-, rfl, rfl⟩ : secret = _ ∧ first = sessionResponse ∧ second = sessionStatus := by
    simpa using hx.eq_of_length rfl
  exact ⟨framed_sessionResponse, by decide⟩

open Reference in
/-- The answer to a heartbeat is taken for a SessionStatus that reports success. -/
theorem heartbeat_answer_taken_for_status :
    ∃ e, connected heartbeatAnswer = some e ∧ Installed e.history ∧
      ¬ AdmitsOnlyGenuine Security.Reference.primitives security .built e := by
  obtain ⟨e, he, hrun⟩ := Option.map_eq_some_iff.mp connected_heartbeatAnswer
  obtain ⟨htaken, hinst⟩ := Prod.mk.inj hrun
  have hinst := installed_of_any hinst
  refine ⟨e, he, hinst, fun hadmits ↦ ?_⟩
  obtain ⟨secret, first, second, hx, -, frame, status, hf, ht, -⟩ := hadmits.1 hinst
  rw [Exchange, htaken] at hx
  obtain ⟨-, -, rfl⟩ : secret = _ ∧ first = _ ∧ second = heartbeatAnswer := by
    simpa using hx.eq_of_length rfl
  have hservice : KnxIpFrame.serviceTypeOf heartbeatAnswer = some .connectionstateResponse := by
    decide
  simp [KnxIpFrame.serviceTypeOf, hf, ht] at hservice

end Knust.Transport.Client
