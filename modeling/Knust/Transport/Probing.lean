import Knust.Security.Robustness
import Knust.Transport.ChannelCounters

namespace Knust.Transport.Client

open Foundation Foundation.Task Protocol Security

def heard : History Command Command.Response → List (List UInt8)
  | [] => []
  | ⟨.decryptFrame raw, none⟩ :: h => raw :: heard h
  | ⟨.decryptFrame _, some (.ok data)⟩ :: h => data :: heard h
  | _ :: h => heard h

def requests : History Command Command.Response → ℕ
  | [] => 0
  | ⟨.nextSequence, _⟩ :: h => requests h + 1
  | _ :: h => requests h

def questions : History Command Command.Response → ℕ
  | [] => 0
  | ⟨.isAvailable _, _⟩ :: h => questions h + 1
  | _ :: h => questions h

def carried (data : List UInt8) : Option CemiFrame :=
  match requestOf data with
  | none => none
  | some request =>
    match parseProbeCemi request.rawCemi with
    | .ok cemi => some cemi
    | _ => none

def Signals (data : List UInt8) : Prop :=
  ∃ cemi, carried data = some cemi ∧ classifyCemi cemi = .occupied

instance (data : List UInt8) : Decidable (Signals data) :=
  decidable_of_iff ((carried data).any fun cemi ↦ classifyCemi cemi = .occupied) <| by
    simp [Signals, Option.any_eq_true]

/-- The frame is an indication by which the device with the address shows itself. -/
def Answers (addr : IndividualAddress) (data : List UInt8) : Prop :=
  ∃ cemi, carried data = some cemi ∧ cemi.messageCode = .lDataInd ∧ cemi.sourceAddr = addr ∧
    -- A device descriptor response or a `T_Disconnect`.
    ((cemi.tpci &&& 0x03 = 0x03 ∧ ∃ b ∈ cemi.apciData.head?, b &&& 0xC0 = 0x40) ∨
      TpciFrame.decode cemi.tpci = .disconnect)

/-- A candidate that was available, with what happened until the next one was looked at. -/
structure Probe where
  addr : IndividualAddress
  events : History Command Command.Response

def attach (event : (c : Command) × c.Response) : List Probe → List Probe
  | [] => []
  | p :: rest => ⟨p.addr, event :: p.events⟩ :: rest

def probes : History Command Command.Response → List Probe
  | [] => []
  | ⟨.isAvailable addr, true⟩ :: h => ⟨addr, []⟩ :: probes h
  | ⟨.isAvailable _, false⟩ :: h => probes h
  | event :: h => attach event (probes h)

abbrev Answered (addr : IndividualAddress) (h : History Command Command.Response) : Prop :=
  ∃ data ∈ heard h, Answers addr data

def Undisturbed (addr : IndividualAddress) (h : History Command Command.Response) : Prop :=
  ∀ data ∈ heard h, Signals data → Answers addr data

theorem classifyCemi_eq_occupied_iff (cemi : CemiFrame) : classifyCemi cemi = .occupied ↔
    (cemi.tpci &&& 0x03 = 0x03 ∧ ∃ b ∈ cemi.apciData.head?, b &&& 0xC0 = 0x40) ∨
      TpciFrame.decode cemi.tpci = .disconnect := by
  unfold classifyCemi
  split
  next h => simpa [Option.any_eq_true] using Or.inl h
  next h =>
    rw [Option.any_eq_true] at h
    simp only [decide_eq_true_eq] at h
    split
    next hdisconnect => simp [hdisconnect]
    next hother => simp [hother, h]

theorem Answers.signals {addr : IndividualAddress} {data : List UInt8} (h : Answers addr data) :
    Signals data := by
  obtain ⟨cemi, hcarried, -, -, hsignal⟩ := h
  exact ⟨cemi, hcarried, (classifyCemi_eq_occupied_iff cemi).mpr hsignal⟩

def Command.isSilent : Command → Bool
  | .decryptFrame .. | .nextSequence | .isAvailable .. => false
  | _ => true

variable {P : Primitives} {tunnel : Tunnel} {s : State} {h : Past} {frames : List (List UInt8)}
  {count : ℕ}

structure Progress (frames : List (List UInt8)) (count : ℕ)
    (h : History Command Command.Response) : Prop where
  heard_eq : heard h = frames
  requests_eq : requests h = count
  unasked : questions h = 0

theorem Progress.silent {c : Command} (hc : c.isSilent = true) (r : c.Response)
    (hh : Progress frames count h) : Progress frames count (⟨c, r⟩ :: h) := by
  cases c
  case decryptFrame | nextSequence | isAvailable => cases hc
  all_goals exact ⟨hh.heard_eq, hh.requests_eq, hh.unasked⟩

theorem Progress.hear {data raw : List UInt8} {r : Option (Result (List UInt8))}
    (hr : r = none ∧ data = raw ∨ r = some (.ok data)) (hh : Progress frames count h) :
    Progress (data :: frames) count (⟨.decryptFrame raw, r⟩ :: h) := by
  rcases hr with ⟨rfl, rfl⟩ | rfl
  · exact ⟨congrArg (_ :: ·) hh.heard_eq, hh.requests_eq, hh.unasked⟩
  · exact ⟨congrArg (_ :: ·) hh.heard_eq, hh.requests_eq, hh.unasked⟩

theorem Progress.mishear {raw : List UInt8} {r : Result (List UInt8)} (hr : ∀ data, r ≠ .ok data)
    (hh : Progress frames count h) :
    Progress frames count (⟨.decryptFrame raw, some r⟩ :: h) := by
  cases r with
  | ok data => exact absurd rfl (hr data)
  | err e => exact ⟨hh.heard_eq, hh.requests_eq, hh.unasked⟩
  | panic => exact ⟨hh.heard_eq, hh.requests_eq, hh.unasked⟩

theorem ensures_wrapCemi (hh : Progress frames count h) (rawCemi : List UInt8) :
    (wrapCemi rawCemi).Ensures (exec P tunnel) (fun _ h' r ↦
      Progress frames (count + 1) h' ∧ ∃ frame, r = .ok frame) s h := by
  intro i₁ channelId s₁ _ i₂ sequence s₂ _
  exact ⟨⟨hh.heard_eq, congrArg (· + 1) hh.requests_eq, hh.unasked⟩, _, rfl⟩

theorem encrypted_ne_panic {frame : List UInt8} {i : Env} {s' : State}
    {r : Option (Result (List UInt8))}
    (hr : exec P tunnel (.encryptFrame frame) i s = some (r, s')) : r ≠ some .panic := by
  simp only [exec, respond, State.withSession] at hr
  split at hr
  · cases hr
    intro hpanic
    exact SecureSession.encryptFrame_ne_panic P _ frame (Option.some.inj hpanic)
  · cases hr
    simp

theorem written_ne_panic {frame : List UInt8} {i : Env} {s' : State} {r : Result Unit}
    (hr : exec P tunnel (.write frame) i s = some (r, s')) : r ≠ .panic := by
  cases hr
  unfold writeResult
  split
  · exact Outcome.ok_ne_panic _
  · exact Outcome.err_ne_panic _

theorem ensures_sendFrame (hh : Progress frames count h) (frame : List UInt8) :
    (sendFrame frame).Ensures (exec P tunnel) (fun _ h' r ↦
      Progress frames count h' ∧ r ≠ .panic) s h := by
  have hsent : (do
      if ← Client.perform (.transport .sendFrame) then do
        let data ← encode frame
        .done (← Client.perform (.write data))
      else .done (.err connectionClosed) : Handler Unit).Ensures (exec P tunnel)
      (fun _ h' r ↦ Progress frames count h' ∧ r ≠ .panic) s h := by
    intro i₁ found s₁ _
    have hfound := hh.silent (c := .transport .sendFrame) rfl found
    cases found with
    | false => exact ⟨hfound, Outcome.err_ne_panic _⟩
    | true =>
      intro i₂ encrypted s₂ hencrypted
      have hencoded := hfound.silent (c := .encryptFrame frame) rfl encrypted
      cases encrypted with
      | none => exact fun i₃ r s₃ hr ↦ ⟨hencoded.silent rfl r, written_ne_panic hr⟩
      | some result =>
        cases result with
        | ok data => exact fun i₃ r s₃ hr ↦ ⟨hencoded.silent rfl r, written_ne_panic hr⟩
        | err e => exact ⟨hencoded, Outcome.err_ne_panic _⟩
        | panic => exact absurd rfl (encrypted_ne_panic hencrypted)
  refine hsent.attempt_ok.bind ?_ (by simp) (by simp)
  intro s₁ h₁ result hq
  cases result with
  | ok _ => exact fun i r s₂ _ ↦ ⟨hq.1.silent rfl r, Outcome.ok_ne_panic _⟩
  | error e => exact fun i r s₂ _ ↦ ⟨hq.1.silent rfl r, Outcome.err_ne_panic _⟩

def Progress.After (frames : List (List UInt8)) (count : ℕ) (h : History Command Command.Response) :
    Result (Option (List UInt8)) → Prop
  | .ok (some data) => Progress (data :: frames) count h
  | _ => Progress frames count h

theorem ensures_received (raw : Except KnxError (List UInt8)) (s : State)
    (hh : Progress frames count h) :
    (received raw).Ensures (exec P tunnel) (fun _ h' r ↦
      Progress.After frames count h' (do .ok (some (← r)))) s h := by
  cases raw with
  | error e => exact fun i r s₁ _ ↦ hh.silent rfl r
  | ok raw =>
    intro i₁ decrypted s₁ _
    cases decrypted with
    | none => exact fun i r s₂ _ ↦ (hh.hear (.inl ⟨rfl, rfl⟩)).silent rfl r
    | some result =>
      cases result with
      | ok data => exact fun i r s₂ _ ↦ (hh.hear (.inr rfl)).silent rfl r
      | err e => exact fun i r s₂ _ ↦ (hh.mishear (by simp)).silent rfl r
      | panic => exact hh.mishear (by simp)

theorem ensures_recvFrameWithin (hh : Progress frames count h) (timeoutMs : ℕ) :
    (recvFrameWithin timeoutMs).Ensures (exec P tunnel) (fun _ h' r ↦
      Progress.After frames count h' r) s h := by
  have hsome (raw : Except KnxError (List UInt8)) (s : State)
      {h : Past} (hh : Progress frames count h) :
      (do
        let data ← received raw
        pure (some data) : Handler (Option (List UInt8))).Ensures (exec P tunnel) (fun _ h' r ↦
        Progress.After frames count h' r) s h :=
    (ensures_received raw s hh).bind (fun _ _ _ hq ↦ hq) (fun _ _ _ hq ↦ hq) (fun _ _ hq ↦ hq)
  intro i₁ established s₁ _
  cases established with
  | false => exact hsome _ s₁ (hh.silent rfl _)
  | true =>
    intro i₂ arrived s₂ _
    cases arrived with
    | none => exact (hh.silent rfl _).silent rfl _
    | some raw => exact hsome raw s₂ ((hh.silent rfl _).silent rfl _)

theorem ensures_acknowledgeProbe (hh : Progress frames count h) (request : TunnellingRequest) :
    (acknowledgeProbe tunnel request).Ensures (exec P tunnel) (fun _ h' r ↦
      Progress frames count h' ∧ r = .ok ()) s h := by
  unfold acknowledgeProbe
  split
  swap
  · exact ⟨hh, rfl⟩
  have hsent : (sendTunnellingAck request.communicationChannelId request.sequenceCounter
      0).Ensures (exec P tunnel) (fun _ h' r ↦ Progress frames count h' ∧ r ≠ .panic) s h := by
    intro i₁ established s₁ _
    cases established with
    | false => exact ⟨hh.silent rfl _, Outcome.err_ne_panic _⟩
    | true =>
      exact fun i₂ r s₂ hr ↦ ⟨(hh.silent rfl _).silent rfl r, written_ne_panic hr⟩
  exact hsent.attempt_ok.bind (fun _ _ _ hq ↦ ⟨hq.1, rfl⟩) (by simp) (by simp)

theorem ensures_probeFrame (hh : Progress frames count h) (data : List UInt8) :
    (probeFrame tunnel data).Ensures (exec P tunnel) (fun _ h' r ↦
      Progress frames count h' ∧ (r = .ok true ↔ Signals data)) s h := by
  have hother {r : Result Bool} (hr : r ≠ .ok true) (hdata : carried data = none) :
      r = .ok true ↔ Signals data := by
    refine iff_of_false hr ?_
    rintro ⟨cemi, hcemi, -⟩
    rw [hdata] at hcemi
    cases hcemi
  unfold probeFrame
  cases hparse : KnxIpFrame.parse data with
  | panic => exact ⟨hh, hother (by simp) (by simp [carried, requestOf, hparse])⟩
  | err e => exact ⟨hh, hother (by simp) (by simp [carried, requestOf, hparse])⟩
  | ok frame =>
    by_cases htype : frame.header.serviceType = .tunnellingRequest
    swap
    · simp only [ne_eq, htype, not_false_eq_true, if_true]
      exact ⟨hh, hother (by simp) (by simp [carried, requestOf, hparse, htype])⟩
    simp only [ne_eq, htype, not_true_eq_false, if_false]
    cases hrequest : TunnellingRequest.parse frame.body with
    | panic => exact ⟨hh, hother (by simp) (by simp [carried, requestOf, hparse, htype, hrequest])⟩
    | err e => exact ⟨hh, hother (by simp) (by simp [carried, requestOf, hparse, htype, hrequest])⟩
    | ok request =>
      have hdata : requestOf data = some request := by simp [requestOf, hparse, htype, hrequest]
      refine (ensures_acknowledgeProbe hh request).bind ?_ (by simp) (by simp)
      intro s₁ h₁ _ hq
      cases hcemi : parseProbeCemi request.rawCemi with
      | panic => exact ⟨hq.1, hother (by simp) (by simp [carried, hdata, hcemi])⟩
      | err e => exact ⟨hq.1, hother (by simp) (by simp [carried, hdata, hcemi])⟩
      | ok cemi =>
        have hcarried : carried data = some cemi := by simp [carried, hdata, hcemi]
        refine ⟨hq.1, ?_⟩
        simp [Signals, hcarried]

/-- Whether a probe has heard a signal, which is then the last thing it heard. -/
inductive Signalled : List (List UInt8) → Bool → Prop
  | no {frames : List (List UInt8)} (h : ∀ data ∈ frames, ¬ Signals data) : Signalled frames false
  | yes {frames : List (List UInt8)} {data : List UInt8} (hdata : Signals data)
    (h : ∀ data ∈ frames, ¬ Signals data) : Signalled (data :: frames) true

theorem Signalled.cons {data : List UInt8} (hdata : ¬ Signals data)
    (h : ∀ data ∈ frames, ¬ Signals data) : ∀ data' ∈ data :: frames, ¬ Signals data' := by
  intro data' hmem
  rcases List.mem_cons.mp hmem with rfl | hmem
  · exact hdata
  · exact h data' hmem

theorem ensures_recvUntilSignal (fuel : ℕ) (hh : Progress frames count h)
    (hquiet : ∀ data ∈ frames, ¬ Signals data) :
    (recvUntilSignal tunnel fuel).Ensures (exec P tunnel) (fun _ h' r ↦
      ∃ frames', Progress frames' count h' ∧ Signalled frames' (r = .ok true)) s h := by
  induction fuel generalizing s h frames with
  | zero => exact ⟨frames, hh, .no hquiet⟩
  | succ fuel ih =>
    refine (ensures_recvFrameWithin hh probeTimeoutMs).bind ?_ ?_ ?_
    · intro s₁ h₁ received hq
      cases received with
      | none => exact ⟨frames, hq, .no hquiet⟩
      | some data =>
        refine (ensures_probeFrame hq data).bind ?_ ?_ ?_
        · intro s₂ h₂ occupied hq'
          obtain ⟨hprogress, hsignal⟩ := hq'
          cases occupied with
          | true => exact ⟨_, hprogress, .yes (hsignal.mp rfl) hquiet⟩
          | false => exact ih hprogress (Signalled.cons (by simp [← hsignal]) hquiet)
        · intro s₂ h₂ e hq'
          exact ⟨_, hq'.1, .no (Signalled.cons (by simp [← hq'.2]) hquiet)⟩
        · intro s₂ h₂ hq'
          exact ⟨_, hq'.1, .no (Signalled.cons (by simp [← hq'.2]) hquiet)⟩
    · exact fun _ _ _ hq ↦ ⟨frames, hq, .no hquiet⟩
    · exact fun _ _ hq ↦ ⟨frames, hq, .no hquiet⟩

inductive Verdict (h : History Command Command.Response) : Result Bool → Prop
  | reached (occupied : Bool) (hrequests : requests h = 3)
    (hheard : Signalled (heard h) occupied) : Verdict h (.ok occupied)
  | failed {r : Result Bool} (hr : ∀ occupied, r ≠ .ok occupied) (hrequests : requests h < 3)
    (hheard : Signalled (heard h) false) : Verdict h r

theorem Verdict.of_progress (hh : Progress frames count h) (hcount : count < 3)
    (hframes : Signalled frames false) {r : Result Bool} (hr : ∀ occupied, r ≠ .ok occupied) :
    Verdict h r :=
  .failed hr (hh.requests_eq ▸ hcount) (hh.heard_eq ▸ hframes)

theorem ensures_probeAddress (fuel : ℕ) (addr : IndividualAddress) :
    (probeAddress tunnel fuel addr).Ensures (exec P tunnel) (fun _ h' r ↦
      questions h' = 0 ∧ Verdict h' r) s [] := by
  have hstart : Progress [] 0 [] := ⟨rfl, rfl, rfl⟩
  refine (ensures_wrapCemi hstart _).bind ?_ (by simp) (by simp)
  intro s₁ h₁ connect hq₁
  refine (ensures_sendFrame hq₁.1 _).bind ?_ ?_ (fun _ _ hq ↦ absurd rfl hq.2)
  swap
  · exact fun _ _ _ hq ↦ ⟨hq.1.unasked, .of_progress hq.1 (by decide) (.no (by simp)) (by simp)⟩
  intro s₂ h₂ _ hq₂
  refine (ensures_wrapCemi hq₂.1 _).bind ?_ (by simp) (by simp)
  intro s₃ h₃ read hq₃
  refine (ensures_sendFrame hq₃.1 _).bind ?_ ?_ (fun _ _ hq ↦ absurd rfl hq.2)
  swap
  · exact fun _ _ _ hq ↦ ⟨hq.1.unasked, .of_progress hq.1 (by decide) (.no (by simp)) (by simp)⟩
  intro s₄ h₄ _ hq₄
  refine (ensures_recvUntilSignal fuel hq₄.1 (by simp)).bind ?_ ?_ ?_
  · intro s₅ h₅ occupied hq₅
    obtain ⟨frames, hprogress, hsignalled⟩ := hq₅
    refine (ensures_wrapCemi hprogress _).bind ?_ (by simp) (by simp)
    intro s₆ h₆ disconnect hq₆
    -- A failure of the last request is ignored.
    refine (ensures_sendFrame hq₆.1 _).attempt_ok.bind ?_ (by simp) (by simp)
    intro s₇ h₇ _ hq₇
    refine ⟨hq₇.1.unasked, .reached occupied hq₇.1.requests_eq ?_⟩
    rw [hq₇.1.heard_eq]
    simpa using hsignalled
  · intro s₅ h₅ e hq₅
    obtain ⟨frames, hprogress, hsignalled⟩ := hq₅
    exact ⟨hprogress.unasked, .of_progress hprogress (by decide) (by simpa using hsignalled)
      (by simp)⟩
  · intro s₅ h₅ hq₅
    obtain ⟨frames, hprogress, hsignalled⟩ := hq₅
    exact ⟨hprogress.unasked, .of_progress hprogress (by decide) (by simpa using hsignalled)
      (by simp)⟩

theorem probes_append {new : Past} (hnew : questions new = 0) (addr : IndividualAddress) :
    probes (new ++ ⟨.isAvailable addr, true⟩ :: h) = ⟨addr, new⟩ :: probes h := by
  induction new with
  | nil => rfl
  | cons event new ih =>
    obtain ⟨c, r⟩ := event
    cases c
    case isAvailable => exact absurd hnew (Nat.succ_ne_zero _)
    all_goals exact congrArg (attach ⟨_, r⟩) (ih hnew)

/-- What one probe has to do with the outcome of a selection: its address was passed over,
chosen, or the probe failed. -/
inductive Probed (p : Probe) (r : Result IndividualAddress) : Prop
  | skipped (hv : Verdict p.events (.ok true)) (hr : r ≠ .ok p.addr)
  | chosen (hv : Verdict p.events (.ok false)) (hr : r = .ok p.addr)
  | failed (hv : requests p.events < 3) (hheard : Signalled (heard p.events) false)

variable {addr : IndividualAddress}

theorem Probed.of_failure {e : Result Bool} {r : Result IndividualAddress} (hv : Verdict h e)
    (he : ∀ occupied, e ≠ .ok occupied) : Probed ⟨addr, h⟩ r := by
  cases hv with
  | reached occupied => exact absurd rfl (he occupied)
  | failed _ hrequests hheard => exact .failed hrequests hheard

theorem ensures_selectFrom (fuel : ℕ) (area line : UInt8) (addrs : List IndividualAddress)
    (probedCount : ℕ) (hnodup : addrs.Nodup)
    (hpast : ∀ p ∈ probes h, Verdict p.events (.ok true) ∧ p.addr ∉ addrs) :
    (selectFrom tunnel fuel area line addrs probedCount).Ensures (exec P tunnel)
      (fun _ h' r ↦ ∀ p ∈ probes h', Probed p r) s h := by
  induction addrs generalizing s h probedCount with
  | nil => exact fun p hp ↦ .skipped (hpast p hp).1 (by simp)
  | cons addr rest ih =>
    obtain ⟨haddr, hrest⟩ := List.nodup_cons.mp hnodup
    have hlater {p : Probe} (hp : p ∈ probes h) : p.addr ∉ rest :=
      fun hmem ↦ (hpast p hp).2 (List.mem_cons_of_mem addr hmem)
    intro i₁ available s₁ _
    cases available with
    | false => exact ih probedCount hrest fun p hp ↦ ⟨(hpast p hp).1, hlater hp⟩
    | true =>
      refine ((ensures_probeAddress fuel addr).after _).bind ?_ ?_ ?_
      · intro s₂ h₂ occupied hq
        obtain ⟨new, rfl, hquestions, hverdict⟩ := hq
        rw [List.append_nil] at hquestions hverdict
        have hprobes := probes_append (h := h) hquestions addr
        cases occupied with
        | true =>
          apply ih (probedCount + 1) hrest
          intro p hp
          rw [hprobes] at hp
          rcases List.mem_cons.mp hp with rfl | hp
          · exact ⟨hverdict, haddr⟩
          · exact ⟨(hpast p hp).1, hlater hp⟩
        | false =>
          intro p hp
          rw [hprobes] at hp
          rcases List.mem_cons.mp hp with rfl | hp
          · exact .chosen hverdict rfl
          · refine .skipped (hpast p hp).1 fun heq ↦ (hpast p hp).2 ?_
            cases heq
            exact List.mem_cons_self
      · intro s₂ h₂ e hq p hp
        obtain ⟨new, rfl, hquestions, hverdict⟩ := hq
        rw [List.append_nil] at hquestions hverdict
        rw [probes_append hquestions addr] at hp
        rcases List.mem_cons.mp hp with rfl | hp
        · exact .of_failure hverdict (by simp)
        · exact .skipped (hpast p hp).1 (by simp)
      · intro s₂ h₂ hq p hp
        obtain ⟨new, rfl, hquestions, hverdict⟩ := hq
        rw [List.append_nil] at hquestions hverdict
        rw [probes_append hquestions addr] at hp
        rcases List.mem_cons.mp hp with rfl | hp
        · exact .of_failure hverdict (by simp)
        · exact .skipped (hpast p hp).1 (by simp)

theorem answered_iff_undisturbed (hheard : Signalled (heard h) true) :
    Answered addr h ↔ Undisturbed addr h := by
  rw [Answered, Undisturbed]
  generalize heard h = frames at hheard
  cases hheard with
  | @yes frames last hdata hquiet =>
    have hlast {data : List UInt8} (hmem : data ∈ last :: frames) (hsignal : Signals data) :
        data = last := (List.mem_cons.mp hmem).resolve_right fun h ↦ hquiet data h hsignal
    constructor
    · intro hanswered data hmem hsignal
      obtain ⟨answer, hanswer, hanswers⟩ := hanswered
      rwa [hlast hmem hsignal, ← hlast hanswer hanswers.signals]
    · exact fun hundisturbed ↦ ⟨_, List.mem_cons_self, hundisturbed _ List.mem_cons_self hdata⟩

theorem undisturbed_of_quiet (hheard : Signalled (heard h) false) : Undisturbed addr h := by
  rw [Undisturbed]
  generalize heard h = frames at hheard
  cases hheard with
  | no hquiet => exact fun data hmem hsignal ↦ absurd hsignal (hquiet data hmem)

theorem device_new (area line device : UInt8) :
    (IndividualAddress.new area line device).device = device := by
  have hbits : ∀ b : UInt8, (b.toUInt16 <<< 12) &&& 0xFF = 0 ∧ (b.toUInt16 <<< 8) &&& 0xFF = 0 ∧
      (b.toUInt16 &&& 0xFF).toUInt8 = b := by
    decide +kernel
  have hdistrib (x y m : UInt16) : (x ||| y) &&& m = (x &&& m) ||| (y &&& m) :=
    UInt16.toBitVec_inj.mp BitVec.and_or_distrib_right
  rw [IndividualAddress.new, IndividualAddress.device, hdistrib, hdistrib, (hbits area).1,
    (hbits line).2.1, UInt16.or_self, UInt16.zero_or, (hbits device).2.2]

theorem nodup_candidateAddresses (area line : UInt8) : (candidateAddresses area line).Nodup := by
  apply List.Nodup.map_on _ (List.nodup_range' 1)
  intro m hm n hn heq
  have hdevice := congrArg (fun a : IndividualAddress ↦ a.device.toNat) heq
  simp only [device_new, UInt8.toNat_ofNat'] at hdevice
  rw [List.mem_range'_1] at hm hn
  omega

def Truthful (addr : IndividualAddress)
    (e : Ending Command Command.Response State KnxError Bool) : Prop :=
  e.outcome = .ok true → Answered addr e.history

/-- A candidate whose probe was brought to its end, with the third request, and that was not
chosen has answered. -/
def Attentive (e : Ending Command Command.Response State KnxError IndividualAddress) : Prop :=
  ∀ p ∈ probes e.history, requests p.events = 3 → e.outcome ≠ .ok p.addr → Answered p.addr p.events

/-- Probes go wrong exactly when they hear signals that are no answers. -/
theorem occupied_only_if_answered_iff (P : Primitives) (tunnel : Tunnel) (fuel : ℕ)
    (inputs : ℕ → Env) (s : State) :
    (∀ addr, ∃ e, (probeAddress tunnel fuel addr).runAlone (exec P tunnel) inputs s [] = some e ∧
      (Truthful addr e ↔ Undisturbed addr e.history)) ∧
    ∀ area line, ∃ e,
      (autoSelectAddress tunnel fuel area line).runAlone (exec P tunnel) inputs s [] = some e ∧
        (Attentive e ↔ ∀ p ∈ probes e.history, Undisturbed p.addr p.events) := by
  have htotal (c : Command) (i : Env) (s : State) : (exec P tunnel c i s).isSome = true := rfl
  constructor
  · intro addr
    obtain ⟨e, he, -, hverdict⟩ :=
      ((ensures_probeAddress fuel addr).attains htotal).exists_runAlone inputs
    refine ⟨e, he, ?_⟩
    rw [Truthful]
    generalize e.outcome = r at hverdict
    cases hverdict with
    | reached occupied _ hheard =>
      cases occupied with
      | true => rw [← answered_iff_undisturbed hheard]; simp
      | false => simp [undisturbed_of_quiet hheard]
    | failed hr _ hheard => simp [hr, undisturbed_of_quiet hheard]
  · intro area line
    obtain ⟨e, he, hprobed⟩ := ((ensures_selectFrom (s := s) fuel area line _ 0
      (nodup_candidateAddresses area line) (h := []) (by simp [probes])).attains
        htotal).exists_runAlone inputs
    refine ⟨e, he, forall₂_congr fun p hp ↦ ?_⟩
    cases hprobed p hp with
    | skipped hv hr =>
      cases hv with
      | reached _ hrequests hheard => simp [hrequests, hr, answered_iff_undisturbed hheard]
      | failed h => exact absurd rfl (h true)
    | chosen hv hr =>
      cases hv with
      | reached _ _ hheard => simp [hr, undisturbed_of_quiet hheard]
      | failed h => exact absurd rfl (h false)
    | failed hrequests hheard =>
      simp [hrequests.ne, undisturbed_of_quiet hheard]

namespace Reference

def confirmation : List UInt8 :=
  [0x06, 0x10, 0x04, 0x20, 0x00, 0x14, 0x04, 0x01, 0x00, 0x00,
    0x2E, 0x00, 0xB4, 0x60, 0x00, 0x00, 0x00, 0xF0, 0x00, 0x81]

end Reference

/-- A late confirmation makes a silent address seem occupied. -/
theorem confirmation_taken_for_answer :
    ((probeAddress Reference.tunnel 1 (.new 0 0 241)).runAlone
        (exec Reference.primitives Reference.tunnel)
        (fun _ ↦ { frame := .ok Reference.confirmation }) { State.built with transport := true }
        []).map (fun e ↦ (e.outcome, heard e.history)) =
      some (.ok true, [Reference.confirmation]) ∧
    ¬ Answers (.new 0 0 241) Reference.confirmation := by
  constructor
  · decide +kernel
  · intro hanswers
    obtain ⟨cemi, hcarried, hcode, -⟩ := hanswers
    have hcon : (carried Reference.confirmation).map CemiFrame.messageCode = some .lDataCon := by
      decide +kernel
    rw [hcarried, Option.map_some, hcode] at hcon
    cases hcon

end Knust.Transport.Client
