import Knust.Application.Bus
import Knust.Foundation.Sequential

namespace Knust.Application.Bus

open Foundation Foundation.Task Protocol

abbrev Step := Record Command Command.Response State

section

variable (arrived : List (List UInt8))

def Heard (telegram : Telegram) : Prop :=
  ∃ now, ∃ cemiData ∈ arrived, parseCemiToTelegram now cemiData = .ok telegram

def Completes (address : GroupAddress) (payload : List UInt8) : Prop :=
  ∃ telegram, Heard arrived telegram ∧ telegram.destination = .group address ∧
    telegram.payload = payload ∧ payload ≠ []

def readRegistered (address : GroupAddress) (handle : ℕ) : (c : Command) × c.Response :=
  ⟨.registerTelegramCallback (.groupValueRead address) .all false, handle⟩

def busRule (h : History Command Command.Response) : Command → Prop
  | .enqueueIncoming telegram => Heard arrived telegram
  | .notifyTelegramReceived telegram => ⟨.dequeueIncoming, some telegram⟩ ∈ h
  | .recvWithin handle _ => ∃ address, readRegistered address handle ∈ h
  | .deliver address payload => ∃ handle timeoutMs, readRegistered address handle ∈ h ∧
      ⟨.recvWithin handle timeoutMs, some payload⟩ ∈ h
  | _ => True

theorem follows_receivingTask {arriving : List (List UInt8)}
    (harriving : ∀ cemiData ∈ arriving, cemiData ∈ arrived) :
    (receivingTask arriving).Follows (busRule arrived) := by
  induction arriving with
  | nil => exact .done _
  | cons cemiData arriving ih =>
    refine .bind (.attempt (.bind (.perform fun _ ↦ trivial) fun now h ↦ ?_)) fun _ ↦
      ih fun c hc ↦ harriving c (List.mem_cons_of_mem _ hc)
    refine Obeys.done_bind fun telegram htelegram ↦ ⟨?_, fun _ ↦ trivial⟩
    exact ⟨now, cemiData, harriving cemiData List.mem_cons_self, htelegram⟩

theorem obeys_processTelegram {telegram : Telegram} {h : Past}
    (hh : ⟨.dequeueIncoming, some telegram⟩ ∈ h) :
    (processTelegram telegram).Obeys (busRule arrived) (fun _ _ ↦ True) h := by
  have hnotify : ∀ h' : Past,
      ⟨.dequeueIncoming, some telegram⟩ ∈ h' →
      (Bus.perform (.notifyTelegramReceived telegram)).Obeys (busRule arrived)
        (fun _ _ ↦ True) h' := fun h' hh' ↦ ⟨hh', fun _ ↦ trivial⟩
  unfold processTelegram recordGroupValueIfPresent
  split
  · split
    · exact ⟨trivial, fun _ ↦ hnotify _ (List.mem_cons_of_mem _ hh)⟩
    · exact hnotify _ hh
  · exact hnotify _ hh

theorem follows_processingTask (telegrams : ℕ) :
    (processingTask telegrams).Follows (busRule arrived) := by
  induction telegrams with
  | zero => exact .done _
  | succ telegrams ih =>
    refine .bind (.perform fun _ ↦ trivial) fun drained ↦ ?_
    cases drained with
    | true => exact .done _
    | false =>
      refine fun h ↦ ⟨trivial, fun telegram ↦ ?_⟩
      cases telegram with
      | none => trivial
      | some telegram =>
        exact (obeys_processTelegram arrived List.mem_cons_self).bind_true fun h _ _ ↦ ih h

theorem obeys_program (individualAddress : IndividualAddress) (activity : Activity) :
    (program individualAddress activity).Obeys (busRule arrived) (fun _ _ ↦ True) [] := by
  cases activity with
  | register filter includeOutgoing => exact ⟨trivial, fun _ ↦ trivial⟩
  | unregister handle => exact ⟨trivial, fun _ ↦ trivial⟩
  | read address timeoutMs =>
    refine ⟨trivial, fun handle ↦ ⟨trivial, fun now ↦ ⟨trivial, fun sent ↦ ?_⟩⟩⟩
    cases sent with
    | panic => trivial
    | err e => exact ⟨trivial, fun _ ↦ trivial⟩
    | ok _ =>
      refine ⟨⟨address, by simp [readRegistered]⟩, fun result ↦ ⟨trivial, fun _ ↦ ?_⟩⟩
      cases result with
      | none => trivial
      | some payload =>
        exact ⟨⟨handle, timeoutMs, by simp [readRegistered], by simp⟩, fun _ ↦ trivial⟩

end

theorem trySend_eq_some {channels : Channels} {id j : ℕ} {payload sent : List UInt8}
    (h : channels.trySend id sent j = some payload) :
    channels j = some payload ∨ j = id ∧ sent = payload := by
  cases hid : channels id with
  | some p => exact .inl (by simpa [Channels.trySend, hid] using h)
  | none =>
    simp only [Channels.trySend, hid] at h
    by_cases hj : j = id
    · subst hj
      exact .inr ⟨rfl, by simpa using h⟩
    · rw [Function.update_of_ne hj] at h
      exact .inl h

theorem notify_cases (telegram : Telegram) (channels : Channels) (entry : TelegramCallbackEntry) :
    entry.notify telegram channels = channels ∨
      ∃ address, entry.callback = .groupValueRead address ∧
        telegram.destination = .group address ∧ telegram.payload ≠ [] ∧
        entry.notify telegram channels = channels.trySend entry.id telegram.payload := by
  unfold TelegramCallbackEntry.notify
  split
  · exact .inl rfl
  split
  · exact .inl rfl
  unfold TelegramCallbackEntry.call
  split
  · rename_i address hcallback
    split
    · rename_i hmatch
      exact .inr ⟨address, hcallback, hmatch.1, hmatch.2, rfl⟩
    · exact .inl rfl
  · exact .inl rfl

theorem notify_eq_some {telegram : Telegram} {channels : Channels} {id : ℕ} {payload : List UInt8}
    {entries : List TelegramCallbackEntry}
    (h : entries.foldl (TelegramCallbackEntry.notify telegram) channels id = some payload) :
    channels id = some payload ∨ ∃ entry ∈ entries, entry.id = id ∧
      ∃ address, entry.callback = .groupValueRead address ∧
        telegram.destination = .group address ∧ telegram.payload = payload ∧ payload ≠ [] := by
  induction entries generalizing channels with
  | nil => exact .inl h
  | cons entry entries ih =>
    obtain hfirst | ⟨e, he, hrest⟩ := ih h
    swap
    · exact .inr ⟨e, List.mem_cons_of_mem _ he, hrest⟩
    obtain hsame | ⟨address, hcallback, hdest, hne, hsent⟩ := notify_cases telegram channels entry
    · rw [hsame] at hfirst
      exact .inl hfirst
    · rw [hsent] at hfirst
      obtain hold | ⟨rfl, rfl⟩ := trySend_eq_some hfirst
      · exact .inl hold
      · exact .inr ⟨entry, List.mem_cons_self, rfl, address, hcallback, hdest, rfl, hne⟩

section

variable (arrived : List (List UInt8))

structure Evolves (s s' : State) : Prop where
  incoming : ∀ telegram ∈ s'.incoming, telegram ∈ s.incoming ∨ Heard arrived telegram
  nextId : s.handler.nextId ≤ s'.handler.nextId
  callbacks : ∀ entry ∈ s'.handler.telegramCallbacks,
    entry ∈ s.handler.telegramCallbacks ∨ s.handler.nextId ≤ entry.id
  channels : ∀ id < s.handler.nextId, ∀ payload, s'.channels id = some payload →
    s.channels id = some payload ∨ ∃ entry ∈ s.handler.telegramCallbacks, entry.id = id ∧
      ∃ address, entry.callback = .groupValueRead address ∧ Completes arrived address payload

theorem Evolves.refl (s : State) : Evolves arrived s s :=
  ⟨fun _ h ↦ .inl h, le_rfl, fun _ h ↦ .inl h, fun _ _ _ h ↦ .inl h⟩

structure ReadState (trace : List Step) (s : State) (address : GroupAddress) (handle : ℕ) :
    Prop where
  below : handle < s.handler.nextId
  callback : ∀ entry ∈ s.handler.telegramCallbacks, entry.id = handle →
    entry.callback = .groupValueRead address
  waiting : ∀ payload, s.channels handle = some payload → Completes arrived address payload
  received : ∀ r ∈ trace, ∀ timeoutMs payload,
    r.event = ⟨.recvWithin handle timeoutMs, some payload⟩ → Completes arrived address payload

structure Consistent (trace : List Step) (s : State) : Prop where
  queued : ∀ telegram ∈ s.incoming, Heard arrived telegram
  dequeued : ∀ r ∈ trace, ∀ telegram, r.event = ⟨.dequeueIncoming, some telegram⟩ →
    Heard arrived telegram
  reads : ∀ r ∈ trace, ∀ address handle, r.event = readRegistered address handle →
    ReadState arrived trace s address handle
  received : ∀ r ∈ trace, ∀ handle timeoutMs payload,
    r.event = ⟨.recvWithin handle timeoutMs, some payload⟩ → handle < s.handler.nextId

variable {arrived} {trace : List Step} {s s' : State} {k : ℕ} {i : Env}

theorem Consistent.evolves (hs : Consistent arrived trace s) {c : Command} {x : c.Response}
    (hrule : busRule arrived (history k trace) c) (he : exec c i s = some (x, s')) :
    Evolves arrived s s' := by
  cases c with
  | now => cases he; exact .refl arrived s
  | isDrained => cases he; exact .refl arrived s
  | recordSeen address value =>
    cases he
    exact ⟨fun _ h ↦ .inl h, le_rfl, fun _ h ↦ .inl h, fun _ _ _ h ↦ .inl h⟩
  | enqueueOutgoing telegram => cases he; exact .refl arrived s
  | deliver address payload => cases he; exact .refl arrived s
  | enqueueIncoming telegram =>
    cases he
    split
    · refine ⟨fun t ht ↦ ?_, le_rfl, fun _ h ↦ .inl h, fun _ _ _ h ↦ .inl h⟩
      rcases List.mem_append.mp ht with ht | ht
      · exact .inl ht
      · rw [List.mem_singleton.mp ht]
        exact .inr hrule
    · exact .refl arrived s
  | dequeueIncoming =>
    simp only [exec] at he
    split at he
    · rename_i telegram incoming hincoming
      cases he
      refine ⟨fun t ht ↦ .inl ?_, le_rfl, fun _ h ↦ .inl h, fun _ _ _ h ↦ .inl h⟩
      rw [hincoming]
      exact List.mem_cons_of_mem _ ht
    · split at he
      · cases he; exact .refl arrived s
      · cases he
  | notifyTelegramReceived telegram =>
    cases he
    obtain ⟨r, hr, -, hevent⟩ := mem_of_mem_history hrule
    refine ⟨fun _ h ↦ .inl h, le_rfl, fun _ h ↦ .inl h, fun id _ payload hid ↦ ?_⟩
    obtain h | ⟨entry, hentry, rfl, address, hcallback, hdest, hpayload, hne⟩ :=
      notify_eq_some hid
    · exact .inl h
    · exact .inr ⟨entry, hentry, rfl, address, hcallback, telegram,
        hs.dequeued r hr telegram hevent, hdest, hpayload, hne⟩
  | registerTelegramCallback callback filter includeOutgoing =>
    cases he
    refine ⟨fun _ h ↦ .inl h, Nat.le_succ _, fun entry h ↦ ?_, fun id hid payload h ↦ .inl ?_⟩
    · rcases List.mem_append.mp h with h | h
      · exact .inl h
      · rw [List.mem_singleton.mp h]
        exact .inr le_rfl
    · rw [← h]
      exact (Function.update_of_ne hid.ne _ _).symm
  | unregisterCallback handle =>
    cases he
    exact ⟨fun _ h ↦ .inl h, le_rfl, fun _ h ↦ .inl (List.mem_of_mem_eraseP h),
      fun _ _ _ h ↦ .inl h⟩
  | recvWithin handle timeoutMs =>
    simp only [exec] at he
    split at he
    · cases he
      refine ⟨fun _ h ↦ .inl h, le_rfl, fun _ h ↦ .inl h, fun id _ payload h ↦ .inl ?_⟩
      by_cases hid : id = handle
      · subst hid
        simp at h
      · exact (Function.update_of_ne hid _ _).symm.trans h
    · split at he
      · cases he; exact .refl arrived s
      · cases he

theorem channels_of_recvWithin {handle timeoutMs : ℕ} {payload : List UInt8}
    (he : exec (.recvWithin handle timeoutMs) i s = some (some payload, s')) :
    s.channels handle = some payload := by
  simp only [exec] at he
  split at he
  · rename_i p hp
    cases he
    exact hp
  · split at he <;> cases he

theorem mem_incoming_of_dequeueIncoming {telegram : Telegram}
    (he : exec .dequeueIncoming i s = some (some telegram, s')) : telegram ∈ s.incoming := by
  simp only [exec] at he
  split at he
  · rename_i t incoming hincoming
    cases he
    rw [hincoming]
    exact List.mem_cons_self
  · split at he <;> cases he

theorem ReadState.step {address : GroupAddress} {handle : ℕ}
    (hr : ReadState arrived trace s address handle) (hev : Evolves arrived s s') {c : Command}
    {x : c.Response} (he : exec c i s = some (x, s')) :
    ReadState arrived (⟨k, c, x, s, s'⟩ :: trace) s' address handle where
  below := hr.below.trans_le hev.nextId
  callback := by
    intro entry hentry hid
    rcases hev.callbacks entry hentry with h | h
    · exact hr.callback entry h hid
    · have := hr.below
      omega
  waiting := by
    intro payload hpayload
    rcases hev.channels handle hr.below payload hpayload with h | ⟨entry, hentry, hid, a, ha, h⟩
    · exact hr.waiting payload h
    · rw [hr.callback entry hentry hid] at ha
      cases ha
      exact h
  received := by
    intro r hmem timeoutMs payload hevent
    rcases List.mem_cons.mp hmem with rfl | hmem
    · cases hevent
      exact hr.waiting payload (channels_of_recvWithin he)
    · exact hr.received r hmem timeoutMs payload hevent

theorem Consistent.register (hs : Consistent arrived trace s) {address : GroupAddress}
    {handle : ℕ}
    (he : exec (.registerTelegramCallback (.groupValueRead address) .all false) i s =
      some (handle, s')) :
    ReadState arrived (⟨k, .registerTelegramCallback (.groupValueRead address) .all false, handle,
      s, s'⟩ :: trace) s' address handle := by
  cases he
  refine ⟨Nat.lt_succ_self _, fun entry hentry hid ↦ ?_, fun payload hpayload ↦ ?_,
    fun r hr timeoutMs payload hevent ↦ ?_⟩
  · rcases List.mem_append.mp hentry with h | h
    · exact absurd hid (s.handler.fresh entry h).ne
    · rw [List.mem_singleton.mp h]
  · simp at hpayload
  · rcases List.mem_cons.mp hr with rfl | hr
    · cases hevent
    · exact absurd (hs.received r hr _ _ _ hevent) (lt_irrefl _)

theorem consistent_keeps :
    Config.Keeps exec (busRule arrived) (Consistent arrived) := by
  intro trace s k c i x s' _ hs hrule he
  have hev := hs.evolves hrule he
  refine ⟨fun telegram ht ↦ ?_, fun r hr telegram hevent ↦ ?_,
    fun r hr address handle hevent ↦ ?_, fun r hr handle timeoutMs payload hevent ↦ ?_⟩
  · rcases hev.incoming telegram ht with h | h
    · exact hs.queued telegram h
    · exact h
  · rcases List.mem_cons.mp hr with rfl | hr
    · cases hevent
      exact hs.queued telegram (mem_incoming_of_dequeueIncoming he)
    · exact hs.dequeued r hr telegram hevent
  · rcases List.mem_cons.mp hr with rfl | hr
    · cases hevent
      exact hs.register he
    · exact (hs.reads r hr address handle hevent).step hev he
  · rcases List.mem_cons.mp hr with rfl | hr
    · cases hevent
      obtain ⟨address, hregistered⟩ := hrule
      obtain ⟨r, hr, -, hevent⟩ := mem_of_mem_history hregistered
      exact (hs.reads r hr address handle hevent).below.trans_le hev.nextId
    · exact (hs.received r hr handle timeoutMs payload hevent).trans_le hev.nextId

theorem consistent_grants : Config.Grants exec (busRule arrived) (Consistent arrived)
    fun r _ ↦ ∀ address payload, r.command = .deliver address payload →
      Completes arrived address payload := by
  intro trace s k c i x s' _ hs hrule _ address payload hc
  subst hc
  obtain ⟨handle, timeoutMs, hregistered, hreceived⟩ := hrule
  obtain ⟨r, hr, -, hevent⟩ := mem_of_mem_history hregistered
  obtain ⟨r', hr', -, hevent'⟩ := mem_of_mem_history hreceived
  exact (hs.reads r hr address handle hevent).received r' hr' timeoutMs payload hevent'

theorem completes_of_delivered {individualAddress : IndividualAddress}
    {registry : GroupAddressRegistry} {telegrams : ℕ} {moves : List (Move Activity Env)} {r : Step}
    (hr : r ∈ (run individualAddress registry arrived telegrams moves).trace)
    {address : GroupAddress} {payload : List UInt8} (hc : r.command = .deliver address payload) :
    Completes arrived address payload := by
  obtain ⟨later, earlier, htrace⟩ := List.append_of_mem hr
  have hpool : ∀ p ∈ [receivingTask arrived, processingTask telegrams],
      p.Obeys (busRule arrived) (fun _ _ ↦ True) [] := by
    intro p hp
    simp only [List.mem_cons, List.not_mem_nil, or_false] at hp
    rcases hp with rfl | rfl
    · exact follows_receivingTask arrived (fun _ h ↦ h) []
    · exact follows_processingTask arrived telegrams []
  have hstart : Consistent arrived [] (.opened registry) :=
    ⟨by simp [State.opened], by simp, by simp, by simp⟩
  refine Config.run_always hpool (obeys_program arrived individualAddress) hstart
    consistent_keeps consistent_grants moves r earlier ?_ address payload hc
  exact ⟨later, htrace.symm⟩

end

section

variable {cemiData : List UInt8} {telegram : Telegram} {address : GroupAddress}

theorem runAlone_receivingTask (htelegram : parseCemiToTelegram 0 cemiData = .ok telegram)
    (s : State) :
    ∃ e, (receivingTask [cemiData]).runAlone exec (fun _ ↦ {}) s [] = some e ∧
      e.state = { s with incoming := s.incoming ++ [telegram] } := by
  have hnow : (receivingTask [cemiData]).runAlone exec (fun _ ↦ {}) s [] =
      (Task.attempt (.done (parseCemiToTelegram 0 cemiData) >>= fun telegram ↦
        Bus.perform (.enqueueIncoming telegram)) >>= fun _ ↦ receivingTask []).runAlone exec
        (fun _ ↦ {}) s [⟨.now, (0 : ℕ)⟩] := rfl
  rw [hnow, htelegram]
  exact ⟨_, rfl, rfl⟩

theorem runAlone_processingTask {s : State} (hs : s.incoming = [telegram]) :
    ∃ e, (processingTask 1).runAlone exec (fun _ ↦ {}) s [] = some e ∧
      e.state.channels =
        s.handler.telegramCallbacks.foldl (TelegramCallbackEntry.notify telegram) s.channels := by
  obtain ⟨registry, handler, channels, incoming⟩ := s
  subst hs
  have hdequeued : (processingTask 1).runAlone exec (fun _ ↦ {})
      ⟨registry, handler, channels, [telegram]⟩ [] =
      (processTelegram telegram >>= fun _ ↦ processingTask 0).runAlone exec (fun _ ↦ {})
        ⟨registry, handler, channels, []⟩ [⟨.dequeueIncoming, some telegram⟩, ⟨.isDrained, false⟩] :=
    rfl
  rw [hdequeued]
  unfold processTelegram recordGroupValueIfPresent
  split
  · split <;> exact ⟨_, rfl, rfl⟩
  · exact ⟨_, rfl, rfl⟩

theorem exists_delivered (individualAddress : IndividualAddress) (registry : GroupAddressRegistry)
    (htelegram : parseCemiToTelegram 0 cemiData = .ok telegram)
    (hdest : telegram.destination = .group address) (hdir : telegram.direction = .incoming)
    (hne : telegram.payload ≠ []) :
    ∃ moves, ∃ r ∈ (run individualAddress registry [cemiData] 1 moves).trace,
      r.command = .deliver address telegram.payload := by
  -- The read is registered and sent, the frame is processed, and the read goes on.
  let asked := run individualAddress registry [cemiData] 1
    [.spawn (.read address 1000), .resume 2 {}, .resume 2 {}, .resume 2 {}]
  obtain ⟨e₁, he₁, hstate⟩ := runAlone_receivingTask htelegram asked.state
  obtain ⟨moves₁, trace₁, hrun₁, -⟩ := Config.exists_run_of_runAlone
    (program individualAddress) (x := asked) (k := 0) rfl he₁
  obtain ⟨e₂, he₂, hchannels⟩ := runAlone_processingTask (s := e₁.state) (by rw [hstate]; rfl)
  obtain ⟨moves₂, trace₂, hrun₂, -⟩ := Config.exists_run_of_runAlone
    (program individualAddress) (k := 1)
    (x := ⟨e₁.state, asked.pool.set 0 (.done e₁.outcome), trace₁ ++ asked.trace⟩) rfl he₂
  have hpayload : e₂.state.channels 1 = some telegram.payload := by
    rw [hchannels, hstate]
    show TelegramCallbackEntry.notify telegram (Function.update (fun _ ↦ none) 1 none)
      ⟨1, .groupValueRead address, .all, false⟩ 1 = some telegram.payload
    simp [TelegramCallbackEntry.notify, TelegramFilter.matches, TelegramCallbackEntry.call,
      Channels.trySend, hdir, hdest, hne]
  have hrecv : exec (.recvWithin 1 1000) {} e₂.state = some (some telegram.payload,
      { e₂.state with channels := Function.update e₂.state.channels 1 none }) := by
    simp [exec, hpayload]
  obtain ⟨p, hp, e₃, he₃, hdelivered⟩ : ∃ p,
      ((asked.pool.set 0 (.done e₁.outcome)).set 1 (.done e₂.outcome))[2]? = some p ∧
      p.RunsTo exec (fun _ ↦ {}) e₂.state [] [⟨.deliver address telegram.payload, ()⟩,
        ⟨.unregisterCallback 1, ()⟩, ⟨.recvWithin 1 1000, some telegram.payload⟩] :=
    ⟨_, rfl, .call _ hrecv (.call _ rfl (.call _ rfl ⟨_, rfl, rfl⟩))⟩
  obtain ⟨moves₃, trace₃, hrun₃, hhistory⟩ := Config.exists_run_of_runAlone
    (program individualAddress)
    (x := ⟨e₂.state, (asked.pool.set 0 (.done e₁.outcome)).set 1 (.done e₂.outcome),
      trace₂ ++ (trace₁ ++ asked.trace)⟩) hp he₃
  have hmem : ⟨.deliver address telegram.payload, ()⟩ ∈ trace₃.map Record.event := by
    rw [List.append_nil] at hhistory
    simp [← hhistory, hdelivered]
  obtain ⟨r, hr, hevent⟩ := List.mem_map.mp hmem
  refine ⟨[.spawn (.read address 1000), .resume 2 {}, .resume 2 {}, .resume 2 {}] ++ moves₁ ++
    moves₂ ++ moves₃, r, ?_, congrArg Sigma.fst hevent⟩
  rw [run, Config.run_append, Config.run_append, Config.run_append]
  show r ∈ (((asked.run exec _ moves₁).run exec _ moves₂).run exec _ moves₃).trace
  rw [hrun₁, hrun₂, hrun₃]
  exact List.mem_append_left _ hr

end

/-- A read of the address returns only what one of the frames has answered, whatever
part of the stream gets past the receive limiter before it ends. -/
def ReadsAnswered (address : GroupAddress) (stream : List (List UInt8)) : Prop :=
  ∀ arrived, arrived.Sublist stream → ∀ individualAddress registry telegrams moves,
    ∀ r ∈ (run individualAddress registry arrived telegrams moves).trace,
      ∀ payload, r.command = .deliver address payload →
        ∃ cemiData ∈ arrived, Answers address payload cemiData

/-- Reads are completed by answers alone exactly if nothing else in the stream that is
addressed to the group has any application data. -/
theorem readsAnswered_iff (address : GroupAddress) (stream : List (List UInt8)) :
    ReadsAnswered address stream ↔ ∀ cemiData ∈ stream, ∀ frame,
      CemiFrame.parse cemiData = .ok frame → frame.destAddr = .group address →
        frame.apciData ≠ [] → frame.messageCode = .lDataInd ∧ frame.service = some 0x0040 := by
  constructor
  · intro h cemiData hmem frame hframe hdest hdata
    obtain ⟨telegram, htelegram, hmade⟩ := parseCemiToTelegram_of_parse 0 hframe
    obtain ⟨moves, r, hr, hc⟩ := exists_delivered .broadcast (fun _ ↦ none) htelegram (hmade.destination.trans hdest) hmade.direction
      (fun hnil ↦ hdata (hmade.payload.mp hnil))
    obtain ⟨answer, hanswer, frame', hframe', hcode, -, hdecode⟩ :=
      h [cemiData] (List.singleton_sublist.mpr hmem) _ _ _ moves r hr _ hc
    rw [List.mem_singleton.mp hanswer, hframe] at hframe'
    cases hframe'
    exact ⟨hcode, CemiFrame.service_of_decode_response hdecode⟩
  · intro h arrived harrived individualAddress registry telegrams moves r hr payload hc
    obtain ⟨telegram, ⟨now, cemiData, hmem, htelegram⟩, hdest, rfl, hne⟩ :=
      completes_of_delivered hr hc
    obtain ⟨frame, hframe, hmade⟩ := parse_of_parseCemiToTelegram htelegram
    have hdata : frame.apciData ≠ [] := fun hnil ↦ hne (hmade.payload.mpr hnil)
    have haddr : frame.destAddr = .group address := hmade.destination.symm.trans hdest
    obtain ⟨hcode, hservice⟩ := h cemiData (harrived.subset hmem) frame hframe haddr hdata
    exact ⟨cemiData, hmem, frame, hframe, hcode, haddr,
      hmade.answer (hmade.response.mpr hservice)⟩

def confirmationOfRead : List UInt8 :=
  (outgoingCemi (Telegram.groupRead 0 .temperature) .lDataCon).serialize

theorem confirmation_completes_read :
    (((run .broadcast (fun _ ↦ none) [confirmationOfRead] 1
      ([.spawn (.read .temperature 1000), .resume 2 {}, .resume 2 {}, .resume 2 {}, .resume 0 {},
        .resume 0 {}, .resume 1 {}, .resume 1 {}, .resume 1 {}, .resume 2 {}, .resume 2 {},
        .resume 2 {}])).trace.head?.map fun r ↦ match r.command with
          | .deliver address payload => some (address, payload)
          | _ => none) = some (some (.temperature, [0x00]))) ∧
      ¬ Answers .temperature [0x00] confirmationOfRead := by
  decide +kernel

end Knust.Application.Bus
