import Knust.Transport.Acknowledgement
import Knust.Transport.ServerRules

namespace Knust.Transport.Server

open Foundation Foundation.Task Protocol Security

variable (session : ClientSession)

structure Locked (h : History Command Command.Response) : Prop where
  acquired : ⟨.lockSend session.cells, ()⟩ ∈ h
  held : ⟨.unlockSend session.cells, ()⟩ ∉ h

def HasRecipient (h : History Command Command.Response) : Prop :=
  ∃ peer entry, ⟨.getRecipient peer, some entry⟩ ∈ h

def Numbered (frame : List UInt8) (h : History Command Command.Response) : Prop :=
  ∃ seq, ⟨.loadSendSeq session.cells, seq⟩ ∈ h ∧ (HasRecipient h ∨
    ∃ telegram code, frame = buildTunnellingFrameWithCode telegram session.channelId seq code)

def Acked (h : History Command Command.Response) : Prop :=
  ∃ channel ack, ⟨.awaitAck channel, some ack⟩ ∈ h ∧ ack.statusCode = TunnellingAck.statusOk

def callRule (h : History Command Command.Response) : Command → Prop
  | .lockSend cells => cells = session.cells ∧ h = []
  | .loadSendSeq cells => cells = session.cells ∧ h = [⟨.lockSend session.cells, ()⟩]
  | .getRecipient _ | .encryptFrame _ _ => Locked session h
  | .expectAck cells | .storeSendSeq cells _ | .unlockSend cells =>
    cells = session.cells ∧ Locked session h
  | .sendFrame _ frame => Locked session h ∧ Numbered session frame h
  | .awaitAck channel => Locked session h ∧ ⟨.expectAck session.cells, channel⟩ ∈ h
  | _ => False

def callPost (h : History Command Command.Response) (r : Result Unit) : Prop :=
  r = .ok () → Acked h

variable {session} {h : Past} {frame : List UInt8}

theorem Locked.cons (hl : Locked session h) {c : Command} (hc : c ≠ .unlockSend session.cells)
    (r : c.Response) : Locked session (⟨c, r⟩ :: h) := by
  refine ⟨List.mem_cons_of_mem _ hl.acquired, fun hu ↦ ?_⟩
  rcases List.mem_cons.mp hu with he | hu
  · exact hc (congrArg Sigma.fst he).symm
  · exact hl.held hu

theorem Numbered.cons (hn : Numbered session frame h) (e : (c : Command) × c.Response) :
    Numbered session frame (e :: h) := by
  obtain ⟨seq, hseq, ⟨peer, entry, hp⟩ | hframe⟩ := hn
  · exact ⟨seq, List.mem_cons_of_mem _ hseq, .inl ⟨peer, entry, List.mem_cons_of_mem _ hp⟩⟩
  · exact ⟨seq, List.mem_cons_of_mem _ hseq, .inr hframe⟩

theorem Acked.cons (ha : Acked h) (e : (c : Command) × c.Response) : Acked (e :: h) := by
  obtain ⟨channel, ack, hack, hok⟩ := ha
  exact ⟨channel, ack, List.mem_cons_of_mem _ hack, hok⟩

theorem obeys_sendAttempts_callRule (seq : UInt8) (attempts : ℕ) (hl : Locked session h)
    (hn : Numbered session frame h) :
    (sendAttempts session seq frame attempts).Obeys (callRule session)
      (fun h r ↦ Locked session h ∧ callPost h r) h := by
  induction attempts generalizing h with
  | zero => exact ⟨hl, by simp [callPost]⟩
  | succ attempts ih =>
    refine ⟨⟨rfl, hl⟩, fun channel ↦ ?_⟩
    have hl₁ := hl.cons (c := .expectAck session.cells) (by simp) channel
    have hn₁ := hn.cons ⟨.expectAck session.cells, channel⟩
    refine ⟨⟨hl₁, hn₁⟩, fun sent ↦ ?_⟩
    have hl₂ := hl₁.cons (c := .sendFrame session.link frame) (by simp) sent
    have hn₂ := hn₁.cons ⟨.sendFrame session.link frame, sent⟩
    cases sent with
    | err e => exact ⟨hl₂, by simp [callPost]⟩
    | panic => exact ⟨hl₂, by simp [callPost]⟩
    | ok _ =>
      refine ⟨⟨hl₂, by simp⟩, fun ack ↦ ?_⟩
      have hl₃ := hl₂.cons (c := .awaitAck channel) (by simp) ack
      have hn₃ := hn₂.cons ⟨.awaitAck channel, ack⟩
      cases ack with
      | none => exact ih hl₃ hn₃
      | some ack =>
        show Obeys _ _ _ (ite _ _ _)
        split
        · rename_i hok
          refine ⟨⟨rfl, hl₃⟩, fun _ ↦ ⟨hl₃.cons (by simp) _, fun _ ↦ ?_⟩⟩
          exact Acked.cons ⟨channel, ack, List.mem_cons_self, hok⟩ _
        · exact ⟨hl₃, by simp [callPost]⟩

theorem obeys_sendLocked_callRule (telegram : Telegram) :
    (sendLocked session telegram).Obeys (callRule session)
      (fun h r ↦ Locked session h ∧ callPost h r) [⟨.lockSend session.cells, ()⟩] := by
  refine ⟨⟨rfl, rfl⟩, fun seq ↦ ?_⟩
  have hl : Locked session
      [⟨.loadSendSeq session.cells, seq⟩, ⟨.lockSend session.cells, ()⟩] := ⟨by simp, by simp⟩
  refine ⟨hl, fun recipient ↦ ?_⟩
  have hl₁ := hl.cons (c := .getRecipient session.link.peerAddr) (by simp) recipient
  cases recipient with
  | none => exact obeys_sendAttempts_callRule seq 2 hl₁ ⟨seq, by simp, .inr ⟨telegram, _, rfl⟩⟩
  | some entry =>
    refine ⟨hl₁, fun encrypted ↦ ?_⟩
    have hl₂ := hl₁.cons (c := .encryptFrame entry _) (by simp) encrypted
    cases encrypted with
    | err e => exact ⟨hl₂, by simp [callPost]⟩
    | panic => exact ⟨hl₂, by simp [callPost]⟩
    | ok frame =>
      exact obeys_sendAttempts_callRule seq 2 hl₂ ⟨seq, by simp, .inl ⟨_, entry, by simp; rfl⟩⟩

theorem obeys_sendToSession_callRule (telegram : Telegram) :
    (sendToSession session telegram).Obeys (callRule session) callPost [] := by
  refine ⟨⟨rfl, rfl⟩, fun _ ↦ ?_⟩
  refine ((obeys_sendLocked_callRule telegram).attempt (T := fun h r ↦ r = .panic ∨
    Locked session h ∧ (r = .ok (.ok ()) → Acked h)) ?_ ?_ ?_).bind ?_ ?_ ?_
  · rintro h _ ⟨hl, hpost⟩
    exact .inr ⟨hl, fun _ ↦ hpost rfl⟩
  · rintro h e ⟨hl, -⟩
    exact .inr ⟨hl, by simp⟩
  · rintro h -
    exact .inl rfl
  · rintro h result (hp | ⟨hl, hacked⟩)
    · cases hp
    · refine ⟨⟨rfl, hl⟩, fun _ ↦ ?_⟩
      cases result with
      | ok _ => exact fun _ ↦ (hacked rfl).cons _
      | error e => exact fun he ↦ by cases he
  · intro h e _ he
    cases he
  · intro h _ he
    cases he

/-- What the handler of an acknowledgement may do. On a secure endpoint one that
arrives in the clear is dropped. -/
def ackRule (server : TunnelServer) (data : List UInt8) : Command → Prop
  | .getSession _ | .takePendingAck _ => True
  | .deliverAck _ ack => server.secureConfig = none ∧ data = ackFrame ack
  | _ => False

theorem obeys_handleFrame_ackRule (P : Primitives) (server : TunnelServer) (ack : TunnellingAck)
    (link : ClientLink) :
    (handleFrame P server (ackFrame ack) link).Obeys (fun _ ↦ ackRule server (ackFrame ack))
      (fun _ _ ↦ True) [] := by
  rw [handleFrame, ackFrame,
    KnxIpFrame.parse_serialize_new .tunnellingAck (by simp [TunnellingAck.serialize]), Task.ok_bind]
  show Obeys _ _ _ (dispatchPlainFrame server _ link false)
  cases hsecure : server.secureConfig with
  | some config =>
    rw [dispatchPlainFrame, if_pos (by simp [hsecure])]
    trivial
  | none =>
    rw [dispatchPlainFrame, if_neg (by simp [hsecure])]
    show Obeys _ _ _ (handleTunnellingAck ack.serialize >>= _)
    rw [handleTunnellingAck, TunnellingAck.parse_serialize, Task.ok_bind]
    refine ⟨trivial, fun session ↦ ?_⟩
    cases session with
    | none => trivial
    | some session =>
      refine ⟨trivial, fun channel ↦ ?_⟩
      cases channel with
      | none => trivial
      | some channel => exact ⟨⟨hsecure, rfl⟩, fun _ ↦ trivial⟩

def Command.concernsCalls : Command → Bool
  | .lockSend _ | .loadSendSeq _ | .getRecipient _ | .encryptFrame _ _ | .expectAck _
  | .storeSendSeq _ _ | .unlockSend _ | .sendFrame _ _ | .awaitAck _ | .getSession _
  | .takePendingAck _ | .deliverAck _ _ => true
  | _ => false

section

variable {P : Primitives} {c : Command} {i : Env} {s s' : State} {r : c.Response}

theorem concernsCalls_of_callRule (hc : callRule session h c) : c.concernsCalls = true := by
  cases c <;> first | rfl | exact hc.elim

theorem concernsCalls_of_ackRule {server : TunnelServer} {data : List UInt8}
    (hc : ackRule server data c) : c.concernsCalls = true := by
  cases c <;> first | rfl | exact hc.elim

theorem editsSecureSessions_of_concernsCalls (hc : c.concernsCalls = true) :
    c.editsSecureSessions = false := by
  cases c <;> first | rfl | cases hc

theorem State.dropSender_sent {pending : Option ℕ} {channel : ℕ} {ack : TunnellingAck}
    (hs : (s.dropSender pending)[channel]? = some (.sent ack)) :
    s.acks[channel]? = some (.sent ack) := by
  cases pending with
  | none => exact hs
  | some n =>
    rw [State.dropSender, List.getElem?_modify] at hs
    obtain ⟨o, ho, hs⟩ := Option.map_eq_some_iff.mp hs
    split at hs
    · split at hs
      · cases hs
      · rw [ho, hs]
    · rw [ho, hs]

theorem exec_sent (hc : c.concernsCalls = true) (he : exec P c i s = some (r, s')) {channel : ℕ}
    {ack : TunnellingAck} (hs : s'.acks[channel]? = some (.sent ack)) :
    s.acks[channel]? = some (.sent ack) ∨ c = .deliverAck channel ack := by
  by_cases ht : c.touchesChannels = false
  · left
    rwa [← (exec_channels ht he).2.2.1]
  cases c
  case lockSend | loadSendSeq | storeSendSeq | unlockSend | takePendingAck =>
    simp only [exec] at he
    obtain ⟨c, c', hcell, hf, rfl⟩ := State.withCells_eq_some he
    exact .inl hs
  case expectAck =>
    simp only [exec] at he
    split at he <;> cases he
    rcases List.getElem?_append .. ▸ hs with hs
    split at hs
    · exact .inl (State.dropSender_sent hs)
    · rw [List.getElem?_singleton] at hs
      split at hs <;> cases hs
  case deliverAck channel' ack' =>
    cases he
    rw [List.getElem?_modify] at hs
    obtain ⟨o, ho, hs⟩ := Option.map_eq_some_iff.mp hs
    by_cases hn : channel' = channel
    · subst hn
      by_cases hw : o = .waiting
      · simp only [hw, if_true, Oneshot.sent.injEq] at hs
        exact .inr (by rw [hs])
      · simp only [hw, if_true, if_false] at hs
        exact .inl (by rw [ho, hs])
    · simp only [hn, if_false] at hs
      exact .inl (by rw [ho, hs])
  all_goals exact absurd (by first | rfl | cases hc) ht

theorem exec_sendLock (hc : c.concernsCalls = true) (he : exec P c i s = some (r, s')) {n : ℕ}
    (hl : c ≠ .lockSend n) (hu : c ≠ .unlockSend n) :
    s'.cells[n]?.map ClientCells.sendLock = s.cells[n]?.map ClientCells.sendLock := by
  by_cases ht : c.touchesChannels = false
  · rw [(exec_channels ht he).2.1]
  have hset {m : ℕ} {a b : ClientCells} (ha : s.cells[m]? = some a)
      (hab : m = n → b.sendLock = a.sendLock) :
      (s.cells.set m b)[n]?.map ClientCells.sendLock = s.cells[n]?.map ClientCells.sendLock := by
    by_cases hm : m = n
    · subst hm
      obtain ⟨hlt, -⟩ := List.getElem?_eq_some_iff.mp ha
      rw [List.getElem?_set_self hlt, ha, Option.map_some, Option.map_some, hab rfl]
    · rw [List.getElem?_set_ne hm]
  cases c
  case loadSendSeq | storeSendSeq | takePendingAck =>
    simp only [exec] at he
    obtain ⟨a, b, ha, hf, rfl⟩ := State.withCells_eq_some he
    cases hf
    exact hset ha fun _ ↦ rfl
  case lockSend m =>
    simp only [exec] at he
    obtain ⟨a, b, ha, hf, rfl⟩ := State.withCells_eq_some he
    exact hset ha fun hm ↦ absurd (congrArg _ hm) hl
  case unlockSend m =>
    simp only [exec] at he
    obtain ⟨a, b, ha, hf, rfl⟩ := State.withCells_eq_some he
    exact hset ha fun hm ↦ absurd (congrArg _ hm) hu
  case expectAck m =>
    simp only [exec] at he
    split at he
    · rename_i a ha
      cases he
      exact hset ha fun _ ↦ rfl
    · cases he
  case deliverAck => cases he; rfl
  all_goals exact absurd (by first | rfl | cases hc) ht

theorem exec_lockSend {n : ℕ} {x : Unit} (he : exec P (.lockSend n) i s = some (x, s')) :
    s.cells[n]?.map ClientCells.sendLock = some false ∧
      s'.cells[n]?.map ClientCells.sendLock = some true := by
  simp only [exec] at he
  obtain ⟨a, b, ha, hf, rfl⟩ := State.withCells_eq_some he
  obtain ⟨hlt, -⟩ := List.getElem?_eq_some_iff.mp ha
  split at hf
  · cases hf
  · rename_i hfree
    cases hf
    rw [ha, List.getElem?_set_self hlt]
    simpa using hfree

theorem exec_expectAck {n channel : ℕ} (he : exec P (.expectAck n) i s = some (channel, s')) :
    s'.acks[channel]? = some .waiting := by
  simp only [exec] at he
  split at he
  · cases he
    rename_i cells _
    have hlength : (s.dropSender cells.pendingAck).length = s.acks.length := by
      cases cells.pendingAck <;> simp [State.dropSender]
    rw [← hlength, List.getElem?_concat_length]
  · cases he

theorem exec_awaitAck {channel : ℕ} {ack : TunnellingAck}
    (he : exec P (.awaitAck channel) i s = some (some ack, s')) :
    s.acks[channel]? = some (.sent ack) := by
  simp only [exec] at he
  split at he
  · rename_i hsent
    cases he
    exact hsent
  · cases he
  · split at he <;> cases he
  · cases he

end

end Knust.Transport.Server
