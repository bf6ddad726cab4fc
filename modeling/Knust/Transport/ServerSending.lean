import Knust.Foundation.Sequential
import Knust.Transport.Server

namespace Knust.Transport.Server

open Foundation Foundation.Task Protocol Security

def Command.sentFrame : Command → Option (List UInt8)
  | .sendFrame _ frame => some frame
  | _ => none

def transmissions (h : History Command Command.Response) : List (List UInt8) :=
  (h.filterMap fun e ↦ e.1.sentFrame).reverse

theorem transmissions_cons (e : (c : Command) × c.Response) (h : Past) :
    transmissions (e :: h) = transmissions h ++ e.1.sentFrame.toList := by
  cases he : e.1.sentFrame <;> simp [transmissions, he]

structure SecuredBy (P : Primitives) (server : SecureSession)
    (h : History Command Command.Response) : Prop where
  known : ∀ peer, ⟨.getRecipient peer, none⟩ ∉ h
  encrypted : ∀ entry plain x, ⟨.encryptFrame entry plain, x⟩ ∈ h →
    x = (server.encryptFrame P plain).1

/-- What is known of a call once the telegram is encrypted: all that it sends is the
encrypted frame. -/
structure Prepared (P : Primitives) (server : SecureSession) (session : ClientSession)
    (telegram : Telegram) (frame : List UInt8) (h : History Command Command.Response) : Prop where
  encrypted : SecuredBy P server h → ∀ seq, ⟨.loadSendSeq session.cells, seq⟩ ∈ h →
    (server.encryptFrame P
      (buildTunnellingFrameWithCode telegram session.channelId seq .lDataInd)).1 = .ok frame
  sent : ∀ f ∈ transmissions h, f = frame

variable {P : Primitives} {server : SecureSession} {session : ClientSession} {telegram : Telegram}
  {frame : List UInt8} {h : Past}

theorem SecuredBy.of_cons {e : (c : Command) × c.Response} (hs : SecuredBy P server (e :: h)) :
    SecuredBy P server h :=
  ⟨fun peer hp ↦ hs.known peer (List.mem_cons_of_mem _ hp),
    fun entry plain x hx ↦ hs.encrypted entry plain x (List.mem_cons_of_mem _ hx)⟩

structure IsAttempt (frame : List UInt8) (c : Command) : Prop where
  sent : ∀ f, c.sentFrame = some f → f = frame
  draws : ∀ cells, c ≠ .loadSendSeq cells

theorem Prepared.step (hp : Prepared P server session telegram frame h) {c : Command}
    (hc : IsAttempt frame c) (x : c.Response) :
    Prepared P server session telegram frame (⟨c, x⟩ :: h) := by
  refine ⟨fun hs seq hseq ↦ ?_, fun f hf ↦ ?_⟩
  · rcases List.mem_cons.mp hseq with he | hseq
    · cases he
      exact absurd rfl (hc.draws _)
    · exact hp.encrypted hs.of_cons seq hseq
  · rw [transmissions_cons, List.mem_append, Option.mem_toList] at hf
    rcases hf with hf | hf
    · exact hp.sent f hf
    · exact hc.sent f hf

theorem follows_sendAttempts_isAttempt (session : ClientSession) (seq : UInt8)
    (frame : List UInt8) (attempts : ℕ) :
    (sendAttempts session seq frame attempts).Follows fun _ c ↦ IsAttempt frame c := by
  induction attempts with
  | zero => exact .done _
  | succ attempts ih =>
    have hsend : IsAttempt frame (.sendFrame session.link frame) :=
      ⟨fun f hf ↦ (Option.some.inj hf).symm, nofun⟩
    refine .bind (.perform fun _ ↦ ⟨nofun, nofun⟩) fun channel ↦
      .bind (.bind (.perform fun _ ↦ hsend) fun _ ↦ .done _) fun _ ↦
      .bind (.perform fun _ ↦ ⟨nofun, nofun⟩) fun ack ↦ ?_
    cases ack with
    | none => exact ih
    | some ack =>
      show Follows _ (ite _ _ _)
      split
      · exact .perform fun _ ↦ ⟨nofun, nofun⟩
      · exact .done _

/-- What every call comes to: it sent nothing, or found no session to encrypt with, or
repeated one frame. -/
def Repeats (P : Primitives) (server : SecureSession) (session : ClientSession)
    (telegram : Telegram) (h : History Command Command.Response) : Prop :=
  transmissions h = [] ∨ (∃ peer, ⟨.getRecipient peer, none⟩ ∈ h) ∨
    ∃ frame, Prepared P server session telegram frame h

theorem Repeats.step {c : Command} (hr : Repeats P server session telegram h)
    (hc : c.sentFrame = none) (hd : ∀ cells, c ≠ .loadSendSeq cells) (x : c.Response) :
    Repeats P server session telegram (⟨c, x⟩ :: h) := by
  rcases hr with ht | ⟨peer, hp⟩ | ⟨frame, hp⟩
  · exact .inl (by simp [transmissions_cons, ht, hc])
  · exact .inr (.inl ⟨peer, List.mem_cons_of_mem _ hp⟩)
  · exact .inr (.inr ⟨frame, hp.step ⟨by simp [hc], hd⟩ x⟩)

theorem obeys_sendLocked (session : ClientSession) (telegram : Telegram) :
    (sendLocked session telegram).Obeys (fun _ _ ↦ True)
      (fun h _ ↦ Repeats P server session telegram h) [⟨.lockSend session.cells, ()⟩] := by
  refine ⟨trivial, fun seq ↦ ⟨trivial, fun recipient ↦ ?_⟩⟩
  cases recipient with
  | none =>
    refine (Obeys.carry (S := fun _ ↦ True) (A := fun h ↦ ∃ peer, ⟨.getRecipient peer, none⟩ ∈ h)
      (g := []) ?_ (fun _ _ _ _ ↦ trivial) ?_ ⟨_, List.mem_cons_self⟩).mono
      fun h _ hp ↦ .inr (.inl hp)
    · exact obeys_true _ _
    · rintro h c x ⟨peer, hp⟩ -
      exact ⟨peer, List.mem_cons_of_mem _ hp⟩
  | some entry =>
    refine ⟨trivial, fun encrypted ↦ ?_⟩
    -- The frame is fixed here, before the first attempt.
    cases encrypted with
    | err e => exact .inl rfl
    | panic => exact .inl rfl
    | ok frame =>
      refine ((follows_sendAttempts_isAttempt session seq frame 2 []).carry
        (A := Prepared P server session telegram frame) (fun _ _ _ _ ↦ trivial)
        (fun h c x hp hc ↦ hp.step hc x) ⟨fun hs seq' hseq ↦ ?_,
          by simp [transmissions, Command.sentFrame]⟩).mono
        fun h _ hp ↦ .inr (.inr ⟨frame, hp⟩)
      obtain rfl : seq' = seq := by simpa using hseq
      exact (hs.encrypted entry _ (.ok frame) List.mem_cons_self).symm

theorem obeys_sendToSession (session : ClientSession) (telegram : Telegram) :
    (sendToSession session telegram).Obeys (fun _ _ ↦ True)
      (fun h _ ↦ Repeats P server session telegram h) [] := by
  refine ⟨trivial, fun _ ↦ ?_⟩
  refine ((obeys_sendLocked session telegram).attempt
    (T := fun h _ ↦ Repeats P server session telegram h) (fun _ _ ↦ id) (fun _ _ ↦ id)
    (fun _ ↦ id)).bind (fun h result hr ↦ ⟨trivial, fun _ ↦ ?_⟩) (fun _ _ ↦ id) (fun _ ↦ id)
  have hr := hr.step (c := .unlockSend session.cells) rfl nofun ()
  cases result with
  | ok _ => exact hr
  | error e => exact hr

theorem retransmission_eq {h' : Past} {r : Result Unit} {seq : UInt8} {first second : List UInt8}
    (hcall : (sendToSession session telegram).Reaches [] h' r) (hs : SecuredBy P server h')
    (hseq : ⟨.loadSendSeq session.cells, seq⟩ ∈ h') (hsent : transmissions h' = [first, second]) :
    (server.encryptFrame P
      (buildTunnellingFrameWithCode telegram session.channelId seq .lDataInd)).1 = .ok first ∧
      second = first := by
  have hr : Repeats P server session telegram h' :=
    (obeys_sendToSession session telegram).reaches hcall
  rcases hr with ht | ⟨peer, hp⟩ | ⟨frame, hp⟩
  · rw [ht] at hsent
    cases hsent
  · exact absurd hp (hs.known peer)
  · obtain rfl := hp.sent first (by simp [hsent])
    exact ⟨hp.encrypted hs seq hseq, hp.sent second (by simp [hsent])⟩

theorem exec_encryptFrame {entry : ℕ} {plain : List UInt8} {i : Env} {s : State}
    {e : SecureSessionEntry} {x : Result (List UInt8)} {session : SecureSession}
    (he : s.entries[entry]? = some e) (henc : e.session.encryptFrame P plain = (x, session)) :
    exec P (.encryptFrame entry plain) i s =
      some (x, { s with entries := s.entries.set entry { e with session } }) := by
  simp only [exec, State.withEntry, he, henc]

namespace Reference

open Security.Reference (primitives)

def temperature : Telegram := .groupWrite 0 .temperature [0x0C, 0x65]

def firstChannel : ClientSession := ⟨1, .udp peer, 0⟩

def numbered (n : UInt64) : SecureSession := { Security.Reference.server with sequenceNumber := n }

def withChannel (n : UInt64) : State :=
  { State.bound with
    sessions := Function.update State.bound.sessions 1 (some firstChannel)
    secureSessions := Function.update State.bound.secureSessions peer (some 0)
    nextSecureSessionId := 2
    cells := [.new 0]
    entries := [⟨numbered n, primitives.x25519Public Security.Reference.clientSecret⟩] }

def request : List UInt8 := buildTunnellingFrameWithCode temperature 1 0 .lDataInd

def wrappedRequest (n : UInt64) : List UInt8 :=
  (SecureSession.sealedWrapper primitives (numbered n).sessionKey.key (numbered n).sessionId
    (SecureSession.sequenceBytes n) request).bytes

def unacknowledged (n : UInt64) : History Command Command.Response :=
  [⟨.unlockSend 0, ()⟩,
    ⟨.awaitAck 1, none⟩, ⟨.sendFrame firstChannel.link (wrappedRequest n), .ok ()⟩, ⟨.expectAck 0, 1⟩,
    ⟨.awaitAck 0, none⟩, ⟨.sendFrame firstChannel.link (wrappedRequest n), .ok ()⟩, ⟨.expectAck 0, 0⟩,
    ⟨.encryptFrame 0 request, .ok (wrappedRequest n)⟩, ⟨.getRecipient peer, some 0⟩,
    ⟨.loadSendSeq 0, 0⟩, ⟨.lockSend 0, ()⟩]

theorem runsTo_unacknowledged (n : UInt64) :
    (sendToSession firstChannel temperature).RunsTo (exec primitives) (fun _ ↦ { elapsed := true })
      (withChannel n) [] (unacknowledged n) := by
  have henc := SecureSession.encryptFrame_eq primitives request (s := numbered n) rfl
  refine .call _ rfl (.call _ rfl (.call _ rfl (.call _ (exec_encryptFrame rfl henc) ?_)))
  refine .call _ rfl (.call _ rfl (.call _ rfl (.call _ rfl (.call _ rfl (.call _ rfl
    (.call _ rfl ?_))))))
  exact ⟨_, rfl, rfl⟩

theorem securedBy_unacknowledged (n : UInt64) :
    SecuredBy primitives (numbered n) (unacknowledged n) := by
  refine ⟨by simp [unacknowledged], fun entry plain x hx ↦ ?_⟩
  simp only [unacknowledged, List.mem_cons, Sigma.mk.injEq, reduceCtorEq, false_and, false_or,
    List.not_mem_nil, or_false, Command.encryptFrame.injEq] at hx
  obtain ⟨⟨rfl, rfl⟩, hx⟩ := hx
  rw [SecureSession.encryptFrame_eq primitives request (s := numbered n) rfl]
  exact eq_of_heq hx

end Reference

end Knust.Transport.Server
