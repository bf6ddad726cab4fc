import Knust.Security.Pair
import Mathlib.Data.List.Forall2

namespace Knust.Security

open Foundation SecureSession

structure Packet where
  frame : List UInt8
  plain : List UInt8

structure Link where
  pair : SecurePair
  queue : Side → List Packet

/-- A side sends a frame, or the next frame on the way to a side arrives or is
lost. -/
inductive LinkAction
  | send (side : Side) (plain : List UInt8)
  | deliver (side : Side)
  | lose (side : Side)

def LinkAction.isSend (side : Side) : LinkAction → Bool
  | .send side' _ => side' = side
  | _ => false

inductive LinkEvent
  | sent (plain : List UInt8) (result : Result (List UInt8))
  | delivered (plain : List UInt8) (result : Result (List UInt8))

def LinkEvent.Correct : LinkEvent → Prop
  | .sent _ result => ∃ frame, result = .ok frame
  | .delivered plain result => result = .ok plain

namespace Link

variable (P : Primitives)

def start (client server : SecureSession) : Link := ⟨⟨client, server⟩, fun _ ↦ []⟩

def enqueue (queue : Side → List Packet) (side : Side) (plain : List UInt8) :
    Result (List UInt8) → Side → List Packet
  | .ok frame => Function.update queue side (queue side ++ [⟨frame, plain⟩])
  | _ => queue

def step (l : Link) : LinkAction → List LinkEvent × Link
  | .send side plain =>
    let r := l.pair.perform P (.encrypt side plain)
    ([.sent plain r.1], ⟨r.2, enqueue l.queue side.peer plain r.1⟩)
  | .deliver side =>
    match l.queue side with
    | [] => ([], l)
    | packet :: rest =>
      let r := l.pair.perform P (.decrypt side packet.frame)
      ([.delivered packet.plain r.1], ⟨r.2, Function.update l.queue side rest⟩)
  | .lose side => ([], { l with queue := Function.update l.queue side (l.queue side).tail })

def run (l : Link) : List LinkAction → List LinkEvent
  | [] => []
  | action :: actions =>
    let r := l.step P action
    r.1 ++ r.2.run actions

end Link

section

variable (P : Primitives) (key : Block 16) (sessionId : UInt16)

def Packet.Numbered (n : UInt64) (p : Packet) : Prop :=
  p.frame = (sealedWrapper P key sessionId (sequenceBytes n) p.plain).bytes

/-- The frames on the way to a side carry increasing numbers, below the sender's
counter, that the last received number does not exclude. -/
structure Flows (last next : UInt64) (numbers : List UInt64) (queue : List Packet) : Prop where
  packets : List.Forall₂ (Packet.Numbered P key sessionId) numbers queue
  increasing : numbers.Pairwise (·.toNat < ·.toNat)
  below : ∀ n ∈ numbers, n.toNat < next.toNat
  fresh : ∀ n ∈ numbers, Fresh last.toNat n.toNat
  next_fresh : Fresh last.toNat next.toNat

variable {P key sessionId}

theorem Flows.send {last next : UInt64} {numbers : List UInt64} {queue : List Packet}
    (h : Flows P key sessionId last next numbers queue) (hn : next.toNat < 2 ^ 48)
    (plain : List UInt8) :
    Flows P key sessionId last (next + 1) (numbers ++ [next])
      (queue ++ [⟨(sealedWrapper P key sessionId (sequenceBytes next) plain).bytes, plain⟩]) := by
  have hnext := SecurePair.toNat_add_one hn
  have hmem {n : UInt64} (hm : n ∈ numbers ++ [next]) : n ∈ numbers ∨ n = next := by
    simpa using hm
  refine ⟨List.rel_append h.packets (.cons rfl .nil), ?_, ?_, ?_, h.next_fresh.mono (by omega)⟩
  · refine List.pairwise_append.mpr ⟨h.increasing, List.pairwise_singleton _ _, ?_⟩
    intro n hm m hm'
    rw [List.mem_singleton.mp hm']
    exact h.below n hm
  · intro n hm
    rcases hmem hm with hm | rfl
    · have := h.below n hm
      omega
    · omega
  · intro n hm
    rcases hmem hm with hm | rfl
    · exact h.fresh n hm
    · exact h.next_fresh

theorem Flows.lose {last next : UInt64} {numbers : List UInt64} {queue : List Packet}
    (h : Flows P key sessionId last next numbers queue) :
    Flows P key sessionId last next numbers.tail queue.tail where
  packets := by
    cases h.packets with
    | nil => exact .nil
    | cons _ ht => exact ht
  increasing := h.increasing.tail
  below n hn := h.below n (List.mem_of_mem_tail hn)
  fresh n hn := h.fresh n (List.mem_of_mem_tail hn)
  next_fresh := h.next_fresh

theorem Flows.deliver {last next n : UInt64} {numbers : List UInt64} {packet : Packet}
    {queue : List Packet} (h : Flows P key sessionId last next (n :: numbers) (packet :: queue)) :
    Flows P key sessionId n next numbers queue where
  packets := (List.forall₂_cons.mp h.packets).2
  increasing := (List.pairwise_cons.mp h.increasing).2
  below m hm := h.below m (List.mem_cons_of_mem _ hm)
  fresh m hm := fresh_of_lt ((List.pairwise_cons.mp h.increasing).1 m hm)
  next_fresh := fresh_of_lt (h.below n List.mem_cons_self)

end

namespace Link

variable (P : Primitives) (key : Block 16) (sessionId : UInt16)

structure Good (l : Link) : Prop where
  keyed : l.pair.Keyed key sessionId
  flows : ∀ side, ∃ numbers, Flows P key sessionId (l.pair.get side).sequenceNumberReceived
    (l.pair.get side.peer).sequenceNumber numbers (l.queue side)

theorem start_good {client server : SecureSession} (h : Established client server) :
    Good P server.sessionKey.key server.sessionId (start client server) where
  keyed := SecurePair.keyed_of_established h
  flows side := by
    refine ⟨[], .nil, .nil, by simp, by simp, ?_⟩
    cases side
    · simp only [start, SecurePair.get, h.clientReceived]
      exact fresh_bot _
    · simp only [start, SecurePair.get, h.serverReceived]
      exact fresh_bot _

variable {P key sessionId} {l : Link}

theorem Good.set (h : Good P key sessionId l) (side : Side) {s : SecureSession}
    {queue : Side → List Packet} (hkey : s.sessionKey = (l.pair.get side).sessionKey)
    (hid : s.sessionId = (l.pair.get side).sessionId)
    (hin : ∃ numbers, Flows P key sessionId s.sequenceNumberReceived
      (l.pair.get side.peer).sequenceNumber numbers (queue side))
    (hout : ∃ numbers, Flows P key sessionId (l.pair.get side.peer).sequenceNumberReceived
      s.sequenceNumber numbers (queue side.peer)) :
    Good P key sessionId ⟨l.pair.set side s, queue⟩ := by
  refine ⟨h.keyed.set side hkey hid, fun other ↦ ?_⟩
  rcases side.eq_or_eq_peer other with rfl | rfl
  · simpa using hin
  · simpa using hout

theorem Good.send (h : Good P key sessionId l) (side : Side) (plain : List UInt8)
    (hn : (l.pair.get side).sequenceNumber.toNat < 2 ^ 48) :
    (∀ e ∈ (l.step P (.send side plain)).1, e.Correct) ∧
      Good P key sessionId (l.step P (.send side plain)).2 := by
  obtain ⟨ins, hin⟩ := h.flows side
  obtain ⟨outs, hout⟩ := h.flows side.peer
  rw [Side.peer_peer] at hout
  simp only [step, h.keyed.perform_encrypt, enqueue]
  refine ⟨by simp [LinkEvent.Correct], h.set side rfl rfl ⟨ins, ?_⟩
    ⟨outs ++ [(l.pair.get side).sequenceNumber], ?_⟩⟩
  · rw [Function.update_of_ne side.peer_ne.symm]
    exact hin
  · rw [Function.update_self]
    exact hout.send hn plain

theorem Good.deliver (h : Good P key sessionId l) (side : Side)
    (hn : (l.pair.get side.peer).sequenceNumber.toNat ≤ 2 ^ 48) :
    (∀ e ∈ (l.step P (.deliver side)).1, e.Correct) ∧
      Good P key sessionId (l.step P (.deliver side)).2 := by
  obtain ⟨ins, hin⟩ := h.flows side
  obtain ⟨outs, hout⟩ := h.flows side.peer
  rw [Side.peer_peer] at hout
  cases hq : l.queue side with
  | nil =>
    simp only [step, hq]
    exact ⟨by simp, h⟩
  | cons packet rest =>
    rw [hq] at hin
    cases ins with
    | nil => cases hin.packets
    | cons n ins =>
      have hnum : packet.frame = (sealedWrapper P (l.pair.get side).sessionKey.key
          (l.pair.get side).sessionId (sequenceBytes n) packet.plain).bytes := by
        rw [h.keyed.key_eq, h.keyed.id_eq]
        exact (List.forall₂_cons.mp hin.packets).1
      -- The first packet on the way has the least number, so all others stay fresh.
      have hlt := hin.below n List.mem_cons_self
      have hdec := decryptFrame_sealed P (s := l.pair.get side) (by rw [h.keyed.key_eq])
        (by omega) packet.plain (hin.fresh n List.mem_cons_self)
      rw [← hnum] at hdec
      simp only [step, hq, SecurePair.perform, hdec]
      refine ⟨by simp [LinkEvent.Correct], h.set side rfl rfl ⟨ins, ?_⟩ ⟨outs, ?_⟩⟩
      · rw [Function.update_self]
        exact hin.deliver
      · rw [Function.update_of_ne side.peer_ne]
        exact hout

theorem Good.lose (h : Good P key sessionId l) (side : Side) :
    Good P key sessionId (l.step P (.lose side)).2 := by
  refine ⟨h.keyed, fun other ↦ ?_⟩
  obtain ⟨numbers, hf⟩ := h.flows other
  rcases side.eq_or_eq_peer other with rfl | rfl
  · exact ⟨numbers.tail, by simpa [step] using hf.lose⟩
  · exact ⟨numbers, by simpa [step] using hf⟩

def Supply (l : Link) (actions : List LinkAction) : Prop :=
  ∀ side, (l.pair.get side).sequenceNumber.toNat + actions.countP (·.isSend side) ≤ 2 ^ 48

theorem Good.sequenceNumber (h : Good P key sessionId l) (action : LinkAction) (side : Side) :
    ((l.step P action).2.pair.get side).sequenceNumber =
      (l.pair.get side).sequenceNumber + if action.isSend side then 1 else 0 := by
  cases action with
  | send other plain => exact h.keyed.perform_sequenceNumber (.encrypt other plain) side
  | deliver other =>
    cases hq : l.queue other with
    | nil => simp [step, hq, LinkAction.isSend]
    | cons packet rest =>
      simp only [step, hq]
      exact h.keyed.perform_sequenceNumber (.decrypt other packet.frame) side
  | lose other => simp [step, LinkAction.isSend]

variable {actions : List LinkAction}

theorem Good.supply (h : Good P key sessionId l) {action : LinkAction}
    (hs : l.Supply (action :: actions)) : (l.step P action).2.Supply actions := by
  intro side
  have hside := hs side
  rw [List.countP_cons] at hside
  rw [h.sequenceNumber]
  split at hside
  · rename_i hsend
    rw [if_pos hsend, SecurePair.toNat_add_one (by omega)]
    omega
  · rename_i hsend
    rw [if_neg hsend, UInt64.add_zero]
    exact hside

theorem Good.step (h : Good P key sessionId l) {action : LinkAction}
    (hs : l.Supply (action :: actions)) :
    (∀ e ∈ (l.step P action).1, e.Correct) ∧ Good P key sessionId (l.step P action).2 := by
  cases action with
  | send side plain =>
    have := hs side
    simp only [LinkAction.isSend, decide_true, List.countP_cons_of_pos] at this
    exact h.send side plain (by omega)
  | deliver side =>
    have := hs side.peer
    exact h.deliver side (by omega)
  | lose side => exact ⟨by simp [Link.step], h.lose side⟩

theorem Good.run (h : Good P key sessionId l) (hs : l.Supply actions) :
    ∀ e ∈ l.run P actions, e.Correct := by
  induction actions generalizing l with
  | nil => simp [Link.run]
  | cons action actions ih =>
    obtain ⟨hevents, hgood⟩ := h.step hs
    intro e he
    rcases List.mem_append.mp he with he | he
    · exact hevents e he
    · exact ih hgood (h.supply hs) e he

end Link

/-- Matching credentials always lead to a session, and from then on every frame
that arrives, in any interleaving of the two directions, decrypts to the frame
that was sent. -/
theorem secure_channel_correct (P : Primitives) {clientConfig serverConfig : SessionConfig}
    (clientSecret serverSecret : Block 32) (sessionId : UInt16)
    (hid : clientConfig.userId = serverConfig.userId)
    (hpw : clientConfig.userPassword = serverConfig.userPassword)
    (hdev : clientConfig.deviceAuthPassword = none ∨
      clientConfig.deviceAuthPassword = serverConfig.deviceAuthPassword)
    (hcomm : P.x25519 clientSecret (P.x25519Public serverSecret) =
      P.x25519 serverSecret (P.x25519Public clientSecret)) :
    ∃ client server,
      handshake P clientConfig serverConfig clientSecret serverSecret sessionId =
        .ok (client, server) ∧
      client.state = .authenticated ∧ server.state = .authenticated ∧
      client.sessionId = sessionId ∧ server.sessionId = sessionId ∧
      client.sessionKey = server.sessionKey ∧
      ∀ actions : List LinkAction, (∀ side, actions.countP (·.isSend side) < 2 ^ 48) →
        ∀ e ∈ (Link.start client server).run P actions, e.Correct := by
  obtain ⟨client, server, hshake, hest, hsid⟩ := handshake_established P clientSecret serverSecret
    sessionId hid hpw hdev hcomm
  refine ⟨client, server, hshake, hest.clientState, hest.serverState, hsid,
    hest.sessionId.symm.trans hsid, hest.sessionKey, fun actions hcount ↦ ?_⟩
  apply (Link.start_good P hest).run
  intro side
  have hzero : ((Link.start client server).pair.get side).sequenceNumber = 0 := by
    cases side
    · exact hest.clientSent
    · exact hest.serverSent
  have := hcount side
  rw [hzero, UInt64.toNat_zero]
  omega

theorem secure_channel_reference :
    Reference.primitives.x25519 Reference.clientSecret
        (Reference.primitives.x25519Public Reference.serverSecret) =
      Reference.primitives.x25519 Reference.serverSecret
        (Reference.primitives.x25519Public Reference.clientSecret) ∧
    ∃ client server,
      handshake Reference.primitives Reference.config Reference.config Reference.clientSecret
        Reference.serverSecret 1 = .ok (client, server) ∧
      client.state = .authenticated ∧ server.state = .authenticated ∧
      client.sessionId = 1 ∧ server.sessionId = 1 ∧ client.sessionKey = server.sessionKey ∧
      ∀ actions : List LinkAction, (∀ side, actions.countP (·.isSend side) < 2 ^ 48) →
        ∀ e ∈ (Link.start client server).run Reference.primitives actions, e.Correct :=
  have hcomm : Reference.primitives.x25519 Reference.clientSecret
        (Reference.primitives.x25519Public Reference.serverSecret) =
      Reference.primitives.x25519 Reference.serverSecret
        (Reference.primitives.x25519Public Reference.clientSecret) := by decide +kernel
  ⟨hcomm, secure_channel_correct Reference.primitives Reference.clientSecret
    Reference.serverSecret 1 rfl rfl (.inr rfl) hcomm⟩

end Knust.Security
