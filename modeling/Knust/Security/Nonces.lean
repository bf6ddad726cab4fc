import Knust.Security.Pair
import Mathlib.Data.List.Nodup

namespace Knust.Security

open Foundation SecureSession

structure Performed where
  operation : Operation
  before : SecurePair
  result : Result (List UInt8)

section

variable (P : Primitives)

def performAll (p : SecurePair) : List Operation → List Performed
  | [] => []
  | o :: os =>
    let r := p.perform P o
    ⟨o, p, r.1⟩ :: performAll r.2 os

end

def counterField (frame : List UInt8) : List UInt8 :=
  wrapperCounter0 ((frame.drop 8).take 6) ((frame.drop 14).take 6) ((frame.drop 20).take 2)

namespace Performed

def produced : Performed → Option (Side × List UInt8)
  | ⟨.encrypt side _, _, .ok frame⟩ => some (side, frame)
  | _ => none

def nonce (o : Performed) : Option (Block 16 × List UInt8) :=
  o.produced.map fun r ↦ ((o.before.get r.1).sessionKey.key, counterField r.2)

end Performed

def NoncesUnique (os : List Performed) : Prop := (os.filterMap Performed.nonce).Nodup

def NoneReflected (os : List Performed) : Prop :=
  os.Pairwise fun o d ↦ ∀ side frame, o.produced = some (side, frame) →
    d.operation = .decrypt side frame → ∀ plain, d.result ≠ .ok plain

def OneSided (ops : List Operation) : Prop :=
  ∃ side : Side, ops.any (·.encrypts side) = false

/-- A side is handed its own frames only when it has received a later number. -/
def ReflectionsStale (os : List Performed) : Prop :=
  os.Pairwise fun o d ↦ ∀ side frame, o.produced = some (side, frame) →
    d.operation = .decrypt side frame →
    ¬ Fresh (d.before.get side).sequenceNumberReceived.toNat (sequenceField frame)

def numbers (next : Side → ℕ) : List Operation → List ℕ
  | [] => []
  | .encrypt side _ :: ops =>
    next side :: numbers (Function.update next side (next side + 1)) ops
  | .decrypt _ _ :: ops => numbers next ops

theorem next_mem_numbers (next : Side → ℕ) {ops : List Operation} {side : Side}
    (h : ops.any (·.encrypts side) = true) : next side ∈ numbers next ops := by
  induction ops generalizing next with
  | nil => simp at h
  | cons o ops ih =>
    cases o with
    | decrypt side' frame => exact ih next (by simpa using h)
    | encrypt side' plain =>
      by_cases hs : side' = side
      · rw [hs]
        exact List.mem_cons_self
      · have hrest := ih (Function.update next side' (next side' + 1))
          (by simpa [hs] using h)
        rw [Function.update_of_ne (Ne.symm hs)] at hrest
        exact List.mem_cons_of_mem _ hrest

theorem numbers_of_silent (next : Side → ℕ) {ops : List Operation} {side : Side}
    (h : ops.any (·.encrypts side) = false) :
    (∀ n ∈ numbers next ops, next side.peer ≤ n) ∧ (numbers next ops).Pairwise (· < ·) := by
  induction ops generalizing next with
  | nil => simp [numbers]
  | cons o ops ih =>
    have hrest : ops.any (·.encrypts side) = false := by
      rw [List.any_cons, Bool.or_eq_false_iff] at h
      exact h.2
    cases o with
    | decrypt side' frame => exact ih next hrest
    | encrypt side' plain =>
      have hside : side' = side.peer := by
        rcases side.eq_or_eq_peer side' with rfl | hs
        · simp at h
        · exact hs
      obtain ⟨hle, hpair⟩ := ih (Function.update next side' (next side' + 1)) hrest
      subst hside
      rw [Function.update_self] at hle
      refine ⟨fun n hn ↦ ?_, List.pairwise_cons.mpr ⟨fun n hn ↦ hle n hn, hpair⟩⟩
      rcases List.mem_cons.mp hn with rfl | hn
      · exact le_rfl
      · exact (Nat.le_succ _).trans (hle n hn)

theorem nodup_numbers_iff {next : Side → ℕ} (hnext : next .client = next .server)
    (ops : List Operation) : (numbers next ops).Nodup ↔ OneSided ops := by
  constructor
  · intro h
    induction ops with
    | nil => exact ⟨.client, rfl⟩
    | cons o ops ih =>
      cases o with
      | decrypt side frame => simpa [OneSided] using ih h
      | encrypt side plain =>
        -- If the peer encrypts later, it starts from the number just used.
        refine ⟨side.peer, ?_⟩
        by_contra hpeer
        have hrest : ops.any (·.encrypts side.peer) = true := by
          simpa [side.peer_ne.symm] using hpeer
        have hmem := next_mem_numbers (Function.update next side (next side + 1)) hrest
        have heq : next side.peer = next side := by cases side <;> simp [Side.peer, hnext]
        rw [Function.update_of_ne side.peer_ne, heq] at hmem
        exact (List.nodup_cons.mp h).1 hmem
  · rintro ⟨side, hside⟩
    exact (numbers_of_silent next hside).2.imp fun hlt ↦ hlt.ne

section

variable (P : Primitives) (key : Block 16) (sessionId : UInt16)

structure Performed.Sound (o : Performed) : Prop where
  keyed : o.before.Keyed key sessionId
  result_eq : o.result = (o.before.perform P o.operation).1
  made : ∀ side frame, o.produced = some (side, frame) → ∃ n plain, n.toNat < 2 ^ 48 ∧
    frame = (sealedWrapper P key sessionId (sequenceBytes n) plain).bytes

variable {P key sessionId} {p : SecurePair} {ops : List Operation}

theorem performAll_sound (h : p.Keyed key sessionId) (hs : p.Supply ops) :
    ∀ o ∈ performAll P p ops, o.Sound P key sessionId := by
  induction ops generalizing p with
  | nil => simp [performAll]
  | cons op ops ih =>
    intro o ho
    rcases List.mem_cons.mp ho with rfl | ho
    · refine ⟨h, rfl, fun side frame hp ↦ ?_⟩
      cases op with
      | encrypt side' plain =>
        rw [h.perform_encrypt] at hp
        simp only [Performed.produced, Option.some.injEq, Prod.mk.injEq] at hp
        exact ⟨_, plain, hs.lt, hp.2.symm⟩
      | decrypt side' frame' => simp [Performed.produced] at hp
    · exact ih (h.perform op) (hs.perform h) o ho

def nonceOf (key : Block 16) (n : ℕ) : Block 16 × List UInt8 :=
  (key, wrapperCounter0 (beEncode 6 n) deviceSerialNumber messageTagTunnelling)

theorem counterField_sealed (n : UInt64) (plain : List UInt8) :
    counterField (sealedWrapper P key sessionId (sequenceBytes n) plain).bytes =
      (nonceOf key n.toNat).2 := by
  rw [counterField, (slice_eq_ok.mp (Wrapper.slice_sequence _)).2,
    (slice_eq_ok.mp (Wrapper.slice_serial _)).2, (slice_eq_ok.mp (Wrapper.slice_tag _)).2]
  rfl

def counters (p : SecurePair) (side : Side) : ℕ := (p.get side).sequenceNumber.toNat

theorem counters_perform (h : p.Keyed key sessionId) {op : Operation} (hs : p.Supply (op :: ops)) :
    numbers (counters p) (op :: ops) =
      (match op with
        | .encrypt side _ => [counters p side]
        | .decrypt _ _ => []) ++ numbers (counters (p.perform P op).2) ops := by
  cases op with
  | encrypt side plain =>
    have hnext : counters (p.perform P (.encrypt side plain)).2 =
        Function.update (counters p) side (counters p side + 1) := by
      funext other
      rw [counters, h.perform_sequenceNumber]
      by_cases ho : other = side
      · subst ho
        simp [SecurePair.toNat_add_one hs.lt, counters]
      · simp [Function.update_of_ne ho, Ne.symm ho, counters]
    rw [hnext]
    rfl
  | decrypt side frame =>
    have hnext : counters (p.perform P (.decrypt side frame)).2 = counters p := by
      funext other
      rw [counters, h.perform_sequenceNumber]
      simp [counters]
    rw [hnext]
    rfl

theorem nonces_performAll (h : p.Keyed key sessionId) (hs : p.Supply ops) :
    (performAll P p ops).filterMap Performed.nonce =
      (numbers (counters p) ops).map (nonceOf key) := by
  induction ops generalizing p with
  | nil => rfl
  | cons op ops ih =>
    have hrest := ih (h.perform (P := P) op) (hs.perform h)
    rw [counters_perform (P := P) h hs, List.map_append, ← hrest, performAll]
    cases op with
    | encrypt side plain =>
      have hnonce : Performed.nonce ⟨.encrypt side plain, p,
          (p.perform P (.encrypt side plain)).1⟩ = some (nonceOf key (counters p side)) := by
        rw [h.perform_encrypt]
        simp only [Performed.nonce, Performed.produced, Option.map_some, h.key_eq,
          counterField_sealed]
        rfl
      rw [List.filterMap_cons_some hnonce]
      rfl
    | decrypt side frame => exact List.filterMap_cons_none rfl

theorem lt_of_mem_numbers {next : Side → ℕ} {bound : ℕ}
    (h : ∀ side, next side + ops.countP (·.encrypts side) ≤ bound) :
    ∀ n ∈ numbers next ops, n < bound := by
  induction ops generalizing next with
  | nil => simp [numbers]
  | cons op ops ih =>
    cases op with
    | decrypt side frame => exact ih (fun other ↦ by simpa using h other)
    | encrypt side plain =>
      have hside := h side
      rw [List.countP_cons_of_pos (by simp)] at hside
      intro n hn
      rcases List.mem_cons.mp hn with rfl | hn
      · omega
      · refine ih (fun other ↦ ?_) n hn
        have hother := h other
        by_cases ho : other = side
        · subst ho
          rw [Function.update_self]
          omega
        · rw [Function.update_of_ne ho]
          rwa [List.countP_cons_of_neg (by simp [Ne.symm ho])] at hother

theorem nonceOf_injOn (key : Block 16) {m n : ℕ} (hm : m < 2 ^ 48) (hn : n < 2 ^ 48)
    (h : nonceOf key m = nonceOf key n) : m = n := by
  have hbytes : beEncode 6 m = beEncode 6 n := by
    simpa [nonceOf, wrapperCounter0] using h
  have hmod := beEncode_inj hbytes
  rwa [Nat.mod_eq_of_lt (by omega), Nat.mod_eq_of_lt (by omega)] at hmod

theorem noncesUnique_iff {client server : SecureSession} (h : Established client server)
    (hs : SecurePair.Supply ⟨client, server⟩ ops) :
    NoncesUnique (performAll P ⟨client, server⟩ ops) ↔ OneSided ops := by
  have hstart : counters ⟨client, server⟩ .client = counters ⟨client, server⟩ .server := by
    simp [counters, SecurePair.get, h.clientSent, h.serverSent]
  rw [NoncesUnique, nonces_performAll (SecurePair.keyed_of_established h) hs,
    ← nodup_numbers_iff hstart]
  refine ⟨List.Nodup.of_map _, fun hnodup ↦ hnodup.map_on fun m hm n hn heq ↦ ?_⟩
  exact nonceOf_injOn _ (lt_of_mem_numbers hs m hm) (lt_of_mem_numbers hs n hn) heq

theorem noneReflected_iff {client server : SecureSession} (h : Established client server)
    (hs : SecurePair.Supply ⟨client, server⟩ ops) :
    NoneReflected (performAll P ⟨client, server⟩ ops) ↔
      ReflectionsStale (performAll P ⟨client, server⟩ ops) := by
  have hsound := performAll_sound (P := P) (SecurePair.keyed_of_established h) hs
  apply List.Pairwise.iff_of_mem
  intro o d ho hd
  have hkeyed := (hsound d hd).keyed
  refine forall₂_congr fun side frame ↦ forall₂_congr fun hprod hop ↦ ?_
  obtain ⟨n, plain, hn, rfl⟩ := (hsound o ho).made side frame hprod
  have hresult : d.result = ((d.before.get side).decryptFrame P
      (sealedWrapper P server.sessionKey.key server.sessionId (sequenceBytes n) plain).bytes).1 := by
    rw [(hsound d hd).result_eq, hop]
    rfl
  rw [hresult]
  constructor
  · intro hrej hf
    have hdec := decryptFrame_sealed P (s := d.before.get side) (by rw [hkeyed.key_eq]) hn plain
    rw [hkeyed.key_eq, hkeyed.id_eq] at hdec
    rw [sequenceField_sealed P _ _ hn] at hf
    exact hrej plain (by rw [hdec hf])
  · intro hstale plain'
    exact decryptFrame_stale P hstale plain'

end

/-- Two sides that share a session never repeat a key and counter and never take
their own frames for the peer's exactly if only one of them encrypts and reflected
frames come too late. -/
theorem nonces_and_reflections_iff (P : Primitives) {client server : SecureSession}
    (h : Established client server) (ops : List Operation)
    (hcount : ∀ side, ops.countP (·.encrypts side) < 2 ^ 48) :
    NoncesUnique (performAll P ⟨client, server⟩ ops) ∧
        NoneReflected (performAll P ⟨client, server⟩ ops) ↔
      OneSided ops ∧ ReflectionsStale (performAll P ⟨client, server⟩ ops) := by
  have hs : SecurePair.Supply ⟨client, server⟩ ops := by
    intro side
    have hzero : (SecurePair.get ⟨client, server⟩ side).sequenceNumber = 0 := by
      cases side
      · exact h.clientSent
      · exact h.serverSent
    have := hcount side
    rw [hzero, UInt64.toNat_zero]
    omega
  rw [noncesUnique_iff h hs, noneReflected_iff h hs]

namespace Reference

def ping : List UInt8 := [0x06, 0x10, 0x02, 0x08, 0x00, 0x08, 0x01, 0x00]

def reflection : List Operation :=
  [.encrypt .client ping, .encrypt .server ping, .decrypt .client (heartbeatFrame 0)]

end Reference

theorem nonces_and_reflections_reference :
    NoncesUnique (performAll Reference.primitives ⟨Reference.client, Reference.server⟩
        Reference.reflection) ∧
      NoneReflected (performAll Reference.primitives ⟨Reference.client, Reference.server⟩
        Reference.reflection) ↔
    OneSided Reference.reflection ∧
      ReflectionsStale (performAll Reference.primitives ⟨Reference.client, Reference.server⟩
        Reference.reflection) :=
  nonces_and_reflections_iff Reference.primitives Reference.established Reference.reflection
    (by intro side; cases side <;> decide)

/-- The first frames of both sides share key and counter, and the client accepts
its own frame. -/
theorem first_counters_collide :
    let os := performAll Reference.primitives ⟨Reference.client, Reference.server⟩
      Reference.reflection
    ¬ NoncesUnique os ∧ ¬ NoneReflected os := by
  constructor
  · unfold NoncesUnique
    decide +kernel
  · intro h
    have hpair := (List.pairwise_cons.mp h).1
    refine hpair _ (List.mem_cons_of_mem _ List.mem_cons_self) .client
      (Reference.heartbeatFrame 0) ?_ rfl Reference.ping ?_
    · decide +kernel
    · decide +kernel

end Knust.Security
