import Knust.Application.MemoryMonitor

namespace Knust.Application

open Foundation

/-- Connections are told apart by the order of their creation. -/
abbrev PoolConnection := ℕ

structure ConnectionPool where
  available : List PoolConnection
  active : List PoolConnection
  maxSize : ℕ
  memoryMonitor : MemoryMonitor
  created : ℕ
  deriving DecidableEq

namespace ConnectionPool

def new (maxSize : ℕ) (memoryMonitor : MemoryMonitor) : ConnectionPool :=
  ⟨[], [], maxSize, memoryMonitor, 0⟩

def connSize : UInt64 := 1024

/-- The places at which a call of `get_connection` and the return of its connection can be
interrupted. -/
inductive Call
  /-- About to look for an available connection. -/
  | asking
  /-- About to compare the number of active connections with the maximum. -/
  | comparing
  | creating
  | charging (conn : PoolConnection)
  /-- Beyond the memory limit, after the attempt to free memory. -/
  | rechecking (conn : PoolConnection)
  | counting (conn : PoolConnection)
  | registering (conn : PoolConnection)
  /-- The caller has the connection, and the next step is that of its `drop`. -/
  | borrowing (conn : PoolConnection)
  | returning (conn : PoolConnection)
  | returned
  | failed (error : MemoryError)
  deriving DecidableEq

/-- The next section of a call, with the reason for which the creation of a connection fails. -/
def advance (failure : Option String) (pool : ConnectionPool) :
    Call → Option (ConnectionPool × Call)
  | .asking =>
    match pool.available.getLast? with
    | some conn => some ({ pool with
        available := pool.available.dropLast
        active := pool.active ++ [conn] }, .borrowing conn)
    | none => some (pool, .comparing)
  | .comparing =>
    if pool.active.length ≥ pool.maxSize then
      some (pool, .failed (.poolExhausted pool.maxSize pool.active.length))
    else some (pool, .creating)
  | .creating =>
    match failure with
    | some reason => some (pool, .failed (.connectionCreationFailed reason))
    | none => some ({ pool with created := pool.created + 1 }, .charging pool.created)
  | .charging conn =>
    some ({ pool with memoryMonitor := pool.memoryMonitor.charge connSize },
      if pool.memoryMonitor.currentUsage + connSize > pool.memoryMonitor.memoryLimit then
        .rechecking conn
      else .counting conn)
  | .rechecking conn =>
    let monitor := pool.memoryMonitor
    if monitor.currentUsage > monitor.memoryLimit then
      some (pool, .failed (.limitExceeded monitor.currentUsage monitor.memoryLimit))
    else some (pool, .counting conn)
  | .counting conn =>
    some ({ pool with memoryMonitor := pool.memoryMonitor.countFor .transport connSize },
      .registering conn)
  | .registering conn => some ({ pool with active := pool.active ++ [conn] }, .borrowing conn)
  | .borrowing conn =>
    some ({ pool with active := pool.active.filter (· ≠ conn) }, .returning conn)
  | .returning conn => some ({ pool with available := pool.available ++ [conn] }, .returned)
  | .returned | .failed _ => none

def cleanup (pool : ConnectionPool) : ConnectionPool :=
  { pool with available := pool.available.take ((pool.available.length + 1) / 2) }

structure Users where
  pool : ConnectionPool
  calls : List Call

inductive Action
  | getConnection
  | resume (k : ℕ) (failure : Option String)
  | cleanup

def react : Reactor Action Unit Users
  | .getConnection, s => some ({ s with calls := s.calls ++ [.asking] }, ())
  | .resume k failure, s => do
    let call ← s.calls[k]?
    let next ← advance failure s.pool call
    some (⟨next.1, s.calls.set k next.2⟩, ())
  | .cleanup, s => some ({ s with pool := s.pool.cleanup }, ())

def Call.carried : Call → List PoolConnection
  | .charging conn | .rechecking conn | .counting conn | .registering conn | .borrowing conn
  | .returning conn => [conn]
  | _ => []

def Call.borrowed : Call → List PoolConnection
  | .borrowing conn => [conn]
  | _ => []

def Call.inTransit : Call → ℕ
  | .creating | .charging _ | .rechecking _ | .counting _ | .registering _ | .returning _ => 1
  | _ => 0

def Call.isCharging : Call → Bool
  | .charging _ => true
  | _ => false

def Call.charged : Call → ℕ
  | .rechecking _ | .counting _ | .registering _ | .returning _ => 1
  | _ => 0

variable {pool pool' : ConnectionPool} {calls calls' : List Call} {call call' : Call}
  {failure : Option String}

def hands (pool : ConnectionPool) (calls : List Call) : List PoolConnection :=
  pool.available ++ calls.flatMap Call.carried

/-- No connection is in two hands, and the active ones are those that callers may use. -/
structure Distinct (pool : ConnectionPool) (calls : List Call) : Prop where
  nodup : (hands pool calls).Nodup
  created : ∀ conn ∈ hands pool calls, conn < pool.created
  active : pool.active.Perm (calls.flatMap Call.borrowed)

theorem borrowed_sublist_carried (calls : List Call) :
    (calls.flatMap Call.borrowed).Sublist (calls.flatMap Call.carried) := by
  induction calls with
  | nil => exact List.Sublist.refl _
  | cons call calls ih =>
    have hcall : call.borrowed.Sublist call.carried := by
      cases call
      case borrowing conn => exact List.Sublist.refl _
      all_goals exact List.nil_sublist _
    exact hcall.append ih

namespace Distinct

theorem new (maxSize : ℕ) (monitor : MemoryMonitor) : Distinct (.new maxSize monitor) [] :=
  ⟨List.nodup_nil, fun _ hconn ↦ (List.not_mem_nil hconn).elim, List.Perm.nil⟩

theorem perm (h : Distinct pool calls) (hperm : calls.Perm calls') : Distinct pool calls' := by
  have hhands : (hands pool calls).Perm (hands pool calls') :=
    (hperm.flatMap_right Call.carried).append_left pool.available
  exact ⟨hhands.nodup_iff.mp h.nodup, fun conn hconn ↦ h.created conn (hhands.mem_iff.mpr hconn),
    h.active.trans (hperm.flatMap_right Call.borrowed)⟩

theorem of_sublist (h : Distinct pool calls)
    (hhands : (hands pool' calls').Sublist (hands pool calls))
    (hcreated : pool'.created = pool.created)
    (hactive : pool'.active.Perm (calls'.flatMap Call.borrowed)) : Distinct pool' calls' :=
  ⟨h.nodup.sublist hhands,
    fun conn hconn ↦ hcreated ▸ h.created conn (hhands.subset hconn), hactive⟩

theorem cleanup (h : Distinct pool calls) : Distinct pool.cleanup calls :=
  h.of_sublist ((List.take_sublist _ _).append_right _) rfl h.active

theorem withMonitor (h : Distinct pool calls) (monitor : MemoryMonitor) :
    Distinct { pool with memoryMonitor := monitor } calls := ⟨h.nodup, h.created, h.active⟩

theorem getConnection (h : Distinct pool calls) : Distinct pool (.asking :: calls) :=
  ⟨h.nodup, h.created, h.active⟩

theorem filter_active {conn : PoolConnection} (h : Distinct pool (.borrowing conn :: calls)) :
    (pool.active.filter (· ≠ conn)).Perm (calls.flatMap Call.borrowed) := by
  have hcarried : (conn :: calls.flatMap Call.carried).Nodup :=
    h.nodup.sublist (List.sublist_append_right pool.available _)
  have hother : ∀ c ∈ calls.flatMap Call.borrowed, c ≠ conn := by
    intro c hc heq
    exact (List.nodup_cons.mp hcarried).1 (heq ▸ (borrowed_sublist_carried calls).subset hc)
  have hself : (calls.flatMap Call.borrowed).filter (· ≠ conn) = calls.flatMap Call.borrowed :=
    List.filter_eq_self.mpr fun c hc ↦ decide_eq_true (hother c hc)
  have hfilter := h.active.filter (· ≠ conn)
  rw [List.flatMap_cons, Call.borrowed, List.singleton_append,
    List.filter_cons_of_neg (by simp), hself] at hfilter
  exact hfilter

theorem advance (h : Distinct pool (call :: calls))
    (hcall : pool.advance failure call = some (pool', call')) :
    Distinct pool' (call' :: calls) := by
  cases call with
  | asking =>
    simp only [ConnectionPool.advance] at hcall
    split at hcall
    · rename_i conn hconn
      cases hcall
      have hlast : pool.available.dropLast ++ [conn] = pool.available :=
        List.dropLast_append_getLast? conn hconn
      refine h.of_sublist ?_ rfl (List.perm_append_comm.trans (h.active.append_left [conn]))
      rw [hands, hands, ← hlast, List.append_assoc, hlast]
      exact List.Sublist.refl _
    · cases hcall
      exact ⟨h.nodup, h.created, h.active⟩
  | comparing =>
    simp only [ConnectionPool.advance] at hcall
    split at hcall <;> cases hcall <;> exact ⟨h.nodup, h.created, h.active⟩
  | creating =>
    simp only [ConnectionPool.advance] at hcall
    split at hcall
    · cases hcall
      exact ⟨h.nodup, h.created, h.active⟩
    · -- The number of the new connection is above all others.
      cases hcall
      have hhands : (hands { pool with created := pool.created + 1 }
          (.charging pool.created :: calls)).Perm
            (pool.created :: hands pool (.creating :: calls)) := List.perm_middle
      refine ⟨hhands.nodup_iff.mpr (List.nodup_cons.mpr ⟨fun hmem ↦ ?_, h.nodup⟩),
        fun conn hconn ↦ ?_, h.active⟩
      · exact Nat.lt_irrefl _ (h.created _ hmem)
      · rcases List.mem_cons.mp (hhands.subset hconn) with rfl | hconn
        · exact Nat.lt_succ_self _
        · exact Nat.lt_succ_of_lt (h.created conn hconn)
  | charging conn =>
    cases hcall
    apply withMonitor
    split <;> exact ⟨h.nodup, h.created, h.active⟩
  | rechecking conn =>
    simp only [ConnectionPool.advance] at hcall
    split at hcall
    · cases hcall
      exact h.of_sublist ((List.sublist_cons_self _ _).append_left _) rfl h.active
    · cases hcall
      exact ⟨h.nodup, h.created, h.active⟩
  | counting conn =>
    cases hcall
    apply withMonitor
    exact ⟨h.nodup, h.created, h.active⟩
  | registering conn =>
    cases hcall
    exact ⟨h.nodup, h.created, List.perm_append_comm.trans (h.active.append_left [conn])⟩
  | borrowing conn =>
    cases hcall
    exact ⟨h.nodup, h.created, h.filter_active⟩
  | returning conn =>
    cases hcall
    refine h.of_sublist ?_ rfl h.active
    rw [hands, List.append_assoc]
    exact List.Sublist.refl _
  | returned => cases hcall
  | failed error => cases hcall

end Distinct

def size (pool : ConnectionPool) : ℕ := pool.active.length + pool.available.length

theorem length_filter_active {conn : PoolConnection}
    (h : Distinct pool (.borrowing conn :: calls)) :
    (pool.active.filter (· ≠ conn)).length + 1 = pool.active.length := by
  rw [h.filter_active.length_eq, h.active.length_eq, List.flatMap_cons, List.length_append,
    Nat.add_comm]
  rfl

def Call.entering : Call → ℕ
  | .registering _ | .returning _ => 1
  | _ => 0

def Call.leaving : Call → ℕ
  | .borrowing _ => 1
  | _ => 0

theorem size_advance (h : Distinct pool (call :: calls))
    (hcall : pool.advance failure call = some (pool', call')) :
    pool'.size + call.leaving = pool.size + call.entering := by
  cases call with
  | asking =>
    simp only [advance] at hcall
    split at hcall
    · rename_i conn hconn
      cases hcall
      have hpos : 0 < pool.available.length :=
        List.length_pos_iff.mpr (List.ne_nil_of_mem (List.mem_of_getLast? hconn))
      simp only [size, List.length_append, List.length_dropLast, List.length_singleton,
        Call.leaving, Call.entering]
      omega
    · cases hcall
      rfl
  | comparing =>
    simp only [advance] at hcall
    split at hcall <;> cases hcall <;> rfl
  | creating =>
    simp only [advance] at hcall
    split at hcall <;> cases hcall <;> rfl
  | rechecking conn =>
    simp only [advance] at hcall
    split at hcall <;> cases hcall <;> rfl
  | charging conn | counting conn =>
    cases hcall
    simp only [size, Call.leaving, Call.entering]
  | registering conn | returning conn =>
    cases hcall
    simp only [size, List.length_append, List.length_singleton, Call.leaving, Call.entering]
    omega
  | borrowing conn =>
    cases hcall
    have hactive := length_filter_active h
    simp only [size, Call.leaving, Call.entering]
    omega
  | returned => cases hcall
  | failed error => cases hcall

theorem inTransit_advance (hcall : pool.advance failure call = some (pool', call')) :
    pool'.maxSize = pool.maxSize ∧
      (call'.inTransit + call.entering ≤ call.inTransit + call.leaving ∨
        call = .comparing ∧ pool.active.length < pool.maxSize ∧ call'.inTransit = 1) := by
  cases call with
  | comparing =>
    simp only [advance] at hcall
    split at hcall <;> cases hcall
    · exact ⟨rfl, .inl le_rfl⟩
    · exact ⟨rfl, .inr ⟨rfl, by omega, rfl⟩⟩
  | charging conn =>
    cases hcall
    refine ⟨rfl, .inl ?_⟩
    split <;> exact le_rfl
  | asking | creating | rechecking conn =>
    simp only [advance] at hcall
    split at hcall <;> cases hcall <;>
      exact ⟨rfl, .inl (by simp [Call.inTransit, Call.entering, Call.leaving])⟩
  | counting conn | registering conn | borrowing conn | returning conn =>
    cases hcall
    exact ⟨rfl, .inl le_rfl⟩
  | returned => cases hcall
  | failed error => cases hcall

theorem charged_advance (hcall : pool.advance failure call = some (pool', call')) :
    (∃ conn, call = .rechecking conn) ∨
      (∃ conn, call = .charging conn ∧
        pool'.memoryMonitor = pool.memoryMonitor.charge connSize ∧
        (pool.memoryMonitor.currentUsage + connSize ≤ pool.memoryMonitor.memoryLimit →
          call' = .counting conn)) ∨
      pool'.memoryMonitor.currentUsage = pool.memoryMonitor.currentUsage ∧
        call'.charged + call.entering = call.charged + call.leaving ∧
        ∀ conn, call' ≠ .rechecking conn := by
  cases call with
  | rechecking conn => exact .inl ⟨conn, rfl⟩
  | charging conn =>
    cases hcall
    exact .inr (.inl ⟨conn, rfl, rfl, fun hfits ↦ if_neg (UInt64.not_lt.mpr hfits)⟩)
  | asking | comparing | creating =>
    simp only [advance] at hcall
    split at hcall <;> cases hcall <;> exact .inr (.inr ⟨rfl, rfl, by simp⟩)
  | counting conn =>
    cases hcall
    exact .inr (.inr ⟨MemoryMonitor.currentUsage_countFor .., rfl, by simp⟩)
  | registering conn | borrowing conn | returning conn =>
    cases hcall
    exact .inr (.inr ⟨rfl, rfl, by simp⟩)
  | returned => cases hcall
  | failed error => cases hcall

theorem react_cases {s s' : Users} {action : Action} {e : Unit}
    (h : react action s = some (s', e)) :
    action = .getConnection ∧ s'.pool = s.pool ∧ s'.calls.Perm (.asking :: s.calls) ∨
      action = .cleanup ∧ s'.pool = s.pool.cleanup ∧ s'.calls = s.calls ∨
      ∃ k failure call call' rest, action = .resume k failure ∧ s.calls[k]? = some call ∧
        s.pool.advance failure call = some (s'.pool, call') ∧
        s.calls.Perm (call :: rest) ∧ s'.calls.Perm (call' :: rest) := by
  cases action with
  | getConnection =>
    cases h
    exact .inl ⟨rfl, rfl, List.perm_append_comm⟩
  | cleanup =>
    cases h
    exact .inr (.inl ⟨rfl, rfl, rfl⟩)
  | resume k failure =>
    simp only [react, Option.bind_eq_bind, Option.bind_eq_some_iff] at h
    obtain ⟨call, hk, ⟨pool', call'⟩, hcall, heq⟩ := h
    cases heq
    obtain ⟨hlt, hget⟩ := List.getElem?_eq_some_iff.mp hk
    refine .inr (.inr ⟨k, failure, call, call', s.calls.eraseIdx k, rfl, hk, hcall, ?_,
      List.set_perm_cons_eraseIdx hlt call'⟩)
    rw [← hget]
    exact (List.getElem_cons_eraseIdx_perm hlt).symm

theorem Distinct.react {s s' : Users} {action : Action} {e : Unit} (h : Distinct s.pool s.calls)
    (hreact : react action s = some (s', e)) : Distinct s'.pool s'.calls := by
  obtain ⟨-, hpool, hcalls⟩ | ⟨-, hpool, hcalls⟩ |
    ⟨k, failure, call, call', rest, -, -, hcall, hbefore, hafter⟩ := react_cases hreact
  · rw [hpool]
    exact h.getConnection.perm hcalls.symm
  · rw [hpool, hcalls]
    exact h.cleanup
  · exact ((h.perm hbefore).advance hcall).perm hafter.symm

namespace Users

def start (maxSize : ℕ) (memoryLimitMb : UInt64) : Users :=
  ⟨.new maxSize (.new memoryLimitMb), []⟩

def inTransit (s : Users) : ℕ := (s.calls.map Call.inTransit).sum

/-- The connections that the pool owns, including those that are on their way into one of its
lists. -/
def owned (s : Users) : ℕ := s.pool.size + (s.calls.map Call.charged).sum

/-- A call that is admitted finds room beside the connections that are on their way. -/
def Roomy (s : Users) : Action → Prop
  | .resume k _ => s.calls[k]? = some .comparing → s.pool.active.length < s.pool.maxSize →
      s.pool.size + s.inTransit < s.pool.maxSize
  | _ => True

/-- A new connection is within the memory limit, and a cleanup throws no connection away. -/
def Retaining (s : Users) : Action → Prop
  | .resume k _ => s.calls[k]?.any Call.isCharging →
      s.pool.memoryMonitor.currentUsage.toNat + connSize.toNat ≤
        s.pool.memoryMonitor.memoryLimit.toNat
  | .cleanup => s.pool.available.length ≤ 1
  | .getConnection => True

instance (s : Users) : (action : Action) → Decidable (s.Roomy action)
  | .resume _ _ => inferInstanceAs (Decidable (_ → _ → _))
  | .cleanup => .isTrue trivial
  | .getConnection => .isTrue trivial

instance (s : Users) : (action : Action) → Decidable (s.Retaining action)
  | .resume _ _ => inferInstanceAs (Decidable (_ → _))
  | .cleanup => inferInstanceAs (Decidable (_ ≤ _))
  | .getConnection => .isTrue trivial

theorem sum_of_perm (f : Call → ℕ) (h : calls.Perm (call :: calls')) :
    (calls.map f).sum = f call + (calls'.map f).sum :=
  (h.map f).sum_eq.trans List.sum_cons

theorem size_cleanup_le (pool : ConnectionPool) : pool.cleanup.size ≤ pool.size :=
  Nat.add_le_add_left (List.length_take_le' _ _) _

structure Bounded (maxSize : ℕ) (s : Users) : Prop where
  distinct : Distinct s.pool s.calls
  maxSize_eq : s.pool.maxSize = maxSize
  room : s.pool.size + s.inTransit ≤ maxSize

variable {s s' : Users} {action : Action} {e : Unit} {maxSize : ℕ}

theorem Bounded.react (h : Bounded maxSize s) (hroomy : s.Roomy action)
    (hreact : react action s = some (s', e)) : Bounded maxSize s' := by
  have hroom := h.room
  obtain ⟨-, hpool, hcalls⟩ | ⟨-, hpool, hcalls⟩ |
    ⟨k, failure, call, call', rest, rfl, hk, hcall, hbefore, hafter⟩ := react_cases hreact
  · refine ⟨h.distinct.react hreact, by rw [hpool, h.maxSize_eq], ?_⟩
    rw [inTransit, sum_of_perm _ hcalls, hpool]
    exact (Nat.add_left_cancel_iff.mpr (Nat.zero_add _)).trans_le hroom
  · refine ⟨h.distinct.react hreact, by rw [hpool]; exact h.maxSize_eq, ?_⟩
    rw [inTransit, hcalls, hpool]
    exact (Nat.add_le_add_right (size_cleanup_le _) _).trans hroom
  · have hsize := size_advance (h.distinct.perm hbefore) hcall
    obtain ⟨hmax, hmoved | ⟨rfl, hactive, hnew⟩⟩ := inTransit_advance hcall
    · refine ⟨h.distinct.react hreact, hmax.trans h.maxSize_eq, ?_⟩
      rw [inTransit, sum_of_perm _ hbefore] at hroom
      rw [inTransit, sum_of_perm _ hafter]
      omega
    · -- The call is admitted: the step is where the condition is needed.
      have hadmitted := hroomy hk hactive
      have hmaxSize := h.maxSize_eq
      refine ⟨h.distinct.react hreact, hmax.trans h.maxSize_eq, ?_⟩
      rw [inTransit, sum_of_perm _ hbefore] at hadmitted
      rw [inTransit, sum_of_perm _ hafter]
      simp only [Call.leaving, Call.entering, Call.inTransit] at hsize hadmitted
      omega

/-- What is charged is what the pool owns, and no call is about to be refused. -/
structure Charged (s : Users) : Prop where
  distinct : Distinct s.pool s.calls
  granted : ∀ conn, .rechecking conn ∉ s.calls
  charged : s.pool.memoryMonitor.currentUsage.toNat = connSize.toNat * s.owned

theorem Charged.react (h : Charged s) (hretaining : s.Retaining action)
    (hreact : react action s = some (s', e)) : Charged s' := by
  have hcharged := h.charged
  obtain ⟨-, hpool, hcalls⟩ | ⟨rfl, hpool, hcalls⟩ |
    ⟨k, failure, call, call', rest, rfl, hk, hcall, hbefore, hafter⟩ := react_cases hreact
  · refine ⟨h.distinct.react hreact, fun conn hconn ↦ ?_, ?_⟩
    · exact h.granted conn (by simpa using hcalls.subset hconn)
    · have hasking : Call.charged .asking = 0 := rfl
      rw [owned, sum_of_perm _ hcalls, hpool, hcharged, owned, hasking, Nat.zero_add]
  · have hkept : s.pool.cleanup.size = s.pool.size := by
      change s.pool.available.length ≤ 1 at hretaining
      simp only [size, ConnectionPool.cleanup, List.length_take]
      omega
    refine ⟨h.distinct.react hreact, by rw [hcalls]; exact h.granted, ?_⟩
    rw [owned, hcalls, hpool, hkept]
    exact hcharged
  · have hsize := size_advance (h.distinct.perm hbefore) hcall
    have hrest : ∀ conn, .rechecking conn ∉ rest :=
      fun conn hconn ↦ h.granted conn (hbefore.symm.subset (List.mem_cons_of_mem _ hconn))
    have hnone {new : Call} (hnew : ∀ conn, new ≠ .rechecking conn) (conn : PoolConnection) :
        .rechecking conn ∉ new :: rest := by
      intro hconn
      rcases List.mem_cons.mp hconn with heq | hconn
      · exact hnew conn heq.symm
      · exact hrest conn hconn
    obtain ⟨conn, rfl⟩ | ⟨conn, rfl, hmonitor, hfits⟩ | ⟨husage, hmoved, hnew⟩ :=
      charged_advance hcall
    · exact absurd (List.mem_of_getElem? hk) (h.granted conn)
    · -- The new connection is charged and within the limit.
      have hlimit := hretaining (by rw [hk]; rfl)
      have hlt := s.pool.memoryMonitor.memoryLimit.toNat_lt
      have hsum : (s.pool.memoryMonitor.currentUsage + connSize).toNat =
          s.pool.memoryMonitor.currentUsage.toNat + connSize.toNat := by
        rw [UInt64.toNat_add]
        exact Nat.mod_eq_of_lt (by omega)
      obtain rfl := hfits (by rw [UInt64.le_iff_toNat_le, hsum]; exact hlimit)
      refine ⟨h.distinct.react hreact,
        fun c hc ↦ hnone (by simp) c (hafter.subset hc), ?_⟩
      have howned : s'.owned = s.owned + 1 := by
        rw [owned, owned, sum_of_perm _ hafter, sum_of_perm _ hbefore]
        simp only [Call.leaving, Call.entering, Call.charged] at hsize ⊢
        omega
      rw [hmonitor, MemoryMonitor.currentUsage_charge, hsum, hcharged, howned, Nat.mul_add,
        Nat.mul_one]
    · refine ⟨h.distinct.react hreact, fun c hc ↦ hnone hnew c (hafter.subset hc), ?_⟩
      rw [owned, sum_of_perm _ hbefore] at hcharged
      rw [husage, hcharged, owned, sum_of_perm _ hafter]
      congr 1
      omega

end Users

/-- No connection is with two borrowers at once, the pool stays within its size if every admitted
call finds room, and the monitor is charged for the connections that the pool owns if memory is
neither refused nor thrown away with its connection. -/
theorem pool_kept_within_bounds (maxSize : ℕ) (memoryLimitMb : UInt64) (actions : List Action) :
    let start : Journal Users Unit := ⟨.start maxSize memoryLimitMb, []⟩
    let s := (start.run ConnectionPool.react actions).state
    (s.calls.flatMap Call.borrowed).Nodup ∧ s.pool.active.Perm (s.calls.flatMap Call.borrowed) ∧
      (Journal.Along ConnectionPool.react Users.Roomy start actions →
        s.pool.active.length + s.pool.available.length ≤ maxSize) ∧
      (Journal.Along ConnectionPool.react Users.Retaining start actions →
        s.pool.memoryMonitor.currentUsage.toNat = 1024 * s.owned) := by
  intro start s
  have hdistinct : Distinct s.pool s.calls :=
    Journal.run_invariant (x := start)
      (fun _ s _ _ _ (h : Distinct s.pool s.calls) hreact ↦ h.react hreact) (Distinct.new _ _)
      actions
  refine ⟨?_, hdistinct.active, fun hactions ↦ ?_, fun hactions ↦ ?_⟩
  · exact ((borrowed_sublist_carried _).trans (List.sublist_append_right _ _)).nodup hdistinct.nodup
  · have hbounded : Users.Bounded maxSize s :=
      Journal.run_along (fun _ s _ _ _ (h : Users.Bounded maxSize s) ha hreact ↦ h.react ha hreact)
        ⟨Distinct.new _ _, rfl, Nat.zero_le _⟩ hactions
    exact (Nat.le_add_right _ _).trans hbounded.room
  · have hcharged : s.Charged :=
      Journal.run_along (fun _ s _ _ _ (h : s.Charged) ha hreact ↦ h.react ha hreact)
        ⟨Distinct.new _ _, by simp [start, Users.start], rfl⟩ hactions
    exact hcharged.charged

def reuse : List Action :=
  .getConnection :: List.replicate 8 (.resume 0 none) ++
    [.cleanup, .getConnection, .resume 1 none]

theorem pool_kept_in_reuse :
    let s := (Journal.run ConnectionPool.react ⟨Users.start 1 1, []⟩ reuse).state
    s.pool.active.length + s.pool.available.length ≤ 1 ∧
      s.pool.memoryMonitor.currentUsage.toNat = 1024 * s.owned := by
  obtain ⟨-, -, hroom, hcharged⟩ := pool_kept_within_bounds 1 1 reuse
  exact ⟨hroom (by decide), hcharged (by decide)⟩

/-- Two calls that compare before either registers its connection exceed the maximum of one, and a
cleanup leaves the charge for the connection that it throws away. -/
theorem pool_out_of_bounds :
    (Journal.run ConnectionPool.react ⟨Users.start 1 1, []⟩
        ([.getConnection, .getConnection] ++ List.replicate 2 (.resume 0 none) ++
          List.replicate 6 (.resume 1 none) ++ List.replicate 4 (.resume 0 none))).state.pool.active
        = [0, 1] ∧
      let s := (Journal.run ConnectionPool.react ⟨Users.start 2 1, []⟩
        ([.getConnection, .getConnection] ++ List.replicate 6 (.resume 0 none) ++
          List.replicate 8 (.resume 1 none) ++ List.replicate 2 (.resume 0 none) ++
          [.cleanup])).state
      s.owned = 1 ∧ s.pool.memoryMonitor.currentUsage = 2048 := by
  decide

end ConnectionPool

end Knust.Application
