import Knust.Foundation.Reactive
import Mathlib.Algebra.Order.BigOperators.Group.List
import Mathlib.Algebra.Order.Ring.Nat
import Mathlib.Data.List.Perm.Basic

namespace Knust.Application

open Foundation

inductive Component
  | transport
  | protocol
  | device
  | security
  | configuration
  | discovery
  | application
  | queue
  deriving DecidableEq

def Component.tracked : Component → Bool
  | .transport | .protocol | .device | .application | .security => true
  | _ => false

structure ComponentMemoryUsage where
  transport : UInt64 := 0
  protocol : UInt64 := 0
  device : UInt64 := 0
  application : UInt64 := 0
  security : UInt64 := 0
  deriving DecidableEq

namespace ComponentMemoryUsage

def modify (f : UInt64 → UInt64) (usage : ComponentMemoryUsage) :
    Component → ComponentMemoryUsage
  | .transport => { usage with transport := f usage.transport }
  | .protocol => { usage with protocol := f usage.protocol }
  | .device => { usage with device := f usage.device }
  | .application => { usage with application := f usage.application }
  | .security => { usage with security := f usage.security }
  | _ => usage

def figure (usage : ComponentMemoryUsage) : Component → UInt64
  | .transport => usage.transport
  | .protocol => usage.protocol
  | .device => usage.device
  | .application => usage.application
  | .security => usage.security
  | _ => 0

def total (usage : ComponentMemoryUsage) : ℕ :=
  usage.transport.toNat + usage.protocol.toNat + usage.device.toNat +
    usage.application.toNat + usage.security.toNat

theorem figure_modify_self (f : UInt64 → UInt64) (usage : ComponentMemoryUsage) {c : Component}
    (hc : c.tracked) : (usage.modify f c).figure c = f (usage.figure c) := by
  cases c <;> first | rfl | cases hc

theorem figure_modify_of_ne (f : UInt64 → UInt64) (usage : ComponentMemoryUsage)
    {c d : Component} (hne : c ≠ d) : (usage.modify f d).figure c = usage.figure c := by
  cases d <;> cases c <;> first | rfl | exact absurd rfl hne

end ComponentMemoryUsage

inductive MemoryError
  | limitExceeded (current limit : UInt64)
  | poolExhausted (maxSize currentSize : ℕ)
  | connectionCreationFailed (reason : String)
  deriving DecidableEq

structure MemoryMonitor where
  currentUsage : UInt64
  peakUsage : UInt64
  memoryLimit : UInt64
  componentUsage : ComponentMemoryUsage
  deriving DecidableEq

def saturatingSub (x y : UInt64) : UInt64 := if y ≤ x then x - y else 0

namespace MemoryMonitor

def new (memoryLimitMb : UInt64) : MemoryMonitor := ⟨0, 0, memoryLimitMb * 1024 * 1024, {}⟩

/-- The atomic additions of an allocation. Sums wrap around, as they do without overflow
checks. -/
def charge (m : MemoryMonitor) (size : UInt64) : MemoryMonitor :=
  let newUsage := m.currentUsage + size
  { m with
    currentUsage := newUsage
    peakUsage := if newUsage > m.peakUsage then newUsage else m.peakUsage }

def countFor (m : MemoryMonitor) (component : Component) (size : UInt64) : MemoryMonitor :=
  { m with componentUsage := m.componentUsage.modify (· + size) component }

theorem currentUsage_charge (m : MemoryMonitor) (size : UInt64) :
    (m.charge size).currentUsage = m.currentUsage + size := rfl

theorem currentUsage_countFor (m : MemoryMonitor) (component : Component) (size : UInt64) :
    (m.countFor component size).currentUsage = m.currentUsage := rfl

def allocate (m : MemoryMonitor) (component : Component) (size : UInt64) :
    Except MemoryError Unit × MemoryMonitor :=
  let charged := m.charge size
  -- The cleanup in between is a placeholder that frees nothing.
  if m.currentUsage + size > m.memoryLimit ∧ charged.currentUsage > m.memoryLimit then
    (.error (.limitExceeded charged.currentUsage m.memoryLimit), charged)
  else (.ok (), charged.countFor component size)

def deallocate (m : MemoryMonitor) (component : Component) (size : UInt64) : MemoryMonitor :=
  { m with
    currentUsage := m.currentUsage - size
    componentUsage := m.componentUsage.modify (saturatingSub · size) component }

theorem allocate_cases (m : MemoryMonitor) (component : Component) (size : UInt64) :
    (∃ e, m.allocate component size = (.error e, m.charge size)) ∨
      m.currentUsage + size ≤ m.memoryLimit ∧
        m.allocate component size = (.ok (), (m.charge size).countFor component size) := by
  rw [allocate]
  split
  · exact .inl ⟨_, rfl⟩
  · rename_i hlimit
    exact .inr ⟨UInt64.not_lt.mp fun h ↦ hlimit ⟨h, h⟩, rfl⟩

end MemoryMonitor

abbrev Allocation := Component × UInt64

def allocatedTotal (allocations : List Allocation) : ℕ := (allocations.map (·.2.toNat)).sum

def allocatedFor (c : Component) (allocations : List Allocation) : ℕ :=
  allocatedTotal (allocations.filter (·.1 = c))

section Totals

variable {allocations rest : List Allocation} {c d : Component} {size : UInt64}

@[simp] theorem allocatedTotal_cons :
    allocatedTotal ((c, size) :: allocations) = size.toNat + allocatedTotal allocations := by
  simp [allocatedTotal]

theorem allocatedFor_cons_self :
    allocatedFor c ((c, size) :: allocations) = size.toNat + allocatedFor c allocations := by
  simp [allocatedFor]

theorem allocatedFor_cons_of_ne (hne : c ≠ d) :
    allocatedFor c ((d, size) :: allocations) = allocatedFor c allocations := by
  simp [allocatedFor, hne.symm]

theorem allocatedTotal_perm (h : allocations.Perm rest) :
    allocatedTotal allocations = allocatedTotal rest := (h.map _).sum_eq

theorem allocatedFor_perm (h : allocations.Perm rest) :
    allocatedFor c allocations = allocatedFor c rest := allocatedTotal_perm (h.filter _)

theorem allocatedTotal_eq_components (htracked : ∀ x ∈ allocations, x.1.tracked) :
    allocatedTotal allocations = allocatedFor .transport allocations +
      allocatedFor .protocol allocations + allocatedFor .device allocations +
      allocatedFor .application allocations + allocatedFor .security allocations := by
  induction allocations with
  | nil => rfl
  | cons x allocations ih =>
    obtain ⟨c, size⟩ := x
    have hc : c.tracked := htracked (c, size) (by simp)
    have hrest := ih fun x hx ↦ htracked x (by simp [hx])
    cases c <;>
      simp [allocatedFor_cons_self, allocatedFor_cons_of_ne, Component.tracked] at hc ⊢ <;>
      omega

end Totals

structure Accounts (m : MemoryMonitor) (allocations : List Allocation) : Prop where
  tracked : ∀ x ∈ allocations, x.1.tracked
  current : m.currentUsage.toNat = allocatedTotal allocations
  figures : ∀ c, c.tracked → (m.componentUsage.figure c).toNat = allocatedFor c allocations
  peak : m.currentUsage ≤ m.peakUsage
  limit : m.currentUsage ≤ m.memoryLimit

namespace Accounts

variable {m : MemoryMonitor} {allocations rest : List Allocation} {c : Component} {size : UInt64}

theorem new (memoryLimitMb : UInt64) : Accounts (MemoryMonitor.new memoryLimitMb) [] := by
  refine ⟨by simp, rfl, fun c _ ↦ ?_, UInt64.le_refl 0, UInt64.zero_le⟩
  cases c <;> rfl

theorem perm (h : Accounts m allocations) (hperm : allocations.Perm rest) : Accounts m rest :=
  ⟨fun x hx ↦ h.tracked x (hperm.symm.subset hx), h.current.trans (allocatedTotal_perm hperm),
    fun c hc ↦ (h.figures c hc).trans (allocatedFor_perm hperm), h.peak, h.limit⟩

theorem total_eq (h : Accounts m allocations) :
    m.currentUsage.toNat = m.componentUsage.total := by
  rw [h.current, allocatedTotal_eq_components h.tracked, ← h.figures .transport rfl,
    ← h.figures .protocol rfl, ← h.figures .device rfl, ← h.figures .application rfl,
    ← h.figures .security rfl]
  rfl

theorem allocatedFor_le (allocations : List Allocation) (c : Component) :
    allocatedFor c allocations ≤ allocatedTotal allocations :=
  ((List.filter_sublist).map _).sum_le_sum fun _ _ ↦ Nat.zero_le _

theorem allocate (h : Accounts m allocations) (hc : c.tracked)
    (hfits : m.currentUsage.toNat + size.toNat ≤ m.memoryLimit.toNat) :
    ∃ m', m.allocate c size = (.ok (), m') ∧ m'.memoryLimit = m.memoryLimit ∧
      Accounts m' ((c, size) :: allocations) := by
  have hlimit := m.memoryLimit.toNat_lt
  have hsum : (m.currentUsage + size).toNat = m.currentUsage.toNat + size.toNat := by
    rw [UInt64.toNat_add]
    omega
  have hle : m.currentUsage + size ≤ m.memoryLimit := by
    rw [UInt64.le_iff_toNat_le, hsum]
    exact hfits
  have hgranted : ¬ (m.currentUsage + size > m.memoryLimit ∧
      (m.charge size).currentUsage > m.memoryLimit) :=
    fun hexceeded ↦ UInt64.not_lt.mpr hle hexceeded.1
  refine ⟨(m.charge size).countFor c size, by rw [MemoryMonitor.allocate, if_neg hgranted], rfl,
    ?_, ?_, fun d hd ↦ ?_, ?_, hle⟩
  · intro x hx
    rcases List.mem_cons.mp hx with rfl | hx
    · exact hc
    · exact h.tracked x hx
  · change (m.currentUsage + size).toNat = _
    rw [hsum, h.current, allocatedTotal_cons, Nat.add_comm]
  · change ((m.componentUsage.modify (· + size) c).figure d).toNat = _
    by_cases hd' : d = c
    · subst hd'
      have hfigure := h.figures d hd
      have hpart := allocatedFor_le allocations d
      have hcurrent := h.current
      rw [ComponentMemoryUsage.figure_modify_self _ _ hd, allocatedFor_cons_self,
        UInt64.toNat_add]
      omega
    · rw [ComponentMemoryUsage.figure_modify_of_ne _ _ hd', allocatedFor_cons_of_ne hd',
        h.figures d hd]
  · change m.currentUsage + size ≤ if m.currentUsage + size > m.peakUsage then _ else _
    split
    · exact UInt64.le_refl _
    · exact UInt64.not_lt.mp ‹_›

theorem deallocate (h : Accounts m allocations) (hperm : allocations.Perm ((c, size) :: rest)) :
    Accounts (m.deallocate c size) rest := by
  have htotal := allocatedTotal_perm hperm
  rw [allocatedTotal_cons, ← h.current] at htotal
  have hc : c.tracked := h.tracked (c, size) (hperm.symm.subset (by simp))
  have hle : size ≤ m.currentUsage := by
    rw [UInt64.le_iff_toNat_le]
    exact htotal ▸ Nat.le_add_right _ _
  have hdown : m.currentUsage - size ≤ m.currentUsage := by
    rw [UInt64.le_iff_toNat_le, UInt64.toNat_sub_of_le _ _ hle]
    exact Nat.sub_le _ _
  refine ⟨fun x hx ↦ h.tracked x (hperm.symm.subset (List.mem_cons_of_mem _ hx)), ?_,
    fun d hd ↦ ?_, UInt64.le_trans hdown h.peak, UInt64.le_trans hdown h.limit⟩
  · change (m.currentUsage - size).toNat = _
    rw [UInt64.toNat_sub_of_le _ _ hle, htotal, Nat.add_sub_cancel_left]
  · change ((m.componentUsage.modify (saturatingSub · size) c).figure d).toNat = _
    by_cases hd' : d = c
    · subst hd'
      have hfigure := h.figures d hd
      rw [allocatedFor_perm hperm, allocatedFor_cons_self] at hfigure
      have hpart : size ≤ m.componentUsage.figure d := by
        rw [UInt64.le_iff_toNat_le]
        exact hfigure ▸ Nat.le_add_right _ _
      rw [ComponentMemoryUsage.figure_modify_self _ _ hd, saturatingSub, if_pos hpart,
        UInt64.toNat_sub_of_le _ _ hpart, hfigure, Nat.add_sub_cancel_left]
    · rw [ComponentMemoryUsage.figure_modify_of_ne _ _ hd', h.figures d hd,
        allocatedFor_perm hperm, allocatedFor_cons_of_ne hd']

end Accounts

/-- The users of a monitor: what other callers hold, and the frame that the receiving task is
handling. -/
structure MemoryUsers where
  monitor : MemoryMonitor
  held : List Allocation
  frame : Option (List UInt8)

def frameSize (data : List UInt8) : UInt64 := UInt64.ofNat data.length

def MemoryUsers.outstanding (s : MemoryUsers) : List Allocation :=
  s.frame.toList.map (fun data ↦ (.protocol, frameSize data)) ++ s.held

inductive MemoryCall
  | allocate (component : Component) (size : UInt64)
  | deallocate (component : Component) (size : UInt64)
  /-- The receiving task gets a frame. -/
  | receive (data : List UInt8)
  /-- The receiving task has handled its frame. -/
  | handled

inductive MemoryAnswer
  | granted
  | refused (error : MemoryError)
  | released

namespace MemoryUsers

def start (memoryLimitMb : UInt64) : MemoryUsers := ⟨.new memoryLimitMb, [], none⟩

def allocate (s : MemoryUsers) (component : Component) (size : UInt64)
    (granted : MemoryUsers) : MemoryUsers × MemoryAnswer :=
  let result := s.monitor.allocate component size
  match result.1 with
  | .ok _ => ({ granted with monitor := result.2 }, .granted)
  | .error e => ({ s with monitor := result.2 }, .refused e)

/-- Callers name a tracked component and release what they hold. The receiving task drops a frame
without memory and goes on with the next one. -/
def react : Reactor MemoryCall MemoryAnswer MemoryUsers
  | .allocate component size, s =>
    if component.tracked then
      some (s.allocate component size { s with held := (component, size) :: s.held })
    else none
  | .deallocate component size, s =>
    if (component, size) ∈ s.held then
      some ({ s with
        monitor := s.monitor.deallocate component size
        held := s.held.erase (component, size) }, .released)
    else none
  | .receive data, s =>
    match s.frame with
    | none => some (s.allocate .protocol (frameSize data) { s with frame := some data })
    | some _ => none
  | .handled, s =>
    match s.frame with
    | none => none
    | some data => some ({ s with
        monitor := s.monitor.deallocate .protocol (frameSize data)
        frame := none }, .released)

def requested (s : MemoryUsers) : MemoryCall → Option UInt64
  | .allocate component size => if component.tracked then some size else none
  | .receive data => if s.frame = none then some (frameSize data) else none
  | _ => none

def Fits (s : MemoryUsers) (call : MemoryCall) : Prop :=
  ∀ size, s.requested call = some size →
    s.monitor.currentUsage.toNat + size.toNat ≤ s.monitor.memoryLimit.toNat

structure Exact (s : MemoryUsers) : Prop where
  outstanding : s.monitor.currentUsage.toNat = allocatedTotal s.outstanding
  components : s.monitor.currentUsage.toNat = s.monitor.componentUsage.total
  peak : s.monitor.currentUsage ≤ s.monitor.peakUsage

/-- After the call the figures are exact, a refusal has changed none of them, and the receiving
task handles a frame that fits beside the outstanding allocations. -/
def Honest (s : MemoryUsers) (call : MemoryCall) : Prop :=
  ∀ s' answer, react call s = some (s', answer) →
    s'.Exact ∧
    (∀ e, answer = .refused e →
      s'.monitor.currentUsage = s.monitor.currentUsage ∧
        s'.monitor.componentUsage = s.monitor.componentUsage) ∧
    ∀ data, call = .receive data →
      allocatedTotal s.outstanding + data.length ≤ s.monitor.memoryLimit.toNat →
        s'.frame = some data

def Sound (s : MemoryUsers) : Prop := Accounts s.monitor s.outstanding

variable {s s' : MemoryUsers} {answer : MemoryAnswer}

theorem Sound.exact (h : s.Sound) : s.Exact := ⟨h.current, h.total_eq, h.peak⟩

theorem Sound.allocate (h : s.Sound) {c : Component} {size : UInt64} {granted : MemoryUsers}
    (hc : c.tracked) (hfits : s.monitor.currentUsage.toNat + size.toNat ≤
      s.monitor.memoryLimit.toNat)
    (hgranted : granted.outstanding.Perm ((c, size) :: s.outstanding)) :
    ∃ m, s.allocate c size granted = ({ granted with monitor := m }, .granted) ∧
      Sound { granted with monitor := m } := by
  obtain ⟨m, hm, -, haccounts⟩ := Accounts.allocate h hc hfits
  exact ⟨m, by simp [MemoryUsers.allocate, hm], haccounts.perm hgranted.symm⟩

theorem Sound.not_exact_allocate (h : s.Sound) {c : Component} {size : UInt64}
    {granted : MemoryUsers} (hfits : ¬ s.monitor.currentUsage.toNat + size.toNat ≤
      s.monitor.memoryLimit.toNat)
    (hgranted : granted.outstanding.Perm ((c, size) :: s.outstanding)) :
    ¬ (s.allocate c size granted).1.Exact := by
  have hcurrent := s.monitor.currentUsage.toNat_lt
  have hsize := size.toNat_lt
  have hlimit := UInt64.le_iff_toNat_le.mp h.limit
  intro hexact
  have hout := hexact.outstanding
  obtain ⟨e, he⟩ | ⟨hle, hok⟩ := s.monitor.allocate_cases c size
  · -- The usage has grown and the outstanding allocations have not.
    simp only [MemoryUsers.allocate, he] at hout
    change (s.monitor.currentUsage + size).toNat = allocatedTotal s.outstanding at hout
    rw [← h.current, UInt64.toNat_add] at hout
    omega
  · -- Only a sum that wraps around is granted.
    simp only [MemoryUsers.allocate, hok] at hout
    change (s.monitor.currentUsage + size).toNat = allocatedTotal granted.outstanding at hout
    rw [allocatedTotal_perm hgranted, allocatedTotal_cons, ← h.current] at hout
    rw [UInt64.le_iff_toNat_le, hout] at hle
    omega

theorem outstanding_frame (s : MemoryUsers) (data : List UInt8) :
    ({ s with frame := some data } : MemoryUsers).outstanding =
      (.protocol, frameSize data) :: s.held := rfl

theorem outstanding_of_no_frame (hs : s.frame = none) : s.outstanding = s.held := by
  simp [outstanding, hs]

theorem react_of_requested {call : MemoryCall} {size : UInt64}
    (hcall : s.requested call = some size) :
    ∃ c granted, c.tracked ∧ granted.outstanding.Perm ((c, size) :: s.outstanding) ∧
      react call s = some (s.allocate c size granted) ∧
      ∀ data, call = .receive data → granted.frame = some data := by
  cases call with
  | allocate c size' =>
    rw [requested] at hcall
    split at hcall
    · rename_i hc
      cases hcall
      exact ⟨c, { s with held := (c, size) :: s.held }, hc, List.perm_middle,
        by rw [react, if_pos hc], nofun⟩
    · cases hcall
  | receive data =>
    rw [requested] at hcall
    split at hcall
    · rename_i hframe
      cases hcall
      refine ⟨.protocol, { s with frame := some data }, rfl, ?_, by rw [react, hframe], ?_⟩
      · rw [outstanding_frame, outstanding_of_no_frame hframe]
      · intro data' h
        cases h
        rfl
    · cases hcall
  | deallocate c size' => cases hcall
  | handled => cases hcall

theorem react_of_not_requested (h : s.Sound) {call : MemoryCall} (hcall : s.requested call = none)
    (hreact : react call s = some (s', answer)) :
    s'.Sound ∧ answer = .released ∧ ∀ data, call ≠ .receive data := by
  cases call with
  | allocate c size =>
    rw [requested] at hcall
    split at hcall
    · cases hcall
    · rename_i hc
      rw [react, if_neg hc] at hreact
      cases hreact
  | receive data =>
    rw [requested] at hcall
    split at hcall
    · cases hcall
    · rename_i hframe
      obtain ⟨data', hdata⟩ := Option.ne_none_iff_exists'.mp hframe
      rw [react, hdata] at hreact
      cases hreact
  | deallocate c size =>
    rw [react] at hreact
    split at hreact
    · rename_i hheld
      cases hreact
      refine ⟨Accounts.deallocate h ?_, rfl, nofun⟩
      have hperm := (List.perm_cons_erase hheld).append_left
        (s.frame.toList.map fun data ↦ (Component.protocol, frameSize data))
      exact hperm.trans List.perm_middle
    · cases hreact
  | handled =>
    rw [react] at hreact
    split at hreact
    · cases hreact
    · rename_i data hdata
      cases hreact
      refine ⟨Accounts.deallocate h ?_, rfl, nofun⟩
      simp [outstanding, hdata]

theorem Sound.honest_iff (h : s.Sound) (call : MemoryCall) : s.Honest call ↔ s.Fits call := by
  cases hcall : s.requested call with
  | none =>
    refine iff_of_true (fun s' answer hreact ↦ ?_) fun size hsize ↦ ?_
    · obtain ⟨hs', rfl, hno⟩ := react_of_not_requested h hcall hreact
      exact ⟨hs'.exact, nofun, fun data hdata ↦ absurd hdata (hno data)⟩
    · rw [hcall] at hsize
      cases hsize
  | some size =>
    obtain ⟨c, granted, hc, hgranted, hreact, hframe⟩ := react_of_requested hcall
    constructor
    · intro hhonest size' hsize
      rw [hcall] at hsize
      cases hsize
      by_contra hfits
      exact h.not_exact_allocate hfits hgranted (hhonest _ _ hreact).1
    · intro hfits s' answer hreact'
      obtain ⟨m, hm, hsound⟩ := h.allocate hc (hfits size hcall) hgranted
      rw [hreact, hm] at hreact'
      cases hreact'
      exact ⟨hsound.exact, nofun, fun data hdata _ ↦ hframe data hdata⟩

theorem Sound.react (h : s.Sound) {call : MemoryCall} (hfits : s.Fits call)
    (hreact : react call s = some (s', answer)) : s'.Sound := by
  cases hcall : s.requested call with
  | none => exact (react_of_not_requested h hcall hreact).1
  | some size =>
    obtain ⟨c, granted, hc, hgranted, hcalled, -⟩ := react_of_requested hcall
    obtain ⟨m, hm, hsound⟩ := h.allocate hc (hfits size hcall) hgranted
    rw [hcalled, hm] at hreact
    cases hreact
    exact hsound

theorem sound_start (memoryLimitMb : UInt64) : (start memoryLimitMb).Sound :=
  Accounts.new memoryLimitMb

/-- All calls of a run are answered honestly exactly if each of them fits. -/
theorem honest_iff_all_fit (memoryLimitMb : UInt64) (calls : List MemoryCall) :
    Journal.Along MemoryUsers.react Honest ⟨start memoryLimitMb, []⟩ calls ↔
      Journal.Along MemoryUsers.react Fits ⟨start memoryLimitMb, []⟩ calls :=
  Journal.along_iff (fun _ call h ↦ Sound.honest_iff h call) (fun _ _ _ _ h hfits ↦ h.react hfits)
    (sound_start memoryLimitMb) calls

/-- A refused frame of six bytes remains counted when nothing is allocated any more, and a later
frame that fits is dropped. -/
theorem refused_frame_remains_counted :
    let refused := Journal.run MemoryUsers.react ⟨start 1, []⟩
      [.allocate .transport 1048576, .receive [6, 16, 5, 48, 0, 6],
        .deallocate .transport 1048576]
    let later := refused.run MemoryUsers.react
      [.allocate .transport 1048570, .receive [6, 16, 5, 48, 0, 6]]
    refused.state.outstanding = [] ∧ refused.state.monitor.currentUsage = 6 ∧
      refused.state.monitor.componentUsage.total = 0 ∧
      allocatedTotal later.state.outstanding + 6 ≤ later.state.monitor.memoryLimit.toNat ∧
      later.state.frame = none := by
  decide

end MemoryUsers

end Knust.Application
