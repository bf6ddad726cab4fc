import Knust.Foundation.Rotation
import Knust.Protocol.Address
import Knust.Protocol.Dpt.Codec

namespace Knust.Protocol.Dpt

open Foundation

/-- The state of a registered address. Times and durations are counted in nanoseconds. -/
structure Binding where
  dpt : DptType
  ttl : Option ℕ
  lastSeen : Option ℕ
  lastSeenValue : Option (List UInt8)
  lastTried : Option ℕ
  deriving DecidableEq

def Binding.isStale (now : ℕ) (binding : Binding) : Bool :=
  match binding.ttl with
  | none => false
  | some ttl =>
    match binding.lastSeen with
    | some lastSeen => now - lastSeen ≥ ttl
    | none => true

def compareTried : Option ℕ → Option ℕ → Ordering
  | none, none => .eq
  | none, some _ => .lt
  | some _, none => .gt
  | some x, some y => compare x y

/-- A hash map, of which only the entries are seen. -/
abbrev GroupAddressRegistry := GroupAddress → Option Binding

namespace GroupAddressRegistry

def new : GroupAddressRegistry := fun _ ↦ none

def register (registry : GroupAddressRegistry) (address : GroupAddress) (dpt : DptType) :
    Result Unit × GroupAddressRegistry :=
  match registry address with
  | some existing =>
    if existing.dpt ≠ dpt then
      let shown := address.toString
      let bound := existing.dpt.numberStr
      let number := dpt.numberStr
      let reason := s!"is already registered as DPT {bound} (cannot rebind to DPT {number})"
      (dpt.dptError s!"group address {shown} {reason}", registry)
    else (.ok (), registry)
  | none => (.ok (), Function.update registry address (some ⟨dpt, none, none, none, none⟩))

def get (registry : GroupAddressRegistry) (address : GroupAddress) : Option DptType :=
  (registry address).map Binding.dpt

def unregister (registry : GroupAddressRegistry) (address : GroupAddress) :
    Option DptType × GroupAddressRegistry :=
  (registry.get address, Function.update registry address none)

def setRefreshTtl (registry : GroupAddressRegistry) (address : GroupAddress) (ttl : Option ℕ) :
    Result Unit × GroupAddressRegistry :=
  match registry address with
  | some binding => (.ok (), Function.update registry address (some { binding with ttl }))
  | none =>
    let shown := address.toString
    (.err (.protocol (.dptError ""
      s!"group address {shown} is not registered; register it before configuring a refresh TTL")),
      registry)

def recordSeen (registry : GroupAddressRegistry) (now : ℕ) (address : GroupAddress)
    (value : List UInt8) : GroupAddressRegistry :=
  match registry address with
  | some binding => Function.update registry address
      (some { binding with lastSeen := some now, lastSeenValue := some value })
  | none => registry

def recordTried (registry : GroupAddressRegistry) (now : ℕ) (address : GroupAddress) :
    GroupAddressRegistry :=
  match registry address with
  | some binding => Function.update registry address (some { binding with lastTried := some now })
  | none => registry

/-- The most overdue address. A hash map lists its entries in some order, which is given. -/
def nextStale (registry : GroupAddressRegistry) (order : List GroupAddress) (now : ℕ) :
    Option GroupAddress :=
  let entries := order.filterMap fun address ↦ (registry address).map (address, ·)
  (minBy (fun a b ↦ compareTried a.2.lastTried b.2.lastTried)
    (entries.filter (·.2.isStale now))).map Prod.fst

def modify (registry : GroupAddressRegistry) (address : GroupAddress) (f : Binding → Binding) :
    GroupAddressRegistry :=
  Function.update registry address ((registry address).map f)

/-- The order of the addresses is one in which the registry can list them. -/
def Lists (registry : GroupAddressRegistry) (order : List GroupAddress) : Prop :=
  order.Nodup ∧ ∀ address, address ∈ order ↔ (registry address).isSome

def Stale (registry : GroupAddressRegistry) (now : ℕ) (address : GroupAddress) : Prop :=
  ∃ binding, registry address = some binding ∧ binding.isStale now

def tried (registry : GroupAddressRegistry) (address : GroupAddress) : WithBot ℕ :=
  (registry address).bind Binding.lastTried

variable {registry : GroupAddressRegistry} {order : List GroupAddress} {now : ℕ}
  {address other : GroupAddress}

theorem recordSeen_eq_modify (value : List UInt8) : registry.recordSeen now address value =
    registry.modify address fun binding ↦
      { binding with lastSeen := some now, lastSeenValue := some value } := by
  cases h : registry address with
  | none => simp [recordSeen, modify, h]
  | some binding => simp [recordSeen, modify, h]

theorem recordTried_eq_modify : registry.recordTried now address =
    registry.modify address fun binding ↦ { binding with lastTried := some now } := by
  cases h : registry address with
  | none => simp [recordTried, modify, h]
  | some binding => simp [recordTried, modify, h]

theorem setRefreshTtl_eq_modify (ttl : Option ℕ) : (registry.setRefreshTtl address ttl).2 =
    registry.modify address fun binding ↦ { binding with ttl } := by
  cases h : registry address with
  | none => simp [setRefreshTtl, modify, h]
  | some binding => simp [setRefreshTtl, modify, h]

theorem register_eq_ok_iff {dpt : DptType} :
    (registry.register address dpt).1 = .ok () ↔
      ∀ bound, registry.get address = some bound → bound = dpt := by
  cases h : registry address with
  | none => simp [register, get, h]
  | some binding =>
    by_cases hdpt : binding.dpt = dpt
    · simp [register, get, h, hdpt]
    · simp [register, get, h, hdpt, DptType.dptError]

theorem exists_register_eq_err_iff {dpt : DptType} :
    (∃ e, (registry.register address dpt).1 = .err e) ↔
      ∃ bound, registry.get address = some bound ∧ bound ≠ dpt := by
  cases h : registry address with
  | none => simp [register, get, h]
  | some binding =>
    by_cases hdpt : binding.dpt = dpt
    · simp [register, get, h, hdpt]
    · simp [register, get, h, hdpt, DptType.dptError]

theorem register_of_bound {dpt : DptType} (h : registry.get address ≠ none) :
    (registry.register address dpt).2 = registry := by
  cases hbinding : registry address with
  | none => simp [get, hbinding] at h
  | some binding =>
    by_cases hdpt : binding.dpt = dpt <;> simp [register, hbinding, hdpt]

theorem register_of_not_bound {dpt : DptType} (h : registry.get address = none) :
    (registry.register address dpt).2 =
      Function.update registry address (some ⟨dpt, none, none, none, none⟩) := by
  rw [get, Option.map_eq_none_iff] at h
  rw [register, h]

theorem get_register (dpt : DptType) :
    (registry.register address dpt).2.get address = some ((registry.get address).getD dpt) := by
  cases h : registry.get address with
  | none =>
    rw [register_of_not_bound h, get, Function.update_self]
    rfl
  | some bound =>
    rw [register_of_bound (by simp [h]), h]
    rfl

theorem register_of_ne (dpt : DptType) (h : other ≠ address) :
    (registry.register address dpt).2 other = registry other := by
  by_cases hbound : registry.get address = none
  · rw [register_of_not_bound hbound, Function.update_of_ne h]
  · rw [register_of_bound hbound]

theorem get_unregister : (registry.unregister address).2.get address = none := by
  simp [unregister, get]

theorem modify_of_ne (f : Binding → Binding) (h : other ≠ address) :
    registry.modify address f other = registry other := Function.update_of_ne h _ _

theorem map_modify {β : Type} {f : Binding → Binding} {g : Binding → β}
    (h : ∀ binding, g (f binding) = g binding) (b : GroupAddress) :
    (registry.modify address f b).map g = (registry b).map g := by
  by_cases hb : b = address
  · rw [modify, hb, Function.update_self, Option.map_map]
    exact congrArg (Option.map · _) (funext h)
  · rw [modify_of_ne f hb]

theorem get_modify {f : Binding → Binding} (h : ∀ binding, (f binding).dpt = binding.dpt)
    (b : GroupAddress) : (registry.modify address f).get b = registry.get b := map_modify h b

theorem isSome_modify (f : Binding → Binding) (b : GroupAddress) :
    (registry.modify address f b).isSome = (registry b).isSome := by
  by_cases hb : b = address
  · rw [modify, hb, Function.update_self, Option.isSome_map]
  · rw [modify_of_ne f hb]

theorem compareTried_eq_gt_iff {x y : WithBot ℕ} : compareTried x y = .gt ↔ y < x := by
  cases x with
  | bot =>
    cases y with
    | bot => simp [compareTried]
    | coe y => simp [compareTried]
  | coe x =>
    cases y with
    | bot => simp [compareTried]
    | coe y => simp [compareTried, Nat.compare_eq_gt]

theorem mem_entries_iff (horder : registry.Lists order) {binding : Binding} :
    (address, binding) ∈ (order.filterMap fun a ↦ (registry a).map (a, ·)).filter
        (·.2.isStale now) ↔ registry address = some binding ∧ binding.isStale now := by
  rw [List.mem_filter, List.mem_filterMap]
  refine and_congr_left fun _ ↦ ⟨fun h ↦ ?_, fun h ↦ ?_⟩
  · obtain ⟨a, -, ha⟩ := h
    obtain ⟨binding', hbinding, heq⟩ := Option.map_eq_some_iff.mp ha
    obtain ⟨rfl, rfl⟩ := Prod.mk.inj heq
    exact hbinding
  · exact ⟨address, (horder.2 address).mpr (by simp [h]), by simp [h]⟩

theorem nextStale_spec (horder : registry.Lists order)
    (h : registry.nextStale order now = some address) :
    registry.Stale now address ∧
      ∀ b, registry.Stale now b → registry.tried address ≤ registry.tried b := by
  obtain ⟨entry, hentry, rfl⟩ := Option.map_eq_some_iff.mp h
  obtain ⟨address, binding⟩ := entry
  obtain ⟨hbinding, hstale⟩ := (mem_entries_iff horder).mp (minBy_mem hentry)
  refine ⟨⟨binding, hbinding, hstale⟩, fun b hb ↦ ?_⟩
  obtain ⟨binding', hbinding', hstale'⟩ := hb
  let key (entry : GroupAddress × Binding) : WithBot ℕ := entry.2.lastTried
  have hkey (entry entry' : GroupAddress × Binding) :
      compareTried entry.2.lastTried entry'.2.lastTried = .gt ↔ key entry' < key entry :=
    compareTried_eq_gt_iff
  have hle := minBy_le hkey hentry (b, binding')
    ((mem_entries_iff horder).mpr ⟨hbinding', hstale'⟩)
  simpa only [tried, hbinding, hbinding', Option.bind_some] using hle

theorem nextStale_eq_none (horder : registry.Lists order)
    (h : registry.nextStale order now = none) : ¬ registry.Stale now address := by
  intro hstale
  obtain ⟨binding, hbinding⟩ := hstale
  have hmem := (mem_entries_iff horder).mpr hbinding
  rw [minBy_eq_none (Option.map_eq_none_iff.mp h)] at hmem
  exact List.not_mem_nil hmem

end GroupAddressRegistry

end Knust.Protocol.Dpt
