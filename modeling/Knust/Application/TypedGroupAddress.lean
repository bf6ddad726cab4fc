import Mathlib.Data.List.Induction
import Knust.Application.Bus
import Knust.Protocol.Dpt.GroupRegistry
import Knust.Protocol.Dpt.Typed

namespace Knust.Application

open Foundation Protocol Protocol.Dpt

/-- A handle for an address under the data point type of `T`, which cannot be built for another. -/
structure TypedGroupAddress (T : Type) [DptValue T] where
  address : GroupAddress
  dpt : DptType
  dpt_eq : DptValue.dptType T = .ok dpt

def registerGroupAddressDyn (registry : GroupAddressRegistry) (address : GroupAddress)
    (dpt : DptType) : Result Unit × GroupAddressRegistry := registry.register address dpt

def groupAddress (T : Type) [DptValue T] (registry : GroupAddressRegistry)
    (address : GroupAddress) : Result (TypedGroupAddress T) × GroupAddressRegistry :=
  match h : DptValue.dptType T with
  | .ok dpt =>
    let registered := registerGroupAddressDyn registry address dpt
    (registered.1 >>= fun _ ↦ .ok ⟨address, dpt, h⟩, registered.2)
  | .err e => (.err e, registry)
  | .panic => (.panic, registry)

namespace TypedGroupAddress

variable {T V : Type} [DptValue T] [WriteValue V T]

def checkDptCurrent (handle : TypedGroupAddress T) (registry : GroupAddressRegistry) :
    Result Unit :=
  let shown := handle.address.toString
  let number := handle.dpt.numberStr
  match registry.get handle.address with
  | some dpt =>
    if dpt = handle.dpt then .ok ()
    else
      let bound := dpt.numberStr
      let event := s!"was rebound to DPT {bound} after this handle was created for DPT {number}"
      handle.dpt.dptError s!"group address {shown} {event}"
  | none => handle.dpt.dptError s!"group address {shown} is no longer registered (was DPT {number})"

def write (handle : TypedGroupAddress T) (registry : GroupAddressRegistry) (now : ℕ) (value : V)
    (sendTelegram : Telegram → Result Unit) : Result Unit := do
  handle.checkDptCurrent registry
  let telegram ← Telegram.groupWriteValue T now handle.address value
  sendTelegram telegram

def read (handle : TypedGroupAddress T) (registry : GroupAddressRegistry)
    (readGroupValue : GroupAddress → Result (List UInt8)) : Result T := do
  handle.checkDptCurrent registry
  let bytes ← readGroupValue handle.address
  DptValue.decode bytes

def decode (handle : TypedGroupAddress T) (registry : GroupAddressRegistry) (telegram : Telegram) :
    Option (Result T) :=
  if telegram.destination ≠ .group handle.address then none
  else if telegram.telegramType = .groupValueRead then none
  else match handle.checkDptCurrent registry with
    | .ok () => some (DptValue.decode telegram.payload)
    | .err e => some (.err e)
    | .panic => some .panic

variable {handle : TypedGroupAddress T} {registry : GroupAddressRegistry}

theorem get_of_checkDptCurrent (h : handle.checkDptCurrent registry = .ok ()) :
    registry.get handle.address = some handle.dpt := by
  rw [checkDptCurrent] at h
  cases hget : registry.get handle.address with
  | none =>
    rw [hget] at h
    cases h
  | some dpt =>
    simp only [hget] at h
    split at h
    next hdpt => rw [hdpt]
    next => cases h

theorem get_of_write {now : ℕ} {value : V} {sendTelegram : Telegram → Result Unit}
    (h : handle.write registry now value sendTelegram = .ok ()) :
    registry.get handle.address = some handle.dpt := by
  obtain ⟨_, hcheck, -⟩ := Outcome.bind_eq_ok.mp h
  exact get_of_checkDptCurrent hcheck

theorem get_of_decode {telegram : Telegram} {value : T}
    (h : handle.decode registry telegram = some (.ok value)) :
    registry.get handle.address = some handle.dpt := by
  rw [decode] at h
  split at h
  next => cases h
  next =>
    split at h
    next => cases h
    next =>
      cases hcheck : handle.checkDptCurrent registry with
      | ok => exact get_of_checkDptCurrent hcheck
      | err =>
        rw [hcheck] at h
        cases h
      | panic =>
        rw [hcheck] at h
        cases h

end TypedGroupAddress

inductive RegistryCall
  | register (address : GroupAddress) (dpt : DptType)
  | unregister (address : GroupAddress)
  | setRefreshTtl (address : GroupAddress) (ttl : Option ℕ)
  | recordSeen (now : ℕ) (address : GroupAddress) (value : List UInt8)
  | recordTried (now : ℕ) (address : GroupAddress)

namespace RegistryCall

def address : RegistryCall → GroupAddress
  | .register address _ => address
  | .unregister address => address
  | .setRefreshTtl address _ => address
  | .recordSeen _ address _ => address
  | .recordTried _ address => address

def apply (registry : GroupAddressRegistry) : RegistryCall → GroupAddressRegistry
  | .register address dpt => (registry.register address dpt).2
  | .unregister address => (registry.unregister address).2
  | .setRefreshTtl address ttl => (registry.setRefreshTtl address ttl).2
  | .recordSeen now address value => registry.recordSeen now address value
  | .recordTried now address => registry.recordTried now address

end RegistryCall

def after (calls : List RegistryCall) : GroupAddressRegistry :=
  calls.foldl RegistryCall.apply .new

/-- The call after `before` registered the address, and no later one removed it. -/
def Unbroken (calls : List RegistryCall) (address : GroupAddress) (dpt : DptType)
    (before : List RegistryCall) : Prop :=
  ∃ later, calls = before ++ .register address dpt :: later ∧
    ((after before).register address dpt).1 = .ok () ∧ .unregister address ∉ later

/-- The first successful registration of an address since it was last removed. -/
def FirstUnbroken (calls : List RegistryCall) (address : GroupAddress) (dpt : DptType)
    (before : List RegistryCall) : Prop :=
  Unbroken calls address dpt before ∧
    ∀ before' dpt', Unbroken calls address dpt' before' → before.length ≤ before'.length

section

variable {calls before : List RegistryCall} {call : RegistryCall} {address : GroupAddress}
  {dpt : DptType} {registry : GroupAddressRegistry}

theorem after_concat (calls : List RegistryCall) (call : RegistryCall) :
    after (calls ++ [call]) = call.apply (after calls) := by
  rw [after, List.foldl_append]
  rfl

theorem RegistryCall.apply_of_ne {b : GroupAddress} (h : b ≠ call.address) :
    call.apply registry b = registry b := by
  cases call with
  | register a dpt => exact registry.register_of_ne dpt h
  | unregister a => exact Function.update_of_ne h _ _
  | setRefreshTtl a ttl =>
    rw [apply, GroupAddressRegistry.setRefreshTtl_eq_modify]
    exact GroupAddressRegistry.modify_of_ne _ h
  | recordSeen now a value =>
    rw [apply, GroupAddressRegistry.recordSeen_eq_modify]
    exact GroupAddressRegistry.modify_of_ne _ h
  | recordTried now a =>
    rw [apply, GroupAddressRegistry.recordTried_eq_modify]
    exact GroupAddressRegistry.modify_of_ne _ h

theorem RegistryCall.get_apply (hregister : ∀ dpt, call ≠ .register address dpt)
    (hunregister : call ≠ .unregister address) :
    (call.apply registry).get address = registry.get address := by
  cases call with
  | register a dpt =>
    have hne : address ≠ a := fun h ↦ hregister dpt (by rw [h])
    rw [GroupAddressRegistry.get, apply_of_ne hne, GroupAddressRegistry.get]
  | unregister a =>
    have hne : address ≠ a := fun h ↦ hunregister (by rw [h])
    rw [GroupAddressRegistry.get, apply_of_ne hne, GroupAddressRegistry.get]
  | setRefreshTtl a ttl =>
    rw [apply, GroupAddressRegistry.setRefreshTtl_eq_modify, GroupAddressRegistry.get_modify]
    exact fun _ ↦ rfl
  | recordSeen now a value =>
    rw [apply, GroupAddressRegistry.recordSeen_eq_modify, GroupAddressRegistry.get_modify]
    exact fun _ ↦ rfl
  | recordTried now a =>
    rw [apply, GroupAddressRegistry.recordTried_eq_modify, GroupAddressRegistry.get_modify]
    exact fun _ ↦ rfl

theorem unbroken_concat_iff : Unbroken (calls ++ [call]) address dpt before ↔
    (call ≠ .unregister address ∧ Unbroken calls address dpt before) ∨
      (call = .register address dpt ∧ before = calls ∧
        ((after calls).register address dpt).1 = .ok ()) := by
  constructor
  · intro h
    obtain ⟨later, hcalls, hok, hlater⟩ := h
    rcases List.eq_nil_or_concat' later with rfl | ⟨later', last, rfl⟩
    · obtain ⟨rfl, hcall⟩ := List.append_inj' hcalls rfl
      exact .inr ⟨List.singleton_inj.mp hcall, rfl, hok⟩
    · rw [← List.cons_append, ← List.append_assoc] at hcalls
      obtain ⟨rfl, hcall⟩ := List.append_inj' hcalls rfl
      rw [List.mem_append, not_or, List.mem_singleton, ← List.singleton_inj.mp hcall] at hlater
      exact .inl ⟨Ne.symm hlater.2, later', rfl, hok, hlater.1⟩
  · intro h
    rcases h with ⟨hcall, later, rfl, hok, hlater⟩ | ⟨rfl, rfl, hok⟩
    · refine ⟨later ++ [call], by simp, hok, ?_⟩
      rw [List.mem_append, not_or, List.mem_singleton]
      exact ⟨hlater, hcall.symm⟩
    · exact ⟨[], rfl, hok, List.not_mem_nil⟩

theorem Unbroken.length_lt (h : Unbroken calls address dpt before) :
    before.length < calls.length := by
  obtain ⟨later, rfl, -⟩ := h
  simp

theorem get_after (calls : List RegistryCall) (address : GroupAddress) :
    ((after calls).get address = none → ∀ dpt before, ¬ Unbroken calls address dpt before) ∧
    ∀ dpt, (after calls).get address = some dpt →
      ∃ before, FirstUnbroken calls address dpt before := by
  induction calls using List.reverseRecOn with
  | nil =>
    refine ⟨fun _ dpt before h ↦ absurd h.length_lt (Nat.not_lt_zero _), fun dpt h ↦ ?_⟩
    cases h
  | append_singleton calls call ih =>
    obtain ⟨hnone, hsome⟩ := ih
    rw [after_concat]
    by_cases hunregister : call = .unregister address
    · have hbroken (dpt before) : ¬ Unbroken (calls ++ [call]) address dpt before := by
        rw [unbroken_concat_iff, hunregister]
        simp
      have hget : (call.apply (after calls)).get address = none := by
        rw [hunregister]
        exact GroupAddressRegistry.get_unregister
      refine ⟨fun _ ↦ hbroken, fun dpt hdpt ↦ ?_⟩
      rw [hget] at hdpt
      cases hdpt
    have hkeep {dpt before} (h : Unbroken calls address dpt before) :
        Unbroken (calls ++ [call]) address dpt before :=
      unbroken_concat_iff.mpr (.inl ⟨hunregister, h⟩)
    -- A call that registers the address once more comes after the first one.
    have hfirst {dpt before} (h : FirstUnbroken calls address dpt before) :
        FirstUnbroken (calls ++ [call]) address dpt before := by
      refine ⟨hkeep h.1, fun before' dpt' h' ↦ ?_⟩
      rcases unbroken_concat_iff.mp h' with ⟨-, h'⟩ | ⟨-, rfl, -⟩
      · exact h.2 before' dpt' h'
      · exact h.1.length_lt.le
    by_cases hregister : ∃ dpt, call = .register address dpt
    · obtain ⟨new, rfl⟩ := hregister
      rw [RegistryCall.apply, GroupAddressRegistry.get_register]
      refine ⟨fun h ↦ absurd h (Option.some_ne_none _), fun dpt hdpt ↦ ?_⟩
      cases hget : (after calls).get address with
      | some bound =>
        rw [hget] at hdpt
        obtain ⟨before, hbefore⟩ := hsome bound hget
        exact ⟨before, Option.some.inj hdpt ▸ hfirst hbefore⟩
      | none =>
        rw [hget] at hdpt
        obtain rfl : new = dpt := Option.some.inj hdpt
        have hok : ((after calls).register address new).1 = .ok () := by
          rw [GroupAddressRegistry.register_eq_ok_iff, hget]
          simp
        refine ⟨calls, unbroken_concat_iff.mpr (.inr ⟨rfl, rfl, hok⟩), fun before' dpt' h' ↦ ?_⟩
        rcases unbroken_concat_iff.mp h' with ⟨-, h'⟩ | ⟨-, rfl, -⟩
        · exact absurd h' (hnone hget dpt' before')
        · exact le_rfl
    · rw [not_exists] at hregister
      rw [RegistryCall.get_apply hregister hunregister]
      refine ⟨fun hget dpt before h ↦ ?_, fun dpt hget ↦ ?_⟩
      · rcases unbroken_concat_iff.mp h with ⟨-, h⟩ | ⟨hcall, -⟩
        · exact hnone hget dpt before h
        · exact hregister dpt hcall
      · obtain ⟨before, hbefore⟩ := hsome dpt hget
        exact ⟨before, hfirst hbefore⟩

theorem get_after_eq_some_iff : (after calls).get address = some dpt ↔
    ∃ before, FirstUnbroken calls address dpt before := by
  obtain ⟨hnone, hsome⟩ := get_after calls address
  refine ⟨hsome dpt, fun h ↦ ?_⟩
  obtain ⟨before, hbefore⟩ := h
  cases hget : (after calls).get address with
  | none => exact absurd hbefore.1 (hnone hget dpt before)
  | some bound =>
    obtain ⟨before', hbefore'⟩ := hsome bound hget
    have hlength := (hbefore'.2 before dpt hbefore.1).antisymm (hbefore.2 before' bound hbefore'.1)
    obtain ⟨later, hcalls, -⟩ := hbefore.1
    obtain ⟨later', hcalls', -⟩ := hbefore'.1
    obtain ⟨-, hsame⟩ := List.append_inj (hcalls'.symm.trans hcalls) hlength
    rw [(RegistryCall.register.inj (List.cons.inj hsame).1).2]

end

/-- The registry after any calls: what each address is bound to, which registrations fail, that
no call touches another address, and that a handle works only under its own type. -/
theorem registry_follows_history (calls : List RegistryCall) :
    (∀ address dpt, (after calls).get address = some dpt ↔
      ∃ before, FirstUnbroken calls address dpt before) ∧
    (∀ address dpt, (∃ e, ((after calls).register address dpt).1 = .err e) ↔
      ∃ bound, (after calls).get address = some bound ∧ bound ≠ dpt) ∧
    (∀ address dpt, (after calls).get address ≠ none →
      ((after calls).register address dpt).2 = after calls) ∧
    (∀ call : RegistryCall, ∀ other, other ≠ call.address →
      call.apply (after calls) other = after calls other) ∧
    (∀ (T V : Type) [DptValue T] [WriteValue V T] (handle : TypedGroupAddress T) (now : ℕ)
      (value : V) (sendTelegram : Telegram → Result Unit),
      handle.write (after calls) now value sendTelegram = .ok () →
      (after calls).get handle.address = some handle.dpt) ∧
    ∀ (T : Type) [DptValue T] (handle : TypedGroupAddress T) (telegram : Telegram) (value : T),
      handle.decode (after calls) telegram = some (.ok value) →
      (after calls).get handle.address = some handle.dpt := by
  refine ⟨fun _ _ ↦ get_after_eq_some_iff,
    fun _ _ ↦ GroupAddressRegistry.exists_register_eq_err_iff,
    fun _ _ ↦ GroupAddressRegistry.register_of_bound, fun _ _ ↦ RegistryCall.apply_of_ne, ?_, ?_⟩
  · intro T V _ _ handle now value sendTelegram h
    exact TypedGroupAddress.get_of_write h
  · intro T _ handle telegram value h
    exact TypedGroupAddress.get_of_decode h

section

variable {T : Type} [DptValue T] {registry : GroupAddressRegistry} {address : GroupAddress}
  {dpt : DptType} {later : List RegistryCall}

/-- The handle reads, writes and decodes the values of its own address. -/
structure TypedGroupAddress.Usable (handle : TypedGroupAddress T)
    (registry : GroupAddressRegistry) : Prop where
  write : ∀ (V : Type) [WriteValue V T] (now : ℕ) (value : V) sendTelegram,
    handle.write registry now value sendTelegram =
      Telegram.groupWriteValue T now handle.address value >>= sendTelegram
  read : ∀ readGroupValue,
    handle.read registry readGroupValue = readGroupValue handle.address >>= DptValue.decode
  decode : ∀ telegram : Telegram, telegram.destination = .group handle.address →
    telegram.telegramType ≠ .groupValueRead →
    handle.decode registry telegram = some (DptValue.decode telegram.payload)

theorem TypedGroupAddress.usable_of_get {handle : TypedGroupAddress T}
    (h : registry.get handle.address = some handle.dpt) : handle.Usable registry := by
  have hcheck : handle.checkDptCurrent registry = .ok () := by simp [checkDptCurrent, h]
  refine ⟨fun V _ now value sendTelegram ↦ ?_, fun readGroupValue ↦ ?_, fun telegram hto htype ↦ ?_⟩
  · rw [TypedGroupAddress.write, hcheck, Outcome.ok_bind]
  · rw [TypedGroupAddress.read, hcheck, Outcome.ok_bind]
  · simp [TypedGroupAddress.decode, hto, htype, hcheck]

theorem groupAddress_eq (hdpt : DptValue.dptType T = .ok dpt)
    (hregister : (registry.register address dpt).1 = .ok ()) : groupAddress T registry address =
      (.ok ⟨address, dpt, hdpt⟩, (registry.register address dpt).2) := by
  unfold groupAddress
  split
  · rename_i hfound
    cases hdpt.symm.trans hfound
    simp only [registerGroupAddressDyn, hregister, Outcome.ok_bind]
  · rename_i hfound
    cases hdpt.symm.trans hfound
  · rename_i hfound
    cases hdpt.symm.trans hfound

theorem get_foldl_apply (hget : registry.get address = some dpt)
    (hlater : .unregister address ∉ later) :
    (later.foldl RegistryCall.apply registry).get address = some dpt := by
  induction later generalizing registry with
  | nil => exact hget
  | cons call later ih =>
    rw [List.mem_cons, not_or] at hlater
    refine ih ?_ hlater.2
    by_cases hregister : ∃ new, call = .register address new
    · obtain ⟨new, rfl⟩ := hregister
      rw [RegistryCall.apply, GroupAddressRegistry.get_register, hget]
      rfl
    · rw [RegistryCall.get_apply (not_exists.mp hregister) (Ne.symm hlater.1), hget]

/-- A handle is given out unless the address is bound to another type, and stays usable
until the address is unregistered. -/
theorem typed_handle_survives (hdpt : DptValue.dptType T = .ok dpt)
    (hbound : ∀ bound, registry.get address = some bound → bound = dpt)
    (hlater : .unregister address ∉ later) :
    let made := groupAddress T registry address
    ∃ handle, made.1 = .ok handle ∧ handle.address = address ∧
      handle.Usable (later.foldl RegistryCall.apply made.2) := by
  have hregister := GroupAddressRegistry.register_eq_ok_iff.mpr hbound
  have hget : (registry.register address dpt).2.get address = some dpt := by
    rw [GroupAddressRegistry.get_register]
    cases hget : registry.get address with
    | none => rfl
    | some bound => rw [hbound bound hget, Option.getD_some]
  rw [groupAddress_eq hdpt hregister]
  exact ⟨⟨address, dpt, hdpt⟩, rfl, rfl, TypedGroupAddress.usable_of_get (get_foldl_apply hget hlater)⟩

theorem typed_handle_survives_text :
    let made := groupAddress StringAscii .new .temperature
    ∃ handle, made.1 = .ok handle ∧ handle.address = .temperature ∧
      handle.Usable ([.recordTried 0 .temperature].foldl RegistryCall.apply made.2) := by
  have hdpt : DptValue.dptType StringAscii = .ok .stringAscii := by decide +kernel
  exact typed_handle_survives hdpt nofun (by simp)

end

def traffic (registry : GroupAddressRegistry) : Bus.GroupAddressRegistry :=
  fun address ↦ (registry address).map fun binding ↦ ⟨binding.lastSeen, binding.lastSeenValue⟩

end Knust.Application
