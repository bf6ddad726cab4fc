import Knust.Protocol.Dpt.GroupRegistry

namespace Knust.Protocol.Dpt

open Foundation

structure Sighting where
  address : GroupAddress
  value : List UInt8
  now : ℕ

/-- One round of the refresh task, with the order in which the registry lists its addresses and
all readings of the clock. Values may be seen before the attempt is recorded and until the
next round. -/
structure Round where
  order : List GroupAddress
  now : ℕ
  between : List Sighting
  tried : ℕ
  after : List Sighting

def Round.readings (round : Round) : List ℕ :=
  round.now :: (round.between.map Sighting.now ++ round.tried :: round.after.map Sighting.now)

namespace GroupAddressRegistry

def sight (registry : GroupAddressRegistry) (sighting : Sighting) : GroupAddressRegistry :=
  registry.recordSeen sighting.now sighting.address sighting.value

def refresh (registry : GroupAddressRegistry) (round : Round) : GroupAddressRegistry :=
  let seen := round.between.foldl sight registry
  let attempted := match registry.nextStale round.order round.now with
    | some address => seen.recordTried round.tried address
    | none => seen
  round.after.foldl sight attempted

def turns : GroupAddressRegistry → List Round → List (Turn GroupAddress)
  | _, [] => []
  | registry, round :: rounds =>
    ⟨{address | registry.Stale round.now address}, registry.nextStale round.order round.now⟩ ::
      turns (registry.refresh round) rounds

def Recorded (registry : GroupAddressRegistry) (time : ℕ) : Prop :=
  ∃ address binding, registry address = some binding ∧
    (binding.lastSeen = some time ∨ binding.lastTried = some time)

/-- The readings of the clock increase, and the run starts after all times recorded before. -/
structure Timely (registry : GroupAddressRegistry) (rounds : List Round) : Prop where
  increasing : (rounds.flatMap Round.readings).Pairwise (· < ·)
  later : ∀ time, registry.Recorded time → ∀ reading ∈ rounds.flatMap Round.readings, time < reading

variable {registry : GroupAddressRegistry} {now : ℕ} {address : GroupAddress}

theorem tried_eq_join :
    registry.tried address = ((registry address).map Binding.lastTried).join := by
  rw [tried]
  cases registry address <;> rfl

theorem tried_recordSeen (value : List UInt8) :
    (registry.recordSeen now address value).tried = registry.tried := by
  funext b
  rw [tried_eq_join, tried_eq_join, recordSeen_eq_modify, map_modify]
  intro binding
  rfl

theorem foldl_sight (registry : GroupAddressRegistry) (sightings : List Sighting) :
    (sightings.foldl sight registry).tried = registry.tried ∧
      ∀ b, (sightings.foldl sight registry b).isSome = (registry b).isSome := by
  induction sightings generalizing registry with
  | nil => exact ⟨rfl, fun _ ↦ rfl⟩
  | cons sighting sightings ih =>
    obtain ⟨htried, hsome⟩ := ih (registry.sight sighting)
    refine ⟨htried.trans (tried_recordSeen _), fun b ↦ (hsome b).trans ?_⟩
    rw [sight, recordSeen_eq_modify, isSome_modify]

theorem tried_recordTried (h : (registry address).isSome) :
    (registry.recordTried now address).tried =
      Function.update registry.tried address (WithBot.some now) := by
  obtain ⟨binding, hbinding⟩ := Option.isSome_iff_exists.mp h
  funext b
  rw [recordTried_eq_modify]
  by_cases hb : b = address
  · rw [hb, Function.update_self, tried, modify, Function.update_self, hbinding]
    rfl
  · rw [Function.update_of_ne hb, tried, modify_of_ne _ hb, tried]

theorem isSome_refresh (round : Round) (b : GroupAddress) :
    (registry.refresh round b).isSome = (registry b).isSome := by
  rw [refresh, (foldl_sight _ _).2]
  cases registry.nextStale round.order round.now with
  | none => exact (foldl_sight _ _).2 b
  | some address =>
    dsimp only
    rw [recordTried_eq_modify, isSome_modify, (foldl_sight _ _).2]

theorem tried_refresh_of_none {round : Round}
    (h : registry.nextStale round.order round.now = none) :
    (registry.refresh round).tried = registry.tried := by
  rw [refresh, (foldl_sight _ _).1, h]
  exact (foldl_sight _ _).1

theorem tried_refresh_of_some {round : Round}
    (h : registry.nextStale round.order round.now = some address)
    (hsome : (registry address).isSome) :
    (registry.refresh round).tried =
      Function.update registry.tried address (WithBot.some round.tried) := by
  have hseen := foldl_sight registry round.between
  rw [refresh, (foldl_sight _ _).1, h]
  dsimp only
  rw [tried_recordTried (by rwa [hseen.2]), hseen.1]

theorem rotates {rounds : List Round}
    (hincreasing : (rounds.flatMap Round.readings).Pairwise (· < ·))
    (hlater : ∀ b, ∀ reading ∈ rounds.flatMap Round.readings,
      registry.tried b < WithBot.some reading)
    (horder : ∀ round ∈ rounds, registry.Lists round.order) :
    Rotates registry.tried (registry.turns rounds) := by
  induction rounds generalizing registry with
  | nil => exact .nil _
  | cons round rounds ih =>
    rw [List.flatMap_cons, List.pairwise_append] at hincreasing
    have hround := horder round (by simp)
    have hlists : ∀ round' ∈ rounds, (registry.refresh round).Lists round'.order := by
      intro round' hround'
      obtain ⟨hnodup, hmem⟩ := horder round' (by simp [hround'])
      exact ⟨hnodup, fun b ↦ (hmem b).trans (by rw [isSome_refresh])⟩
    have htried : round.tried ∈ round.readings := by simp [Round.readings]
    have hrest {b : GroupAddress} {reading : ℕ} (h : reading ∈ rounds.flatMap Round.readings) :
        registry.tried b < WithBot.some reading := by
      apply hlater
      rw [List.flatMap_cons]
      exact List.mem_append_right _ h
    cases hpick : registry.nextStale round.order round.now with
    | none =>
      have hempty : {b | registry.Stale round.now b} = ∅ :=
        Set.eq_empty_of_forall_notMem fun b ↦ nextStale_eq_none hround hpick
      rw [turns, hpick, hempty]
      refine .idle ?_
      rw [← tried_refresh_of_none hpick]
      refine ih hincreasing.2.1 (fun b reading hreading ↦ ?_) hlists
      rw [tried_refresh_of_none hpick]
      exact hrest hreading
    | some address =>
      obtain ⟨hstale, hleast⟩ := nextStale_spec hround hpick
      have hsome : (registry address).isSome := by
        obtain ⟨binding, hbinding, -⟩ := hstale
        rw [hbinding]
        rfl
      have hrefresh := tried_refresh_of_some hpick hsome
      rw [turns, hpick]
      have htime (b : GroupAddress) : registry.tried b < WithBot.some round.tried := by
        apply hlater
        rw [List.flatMap_cons]
        exact List.mem_append_left _ htried
      refine .serve hstale hleast htime ?_
      rw [← hrefresh]
      refine ih hincreasing.2.1 (fun b reading hreading ↦ ?_) hlists
      rw [hrefresh]
      by_cases hb : b = address
      · rw [hb, Function.update_self]
        exact WithBot.coe_lt_coe.mpr (hincreasing.2.2 _ htried _ hreading)
      · rw [Function.update_of_ne hb]
        exact hrest hreading

/-- No address is picked twice without all others that stay stale in between, and as many rounds
as there are stale addresses, if these stay the same, pick each of them once. -/
theorem refresh_fair (registry : GroupAddressRegistry) (rounds : List Round)
    (htimely : registry.Timely rounds) (horder : ∀ round ∈ rounds, registry.Lists round.order) :
    (∀ before first middle last after x y,
      registry.turns rounds = before ++ first :: (middle ++ last :: after) →
      first.served = some x → last.served = some x → y ≠ x →
      (∀ turn ∈ first :: (middle ++ [last]), y ∈ turn.candidates) →
      some y ∈ middle.map Turn.served) ∧
    ∀ before window after, ∀ S : Finset GroupAddress,
      registry.turns rounds = before ++ (window ++ after) → window.length = S.card →
      (∀ turn ∈ window, turn.candidates = S) →
      ∀ a ∈ S, (window.map Turn.served).count (some a) = 1 := by
  have hlater (b : GroupAddress) :
      ∀ reading ∈ rounds.flatMap Round.readings, registry.tried b < WithBot.some reading := by
    intro reading hreading
    cases hb : registry b with
    | none =>
      rw [tried, hb]
      exact WithBot.bot_lt_coe reading
    | some binding =>
      cases htried : binding.lastTried with
      | none =>
        rw [tried, hb, Option.bind_some, htried]
        exact WithBot.bot_lt_coe reading
      | some time =>
        rw [tried, hb, Option.bind_some, htried]
        exact WithBot.coe_lt_coe.mpr (htimely.later time ⟨b, binding, hb, .inr htried⟩ _ hreading)
  have hrotates := rotates htimely.increasing hlater horder
  constructor
  · intro before first middle last after x y hturns hfirst hlast hne hstale
    rw [hturns] at hrotates
    exact hrotates.served_between hfirst hlast (hstale last (by simp)) hne
  · intro before window after S hturns hlength hsame a ha
    rw [hturns] at hrotates
    obtain ⟨stamps, hrotates⟩ := hrotates.of_append
    exact hrotates.of_append_left.count_served hsame hlength ha

def firstLamp : GroupAddress := ⟨0x0801, by decide⟩

def secondLamp : GroupAddress := ⟨0x0802, by decide⟩

def silentLamps : GroupAddressRegistry := fun address ↦
  if address ∈ [firstLamp, secondLamp] then some ⟨.switch, some 60, none, none, none⟩ else none

def threeRounds : List Round :=
  [⟨[firstLamp, secondLamp], 1, [], 2, []⟩,
    ⟨[firstLamp, secondLamp], 3, [], 4, [⟨.temperature, [1], 5⟩]⟩,
    ⟨[firstLamp, secondLamp], 6, [], 7, []⟩]

theorem silentLamps_alternate :
    silentLamps.Timely threeRounds ∧ (∀ round ∈ threeRounds, silentLamps.Lists round.order) ∧
    (silentLamps.turns threeRounds).map Turn.served =
      [some firstLamp, some secondLamp, some firstLamp] ∧
    ∀ before first middle last after x y,
      silentLamps.turns threeRounds = before ++ first :: (middle ++ last :: after) →
      first.served = some x → last.served = some x → y ≠ x →
      (∀ turn ∈ first :: (middle ++ [last]), y ∈ turn.candidates) →
      some y ∈ middle.map Turn.served := by
  have htimely : silentLamps.Timely threeRounds := by
    refine ⟨by decide, fun time htime ↦ ?_⟩
    obtain ⟨address, binding, hbinding, htime⟩ := htime
    have hfresh : binding = ⟨.switch, some 60, none, none, none⟩ := by
      rw [silentLamps] at hbinding
      split at hbinding
      · exact (Option.some.inj hbinding).symm
      · cases hbinding
    rw [hfresh] at htime
    rcases htime with htime | htime <;> cases htime
  have horder : ∀ round ∈ threeRounds, silentLamps.Lists round.order := by
    have hlists : silentLamps.Lists [firstLamp, secondLamp] := by
      refine ⟨by decide, fun address ↦ ?_⟩
      rw [silentLamps]
      split
      next h => simpa using h
      next h => simpa using h
    simpa [threeRounds] using hlists
  exact ⟨htimely, horder, by decide, (refresh_fair silentLamps threeRounds htimely horder).1⟩

end GroupAddressRegistry

end Knust.Protocol.Dpt
