import Knust.Foundation.Task

namespace Knust.Foundation

structure Record (C : Type) (R : C → Type) (S : Type) where
  task : ℕ
  command : C
  response : R command
  before : S
  after : S

def Record.event {C : Type} {R : C → Type} {S : Type} (r : Record C R S) : (c : C) × R c :=
  ⟨r.command, r.response⟩

/-- A shared state, the tasks as far as they are still to run, and the commands
carried out so far, the latest first. -/
structure Config (C : Type) (R : C → Type) (S ε : Type) where
  state : S
  pool : List (Task C R ε Unit)
  trace : List (Record C R S)

/-- A new task is started, or a task carries out its next command, with an input
from outside. -/
inductive Move (T I : Type)
  | spawn (t : T)
  | resume (k : ℕ) (i : I)

variable {C : Type} {R : C → Type} {S I T ε : Type}

def history (k : ℕ) (trace : List (Record C R S)) : Task.History C R :=
  (trace.filter fun r ↦ r.task = k).map Record.event

theorem history_cons_self (r : Record C R S) (trace : List (Record C R S)) :
    history r.task (r :: trace) = r.event :: history r.task trace := by
  simp [history]

variable {r : Record C R S} {trace : List (Record C R S)}

theorem history_cons_of_ne {k : ℕ} (hk : r.task ≠ k) (trace : List (Record C R S)) :
    history k (r :: trace) = history k trace := by
  simp [history, hk]

theorem mem_history_cons {k : ℕ} {e : (c : C) × R c} :
    e ∈ history k (r :: trace) ↔ (r.task = k ∧ e = r.event) ∨ e ∈ history k trace := by
  by_cases hk : r.task = k
  · subst hk
    simp [history_cons_self]
  · simp [history_cons_of_ne hk, hk]

theorem head?_history (k : ℕ) (trace : List (Record C R S)) :
    (history k trace).head? = (trace.find? fun r ↦ r.task = k).map Record.event := by
  rw [history, List.head?_map, List.head?_filter]

theorem mem_of_mem_history {k : ℕ} {e : (c : C) × R c} (he : e ∈ history k trace) :
    ∃ r ∈ trace, r.task = k ∧ r.event = e := by
  simp only [history, List.mem_map, List.mem_filter, decide_eq_true_eq] at he
  obtain ⟨r, ⟨hr, hk⟩, rfl⟩ := he
  exact ⟨r, hr, hk, rfl⟩

theorem mem_history (hr : r ∈ trace) : r.event ∈ history r.task trace :=
  List.mem_map_of_mem (List.mem_filter.mpr ⟨hr, by simp⟩)

theorem history_eq_nil {k : ℕ} (h : ∀ r ∈ trace, r.task < k) : history k trace = [] := by
  simp only [history, List.map_eq_nil_iff, List.filter_eq_nil_iff, decide_eq_true_eq]
  intro r hr hk
  have := h r hr
  omega

theorem exists_of_suffix_history {k : ℕ} {e : (c : C) × R c} {earlier : Task.History C R}
    (h : e :: earlier <:+ history k trace) :
    ∃ r before, r :: before <:+ trace ∧ r.task = k ∧ r.event = e ∧ history k before = earlier := by
  induction trace with
  | nil => exact absurd h.length_le (by simp [history])
  | cons r trace ih =>
    by_cases hk : r.task = k
    · subst hk
      rw [history_cons_self] at h
      rcases List.suffix_cons_iff.mp h with heq | hsuffix
      · cases heq
        exact ⟨r, trace, List.suffix_refl _, rfl, rfl, rfl⟩
      · obtain ⟨r', before, hbefore, hr'⟩ := ih hsuffix
        exact ⟨r', before, hbefore.trans (List.suffix_cons _ _), hr'⟩
    · rw [history_cons_of_ne hk] at h
      obtain ⟨r', before, hbefore, hr'⟩ := ih h
      exact ⟨r', before, hbefore.trans (List.suffix_cons _ _), hr'⟩

def started : List (Move T I) → List T
  | [] => []
  | .spawn t :: moves => t :: started moves
  | .resume _ _ :: moves => started moves

/-- A machine carries out a command, or is not ready for it. -/
abbrev Machine (C : Type) (R : C → Type) (S I : Type) := (c : C) → I → S → Option (R c × S)

def Record.Executed (exec : Machine C R S I) (r : Record C R S) : Prop :=
  ∃ i, exec r.command i r.before = some (r.response, r.after)

theorem Record.Executed.of_event {exec : Machine C R S I} (hr : r.Executed exec) {c : C} {a : R c}
    (he : r.event = ⟨c, a⟩) : ∃ i, exec c i r.before = some (a, r.after) := by
  obtain ⟨task, _, _, before, after⟩ := r
  cases he
  exact hr

namespace Config

def next (x : Config C R S ε) (k : ℕ) : Option C :=
  match x.pool[k]? with
  | some (.call c _) => some c
  | _ => none

def Issues (x : Config C R S ε) (k : ℕ) (c : C) : Prop := ∃ next, x.pool[k]? = some (.call c next)

theorem next_of_call {x : Config C R S ε} {k : ℕ} {c : C} {next : R c → Task C R ε Unit}
    (hp : x.pool[k]? = some (.call c next)) : x.next k = some c := by
  rw [Config.next, hp]

theorem lt_of_next {x : Config C R S ε} {k : ℕ} (hk : (x.next k).isSome = true) :
    k < x.pool.length := by
  by_contra h
  rw [Config.next, List.getElem?_eq_none (by omega)] at hk
  cases hk

theorem next_set_of_ne (x : Config C R S ε) {j k : ℕ} (hj : j ≠ k) (p : Task C R ε Unit) (s : S)
    (trace : List (Record C R S)) :
    (⟨s, x.pool.set k p, trace⟩ : Config C R S ε).next j = x.next j := by
  simp only [Config.next, List.getElem?_set_ne (Ne.symm hj)]

theorem next_append (x : Config C R S ε) (p : Task C R ε Unit) {j : ℕ}
    (hj : (({ x with pool := x.pool ++ [p] } : Config C R S ε).next j).isSome = true) :
    (x.next j).isSome = true ∨ j = x.pool.length := by
  have hlt := lt_of_next hj
  rw [List.length_append, List.length_singleton] at hlt
  by_cases heq : j = x.pool.length
  · exact .inr heq
  · left
    simpa only [Config.next, List.getElem?_append_left (show j < x.pool.length by omega)] using hj

variable (exec : Machine C R S I) (program : T → Task C R ε Unit)

def resume (x : Config C R S ε) (k : ℕ) (i : I) : Config C R S ε :=
  match x.pool[k]? with
  | some (.call c next) =>
    match exec c i x.state with
    | some (r, s) => ⟨s, x.pool.set k (next r), ⟨k, c, r, x.state, s⟩ :: x.trace⟩
    | none => x
  | _ => x

def step (x : Config C R S ε) : Move T I → Config C R S ε
  | .spawn t => { x with pool := x.pool ++ [program t] }
  | .resume k i => resume exec x k i

def run (x : Config C R S ε) (moves : List (Move T I)) : Config C R S ε :=
  moves.foldl (step exec program) x

theorem run_append (x : Config C R S ε) (moves moves' : List (Move T I)) :
    x.run exec program (moves ++ moves') =
      (x.run exec program moves).run exec program moves' := List.foldl_append

theorem resume_cases (x : Config C R S ε) (k : ℕ) (i : I) :
    resume exec x k i = x ∨
      ∃ c next r s, x.pool[k]? = some (.call c next) ∧ exec c i x.state = some (r, s) ∧
        resume exec x k i = ⟨s, x.pool.set k (next r), ⟨k, c, r, x.state, s⟩ :: x.trace⟩ := by
  cases hp : x.pool[k]? with
  | none => left; simp [resume, hp]
  | some p =>
    cases p with
    | done r => left; simp [resume, hp]
    | call c next =>
      cases he : exec c i x.state with
      | none => left; simp [resume, hp, he]
      | some rs => exact .inr ⟨c, next, rs.1, rs.2, rfl, he, by simp [resume, hp, he]⟩

variable (rule : Task.History C R → C → Prop) (Inv : List (Record C R S) → S → Prop)

/-- Every task goes on obeying the rule, every recorded command was executed, and
the invariant holds of what has happened. -/
structure Sound (x : Config C R S ε) : Prop where
  obeys : ∀ (k : ℕ) (p : Task C R ε Unit), x.pool[k]? = some p →
    p.Obeys rule (fun _ _ ↦ True) (history k x.trace)
  spawned : ∀ r ∈ x.trace, r.task < x.pool.length
  executed : ∀ r ∈ x.trace, r.Executed exec
  inv : Inv x.trace x.state

/-- Carrying out an allowed command keeps the invariant. -/
def Keeps : Prop :=
  ∀ trace s k c i r s', (∀ r ∈ trace, r.Executed exec) → Inv trace s → rule (history k trace) c →
    exec c i s = some (r, s') → Inv (⟨k, c, r, s, s'⟩ :: trace) s'

/-- An allowed command has the property at the time it is carried out. -/
def Grants (Good : Record C R S → List (Record C R S) → Prop) : Prop :=
  ∀ trace s k c i r s', (∀ r ∈ trace, r.Executed exec) → Inv trace s → rule (history k trace) c →
    exec c i s = some (r, s') → Good ⟨k, c, r, s, s'⟩ trace

variable {exec program rule Inv} {x : Config C R S ε}

theorem Sound.start {s : S} {pool : List (Task C R ε Unit)}
    (hpool : ∀ p ∈ pool, p.Obeys rule (fun _ _ ↦ True) []) (hinv : Inv [] s) :
    Sound exec rule Inv ⟨s, pool, []⟩ :=
  ⟨fun _ p hp ↦ hpool p (List.mem_of_getElem? hp), by simp, by simp, hinv⟩

theorem Sound.spawn (hx : Sound exec rule Inv x) {p : Task C R ε Unit}
    (hp : p.Obeys rule (fun _ _ ↦ True) []) :
    Sound exec rule Inv { x with pool := x.pool ++ [p] } := by
  refine ⟨fun k q hq ↦ ?_, fun r hr ↦ ?_, hx.executed, hx.inv⟩
  · rcases Nat.lt_trichotomy k x.pool.length with hk | rfl | hk
    · rw [List.getElem?_append_left hk] at hq
      exact hx.obeys k q hq
    · obtain rfl : p = q := by simpa using hq
      rw [history_eq_nil hx.spawned]
      exact hp
    · rw [List.getElem?_eq_none (by simp; omega)] at hq
      cases hq
  · have := hx.spawned r hr
    simp only [List.length_append]
    omega

theorem Sound.resume (hx : Sound exec rule Inv x) (hstep : Keeps exec rule Inv) (k : ℕ) (i : I) :
    Sound exec rule Inv (x.resume exec k i) := by
  obtain h | ⟨c, next, r, s, hp, he, h⟩ := resume_cases exec x k i
  · rw [h]
    exact hx
  rw [h]
  have hk : k < x.pool.length := (List.getElem?_eq_some_iff.mp hp).1
  obtain ⟨hrule, hnext⟩ := hx.obeys k _ hp
  refine ⟨fun j q hq ↦ ?_, fun r' hr ↦ ?_, fun r' hr ↦ ?_,
    hstep _ _ _ _ _ _ _ hx.executed hx.inv hrule he⟩
  -- The resumed task has one more command behind it; the others have not moved.
  · by_cases hj : k = j
    · subst hj
      obtain rfl : next r = q := by simpa [List.getElem?_set_self hk] using hq
      rw [history_cons_self ⟨k, c, r, x.state, s⟩]
      exact hnext r
    · rw [List.getElem?_set_ne hj] at hq
      rw [history_cons_of_ne hj]
      exact hx.obeys j q hq
  · rw [List.length_set]
    rcases List.mem_cons.mp hr with rfl | hr
    · exact hk
    · exact hx.spawned r' hr
  · rcases List.mem_cons.mp hr with rfl | hr
    · exact ⟨i, he⟩
    · exact hx.executed r' hr

theorem run_sound (hx : Sound exec rule Inv x)
    (hprogram : ∀ t, (program t).Obeys rule (fun _ _ ↦ True) []) (hstep : Keeps exec rule Inv)
    (moves : List (Move T I)) : Sound exec rule Inv (x.run exec program moves) := by
  induction moves generalizing x with
  | nil => exact hx
  | cons m moves ih =>
    apply ih
    cases m with
    | spawn t => exact hx.spawn (hprogram t)
    | resume k i => exact hx.resume hstep k i

/-- Every move of the run is made from a configuration that allows it. -/
def Along (exec : Machine C R S I) (program : T → Task C R ε Unit)
    (Allowed : Config C R S ε → Move T I → Prop) : Config C R S ε → List (Move T I) → Prop
  | _, [] => True
  | x, m :: moves => Allowed x m ∧ Along exec program Allowed (step exec program x m) moves

instance decidableAlong {Allowed : Config C R S ε → Move T I → Prop}
    [∀ x m, Decidable (Allowed x m)] : (x : Config C R S ε) → (moves : List (Move T I)) →
      Decidable (Along exec program Allowed x moves)
  | _, [] => .isTrue trivial
  | x, m :: moves =>
    @instDecidableAnd _ _ inferInstance (decidableAlong (step exec program x m) moves)

theorem Along.imp {Allowed Allowed' : Config C R S ε → Move T I → Prop}
    (himp : ∀ x m, Allowed x m → Allowed' x m) {moves : List (Move T I)}
    (hmoves : Along exec program Allowed x moves) : Along exec program Allowed' x moves := by
  induction moves generalizing x with
  | nil => trivial
  | cons m moves ih => exact ⟨himp x m hmoves.1, ih hmoves.2⟩

theorem run_along {Allowed : Config C R S ε → Move T I → Prop} {Holds : Config C R S ε → Prop}
    (hstep : ∀ x m, Holds x → Allowed x m → Holds (step exec program x m)) {moves : List (Move T I)}
    (hx : Holds x) (hmoves : Along exec program Allowed x moves) :
    Holds (x.run exec program moves) := by
  induction moves generalizing x with
  | nil => exact hx
  | cons m moves ih => exact ih (hstep x m hx hmoves.1) hmoves.2

/-- The same of every moment: each command of a run from the start has the
property at the time it is carried out. -/
theorem run_always {Good : Record C R S → List (Record C R S) → Prop} {s : S}
    {pool : List (Task C R ε Unit)} (hpool : ∀ p ∈ pool, p.Obeys rule (fun _ _ ↦ True) [])
    (hprogram : ∀ t, (program t).Obeys rule (fun _ _ ↦ True) []) (hinit : Inv [] s)
    (hstep : Keeps exec rule Inv) (hgood : Grants exec rule Inv Good)
    (moves : List (Move T I)) (r : Record C R S) (earlier : List (Record C R S))
    (hr : r :: earlier <:+ ((⟨s, pool, []⟩ : Config C R S ε).run exec program moves).trace) :
    Good r earlier := by
  -- The property of the past is itself an invariant, together with the given one.
  let All : List (Record C R S) → S → Prop := fun trace s ↦
    Inv trace s ∧ ∀ r earlier, r :: earlier <:+ trace → Good r earlier
  have hall : Keeps exec rule All := by
    rintro trace s k c i r s' hexec ⟨hinv, hgoods⟩ hrule he
    refine ⟨hstep _ _ _ _ _ _ _ hexec hinv hrule he, fun r' earlier h ↦ ?_⟩
    rcases List.suffix_cons_iff.mp h with h | h
    · cases h
      exact hgood _ _ _ _ _ _ _ hexec hinv hrule he
    · exact hgoods r' earlier h
  have hstart : All [] s := ⟨hinit, fun r earlier h ↦ absurd h.length_le (by simp)⟩
  exact (run_sound (.start hpool hstart) hprogram hall moves).inv.2 r earlier hr

section

variable (rule : T → Task.History C R → C → Prop)
  (Q : T → Task.History C R → Outcome ε Unit → Prop)

/-- Every task goes on obeying the rule of the activity that it was started for, and
meets the postcondition when it ends. -/
structure Tracks (ts : List T) (x : Config C R S ε) : Prop where
  length : ts.length = x.pool.length
  spawned : ∀ r ∈ x.trace, r.task < x.pool.length
  obeys : ∀ (k : ℕ) (t : T) (p : Task C R ε Unit), ts[k]? = some t → x.pool[k]? = some p →
    p.Obeys (rule t) (Q t) (history k x.trace)

variable {rule Q} {ts : List T}

theorem Tracks.spawn (hx : Tracks rule Q ts x) {t : T} {p : Task C R ε Unit}
    (hp : p.Obeys (rule t) (Q t) []) :
    Tracks rule Q (ts ++ [t]) { x with pool := x.pool ++ [p] } := by
  refine ⟨by simp [hx.length], fun r hr ↦ ?_, fun k u q hu hq ↦ ?_⟩
  · have := hx.spawned r hr
    simp only [List.length_append]
    omega
  · rcases Nat.lt_trichotomy k x.pool.length with hk | rfl | hk
    · rw [List.getElem?_append_left (by rw [hx.length]; exact hk)] at hu
      rw [List.getElem?_append_left hk] at hq
      exact hx.obeys k u q hu hq
    · obtain rfl : p = q := by simpa using hq
      obtain rfl : t = u := by simpa [← hx.length] using hu
      rw [history_eq_nil hx.spawned]
      exact hp
    · rw [List.getElem?_eq_none (by simp; omega)] at hq
      cases hq

theorem Tracks.resume (hx : Tracks rule Q ts x) (k : ℕ) (i : I) :
    Tracks rule Q ts (x.resume exec k i) := by
  obtain h | ⟨c, next, r, s, hp, he, h⟩ := resume_cases exec x k i
  · rw [h]
    exact hx
  rw [h]
  have hk : k < x.pool.length := (List.getElem?_eq_some_iff.mp hp).1
  refine ⟨by rw [hx.length, List.length_set], fun r' hr ↦ ?_, fun j u q hu hq ↦ ?_⟩
  · rw [List.length_set]
    rcases List.mem_cons.mp hr with rfl | hr
    · exact hk
    · exact hx.spawned r' hr
  · by_cases hj : k = j
    · subst hj
      obtain rfl : next r = q := by simpa [List.getElem?_set_self hk] using hq
      rw [history_cons_self ⟨k, c, r, x.state, s⟩]
      exact (hx.obeys k u _ hu hp).2 r
    · rw [List.getElem?_set_ne hj] at hq
      rw [history_cons_of_ne hj]
      exact hx.obeys j u q hu hq

theorem run_tracks (hx : Tracks rule Q ts x)
    (hprogram : ∀ t, (program t).Obeys (rule t) (Q t) []) (moves : List (Move T I)) :
    Tracks rule Q (ts ++ started moves) (x.run exec program moves) := by
  induction moves generalizing x ts with
  | nil => rwa [started, List.append_nil]
  | cons m moves ih =>
    cases m with
    | spawn t =>
      have htracks := ih (hx.spawn (hprogram t))
      rwa [List.append_assoc] at htracks
    | resume k i => exact ih (hx.resume k i)

theorem run_tracks_start (hprogram : ∀ t, (program t).Obeys (rule t) (Q t) []) (s : S)
    (moves : List (Move T I)) :
    Tracks rule Q (started moves) ((⟨s, [], []⟩ : Config C R S ε).run exec program moves) := by
  have hstart : Tracks rule Q [] (⟨s, [], []⟩ : Config C R S ε) := ⟨rfl, by simp, by simp⟩
  exact run_tracks hstart hprogram moves

end

end Config

end Knust.Foundation
