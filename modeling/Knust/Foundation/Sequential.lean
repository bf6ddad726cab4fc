import Knust.Foundation.Interference

namespace Knust.Foundation

variable {C : Type} {R : C → Type} {S I ε α β : Type}

structure Ending (C : Type) (R : C → Type) (S ε α : Type) where
  outcome : Outcome ε α
  state : S
  history : Task.History C R

namespace Task

variable (exec : Machine C R S I)

/-- Run a task alone to its end, with one input for each of its commands. -/
def runAlone : Task C R ε α → (ℕ → I) → S → History C R → Option (Ending C R S ε α)
  | .done r, _, s, h => some ⟨r, s, h⟩
  | .call c next, inputs, s, h =>
    match exec c (inputs 0) s with
    | some (r, s') => (next r).runAlone (fun n ↦ inputs (n + 1)) s' (⟨c, r⟩ :: h)
    | none => none

def RunsTo (p : Task C R ε α) (inputs : ℕ → I) (s : S) (h h' : History C R) : Prop :=
  ∃ e, p.runAlone exec inputs s h = some e ∧ e.history = h'

theorem RunsTo.call {c : C} {next : R c → Task C R ε α} {inputs : ℕ → I} {s s' : S}
    {h h' : History C R} {r : R c} (hr : exec c (inputs 0) s = some (r, s'))
    (hn : (next r).RunsTo exec (fun n ↦ inputs (n + 1)) s' (⟨c, r⟩ :: h) h') :
    (Task.call c next).RunsTo exec inputs s h h' := by
  obtain ⟨e, he, hh⟩ := hn
  exact ⟨e, by rw [runAlone, hr, ← he], hh⟩

/-- Whatever the inputs are, the postcondition holds when the task ends. -/
def Ensures (Q : S → History C R → Outcome ε α → Prop) : S → History C R → Task C R ε α → Prop
  | s, h, .done r => Q s h r
  | s, h, .call c next =>
    ∀ i r s', exec c i s = some (r, s') → Ensures Q s' (⟨c, r⟩ :: h) (next r)

variable {exec} {Q : S → History C R → Outcome ε α → Prop} {s : S} {h : History C R}
  {p : Task C R ε α}

theorem Ensures.runAlone (hp : p.Ensures exec Q s h) {inputs : ℕ → I}
    {e : Ending C R S ε α} (he : p.runAlone exec inputs s h = some e) :
    Q e.state e.history e.outcome := by
  induction p generalizing s h inputs with
  | done r =>
    cases he
    exact hp
  | call c next ih =>
    simp only [Task.runAlone] at he
    split at he
    · rename_i r s' hr
      exact ih r (hp _ r s' hr) he
    · cases he

theorem Ensures.bind {T : S → History C R → Outcome ε β → Prop} {f : α → Task C R ε β}
    (hp : p.Ensures exec Q s h) (hok : ∀ s h a, Q s h (.ok a) → (f a).Ensures exec T s h)
    (herr : ∀ s h e, Q s h (.err e) → T s h (.err e)) (hpanic : ∀ s h, Q s h .panic → T s h .panic) :
    (p >>= f).Ensures exec T s h := by
  induction p generalizing s h with
  | done r =>
    cases r with
    | ok a => exact hok s h a hp
    | err e => exact herr s h e hp
    | panic => exact hpanic s h hp
  | call c next ih => exact fun i r s' hr ↦ ih r (hp i r s' hr)

theorem Ensures.mono {T : S → History C R → Outcome ε α → Prop} (hp : p.Ensures exec Q s h)
    (hQ : ∀ s h r, Q s h r → T s h r) : p.Ensures exec T s h := by
  induction p generalizing s h with
  | done r => exact hQ s h r hp
  | call c next ih => exact fun i r s' hr ↦ ih r (hp i r s' hr)

theorem Ensures.attempt {δ : Type} {T : S → History C R → Outcome δ (Except ε α) → Prop}
    (hp : p.Ensures exec Q s h)
    (hok : ∀ s h a, Q s h (.ok a) → T s h (.ok (.ok a)))
    (herr : ∀ s h e, Q s h (.err e) → T s h (.ok (.error e)))
    (hpanic : ∀ s h, Q s h .panic → T s h .panic) : p.attempt.Ensures exec T s h := by
  induction p generalizing s h with
  | done r =>
    cases r with
    | ok a => exact hok s h a hp
    | err e => exact herr s h e hp
    | panic => exact hpanic s h hp
  | call c next ih => exact fun i r s' hr ↦ ih r (hp i r s' hr)

variable {A : S → History C R → Prop}

theorem Ensures.bind_const {f : α → Task C R ε β} (hp : p.Ensures exec (fun s h _ ↦ A s h) s h)
    (hf : ∀ s h a, A s h → (f a).Ensures exec (fun s h _ ↦ A s h) s h) :
    (p >>= f).Ensures exec (fun s h _ ↦ A s h) s h :=
  hp.bind hf (fun _ _ _ ↦ id) (fun _ _ ↦ id)

theorem Ensures.attempt_const {δ : Type} (hp : p.Ensures exec (fun s h _ ↦ A s h) s h) :
    (p.attempt : Task C R δ _).Ensures exec (fun s h _ ↦ A s h) s h :=
  hp.attempt (fun _ _ _ ↦ id) (fun _ _ _ ↦ id) (fun _ _ ↦ id)

theorem Ensures.attempt_ok {δ : Type} (hp : p.Ensures exec (fun s h r ↦ A s h ∧ r ≠ .panic) s h) :
    (p.attempt : Task C R δ _).Ensures exec (fun s h r ↦ A s h ∧ ∃ a, r = .ok a) s h :=
  hp.attempt (fun _ _ _ hq ↦ ⟨hq.1, _, rfl⟩) (fun _ _ _ hq ↦ ⟨hq.1, _, rfl⟩)
    (fun _ _ hq ↦ absurd rfl hq.2)

theorem Ensures.after {g : History C R} (hp : p.Ensures exec Q s g)
    (h : History C R) :
    p.Ensures exec (fun s' h' r ↦ ∃ new, h' = new ++ h ∧ Q s' (new ++ g) r) s h := by
  induction p generalizing s g h with
  | done r => exact ⟨[], rfl, hp⟩
  | call c next ih =>
    intro i r s' hr
    refine (ih r (hp i r s' hr) (⟨c, r⟩ :: h)).mono ?_
    intro s'' h' r' hnew
    obtain ⟨new, rfl, hq⟩ := hnew
    refine ⟨new ++ [⟨c, r⟩], ?_, ?_⟩
    · rw [List.append_assoc, List.singleton_append]
    · rwa [List.append_assoc, List.singleton_append]

theorem Ensures.carry {K : C → Prop} {g : History C R}
    (hp : p.Obeys (fun _ c ↦ K c) (fun _ _ ↦ True) g)
    (hkeep : ∀ c i s r s' h, A s h → K c → exec c i s = some (r, s') → A s' (⟨c, r⟩ :: h))
    (ha : A s h) : p.Ensures exec (fun s h _ ↦ A s h) s h := by
  induction p generalizing s h g with
  | done r => exact ha
  | call c next ih => exact fun i r s' hr ↦ ih r (hp.2 r) (hkeep c i s r s' h ha hp.1 hr)

theorem Ensures.invariant
    (hkeep : ∀ c i s r s' h, A s h → exec c i s = some (r, s') → A s' (⟨c, r⟩ :: h)) (ha : A s h)
    (p : Task C R ε α) : p.Ensures exec (fun s h _ ↦ A s h) s h := by
  induction p generalizing s h with
  | done r => exact ha
  | call c next ih => exact fun i r s' hr ↦ ih r (hkeep c i s r s' h ha hr)

theorem exists_runAlone (htotal : ∀ c i s, (exec c i s).isSome = true) (p : Task C R ε α)
    (inputs : ℕ → I) (s : S) (h : History C R) : ∃ e, p.runAlone exec inputs s h = some e := by
  induction p generalizing s h inputs with
  | done r => exact ⟨_, rfl⟩
  | call c next ih =>
    obtain ⟨⟨r, s'⟩, hr⟩ := Option.isSome_iff_exists.mp (htotal c (inputs 0) s)
    obtain ⟨e, he⟩ := ih r (fun n ↦ inputs (n + 1)) s' (⟨c, r⟩ :: h)
    exact ⟨e, by rw [runAlone, hr, ← he]⟩

/-- Whatever the inputs are, the task comes to its end, and the postcondition holds. -/
def Attains (exec : Machine C R S I) (Q : S → History C R → Outcome ε α → Prop) :
    S → History C R → Task C R ε α → Prop
  | s, h, .done r => Q s h r
  | s, h, .call c next =>
    ∀ i, ∃ r s', exec c i s = some (r, s') ∧ Attains exec Q s' (⟨c, r⟩ :: h) (next r)

theorem Attains.exists_runAlone (hp : p.Attains exec Q s h) (inputs : ℕ → I) :
    ∃ e, p.runAlone exec inputs s h = some e ∧ Q e.state e.history e.outcome := by
  induction p generalizing s h inputs with
  | done r => exact ⟨_, rfl, hp⟩
  | call c next ih =>
    obtain ⟨r, s', hr, hnext⟩ := hp (inputs 0)
    obtain ⟨e, he, hq⟩ := ih r hnext fun n ↦ inputs (n + 1)
    exact ⟨e, by rw [Task.runAlone, hr, ← he], hq⟩

theorem Ensures.attains (htotal : ∀ c i s, (exec c i s).isSome = true) (hp : p.Ensures exec Q s h) :
    p.Attains exec Q s h := by
  induction p generalizing s h with
  | done r => exact hp
  | call c next ih =>
    intro i
    obtain ⟨⟨r, s'⟩, hr⟩ := Option.isSome_iff_exists.mp (htotal c i s)
    exact ⟨r, s', hr, ih r (hp i r s' hr)⟩

theorem runAlone_bind {inputs : ℕ → I} {e : Ending C R S ε α}
    (he : p.runAlone exec inputs s h = some e) (f : α → Task C R ε β) :
    ∃ rest, (p >>= f).runAlone exec inputs s h =
      (.done e.outcome >>= f).runAlone exec rest e.state e.history := by
  induction p generalizing s h inputs with
  | done r =>
    cases he
    exact ⟨inputs, rfl⟩
  | call c next ih =>
    simp only [Task.runAlone] at he
    split at he
    · rename_i r s' hr
      obtain ⟨rest, hrest⟩ := ih r he
      have hcall : (call c next >>= f) = call c fun r ↦ next r >>= f := rfl
      exact ⟨rest, by rw [← hrest, hcall, Task.runAlone, hr]⟩
    · cases he

/-- With the given inputs the task, run alone, comes to an end with the property. -/
def Concludes (exec : Machine C R S I) (inputs : ℕ → I) (Good : Ending C R S ε α → Prop) (s : S)
    (h : History C R) (p : Task C R ε α) : Prop :=
  ∃ e, p.runAlone exec inputs s h = some e ∧ Good e

section

variable {inputs : ℕ → I} {Good : Ending C R S ε α → Prop}

theorem Concludes.done {r : Outcome ε α} (hr : Good ⟨r, s, h⟩) :
    (.done r : Task C R ε α).Concludes exec inputs Good s h := ⟨_, rfl, hr⟩

theorem Concludes.call {c : C} {next : R c → Task C R ε α} {r : R c} {s' : S}
    (hr : exec c (inputs 0) s = some (r, s'))
    (hnext : (next r).Concludes exec (fun n ↦ inputs (n + 1)) Good s' (⟨c, r⟩ :: h)) :
    (call c next).Concludes exec inputs Good s h := by
  obtain ⟨e, he, hgood⟩ := hnext
  exact ⟨e, by rw [Task.runAlone, hr, ← he], hgood⟩

end

theorem Maintains.attains {Inv : S → Prop} {Q : Outcome ε α → Prop} (hp : p.Maintains exec Inv Q)
    (htotal : ∀ c i s, (exec c i s).isSome = true) (hs : Inv s) :
    p.Attains exec (fun s _ r ↦ Inv s ∧ Q r) s h := by
  induction p generalizing s h with
  | done r => exact ⟨hs, hp⟩
  | call c next ih =>
    intro i
    obtain ⟨⟨r, s'⟩, hr⟩ := Option.isSome_iff_exists.mp (htotal c i s)
    obtain ⟨hs', hnext⟩ := hp i s r s' hs hr
    exact ⟨r, s', hr, ih r hnext hs'⟩

theorem Attains.step {c : C} {next : R c → Task C R ε α} (hp : (call c next).Attains exec Q s h)
    {i : I} {r : R c} {s' : S} (hr : exec c i s = some (r, s')) :
    (next r).Attains exec Q s' (⟨c, r⟩ :: h) := by
  obtain ⟨r', s'', hr', hnext⟩ := hp i
  rw [hr] at hr'
  cases hr'
  exact hnext

variable {f : α → Task C R ε β}

theorem Attains.comap {J : Type} (f : J → I) (hp : p.Attains exec Q s h) :
    p.Attains (fun c j s ↦ exec c (f j) s) Q s h := by
  induction p generalizing s h with
  | done r => exact hp
  | call c next ih =>
    intro j
    obtain ⟨r, s', hr, hnext⟩ := hp (f j)
    exact ⟨r, s', hr, ih r hnext⟩

theorem Attains.mono {T : S → History C R → Outcome ε α → Prop} (hp : p.Attains exec Q s h)
    (hQ : ∀ s h r, Q s h r → T s h r) : p.Attains exec T s h := by
  induction p generalizing s h with
  | done r => exact hQ s h r hp
  | call c next ih =>
    intro i
    obtain ⟨r, s', hr, hnext⟩ := hp i
    exact ⟨r, s', hr, ih r hnext⟩

theorem Attains.and {T : S → History C R → Outcome ε α → Prop} (hp : p.Attains exec Q s h)
    (ht : p.Ensures exec T s h) :
    p.Attains exec (fun s h r ↦ Q s h r ∧ T s h r) s h := by
  induction p generalizing s h with
  | done r => exact ⟨hp, ht⟩
  | call c next ih =>
    intro i
    obtain ⟨r, s', hr, hnext⟩ := hp i
    exact ⟨r, s', hr, ih r hnext (ht i r s' hr)⟩

theorem Attains.bind {T : S → History C R → Outcome ε β → Prop} (hp : p.Attains exec Q s h)
    (hok : ∀ s h a, Q s h (.ok a) → (f a).Attains exec T s h)
    (herr : ∀ s h e, Q s h (.err e) → T s h (.err e))
    (hpanic : ∀ s h, Q s h .panic → T s h .panic) : (p >>= f).Attains exec T s h := by
  induction p generalizing s h with
  | done r =>
    cases r with
    | ok a => exact hok s h a hp
    | err e => exact herr s h e hp
    | panic => exact hpanic s h hp
  | call c next ih =>
    intro i
    obtain ⟨r, s', hr, hnext⟩ := hp i
    exact ⟨r, s', hr, ih r hnext⟩

theorem Attains.attempt {δ : Type} {T : S → History C R → Outcome δ (Except ε α) → Prop}
    (hp : p.Attains exec Q s h)
    (hok : ∀ s h a, Q s h (.ok a) → T s h (.ok (.ok a)))
    (herr : ∀ s h e, Q s h (.err e) → T s h (.ok (.error e)))
    (hpanic : ∀ s h, Q s h .panic → T s h .panic) : p.attempt.Attains exec T s h := by
  induction p generalizing s h with
  | done r =>
    cases r with
    | ok a => exact hok s h a hp
    | err e => exact herr s h e hp
    | panic => exact hpanic s h hp
  | call c next ih =>
    intro i
    obtain ⟨r, s', hr, hnext⟩ := hp i
    exact ⟨r, s', hr, ih r hnext⟩

theorem Attains.bind_const {A : S → History C R → Prop}
    (hp : p.Attains exec (fun s h _ ↦ A s h) s h)
    (hf : ∀ s h a, A s h → (f a).Attains exec (fun s h _ ↦ A s h) s h) :
    (p >>= f).Attains exec (fun s h _ ↦ A s h) s h :=
  hp.bind hf (fun _ _ _ ↦ id) (fun _ _ ↦ id)

theorem Attains.attempt_const {δ : Type} {A : S → History C R → Prop}
    (hp : p.Attains exec (fun s h _ ↦ A s h) s h) :
    (p.attempt : Task C R δ _).Attains exec (fun s h _ ↦ A s h) s h :=
  hp.attempt (fun _ _ _ ↦ id) (fun _ _ _ ↦ id) (fun _ _ ↦ id)

theorem Attains.bind_ok {T : S → History C R → β → Prop} (hp : p.Attains exec Q s h)
    (hf : ∀ s h a, Q s h (.ok a) → (f a).Attains exec (fun s h r ↦ ∀ b, r = .ok b → T s h b) s h) :
    (p >>= f).Attains exec (fun s h r ↦ ∀ b, r = .ok b → T s h b) s h :=
  hp.bind hf (by simp) (by simp)

/-- The task can come to its end from one history to another, whatever its commands
are answered with. -/
inductive Reaches : Task C R ε α → History C R → History C R → Outcome ε α → Prop
  | done (r : Outcome ε α) (h : History C R) : Reaches (.done r) h h r
  | call {c : C} {next : R c → Task C R ε α} {h h' : History C R} {r : Outcome ε α} (x : R c)
    (hnext : Reaches (next x) (⟨c, x⟩ :: h) h' r) : Reaches (.call c next) h h' r

theorem Obeys.reaches {rule : History C R → C → Prop} {Q : History C R → Outcome ε α → Prop}
    {h' : History C R} {r : Outcome ε α} (hp : p.Obeys rule Q h)
    (hr : p.Reaches h h' r) : Q h' r := by
  induction hr with
  | done r h => exact hp
  | call x _ ih => exact ih (hp.2 x)

theorem reaches_of_runAlone {inputs : ℕ → I} {e : Ending C R S ε α}
    (he : p.runAlone exec inputs s h = some e) : p.Reaches h e.history e.outcome := by
  induction p generalizing s h inputs with
  | done r =>
    cases he
    exact .done r h
  | call c next ih =>
    simp only [Task.runAlone] at he
    split at he
    · rename_i x s' hx
      exact .call x (ih x he)
    · cases he

end Task

theorem Config.exists_run_of_runAlone {T : Type} {exec : Machine C R S I}
    (program : T → Task C R ε Unit) {x : Config C R S ε} {k : ℕ} {p : Task C R ε Unit}
    {inputs : ℕ → I} {h : Task.History C R} {e : Ending C R S ε Unit}
    (hp : x.pool[k]? = some p) (he : p.runAlone exec inputs x.state h = some e) :
    ∃ moves trace, x.run exec program moves =
        ⟨e.state, x.pool.set k (.done e.outcome), trace ++ x.trace⟩ ∧
      e.history = trace.map Record.event ++ h := by
  induction p generalizing x inputs h with
  | done r =>
    cases he
    obtain ⟨hk, hget⟩ := List.getElem?_eq_some_iff.mp hp
    exact ⟨[], [], by simp [run, ← hget], rfl⟩
  | call c next ih =>
    simp only [Task.runAlone] at he
    split at he
    · rename_i r s hr
      have hk : k < x.pool.length := (List.getElem?_eq_some_iff.mp hp).1
      obtain ⟨moves, trace, hrun, hhistory⟩ := ih r
        (x := ⟨s, x.pool.set k (next r), ⟨k, c, r, x.state, s⟩ :: x.trace⟩)
        (List.getElem?_set_self hk) he
      refine ⟨.resume k (inputs 0) :: moves, trace ++ [⟨k, c, r, x.state, s⟩], ?_, ?_⟩
      · have hstep : x.resume exec k (inputs 0) =
            ⟨s, x.pool.set k (next r), ⟨k, c, r, x.state, s⟩ :: x.trace⟩ := by
          simp [resume, hp, hr]
        rw [run, List.foldl_cons, step, hstep]
        simpa [run] using hrun
      · simpa [Record.event] using hhistory
    · cases he

end Knust.Foundation
