import Knust.Foundation.Numbering
import Knust.Foundation.Sequential
import Knust.Transport.ServerState

namespace Knust.Transport

open Foundation Foundation.Numbering Protocol

def counter (start : UInt8) (p : ℕ) : UInt8 := start + UInt8.ofNat p

theorem counter_eq_iff {start : UInt8} {p q : ℕ} :
    counter start p = counter start q ↔ p % 256 = q % 256 := by
  rw [counter, counter, UInt8.add_right_inj, ← UInt8.toNat_inj, UInt8.toNat_ofNat',
    UInt8.toNat_ofNat']

theorem counter_succ (start : UInt8) (p : ℕ) : counter start (p + 1) = counter start p + 1 := by
  rw [counter, counter, UInt8.ofNat_add, UInt8.add_assoc]
  rfl

theorem counter_eq_sub_one_iff {start : UInt8} {p q : ℕ} :
    counter start p = counter start q - 1 ↔ (p + 1) % 256 = q % 256 := by
  rw [← @counter_eq_iff start, counter_succ]
  constructor
  · intro h
    rw [h, UInt8.sub_add_cancel]
  · intro h
    rw [← h, UInt8.add_sub_cancel]

def ackFrame (ack : TunnellingAck) : List UInt8 :=
  (KnxIpFrame.new .tunnellingAck ack.serialize).serialize

def statusOf : Verdict → UInt8
  | .accepted | .repeated => TunnellingAck.statusOk
  | .rejected => TunnellingAck.statusErrorSequenceNumber

/-- What becomes of one request: whether the counter check lets it pass, and the
frames that it is answered with. -/
structure Reception where
  accepted : Bool
  answers : List (List UInt8)
  deriving DecidableEq

def Reception.judged (channelId start : UInt8) (p : ℕ) (v : Verdict) : Reception :=
  ⟨v = .accepted, [ackFrame ⟨channelId, counter start p, statusOf v⟩]⟩

def acceptedPositions (log : List (ℕ × Reception)) : List ℕ :=
  (log.filter fun entry ↦ entry.2.accepted).map Prod.fst

def IsFirstMissing (log : List (ℕ × Reception)) (d : ℕ) : Prop :=
  d ∉ acceptedPositions log ∧ ∀ q < d, q ∈ acceptedPositions log

/-- What arrives over a channel that may lose frames and deliver one several times in
a row, but keeps them in order. -/
structure Fifo (count : ℕ) (positions : List ℕ) : Prop where
  sorted : positions.Pairwise (· ≤ ·)
  sent : ∀ p ∈ positions, p < count

def requestAt (channelId start : UInt8) (cemis : List (List UInt8)) (p : ℕ) : TunnellingRequest :=
  ⟨channelId, counter start p, cemis.getD p []⟩

structure Orderly (channelId start : UInt8) (count : ℕ) (log : List (ℕ × Reception)) : Prop where
  subsequence : (acceptedPositions log).Sublist (List.range count)
  complete : (∀ p < count, p ∈ log.map Prod.fst) → acceptedPositions log = List.range count
  answered : ∀ before p r after, log = before ++ (p, r) :: after → ∃ status,
    r.answers = [ackFrame ⟨channelId, counter start p, status⟩] ∧
    (r.accepted = true ∨ (acceptedPositions before).getLast? = some p →
      status = TunnellingAck.statusOk) ∧
    ∀ d, IsFirstMissing before d → d + 1 ≤ p → p ≤ d + 254 →
      status = TunnellingAck.statusErrorSequenceNumber

variable {channelId start : UInt8}

def judgedLog (channelId start : UInt8) (log : List (ℕ × Verdict)) : List (ℕ × Reception) :=
  log.map fun entry ↦ (entry.1, .judged channelId start entry.1 entry.2)

theorem acceptedPositions_judgedLog (log : List (ℕ × Verdict)) :
    acceptedPositions (judgedLog channelId start log) = accepted log := by
  induction log with
  | nil => rfl
  | cons entry log ih =>
    obtain ⟨p, v⟩ := entry
    rw [accepted_cons, ← ih]
    by_cases hv : v = .accepted <;> simp [judgedLog, acceptedPositions, Reception.judged, hv]

theorem orderly_of_judged {count : ℕ} {log : List (ℕ × Reception)}
    (hlog : log = judgedLog channelId start (verdicts 256 0 (log.map Prod.fst)))
    (hfifo : Fifo count (log.map Prod.fst)) : Orderly channelId start count log := by
  have horder : InOrder 0 (log.map Prod.fst) := ⟨hfifo.sorted, fun p _ ↦ Nat.zero_le _⟩
  have haccepted : acceptedPositions log = accepted (verdicts 256 0 (log.map Prod.fst)) := by
    conv_lhs => rw [hlog]
    exact acceptedPositions_judgedLog _
  refine ⟨?_, ?_, ?_⟩
  · rw [haccepted]
    exact accepted_sublist (by omega) horder hfifo.sent
  · intro hall
    rw [haccepted]
    exact accepted_eq_range (by omega) horder hfifo.sent hall
  · rintro before p r after rfl
    simp only [List.map_append, List.map_cons, verdicts_append, verdicts, judgedLog] at hlog horder
    -- The log splits where the verdicts do.
    obtain ⟨hbefore, hrest⟩ := List.append_inj hlog (by simp [length_verdicts])
    obtain ⟨hr, -⟩ := List.cons_eq_cons.mp hrest
    have hb : acceptedPositions before = accepted (verdicts 256 0 (before.map Prod.fst)) := by
      conv_lhs => rw [hbefore]
      exact acceptedPositions_judgedLog _
    have hp : InOrder 0 (before.map Prod.fst ++ [p]) :=
      ⟨horder.sorted.sublist (by simp), fun q _ ↦ Nat.zero_le _⟩
    obtain rfl := (Prod.mk.inj hr).2
    refine ⟨_, rfl, ?_, ?_⟩
    · rintro (ha | ha)
      · rw [Reception.judged, decide_eq_true_eq] at ha
        rw [ha]
        rfl
      · rw [hb] at ha
        rw [foldl_advance_eq_getLast, ha, Option.map_some, Option.getD_some,
          judge_succ (by omega)]
        rfl
    · rintro d ⟨hmissing, hd⟩ hlt hle
      rw [hb] at hmissing hd
      rw [FirstMissing.judge_eq (by omega) hp ⟨hmissing, hd⟩ hlt (by omega)]
      rfl

/-- The check of a counter by a party that expects the given one. It loads the
expected counter, and stores a new one if the check succeeds. -/
inductive Checked {S E : Type} (Serving : UInt8 → S → Prop) (received expected : UInt8)
    (load : E) (store : E) (h : List E) : S → List E → Result SequenceValidationResult → Prop
  | valid {s : S} (hr : received = expected) (hs : Serving (expected + 1) s) :
    Checked Serving received expected load store h s (store :: load :: h) (.ok .valid)
  | duplicate {s : S} (hr : received = expected - 1) (hs : Serving expected s) :
    Checked Serving received expected load store h s (load :: h) (.ok .duplicate)
  | invalid {s : S} (hr : received ≠ expected) (hr' : received ≠ expected - 1)
    (hs : Serving expected s) :
    Checked Serving received expected load store h s (load :: h) (.ok (.invalid expected received))

inductive Received {S : Type} (Serving : UInt8 → S → Prop) (channelId sequence expected : UInt8) :
    S → Reception → Prop
  | valid {s : S} (hr : sequence = expected) (hs : Serving (expected + 1) s) :
    Received Serving channelId sequence expected s
      ⟨true, [ackFrame (.newOk channelId sequence)]⟩
  | duplicate {s : S} (hr : sequence = expected - 1) (hs : Serving expected s) :
    Received Serving channelId sequence expected s
      ⟨false, [ackFrame (.newOk channelId sequence)]⟩
  | invalid {s : S} (hr : sequence ≠ expected) (hr' : sequence ≠ expected - 1)
    (hs : Serving expected s) :
    Received Serving channelId sequence expected s
      ⟨false, [ackFrame (.newSequenceError channelId sequence)]⟩

theorem Received.judged {S : Type} {Serving : UInt8 → S → Prop} {next p : ℕ} {s : S} {r : Reception}
    (h : Received Serving channelId (counter start p) (counter start next) s r) :
    Serving (counter start (advance 256 next p)) s ∧
      r = .judged channelId start p (judge 256 next p) := by
  cases h with
  | valid hr hs =>
    have hj : judge 256 next p = .accepted := judge_eq_accepted.mpr (counter_eq_iff.mp hr)
    rw [advance, if_pos hj, hj, counter_succ, hr]
    refine ⟨hs, ?_⟩
    rw [Reception.judged, hr]
    rfl
  | duplicate hr hs =>
    have hp := counter_eq_sub_one_iff.mp hr
    have hj : judge 256 next p = .repeated := by
      rw [judge, if_neg (by omega), if_pos hp]
    rw [advance, hj, if_neg (by simp)]
    exact ⟨hs, rfl⟩
  | invalid hr hr' hs =>
    have hj : judge 256 next p = .rejected := by
      rw [judge, if_neg fun hp ↦ hr (counter_eq_iff.mpr hp),
        if_neg fun hp ↦ hr' (counter_eq_sub_one_iff.mpr hp)]
    rw [advance, hj, if_neg (by simp)]
    exact ⟨hs, rfl⟩

section

variable {C : Type} {R : C → Type} {S I : Type} (exec : Machine C R S I)
  (handler : ℕ → Task C R KnxError Unit) (receptionOf : Task.History C R → Reception)
  (Serving : UInt8 → S → Prop)

def Handles (p : ℕ) (s : S) (r : Reception) (s' : S) : Prop :=
  ∃ inputs e, (handler p).runAlone exec inputs s [] = some e ∧ receptionOf e.history = r ∧
    e.state = s'

/-- The runs of a party that first expects `start`. Between two requests anything may
happen that leaves the party serving and its counter as it is. -/
def RunsOf (start : UInt8) : S → List (ℕ × Reception) → Prop :=
  Receives (fun next ↦ Serving (counter start next)) (Handles exec handler receptionOf)

variable {exec handler receptionOf Serving} {s : S}

def HandlesByCounter (exec : Machine C R S I) (handler : ℕ → Task C R KnxError Unit)
    (receptionOf : Task.History C R → Reception) (Serving : UInt8 → S → Prop)
    (channelId start : UInt8) (count : ℕ) : Prop :=
  ∀ expected p s, p < count → Serving expected s → (handler p).Attains exec (fun s' h _ ↦
    Received Serving channelId (counter start p) expected s' (receptionOf h)) s []

namespace HandlesByCounter

variable {count : ℕ} {log : List (ℕ × Reception)}

theorem received {expected : UInt8} {p : ℕ} {s' : S} {r : Reception}
    (h : HandlesByCounter exec handler receptionOf Serving channelId start count)
    (hp : p < count) (hs : Serving expected s) (hh : Handles exec handler receptionOf p s r s') :
    Received Serving channelId (counter start p) expected s' r := by
  obtain ⟨inputs, e, he, rfl, rfl⟩ := hh
  obtain ⟨e', he', hreceived⟩ := (h expected p s hp hs).exists_runAlone inputs
  obtain rfl : e' = e := Option.some.inj (he'.symm.trans he)
  exact hreceived

theorem log_eq (h : HandlesByCounter exec handler receptionOf Serving channelId start count)
    (hr : RunsOf exec handler receptionOf Serving start s log) (hs : Serving start s)
    (hsent : ∀ p ∈ log.map Prod.fst, p < count) :
    log = judgedLog channelId start (verdicts 256 0 (log.map Prod.fst)) := by
  have hzero : counter start 0 = start := UInt8.add_zero start
  refine Receives.eq_map 0 (fun next p s r s' hp hs hh ↦ ?_) hr (by rwa [hzero]) hsent
  exact (h.received hp hs hh).judged

theorem orderly (h : HandlesByCounter exec handler receptionOf Serving channelId start count)
    (hr : RunsOf exec handler receptionOf Serving start s log) (hs : Serving start s)
    (hfifo : Fifo count (log.map Prod.fst)) : Orderly channelId start count log :=
  orderly_of_judged (h.log_eq hr hs hfifo.sent) hfifo

theorem exists_log (i : I)
    (h : HandlesByCounter exec handler receptionOf Serving channelId start count)
    (hs : Serving start s) {ps : List ℕ} (hps : ∀ p ∈ ps, p < count) :
    ∃ log, RunsOf exec handler receptionOf Serving start s log ∧ log.map Prod.fst = ps := by
  have hzero : counter start 0 = start := UInt8.add_zero start
  refine Receives.exists_log 0 (fun next p s hp hs ↦ ?_) (by rwa [hzero]) hps
  obtain ⟨e, he, hreceived⟩ := (h _ p s hp hs).exists_runAlone fun _ ↦ i
  exact ⟨_, _, _, ⟨_, e, he, rfl, rfl⟩, hreceived.judged.1⟩

end HandlesByCounter

end

end Knust.Transport
