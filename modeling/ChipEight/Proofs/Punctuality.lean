import ChipEight.Clock
import Mathlib.Algebra.Order.Ring.Int
import Mathlib.Data.List.Chain
import Mathlib.Tactic.Linarith
import Mathlib.Tactic.Ring

namespace ChipEight

/-!
A clock is on time.

A clock is asked for a cycle at times that do not decrease, once or many times at each of them.
What it knows of the past is only when the next cycle is due, and that is always as many intervals
after the start as cycles were granted, and one more.  A cycle is granted only if its time has come,
so there are never more of them than intervals have passed.

Asked again and again at one time, a clock grants all cycles that it owes and then no more.  It owes
finitely many, because no interval is shorter than a nanosecond.  Once it owes none, exactly as many
cycles were granted as intervals have passed, no matter when it was asked before.
-/

theorem intervalOfRate_eq {rate : Nat} (positive : 0 < rate) :
    intervalOfRate rate = max 1 (nanosecondsPerSecond / rate) :=
  if_neg (Nat.ne_of_gt positive)

theorem intervalOfRate_pos {rate : Nat} (positive : 0 < rate) : 0 < intervalOfRate rate := by
  rw [intervalOfRate_eq positive]
  exact Nat.lt_of_lt_of_le Nat.zero_lt_one (Nat.le_max_left 1 _)

namespace Clock

variable {clock : Clock} {now : Int}

theorem tick_of_due (due : clock.next ≤ now) : clock.tick now = (true, clock.advance) := by
  unfold tick isDue
  rw [if_pos (decide_eq_true due)]

theorem tick_of_early (early : now < clock.next) : clock.tick now = (false, clock) := by
  unfold tick isDue
  rw [if_neg]
  rw [decide_eq_true_eq]
  exact Int.not_le.mpr early

theorem early_of_refused (refused : (clock.tick now).1 = false) : now < clock.next := by
  by_contra late
  rw [tick_of_due (Int.not_lt.mp late)] at refused
  cases refused

/-- Ask for a cycle at each of several times, and count those that are granted. -/
def polled (clock : Clock) : List Int -> Nat × Clock
  | [] => (0, clock)
  | now :: times =>
      match clock.tick now with
      | (granted, clock) =>
          let (later, clock) := clock.polled times
          (granted.toNat + later, clock)

theorem polled_of_due (due : clock.next ≤ now) (times : List Int) :
    clock.polled (now :: times) =
      ((clock.advance.polled times).1 + 1, (clock.advance.polled times).2) := by
  rw [polled, tick_of_due due, Nat.add_comm]
  rfl

theorem polled_of_early (early : now < clock.next) (times : List Int) :
    clock.polled (now :: times) = clock.polled times := by
  rw [polled, tick_of_early early]
  change (0 + (clock.polled times).1, (clock.polled times).2) = _
  rw [Nat.zero_add]

theorem polled_replicate_of_early (early : now < clock.next) (calls : Nat) :
    clock.polled (List.replicate calls now) = (0, clock) := by
  induction calls with
  | zero => rfl
  | succ calls inductionHypothesis =>
      rw [List.replicate_succ, polled_of_early early, inductionHypothesis]

/-- To drain a clock is to ask it up to `cap` times for a cycle. -/
theorem drain_eq_polled (clock : Clock) (now : Int) (cap : Nat) :
    clock.drain now cap = clock.polled (List.replicate cap now) := by
  induction cap generalizing clock with
  | zero => rfl
  | succ cap inductionHypothesis =>
      rcases Int.lt_or_le now clock.next with early | due
      · rw [polled_replicate_of_early early, drain, tick_of_early early]
      · rw [List.replicate_succ, polled_of_due due, ← inductionHypothesis, drain, tick_of_due due]

theorem owed_of_early (early : now < clock.next) : clock.owed now = 0 := by
  unfold owed isDue
  rw [if_neg]
  rw [decide_eq_true_eq]
  exact Int.not_le.mpr early

theorem owed_eq_of_due (due : clock.next ≤ now) :
    clock.owed now = (now - clock.next).toNat / clock.interval + 1 := by
  unfold owed isDue
  exact if_pos (decide_eq_true due)

/-- One cycle granted is one less owed. -/
theorem owed_of_due (positive : 0 < clock.interval) (due : clock.next ≤ now) :
    clock.owed now = clock.advance.owed now + 1 := by
  rw [owed_eq_of_due due]
  rcases Int.lt_or_le now clock.advance.next with early | stillDue
  · have short : (now - clock.next).toNat < clock.interval := by
      change now < clock.next + clock.interval at early
      omega
    rw [owed_of_early early, Nat.div_eq_of_lt short]
  · have apart : (now - clock.next).toNat =
        (now - clock.advance.next).toNat + clock.interval := by
      change clock.next + clock.interval ≤ now at stillDue
      change _ = (now - (clock.next + clock.interval)).toNat + clock.interval
      omega
    rw [owed_eq_of_due stillDue, apart, Nat.add_div_right _ positive]
    rfl

/-- Draining a clock grants what it owes. -/
theorem granted_drain (positive : 0 < clock.interval) (now : Int) (cap : Nat) :
    (clock.drain now cap).1 = min cap (clock.owed now) := by
  rw [drain_eq_polled]
  induction cap generalizing clock with
  | zero => exact (Nat.zero_min _).symm
  | succ cap inductionHypothesis =>
      rcases Int.lt_or_le now clock.next with early | due
      · rw [polled_replicate_of_early early, owed_of_early early, Nat.min_zero]
      · have positiveStill : 0 < clock.advance.interval := positive
        rw [List.replicate_succ, polled_of_due due, owed_of_due positive due,
          Nat.add_min_add_right]
        exact congrArg (· + 1) (inductionHypothesis positiveStill)

/-- Asked again and again at one time, a clock grants what it owes and then refuses. -/
theorem tick_polled_replicate (positive : 0 < clock.interval) (now : Int) (calls : Nat) :
    ((clock.polled (List.replicate calls now)).2.tick now).1 =
      decide (calls < clock.owed now) := by
  induction calls generalizing clock with
  | zero =>
      change (clock.tick now).1 = _
      rcases Int.lt_or_le now clock.next with early | due
      · rw [tick_of_early early, owed_of_early early]
        rfl
      · rw [tick_of_due due, owed_of_due positive due]
        exact (decide_eq_true (Nat.succ_pos _)).symm
  | succ calls inductionHypothesis =>
      rcases Int.lt_or_le now clock.next with early | due
      · rw [polled_replicate_of_early early, tick_of_early early, owed_of_early early]
        rfl
      · have positiveStill : 0 < clock.advance.interval := positive
        rw [List.replicate_succ, polled_of_due due, owed_of_due positive due]
        simp only [inductionHypothesis positiveStill, Nat.add_lt_add_iff_right]

/-- Cycles whose intervals have all passed are no more than the intervals that have passed. -/
theorem granted_le_of_passed {interval granted : Nat} {start : Int} (positive : 0 < interval)
    (passed : start + interval * granted ≤ now) : (granted : Int) ≤ (now - start) / interval := by
  apply (Int.le_ediv_iff_mul_le (Int.natCast_pos.mpr positive)).mpr
  linarith

/-- A clock of some interval that has granted cycles since its start is where it should be. -/
structure KeepsTime (interval : Nat) (start now : Int) (granted : Nat) (clock : Clock) : Prop where
  interval_eq : clock.interval = interval
  next_eq : clock.next = start + interval * (1 + granted)
  passed : start + interval * granted ≤ now

namespace KeepsTime

variable {interval granted : Nat} {start : Int}

theorem started (rate : Nat) (start : Int) :
    KeepsTime (intervalOfRate rate) start start 0 (Clock.start rate start) := by
  constructor
  case interval_eq => rfl
  case next_eq =>
    change start + (intervalOfRate rate : Int) = _
    push_cast
    ring
  case passed => simp

theorem later (keeps : KeepsTime interval start now granted clock) {time : Int}
    (order : now ≤ time) : KeepsTime interval start time granted clock where
  interval_eq := keeps.interval_eq
  next_eq := keeps.next_eq
  passed := keeps.passed.trans order

/-- A cycle that is due may be granted. -/
theorem advance (keeps : KeepsTime interval start now granted clock) (due : clock.next ≤ now) :
    KeepsTime interval start now (granted + 1) clock.advance := by
  constructor
  case interval_eq => exact keeps.interval_eq
  case next_eq =>
    change clock.next + (clock.interval : Int) = _
    rw [keeps.interval_eq, keeps.next_eq]
    push_cast
    ring
  case passed =>
    rw [keeps.next_eq] at due
    push_cast
    linarith

theorem polled (keeps : KeepsTime interval start now granted clock) {times : List Int}
    {last : Int} (ordered : (now :: (times ++ [last])).Pairwise (· ≤ ·)) :
    KeepsTime interval start last (granted + (clock.polled times).1) (clock.polled times).2 := by
  induction times generalizing clock granted now with
  | nil =>
      exact keeps.later (List.rel_of_pairwise_cons ordered List.mem_cons_self)
  | cons time times inductionHypothesis =>
      have atTime := keeps.later (List.rel_of_pairwise_cons ordered List.mem_cons_self)
      have restOrdered := ordered.of_cons
      rcases Int.lt_or_le time clock.next with early | due
      · rw [polled_of_early early]
        exact inductionHypothesis atTime restOrdered
      · rw [polled_of_due due, Nat.add_comm _ 1, ← Nat.add_assoc]
        exact inductionHypothesis (atTime.advance due) restOrdered

end KeepsTime

/-- What a clock grants from its start on, asked at any times, and how it is left. -/
structure Punctual (interval : Nat) (start now : Int) (granted : Nat) (clock : Clock) : Prop where
  next_eq : clock.next = start + interval * (1 + granted)
  granted_le : (granted : Int) ≤ (now - start) / interval
  /-- At any one time, only finitely many more calls are granted. -/
  ends : forall (time : Int) (calls : Nat),
    ((clock.polled (List.replicate calls time)).2.tick time).1 = decide (calls < clock.owed time)
  /-- Once the clock refuses, nothing is owed and nothing was granted too early. -/
  drained : (clock.tick now).1 = false ->
    (granted : Int) = (now - start) / interval ∧ now < clock.next ∧ clock.next ≤ now + interval

theorem KeepsTime.punctual {interval granted : Nat} {start : Int} (positive : 0 < interval)
    (keeps : KeepsTime interval start now granted clock) :
    Punctual interval start now granted clock := by
  have granted_le := granted_le_of_passed positive keeps.passed
  constructor
  case next_eq => exact keeps.next_eq
  case granted_le => exact granted_le
  case ends =>
    rw [← keeps.interval_eq] at positive
    exact tick_polled_replicate positive
  case drained =>
    intro refused
    have early := early_of_refused refused
    have next_eq := keeps.next_eq
    have notYet : (now - start) / interval < 1 + granted := by
      apply (Int.ediv_lt_iff_lt_mul (Int.natCast_pos.mpr positive)).mpr
      linarith
    refine ⟨by omega, early, ?_⟩
    linarith [keeps.passed]

/-- A clock neither drifts, loses nor invents cycles, at whatever times it is asked for them. -/
theorem start_punctual {rate : Nat} (positive : 0 < rate) {start now : Int} {times : List Int}
    (ordered : (start :: (times ++ [now])).Pairwise (· ≤ ·)) :
    Punctual (max 1 (nanosecondsPerSecond / rate)) start now
      ((Clock.start rate start).polled times).1 ((Clock.start rate start).polled times).2 := by
  have keeps := (KeepsTime.started rate start).polled ordered
  rw [Nat.zero_add, intervalOfRate_eq positive] at keeps
  apply keeps.punctual
  rw [← intervalOfRate_eq positive]
  exact intervalOfRate_pos positive

/-- A loop that is called too early, then stalls, and then catches up in a burst. -/
theorem start_punctual_burst :
    let times : List Int := [1000, 1000, 9999999, 35001000, 35001000, 35001000, 35001000]
    0 < 100 ∧ (1000 :: (times ++ [35001000])).Pairwise (· ≤ ·) ∧
      Punctual 10000000 1000 35001000 3 ⟨10000000, 40001000⟩ ∧
      (Clock.start 100 1000).polled times = (3, ⟨10000000, 40001000⟩) ∧
      ((⟨10000000, 40001000⟩ : Clock).tick 35001000).1 = false := by
  intro times
  have positive : 0 < 100 := by decide
  have ordered : (1000 :: (times ++ [35001000])).Pairwise (· ≤ ·) := by decide
  exact ⟨positive, ordered, start_punctual positive ordered, by decide, by decide⟩

end Clock
end ChipEight
