import ChipEight.Proofs.Punctuality
import Mathlib.Data.Nat.Cast.Order.Ring

namespace ChipEight

/-!
Forgiving cycles creates none.

A clock that has fallen behind may be forgiven the cycles that are older than some time.  The next
cycle is then due at that time, if it was due before, and so there is a greatest number of cycles
that are still owed.

Afterwards the clock is off the grid of intervals that began at its start, and the exact law of a
clock that is only asked for cycles (`Clock.KeepsTime`) is lost.  One half of it remains: the next
cycle is never due earlier than as many intervals after the start as cycles were granted, and one
more.  That is enough for no cycle to be granted before its time, however often cycles are forgiven
and whatever is asked in between.
-/

namespace Clock

variable {clock : Clock} {now : Int}

/-- The next cycle is due when it was due, or at the oldest time that counts, if that is later. -/
theorem limitBacklog_eq (clock : Clock) (now : Int) (longest : Nat) :
    clock.limitBacklog now longest = { clock with next := max clock.next (now - longest) } := by
  unfold limitBacklog
  split
  case isTrue behind => rw [max_eq_right (Int.le_of_lt behind)]
  case isFalse inside => rw [max_eq_left (Int.not_lt.mp inside)]

theorem next_limitBacklog_le_iff (longest : Nat) :
    (clock.limitBacklog now longest).next ≤ now ↔ clock.next ≤ now := by
  rw [limitBacklog_eq]
  change max clock.next (now - longest) ≤ now ↔ _
  rw [max_le_iff]
  exact and_iff_left (Int.sub_le_self now (Int.natCast_nonneg longest))

theorem isDue_limitBacklog (clock : Clock) (now : Int) (longest : Nat) :
    (clock.limitBacklog now longest).isDue now = clock.isDue now :=
  decide_eq_decide.mpr (next_limitBacklog_le_iff longest)

theorem limitBacklog_limitBacklog (clock : Clock) (now : Int) (longest : Nat) :
    (clock.limitBacklog now longest).limitBacklog now longest = clock.limitBacklog now longest := by
  rw [limitBacklog_eq, limitBacklog_eq]
  dsimp only
  rw [max_assoc, max_self]

/-- A forgiven clock is behind by the time for which it was, or by the longest that is allowed. -/
theorem sub_next_limitBacklog (clock : Clock) (now : Int) (longest : Nat) :
    now - (clock.limitBacklog now longest).next = min (now - clock.next) longest := by
  rw [limitBacklog_eq]
  dsimp only
  omega

theorem owed_limitBacklog_of_due (due : clock.next ≤ now) (longest : Nat) :
    ((clock.limitBacklog now longest).owed now : Int) =
      min (now - clock.next) longest / clock.interval + 1 := by
  have stillDue := (next_limitBacklog_le_iff longest).mpr due
  have interval_eq : (clock.limitBacklog now longest).interval = clock.interval := by
    rw [limitBacklog_eq]
  rw [owed_eq_of_due stillDue, interval_eq, ← sub_next_limitBacklog, Int.natCast_add,
    Int.natCast_ediv, Int.toNat_of_nonneg (Int.sub_nonneg.mpr stillDue)]
  rfl

/-- What a call may ask of a clock. -/
inductive Call where
  /-- A cycle, if one is owed at a time. -/
  | ask (time : Int)
  /-- To forgive the owed cycles that are older than `longest` at a time. -/
  | forgive (time : Int) (longest : Nat)
deriving DecidableEq, Repr

def Call.time : Call -> Int
  | ask time => time
  | forgive time _ => time

/-- Whether a call is granted a cycle, and the clock behind it. -/
def answer (clock : Clock) : Call -> Bool × Clock
  | .ask time => clock.tick time
  | .forgive time longest => (false, clock.limitBacklog time longest)

/-- Make several calls one after another, and count the cycles that are granted. -/
def called (clock : Clock) : List Call -> Nat × Clock
  | [] => (0, clock)
  | call :: calls =>
      match clock.answer call with
      | (granted, clock) =>
          let (later, clock) := clock.called calls
          (granted.toNat + later, clock)

/-- A clock of some interval that has granted cycles since its start, all of them by `last`, is not
ahead of where it should be. -/
structure NotAhead (interval : Nat) (start last : Int) (granted : Nat) (clock : Clock) : Prop where
  interval_eq : clock.interval = interval
  next_ge : start + interval * (1 + granted) ≤ clock.next
  passed : start + interval * granted ≤ last

theorem KeepsTime.notAhead {interval granted : Nat} {start : Int}
    (keeps : KeepsTime interval start now granted clock) :
    NotAhead interval start now granted clock where
  interval_eq := keeps.interval_eq
  next_ge := Int.le_of_eq keeps.next_eq.symm
  passed := keeps.passed

namespace NotAhead

variable {interval granted : Nat} {start last : Int}

theorem advance (notAhead : NotAhead interval start last granted clock)
    (due : clock.next ≤ last) : NotAhead interval start last (granted + 1) clock.advance := by
  have next_ge := notAhead.next_ge
  constructor
  case interval_eq => exact notAhead.interval_eq
  case next_ge =>
    change _ ≤ clock.next + (clock.interval : Int)
    rw [notAhead.interval_eq]
    push_cast
    linarith
  case passed =>
    push_cast
    linarith

theorem limitBacklog (notAhead : NotAhead interval start last granted clock) (time : Int)
    (longest : Nat) : NotAhead interval start last granted (clock.limitBacklog time longest) := by
  rw [limitBacklog_eq]
  exact ⟨notAhead.interval_eq, notAhead.next_ge.trans (le_max_left _ _), notAhead.passed⟩

/-- No call puts a clock ahead. -/
theorem answer (notAhead : NotAhead interval start last granted clock) {call : Call}
    (inTime : call.time ≤ last) :
    NotAhead interval start last (granted + (clock.answer call).1.toNat) (clock.answer call).2 := by
  cases call with
  | ask time =>
      change NotAhead _ _ _ (granted + (clock.tick time).1.toNat) (clock.tick time).2
      rcases Int.lt_or_le time clock.next with early | due
      · rw [tick_of_early early]
        exact notAhead
      · rw [tick_of_due due]
        exact notAhead.advance (due.trans inTime)
  | forgive time longest => exact notAhead.limitBacklog time longest

theorem called (notAhead : NotAhead interval start last granted clock) {calls : List Call}
    (inTime : forall call, call ∈ calls -> call.time ≤ last) :
    NotAhead interval start last (granted + (clock.called calls).1) (clock.called calls).2 := by
  induction calls generalizing clock granted with
  | nil => exact notAhead
  | cons call calls inductionHypothesis =>
      have first := notAhead.answer (inTime call List.mem_cons_self)
      have rest := inductionHypothesis first
        (fun other member => inTime other (List.mem_cons_of_mem call member))
      rw [Nat.add_assoc] at rest
      exact rest

end NotAhead

/-- What becomes of a clock that is forgiven, at a time, the cycles older than `longest`. -/
structure Limited (clock : Clock) (now : Int) (longest : Nat) (limited : Clock) : Prop where
  interval_eq : limited.interval = clock.interval
  next_ge : clock.next ≤ limited.next
  isDue_eq : limited.isDue now = clock.isDue now
  settled : limited.limitBacklog now longest = limited
  /-- If no cycle was owed, none is granted. -/
  drain_of_early : now < clock.next -> forall cap, (limited.drain now cap).1 = 0
  /-- If cycles were owed, one is granted, and one more for each interval that is still missed. -/
  drain_of_due : clock.next ≤ now -> forall cap : Nat,
    ((limited.drain now cap).1 : Int) =
      min (cap : Int) (min (now - clock.next) longest / clock.interval + 1)
  drain_le : forall cap, (limited.drain now cap).1 ≤ longest / clock.interval + 1

theorem limited (positive : 0 < clock.interval) (now : Int) (longest : Nat) :
    Limited clock now longest (clock.limitBacklog now longest) := by
  have interval_eq : (clock.limitBacklog now longest).interval = clock.interval := by
    rw [limitBacklog_eq]
  have granted : forall cap, ((clock.limitBacklog now longest).drain now cap).1 =
      min cap ((clock.limitBacklog now longest).owed now) :=
    granted_drain (by rwa [interval_eq]) now
  have none_of_early : now < clock.next -> (clock.limitBacklog now longest).owed now = 0 := by
    intro early
    apply owed_of_early
    rw [← Int.not_le, next_limitBacklog_le_iff]
    exact Int.not_le.mpr early
  have drain_of_early : now < clock.next ->
      forall cap, ((clock.limitBacklog now longest).drain now cap).1 = 0 := by
    intro early cap
    rw [granted, none_of_early early, Nat.min_zero]
  have drain_of_due : clock.next ≤ now -> forall cap : Nat,
      (((clock.limitBacklog now longest).drain now cap).1 : Int) =
        min (cap : Int) (min (now - clock.next) longest / clock.interval + 1) := by
    intro due cap
    rw [granted, Nat.cast_min, owed_limitBacklog_of_due due]
  constructor
  case interval_eq => exact interval_eq
  case next_ge =>
    rw [limitBacklog_eq]
    exact le_max_left _ _
  case isDue_eq => exact clock.isDue_limitBacklog now longest
  case settled => exact clock.limitBacklog_limitBacklog now longest
  case drain_of_early => exact drain_of_early
  case drain_of_due => exact drain_of_due
  case drain_le =>
    intro cap
    rcases Int.lt_or_le now clock.next with early | due
    · rw [drain_of_early early]
      exact Nat.zero_le _
    · have atMost : min (now - clock.next) (longest : Int) / clock.interval ≤
          (longest : Int) / clock.interval :=
        Int.ediv_le_ediv (Int.natCast_pos.mpr positive) (min_le_right _ _)
      apply Int.ofNat_le.mp
      rw [drain_of_due due]
      push_cast
      exact (min_le_right _ _).trans (Int.add_le_add_right atMost 1)

/-- Cycles that are forgiven are lost, and no others, and the cycles that a clock grants between its
start and some time never outnumber the intervals in between: neither by asking nor by forgiving, in
any order, is a cycle gained. -/
theorem limitBacklog_only_forgives {rate : Nat} (positive : 0 < rate) :
    intervalOfRate rate = max 1 (nanosecondsPerSecond / rate) ∧
    (forall (clock : Clock) (now : Int) (longest : Nat), clock.interval = intervalOfRate rate ->
      Limited clock now longest (clock.limitBacklog now longest)) ∧
    forall (start last : Int) (calls : List Call), start ≤ last ->
      (forall call, call ∈ calls -> call.time ≤ last) ->
        (((Clock.start rate start).called calls).1 : Int) ≤
          (last - start) / intervalOfRate rate := by
  have long : 0 < intervalOfRate rate := intervalOfRate_pos positive
  refine ⟨intervalOfRate_eq positive, fun clock now longest ofRate => ?_, ?_⟩
  · apply limited
    rw [ofRate]
    exact long
  · intro start last calls order inTime
    have notAhead := (((KeepsTime.started rate start).later order).notAhead).called inTime
    rw [Nat.zero_add] at notAhead
    exact granted_le_of_passed long notAhead.passed

/-- A second behind, a clock of a thousand cycles a second is forgiven all but ten milliseconds.  It
still grants eleven cycles, and with those of later calls stays below the number of milliseconds. -/
theorem limitBacklog_only_forgives_second :
    let clock := Clock.start 1000 0
    let calls : List Call := [.ask 1000000, .ask 1000000, .forgive 1000000000 10000000] ++
      List.replicate 12 (.ask 1000000000) ++ [.forgive 1000500000 0, .ask 1001500000]
    0 < 1000 ∧ clock.interval = 1000000 ∧
      Limited clock 1000000000 10000000 (clock.limitBacklog 1000000000 10000000) ∧
      ((clock.limitBacklog 1000000000 10000000).drain 1000000000 100).1 = 11 ∧
      (0 : Int) ≤ 1001500000 ∧ (forall call, call ∈ calls -> call.time ≤ 1001500000) ∧
      (clock.called calls).1 = 13 ∧ ((clock.called calls).1 : Int) ≤ 1001500000 / 1000000 := by
  intro clock calls
  have positive : 0 < 1000 := by decide
  have inTime : forall call, call ∈ calls -> call.time ≤ 1001500000 := by decide
  have general := limitBacklog_only_forgives positive
  have limited := general.2.1 clock 1000000000 10000000 rfl
  have eleven : (((clock.limitBacklog 1000000000 10000000).drain 1000000000 100).1 : Int) = 11 :=
    (limited.drain_of_due (by decide) 100).trans (by decide)
  have bound := general.2.2 0 1001500000 calls (by decide) inTime
  exact ⟨positive, rfl, limited, Int.ofNat_inj.mp eleven, by decide, inTime, by decide, bound⟩

end Clock
end ChipEight
