namespace ChipEight

/-!
Fixed-rate schedules on a time line of whole nanoseconds.

A clock keeps the time at which its next cycle is due.  A granted cycle moves that time on by one
interval, and not to the present, so a loop that has fallen behind catches up cycle by cycle and
the schedule does not drift.  How far behind it may fall can be limited.
-/

def nanosecondsPerSecond : Nat := 1000000000

/-- The time between two cycles of a rate in hertz; no rate but zero has less than a nanosecond. -/
def intervalOfRate (rate : Nat) : Nat :=
  if rate = 0 then 0 else max 1 (nanosecondsPerSecond / rate)

/-- A schedule: the time between two cycles and when the next one is due. -/
structure Clock where
  interval : Nat
  next : Int
deriving DecidableEq, Repr

namespace Clock

/-- A clock of a rate whose first cycle is due one interval after its start. -/
def start (rate : Nat) (time : Int) : Clock :=
  ⟨intervalOfRate rate, time + intervalOfRate rate⟩

def isDue (clock : Clock) (now : Int) : Bool :=
  clock.next ≤ now

def advance (clock : Clock) : Clock :=
  { clock with next := clock.next + clock.interval }

def tick (clock : Clock) (now : Int) : Bool × Clock :=
  if clock.isDue now then (true, clock.advance) else (false, clock)

/-- Grant cycles until none is owed, but no more than `cap`, and count them. -/
def drain (clock : Clock) (now : Int) : Nat -> Nat × Clock
  | 0 => (0, clock)
  | cap + 1 =>
      match clock.tick now with
      | (false, clock) => (0, clock)
      | (true, clock) =>
          let (count, clock) := clock.drain now cap
          (count + 1, clock)

/-- How many cycles are owed, for an interval that is not zero. -/
def owed (clock : Clock) (now : Int) : Nat :=
  if clock.isDue now then (now - clock.next).toNat / clock.interval + 1 else 0

/-- Forgive owed cycles that are older than `longest`. -/
def limitBacklog (clock : Clock) (now : Int) (longest : Nat) : Clock :=
  if clock.next < now - longest then { clock with next := now - longest } else clock

end Clock
end ChipEight
