import ChipEight.Proofs.Timers

namespace ChipEight

/-!
When the loop shows frames.

A pass reads the time once.  If the display cycle is due then, the pass shows one frame behind its
instructions, and if not, it shows none.  Each frame moves the display clock on by one interval and
nothing else moves it, so over any number of passes the clock counts the frames.
-/

open Dialogue

namespace Clock

/-- A clock behind a number of granted cycles. -/
def afterCycles (clock : Clock) (count : Nat) : Clock :=
  { clock with next := clock.next + count * clock.interval }

theorem afterCycles_afterCycles (clock : Clock) (first second : Nat) :
    (clock.afterCycles first).afterCycles second = clock.afterCycles (first + second) := by
  simp only [afterCycles, Int.natCast_add, Int.add_mul, Int.add_assoc]

end Clock

namespace Progress

/-- Whether a run is over because of an update, by an interrupt or a failure of the input. -/
def closed {G : Type} : Progress G -> Bool
  | .ended (.ok ()) _ | .ended (.error (.input _)) _ => true
  | .ended (.error _) _ | .running _ => false

end Progress

namespace Loop

variable {G : Type} {keys after : Keys} {exchanges : List Exchange} {loop last : Loop G}
  {progress : Progress G} {now : Int}

/-- How the frames of a part of the loop go with its clock.  If a cycle is due at a time, and no
update is the end, one frame shows the screen as it is then; otherwise none does.  Where the run
goes on, the clock has moved on with the frame. -/
structure Paced (loop : Loop G) (now : Int) (exchanges : List Exchange) (progress : Progress G) :
    Prop where
  shown : exchanges.filterMap Exchange.rendered? =
    if loop.displayClock.next ≤ now ∧ progress.closed = false then [progress.machine.screen] else []
  clock : forall last, progress = .running last ->
    last.displayClock =
      loop.displayClock.afterCycles (if loop.displayClock.next ≤ now then 1 else 0)

theorem paced_refresh (due : loop.displayClock.next ≤ now)
    (talks : loop.refresh.Talks keys exchanges after progress) :
    loop.Paced now exchanges progress := by
  rcases talks_refresh talks with ⟨result, made, rfl⟩
  have rendered := made.refreshed.rendered
  cases result with
  | ok shown =>
      constructor
      · rw [if_pos ⟨due, rfl⟩]
        exact rendered
      · rintro last ⟨⟩
        rw [if_pos due, Clock.afterCycles, Int.natCast_one, Int.one_mul]
        rfl
  | error fault =>
      have unclosed : (Progress.ended (.error fault) loop.machine.countDown).closed = false := by
        cases made with
        | renderFailure | buzzFailure => rfl
      constructor
      · rw [if_pos ⟨due, unclosed⟩]
        exact rendered
      · rintro last ⟨⟩

theorem paced_idle (early : ¬ loop.displayClock.next ≤ now) :
    loop.Paced now [] (.running loop) := by
  constructor
  · rw [if_neg fun both => early both.1]
    rfl
  · rintro last ⟨⟩
    rw [if_neg early, Clock.afterCycles, Int.natCast_zero, Int.zero_mul, Int.add_zero]

theorem paced_afterBurst {idle : Bool}
    (talks : (loop.afterBurst now idle).Talks keys exchanges after progress) :
    loop.Paced now exchanges progress := by
  rw [afterBurst, Clock.isDue] at talks
  by_cases due : loop.displayClock.next ≤ now
  · rw [if_pos (decide_eq_true due)] at talks
    exact paced_refresh due talks
  · rw [if_neg (by simpa using due)] at talks
    cases idle with
    | false =>
        rcases talks with ⟨rfl, rfl, rfl⟩
        exact paced_idle due
    | true =>
        rcases talks_aside talks trivial with ⟨_, talks⟩
        rcases talks_aside talks trivial with ⟨_, rfl, rfl, rfl⟩
        exact paced_idle due

/-- What the instructions of a pass leave to the frame behind them: nothing is shown yet, and the
display clock has not moved. -/
structure Unshown (loop : Loop G) (exchanges : List Exchange) (progress : Progress G) : Prop where
  shown : exchanges.filterMap Exchange.rendered? = []
  closed : forall result machine, progress = .ended result machine -> progress.closed = true
  clock : forall last, progress = .running last -> last.displayClock = loop.displayClock

theorem unshown_end {result : Except Fault Unit} {machine : Machine G}
    (shown : exchanges.filterMap Exchange.rendered? = [])
    (closed : (Progress.ended result machine).closed = true) :
    loop.Unshown exchanges (.ended result machine) := by
  refine ⟨shown, fun _ _ _ => closed, ?_⟩
  rintro last ⟨⟩

theorem unshown_pause (shown : exchanges.filterMap Exchange.rendered? = [])
    (clock : last.displayClock = loop.displayClock) :
    loop.Unshown exchanges (.running last) := by
  refine ⟨shown, ?_, ?_⟩
  · rintro result machine ⟨⟩
  · rintro reached ⟨⟩
    exact clock

variable [Generator G]

theorem burst_unshown {owed : Nat} (talks : (burst owed loop).Talks keys exchanges after progress) :
    loop.Unshown exchanges progress := by
  induction owed generalizing loop keys exchanges with
  | zero =>
      rcases talks with ⟨rfl, rfl, rfl⟩
      exact unshown_pause rfl rfl
  | succ owed inductionHypothesis =>
      rcases talks_burst_succ talks with
        ⟨cause, rfl, rfl⟩ | ⟨rfl, rfl⟩ | ⟨flow, now, rest, -, rfl, next⟩
      · exact unshown_end rfl rfl
      · exact unshown_end rfl rfl
      · rcases next with ⟨rfl, rfl, rfl⟩ | talks
        · exact unshown_pause rfl rfl
        · have later := inductionHypothesis talks
          exact ⟨later.shown, later.closed, later.clock⟩

/-- A pass that has read the time. -/
def passAt (now : Int) (loop : Loop G) : DeviceDialogue (Progress G) := do
  let clock := loop.cpuClock.limitBacklog now loop.displayClock.interval
  let owed := clock.owed now
  match ← burst owed { loop with cpuClock := clock } with
  | .ended result machine => return .ended result machine
  | .running loop => loop.afterBurst now (owed == 0)

theorem pass_eq (loop : Loop G) : loop.pass = askDevice .now >>= fun now => loop.passAt now :=
  rfl

/-- A pass shows one frame if the display cycle is due at the time that it has read, unless an
update ends the run before, and no frame if the cycle is not due. -/
theorem paced_passAt (talks : (loop.passAt now).Talks keys exchanges after progress) :
    loop.Paced now exchanges progress := by
  rw [passAt, talks_bind] at talks
  rcases talks with ⟨between, first, rest, middle, one, other, rfl⟩
  have unshown := burst_unshown one
  cases middle with
  | ended result machine =>
      rcases other with ⟨rfl, rfl, rfl⟩
      have closed := unshown.closed result machine rfl
      constructor
      · rw [List.append_nil, unshown.shown, if_neg]
        rw [closed]
        exact fun both => Bool.noConfusion both.2
      · rintro last ⟨⟩
  | running reached =>
      have sameClock : reached.displayClock = loop.displayClock := unshown.clock reached rfl
      have paced := paced_afterBurst other
      constructor
      · rw [List.filterMap_append, unshown.shown, List.nil_append, paced.shown, sameClock]
      · intro last goesOn
        rw [paced.clock last goesOn, sameClock]

/-- However many passes a run has made, its display clock has moved on by an interval for each of
the frames that were shown. -/
theorem clock_counts_frames {count : Nat}
    (talks : (passes count loop).Talks keys exchanges after (.running last)) :
    last.displayClock =
      loop.displayClock.afterCycles (exchanges.filterMap Exchange.rendered?).length := by
  induction count generalizing loop keys exchanges with
  | zero =>
      rcases talks with ⟨rfl, rfl, same⟩
      cases same
      simp [Clock.afterCycles]
  | succ count inductionHypothesis =>
      rw [passes, talks_bind] at talks
      rcases talks with ⟨between, first, rest, middle, one, other, rfl⟩
      cases middle with
      | ended result machine =>
          rcases other with ⟨-, -, stopped⟩
          cases stopped
      | running reached =>
          rw [pass_eq] at one
          rcases talks_aside one trivial with ⟨now, one⟩
          have paced := paced_passAt one
          have shown : (first.filterMap Exchange.rendered?).length =
              if loop.displayClock.next ≤ now then 1 else 0 := by
            rw [paced.shown]
            by_cases due : loop.displayClock.next ≤ now
            · rw [if_pos ⟨due, rfl⟩, if_pos due, List.length_singleton]
            · rw [if_neg fun both => due both.1, if_neg due, List.length_nil]
          rw [inductionHypothesis other, paced.clock reached rfl, Clock.afterCycles_afterCycles,
            List.filterMap_append, List.length_append, shown]

end Loop
end ChipEight
