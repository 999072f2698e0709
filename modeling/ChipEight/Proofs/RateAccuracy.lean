import ChipEight.Proofs.Punctuality

namespace ChipEight

/-!
A clock of a rate is never slow.

The interval of a rate is a whole number of nanoseconds and so, as a rule, a little too short.  What
is cut off makes a clock fast: by any time it has granted at least as many cycles as its rate asks
for.  Within a second it grants exactly as many, unless what is cut off from all its intervals
together is as long as one more interval.

A higher rate has no longer interval, so its clock is never behind that of a lower one.  No interval
is shorter than a nanosecond, so rates above one cycle a nanosecond are no different from that.
-/

section

variable {rate : Nat}

theorem intervalOfRate_of_le (positive : 0 < rate) (most : rate ≤ nanosecondsPerSecond) :
    intervalOfRate rate = nanosecondsPerSecond / rate := by
  rw [intervalOfRate_eq positive]
  exact Nat.max_eq_right (Nat.div_pos most positive)

theorem intervalOfRate_of_ge (least : nanosecondsPerSecond ≤ rate) : intervalOfRate rate = 1 := by
  have positive : 0 < rate := Nat.lt_of_lt_of_le (by decide) least
  have short : nanosecondsPerSecond / rate ≤ 1 := by
    rw [← Nat.div_self positive]
    exact Nat.div_le_div_right least
  rw [intervalOfRate_eq positive, Nat.max_eq_left short]

theorem intervalOfRate_antitone {slow fast : Nat} (positive : 0 < slow) (order : slow ≤ fast) :
    intervalOfRate fast ≤ intervalOfRate slow := by
  rw [intervalOfRate_eq positive, intervalOfRate_eq (Nat.lt_of_lt_of_le positive order)]
  exact max_le_max_left 1 (Nat.div_le_div_left order positive)

/-- An interval that is cut to a whole number comes around often enough. -/
theorem mul_div_le_div_div {second : Nat} (positive : 0 < rate) (most : rate ≤ second)
    (span : Nat) : span * rate / second ≤ span / (second / rate) := by
  rw [Nat.le_div_iff_mul_le (Nat.div_pos most positive)]
  refine Nat.le_of_mul_le_mul_right ?_ positive
  calc
    span * rate / second * (second / rate) * rate
      = span * rate / second * (second / rate * rate) := Nat.mul_assoc _ _ _
    _ ≤ span * rate / second * second := Nat.mul_le_mul_left _ (Nat.div_mul_le_self second rate)
    _ ≤ span * rate := Nat.div_mul_le_self _ second

/-- What is cut off from all intervals of a second together is what a division leaves. -/
theorem div_div_eq_iff {second : Nat} (positive : 0 < rate) (most : rate ≤ second) :
    second / (second / rate) = rate ↔ second % rate < second / rate := by
  have long : 0 < second / rate := Nat.div_pos most positive
  have whole : second / (second / rate) = rate + second % rate / (second / rate) :=
    calc
      second / (second / rate)
        = (second / rate * rate + second % rate) / (second / rate) :=
          congrArg (· / (second / rate)) (Nat.div_add_mod' second rate).symm
      _ = rate + second % rate / (second / rate) := Nat.mul_add_div long rate _
  rw [whole, Nat.add_eq_left, Nat.div_eq_zero_iff_lt long]

end

namespace Clock

variable {rate : Nat} {start : Int}

/-- What a clock of a rate has granted, if it was asked for cycles at any times up to the present
and at last refused one. -/
def Drained (rate : Nat) (start now : Int) (granted : Nat) : Prop :=
  Exists fun times : List Int =>
    (start :: (times ++ [now])).Pairwise (· ≤ ·) ∧
      ((Clock.start rate start).polled times).1 = granted ∧
      (((Clock.start rate start).polled times).2.tick now).1 = false

/-- At its start, a clock owes as many cycles as intervals will have passed. -/
theorem owed_start (positive : 0 < rate) (start : Int) (span : Nat) :
    (Clock.start rate start).owed (start + span) = span / intervalOfRate rate := by
  have long := intervalOfRate_pos positive
  rcases Nat.lt_or_ge span (intervalOfRate rate) with short | passed
  · rw [Nat.div_eq_of_lt short]
    apply owed_of_early
    change start + (span : Int) < start + (intervalOfRate rate : Int)
    omega
  · have due : (Clock.start rate start).next ≤ start + span := by
      change start + (intervalOfRate rate : Int) ≤ start + (span : Int)
      omega
    have behind : (start + (span : Int) - (Clock.start rate start).next).toNat =
        span - intervalOfRate rate := by
      change (start + (span : Int) - (start + (intervalOfRate rate : Int))).toNat = _
      omega
    rw [owed_eq_of_due due, behind]
    exact (Nat.div_eq_sub_div long passed).symm

/-- A clock can be drained at any time, and has then granted a cycle for each interval. -/
theorem drained_iff (positive : 0 < rate) (start : Int) (span granted : Nat) :
    Drained rate start (start + span) granted ↔ granted = span / intervalOfRate rate := by
  have long := intervalOfRate_pos positive
  constructor
  · rintro ⟨times, ordered, rfl, refused⟩
    have keeps := (KeepsTime.started rate start).polled ordered
    rw [Nat.zero_add] at keeps
    have count := ((keeps.punctual long).drained refused).1
    rw [add_sub_cancel_left] at count
    exact_mod_cast count
  · rintro rfl
    refine ⟨List.replicate (span / intervalOfRate rate) (start + span), ?_, ?_, ?_⟩
    · have late : start ≤ start + (span : Int) := Int.le_add_of_nonneg_right (Int.natCast_nonneg span)
      rw [← List.replicate_succ', List.pairwise_cons, List.pairwise_replicate]
      exact ⟨fun time member => List.eq_of_mem_replicate member ▸ late, Or.inr (Int.le_refl _)⟩
    · rw [← drain_eq_polled, granted_drain long, owed_start positive, Nat.min_self]
    · rw [tick_polled_replicate long, owed_start positive]
      exact decide_eq_false (Nat.lt_irrefl _)

/-- A cycle that is granted counts with those before it. -/
theorem add_polled_of_due {clock : Clock} {time : Int} (due : clock.next ≤ time) (granted : Nat)
    (times : List Int) :
    granted + (clock.polled (time :: times)).1 = granted + 1 + (clock.advance.polled times).1 := by
  rw [polled_of_due due, Nat.add_assoc, Nat.add_comm 1]

/-- Asked at the same times, a clock with shorter intervals is not behind. -/
theorem KeepsTime.polled_le_polled {long short late early : Nat} {now : Int} {slow fast : Clock}
    (keepsSlow : KeepsTime long start now late slow)
    (keepsFast : KeepsTime short start now early fast) (shorter : short ≤ long)
    (order : late ≤ early) {times : List Int} (ordered : (now :: times).Pairwise (· ≤ ·)) :
    late + (slow.polled times).1 ≤ early + (fast.polled times).1 := by
  induction times generalizing now slow fast late early with
  | nil => exact order
  | cons time times inductionHypothesis =>
      have inOrder := List.rel_of_pairwise_cons ordered List.mem_cons_self
      have slowNow := keepsSlow.later inOrder
      have fastNow := keepsFast.later inOrder
      have restOrdered := ordered.of_cons
      rcases Int.lt_or_le time slow.next with slowEarly | slowDue
      · rw [polled_of_early slowEarly]
        rcases Int.lt_or_le time fast.next with fastEarly | fastDue
        · rw [polled_of_early fastEarly]
          exact inductionHypothesis slowNow fastNow order restOrdered
        · rw [add_polled_of_due fastDue]
          exact inductionHypothesis slowNow (fastNow.advance fastDue) (Nat.le_succ_of_le order)
            restOrdered
      · rw [add_polled_of_due slowDue]
        rcases Int.lt_or_le time fast.next with fastEarly | fastDue
        · rw [polled_of_early fastEarly]
          -- Had both granted as many, the fast clock would be due wherever the slow one is.
          have ahead : late + 1 ≤ early := by
            by_contra level
            obtain rfl : late = early := by omega
            have apart : (short : Int) * (1 + late) ≤ long * (1 + late) := by
              exact_mod_cast Nat.mul_le_mul_right _ shorter
            rw [keepsSlow.next_eq] at slowDue
            rw [keepsFast.next_eq] at fastEarly
            linarith
          exact inductionHypothesis (slowNow.advance slowDue) fastNow ahead restOrdered
        · rw [add_polled_of_due fastDue]
          exact inductionHypothesis (slowNow.advance slowDue) (fastNow.advance fastDue)
            (Nat.succ_le_succ order) restOrdered

/-- A clock that is drained any time after its start has granted at least as many cycles as its rate
asks for, and after a second exactly as many just when what the interval leaves of a second is less
than one more interval.  The clock of a higher rate is never behind, and beyond a cycle a nanosecond
rates make no difference. -/
theorem never_slow (start : Int) :
    (forall rate, 0 < rate -> forall span : Nat,
      Exists fun granted => Drained rate start (start + span) granted) ∧
    (forall rate, 0 < rate -> rate ≤ nanosecondsPerSecond ->
      (forall span granted : Nat, Drained rate start (start + span) granted ->
        span * rate / nanosecondsPerSecond ≤ granted) ∧
      forall granted, Drained rate start (start + nanosecondsPerSecond) granted ->
        (granted = rate ↔ nanosecondsPerSecond % rate < nanosecondsPerSecond / rate) ∧
        (rate * rate ≤ nanosecondsPerSecond -> granted = rate)) ∧
    (forall slow fast, 0 < slow -> slow ≤ fast ->
      (forall times, (start :: times).Pairwise (· ≤ ·) ->
        ((Clock.start slow start).polled times).1 ≤ ((Clock.start fast start).polled times).1) ∧
      forall span granted more : Nat, Drained slow start (start + span) granted ->
        Drained fast start (start + span) more -> granted ≤ more) ∧
    forall rate, nanosecondsPerSecond ≤ rate ->
      Clock.start rate start = Clock.start nanosecondsPerSecond start ∧
      forall span granted : Nat, Drained rate start (start + span) granted -> granted = span := by
  refine ⟨fun rate positive span => ?_, fun rate positive most => ⟨?_, ?_⟩,
    fun slow fast positive order => ⟨?_, ?_⟩, fun rate least => ⟨?_, ?_⟩⟩
  · exact ⟨_, (drained_iff positive start span _).mpr rfl⟩
  · intro span granted drained
    rw [(drained_iff positive start span granted).mp drained, intervalOfRate_of_le positive most]
    exact mul_div_le_div_div positive most span
  · intro granted drained
    have exact_iff := div_div_eq_iff positive most
    rw [(drained_iff positive start _ granted).mp drained, intervalOfRate_of_le positive most]
    refine ⟨exact_iff, fun small => exact_iff.mpr ?_⟩
    calc
      nanosecondsPerSecond % rate < rate := Nat.mod_lt _ positive
      _ ≤ nanosecondsPerSecond / rate := (Nat.le_div_iff_mul_le positive).mpr small
  · intro times ordered
    have grown := (KeepsTime.started slow start).polled_le_polled (KeepsTime.started fast start)
      (intervalOfRate_antitone positive order) (Nat.le_refl 0) ordered
    rwa [Nat.zero_add, Nat.zero_add] at grown
  · intro span granted more slowDrained fastDrained
    have fastPositive := Nat.lt_of_lt_of_le positive order
    rw [(drained_iff positive start span granted).mp slowDrained,
      (drained_iff fastPositive start span more).mp fastDrained]
    exact Nat.div_le_div_left (intervalOfRate_antitone positive order)
      (intervalOfRate_pos fastPositive)
  · rw [Clock.start, Clock.start, intervalOfRate_of_ge least,
      intervalOfRate_of_ge (Nat.le_refl nanosecondsPerSecond)]
  · intro span granted drained
    have positive : 0 < rate := Nat.lt_of_lt_of_le (by decide) least
    rw [(drained_iff positive start span granted).mp drained, intervalOfRate_of_ge least,
      Nat.div_one]

/-- At sixty cycles a second a clock grants sixty in its first second.  At sixty thousand the
intervals are too short for that: two more are granted. -/
theorem never_slow_first_second :
    0 < 60 ∧ 60 ≤ 60000 ∧ 60000 ≤ nanosecondsPerSecond ∧ 60 * 60 ≤ nanosecondsPerSecond ∧
    Drained 60 0 (0 + nanosecondsPerSecond) 60 ∧
    Drained 60000 0 (0 + nanosecondsPerSecond) 60002 ∧
    nanosecondsPerSecond * 60000 / nanosecondsPerSecond ≤ 60002 ∧
    ¬ nanosecondsPerSecond % 60000 < nanosecondsPerSecond / 60000 ∧
    ((0 : Int) :: [nanosecondsPerSecond]).Pairwise (· ≤ ·) ∧
    ((Clock.start 60 0).polled [nanosecondsPerSecond]).1 ≤
      ((Clock.start 60000 0).polled [nanosecondsPerSecond]).1 ∧
    nanosecondsPerSecond ≤ 18446744073709551615 ∧
    Drained 18446744073709551615 0 (0 + (5 : Nat)) 5 := by
  obtain ⟨drains, accurate, faster, fastest⟩ := never_slow 0
  have positive : 0 < 60 := by decide
  have order : 60 ≤ 60000 := by decide
  have most : 60000 ≤ nanosecondsPerSecond := by decide
  have small : 60 * 60 ≤ nanosecondsPerSecond := by decide
  have least : nanosecondsPerSecond ≤ 18446744073709551615 := by decide
  have ordered : ((0 : Int) :: [nanosecondsPerSecond]).Pairwise (· ≤ ·) := by decide
  have manyPositive : 0 < 60000 := by decide
  have maxPositive : 0 < 18446744073709551615 := by decide
  obtain ⟨sixty, sixtyDrained⟩ := drains 60 positive nanosecondsPerSecond
  obtain rfl := ((accurate 60 positive (by decide)).2 sixty sixtyDrained).2 small
  have manyDrained : Drained 60000 0 (0 + nanosecondsPerSecond) 60002 :=
    (drained_iff manyPositive 0 nanosecondsPerSecond 60002).mpr (by decide)
  have many := accurate 60000 manyPositive most
  obtain ⟨five, fiveDrained⟩ := drains _ maxPositive 5
  obtain rfl := (fastest _ least).2 5 five fiveDrained
  exact ⟨positive, order, most, small, sixtyDrained, manyDrained,
    many.1 nanosecondsPerSecond 60002 manyDrained,
    fun exactly => absurd ((many.2 60002 manyDrained).1.mpr exactly) (by decide), ordered,
    (faster 60 60000 positive order).1 [nanosecondsPerSecond] ordered, least, fiveDrained⟩

end Clock
end ChipEight
