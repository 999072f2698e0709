import ChipEight.Proofs.Effects
import ChipEight.Proofs.Encoding
import ChipEight.Proofs.History
import ChipEight.Random.ChaCha
import Mathlib.Data.List.Basic

namespace ChipEight

/-!
Waiting for a key.

A wait looks at the keys once in every step and stays where it is.  It remembers the highest key
that it saw down, and a higher one takes its place.  The wait is over in the first step that finds
the remembered key up again; the register then receives that key, not one that is down by now.

The main statement follows a wait from its first step to its last, with any keys at every step and
any number of frames in between.  What it rests on are the two things that a single step may do:
stay, and remember what it saw, or finish.  Which key is the highest is said without the search by
which a step finds it.
-/

namespace Keys

/-- A key is down, and none that is down is above it. -/
structure Highest (keys : Keys) (key : UInt8) : Prop where
  down : keys.down key = true
  top : forall other, keys.down other = true -> other ≤ key

/-- Only the sixteen keys are ever down. -/
theorem le_of_down {keys : Keys} {key : UInt8} (down : keys.down key = true) : key ≤ 0xF := by
  by_contra beyond
  have outside : 16 ≤ key.toNat :=
    Nat.lt_of_not_le (fun small => beyond (UInt8.le_iff_toNat_le.mpr small))
  rw [Keys.down, Vector.getElem?_eq_none outside] at down
  cases down

/-- The keys in the order in which they are looked at. -/
private def candidates : List UInt8 := (List.range 16).reverse.map UInt8.ofNat

private theorem mem_candidates {key : UInt8} (small : key ≤ 0xF) :
    key ∈ candidates := by
  refine List.mem_map.mpr ⟨key.toNat, ?_, UInt8.ofNat_toNat⟩
  rw [List.mem_reverse, List.mem_range]
  exact Nat.lt_succ_of_le (UInt8.le_iff_toNat_le.mp small)

private theorem candidates_pairwise :
    candidates.Pairwise (fun earlier later => later < earlier) := by
  decide

/-- No key is the highest only if none is down. -/
theorem highest?_eq_none_iff {keys : Keys} :
    keys.highest? = none ↔ forall key, keys.down key = false := by
  change candidates.find? keys.down = none ↔ _
  rw [List.find?_eq_none]
  constructor
  · intro none key
    apply Bool.eq_false_iff.mpr
    intro down
    exact none key (mem_candidates (le_of_down down)) down
  · intro up key member
    exact Bool.eq_false_iff.mp (up key)

/-- The search for the highest key finds it. -/
theorem highest?_eq_some_iff {keys : Keys} {key : UInt8} :
    keys.highest? = some key ↔ keys.Highest key := by
  change candidates.find? keys.down = some key ↔ _
  rw [List.find?_eq_some_iff_append]
  have sorted := candidates_pairwise
  constructor
  · rintro ⟨down, higher, lower, split, up⟩
    refine ⟨down, fun other otherDown => ?_⟩
    have member := mem_candidates (le_of_down otherDown)
    rw [split] at member sorted
    rcases List.mem_append.mp member with before | after
    · exact absurd otherDown (by simpa using up other before)
    · rcases List.mem_cons.mp after with same | behind
      · exact UInt8.le_of_eq same
      · exact UInt8.le_of_lt (List.rel_of_pairwise_cons (List.pairwise_append.mp sorted).2.1 behind)
  · rintro ⟨down, highest⟩
    rcases List.append_of_mem (mem_candidates (le_of_down down)) with ⟨higher, lower, split⟩
    refine ⟨down, higher, lower, split, fun other before => ?_⟩
    rw [split] at sorted
    have above := (List.pairwise_append.mp sorted).2.2 other before key List.mem_cons_self
    rw [Bool.not_eq_true']
    apply Bool.eq_false_iff.mpr
    intro otherDown
    exact UInt8.not_lt.mpr (highest other otherDown) above

theorem up_or_highest (keys : Keys) :
    (forall key, keys.down key = false) ∨ Exists fun key => keys.Highest key := by
  cases highest : keys.highest? with
  | none => exact Or.inl (highest?_eq_none_iff.mp highest)
  | some key => exact Or.inr ⟨key, highest?_eq_some_iff.mp highest⟩

end Keys

namespace KeyWait

/-- What a wait for a register remembers of the keys that it has just seen: the highest one that is
down, and nothing if none is. -/
def Remembers (register : UInt8) (keys : Keys) : KeyWait -> Prop
  | idle => forall key, keys.down key = false
  | waiting waiter key => waiter = register ∧ keys.Highest key

/-- What a wait that began without a key remembers before the step with a number. -/
def RemembersBefore (register : UInt8) (snapshots : Nat -> Keys) : Nat -> KeyWait -> Prop
  | 0, keyWait => keyWait = .idle
  | step + 1, keyWait => Remembers register (snapshots step) keyWait

/-- The progress of a wait for a register that has just found a key, or none. -/
def seen (register : UInt8) : Option UInt8 -> KeyWait
  | none => .idle
  | some key => .waiting register key

/-- The progress of a wait before the step with a number, as its steps find it. -/
def before (register : UInt8) (snapshots : Nat -> Keys) : Nat -> KeyWait
  | 0 => .idle
  | step + 1 => .seen register (snapshots step).highest?

theorem remembers_seen (register : UInt8) (keys : Keys) :
    Remembers register keys (.seen register keys.highest?) := by
  cases highest : keys.highest? with
  | none => exact Keys.highest?_eq_none_iff.mp highest
  | some key => exact ⟨rfl, Keys.highest?_eq_some_iff.mp highest⟩

theorem remembersBefore_before (register : UInt8) (snapshots : Nat -> Keys) (step : Nat) :
    RemembersBefore register snapshots step (.before register snapshots step) := by
  cases step with
  | zero => rfl
  | succ step => exact remembers_seen register (snapshots step)

/-- A step finds a key up that was the highest one down in the step before. -/
def LetGo (snapshots : Nat -> Keys) : Nat -> UInt8 -> Prop
  | 0, _ => False
  | step + 1, key => (snapshots step).Highest key ∧ (snapshots (step + 1)).down key = false

/-- A step finds a key let go, and no step before it does. -/
def FirstLetGo (snapshots : Nat -> Keys) (step : Nat) (key : UInt8) : Prop :=
  LetGo snapshots step key ∧ forall earlier, earlier < step ->
    forall other, ¬ LetGo snapshots earlier other

/-- Once a key has been down, one is let go no later than when none is down. -/
theorem exists_letGo {snapshots : Nat -> Keys} {early late : Nat} (order : early < late)
    (pressed : Exists fun key => (snapshots early).down key = true)
    (up : forall key, (snapshots late).down key = false) :
    Exists fun step => step ≤ late ∧ Exists fun key => LetGo snapshots step key := by
  induction late with
  | zero => exact False.elim (Nat.not_lt_zero _ order)
  | succ late inductionHypothesis =>
      rcases (snapshots late).up_or_highest with upBefore | ⟨key, highest⟩
      · have different : early ≠ late := by
          rintro rfl
          rcases pressed with ⟨key, down⟩
          exact Bool.noConfusion (down.symm.trans (upBefore key))
        rcases inductionHypothesis (by omega) upBefore with ⟨step, bound, found⟩
        exact ⟨step, Nat.le_succ_of_le bound, found⟩
      · exact ⟨late + 1, Nat.le_refl _, key, highest, up key⟩

/-- Where a key is let go at all, some step is the first to find one. -/
theorem exists_firstLetGo {snapshots : Nat -> Keys} {step : Nat} {key : UInt8}
    (letGo : LetGo snapshots step key) :
    Exists fun first => first ≤ step ∧ Exists fun key => FirstLetGo snapshots first key := by
  induction step using Nat.strongRecOn generalizing key with
  | ind step inductionHypothesis =>
      by_cases earlier : Exists fun earlier => earlier < step ∧
          Exists fun other => LetGo snapshots earlier other
      · rcases earlier with ⟨earlier, before, other, found⟩
        rcases inductionHypothesis earlier before found with ⟨first, bound, least⟩
        exact ⟨first, Nat.le_trans bound (Nat.le_of_lt before), least⟩
      · refine ⟨step, Nat.le_refl _, key, letGo, fun before small other found => ?_⟩
        exact earlier ⟨before, small, other, found⟩

end KeyWait

namespace Machine

variable {G : Type}

/-- The machine with another progress of its wait. -/
def withKeyWait (machine : Machine G) (keyWait : KeyWait) : Machine G :=
  { machine with cpu := { machine.cpu with keyWait } }

/-- The machine whose wait is over: the register has its key and the next instruction is next. -/
def released (machine : Machine G) (register key : UInt8) : Machine G :=
  { machine with
    cpu := { machine.cpu.setRegister register key with
      pc := machine.cpu.pc + 2
      keyWait := .idle } }

theorem withKeyWait_self (machine : Machine G) :
    machine.withKeyWait machine.cpu.keyWait = machine :=
  rfl

/-- Behind its instruction, a wait that goes on moves back and keeps only what it saw. -/
theorem awaitKey_passed (machine : Machine G) (keys : Keys) (x : UInt8)
    (idle : keys.highest? = none -> machine.cpu.keyWait = .idle) :
    (machine.passed.awaitKey keys x).flow = .keyWait ∧
      (machine.passed.awaitKey keys x).machine =
        machine.withKeyWait (.seen x keys.highest?) := by
  rw [awaitKey]
  cases highest : keys.highest? with
  | none =>
      refine ⟨rfl, ?_⟩
      simp only [passed, Cpu.skip, Cpu.rewind, UInt16.add_sub_cancel]
      rw [KeyWait.seen, ← idle highest, withKeyWait_self]
  | some key =>
      refine ⟨rfl, ?_⟩
      simp only [passed, Cpu.skip, Cpu.rewind, UInt16.add_sub_cancel]
      rfl

/-- How many frames come before the step with a number. -/
def framesBefore (frames : Nat -> List Device.Replies) : Nat -> Nat
  | 0 => 0
  | step + 1 => framesBefore frames step + (frames step).length

/-- Frames have no part in a wait. -/
theorem iterate_countDown_withKeyWait (machine : Machine G) (keyWait : KeyWait) (count : Nat) :
    countDown^[count] (machine.withKeyWait keyWait) =
      (countDown^[count] machine).withKeyWait keyWait := by
  induction count generalizing machine with
  | zero => rfl
  | succ count inductionHypothesis => exact inductionHypothesis machine.countDown

/-- Frames keep the word at the program counter. -/
theorem iterate_countDown_word (machine : Machine G) (count : Nat) :
    (countDown^[count] machine).cpu.word = machine.cpu.word := by
  induction count generalizing machine with
  | zero => rfl
  | succ count inductionHypothesis => exact inductionHypothesis machine.countDown

variable {K : Type} [Generator G] [KeySource K]

/-- A wait that has seen no key yet, or whose key is still down, stays and remembers what it saw. -/
theorem tick_stays {machine : Machine G} {x : UInt8} (keys : K)
    (atWait : Instruction.decode machine.cpu.word = .waitKey x)
    (held : forall register key, machine.cpu.keyWait = .waiting register key ->
      (KeySource.keys keys).down key = true) :
    (machine.tick keys).flow = .keyWait ∧
      (machine.tick keys).machine =
        machine.withKeyWait (.seen x (KeySource.keys keys).highest?) := by
  rw [machine.tick_eq keys atWait]
  change (machine.passed.waitKey (KeySource.keys keys) x).flow = _ ∧
    (machine.passed.waitKey (KeySource.keys keys) x).machine = _
  have position : machine.passed.cpu.keyWait = machine.cpu.keyWait := rfl
  rw [waitKey, position]
  cases wait : machine.cpu.keyWait with
  | idle => exact machine.awaitKey_passed _ x (fun _ => wait)
  | waiting register key =>
      have down := held register key wait
      simp only [down, if_true]
      refine machine.awaitKey_passed _ x (fun none => ?_)
      rw [Keys.highest?_eq_none_iff.mp none key] at down
      cases down

/-- A wait whose key is up again is over. -/
theorem tick_releases {machine : Machine G} {x register key : UInt8} (keys : K)
    (atWait : Instruction.decode machine.cpu.word = .waitKey x)
    (remembered : machine.cpu.keyWait = .waiting register key)
    (up : (KeySource.keys keys).down key = false) :
    (machine.tick keys).flow = .ok ∧ (machine.tick keys).machine = machine.released x key := by
  rw [machine.tick_eq keys atWait]
  change (machine.passed.waitKey (KeySource.keys keys) x).flow = _ ∧
    (machine.passed.waitKey (KeySource.keys keys) x).machine = _
  have position : machine.passed.cpu.keyWait = .waiting register key := remembered
  rw [waitKey, position]
  simp only [up, Bool.false_eq_true, if_false, true_and]
  rfl

/-- What the sources of keys show, step by step. -/
def snapshots (keys : Nat -> K) (step : Nat) : Keys :=
  KeySource.keys (keys step)

/-- The machine before the step with a number, when every step sees the keys of its number and
is followed by some frames. -/
def polled (machine : Machine G) (keys : Nat -> K) (frames : Nat -> List Device.Replies) :
    Nat -> Machine G
  | 0 => machine
  | step + 1 =>
      ((machine.polled keys frames step).tick (keys step)).machine.afterAll
        ((frames step).map Action.frame : List (Action K))

theorem afterAll_frames (machine : Machine G) (frames : List Device.Replies) :
    machine.afterAll (frames.map Action.frame : List (Action K)) =
      countDown^[frames.length] machine := by
  induction frames generalizing machine with
  | nil => rfl
  | cons replies frames inductionHypothesis =>
      rw [List.map_cons, afterAll_cons, after_frame, inductionHypothesis, List.length_cons,
        Function.iterate_succ_apply]

theorem polled_stays {machine : Machine G} {x : UInt8}
    (atWait : Instruction.decode machine.cpu.word = .waitKey x) (keys : Nat -> K)
    (frames : Nat -> List Device.Replies) (step : Nat)
    (here : machine.polled keys frames step =
      (countDown^[framesBefore frames step] machine).withKeyWait
        (.before x (snapshots keys) step))
    (held : forall key, ¬ KeyWait.LetGo (snapshots keys) step key) :
    ((machine.polled keys frames step).tick (keys step)).flow = .keyWait ∧
      ((machine.polled keys frames step).tick (keys step)).machine =
        (machine.polled keys frames step).withKeyWait
          (.seen x (snapshots keys step).highest?) := by
  apply tick_stays
  · rw [here]
    change Instruction.decode (countDown^[framesBefore frames step] machine).cpu.word = _
    rw [iterate_countDown_word, atWait]
  · intro register key remembered
    rw [here] at remembered
    change KeyWait.before x _ step = _ at remembered
    cases step with
    | zero => cases remembered
    | succ step =>
        change KeyWait.seen x (snapshots keys step).highest? = _ at remembered
        cases highest : (snapshots keys step).highest? with
        | none =>
            rw [highest] at remembered
            cases remembered
        | some found =>
            rw [highest] at remembered
            cases remembered
            exact (Bool.not_eq_false _).mp fun up =>
              held key ⟨Keys.highest?_eq_some_iff.mp highest, up⟩

/-- As long as no key is let go, steps and frames leave a wait as it was, but for the timers and
for what it remembers. -/
theorem polled_eq {machine : Machine G} {x : UInt8} (idle : machine.cpu.keyWait = .idle)
    (atWait : Instruction.decode machine.cpu.word = .waitKey x) (keys : Nat -> K)
    (frames : Nat -> List Device.Replies) (step : Nat)
    (held : forall earlier, earlier < step ->
      forall key, ¬ KeyWait.LetGo (snapshots keys) earlier key) :
    machine.polled keys frames step =
      (countDown^[framesBefore frames step] machine).withKeyWait
        (.before x (snapshots keys) step) := by
  induction step with
  | zero => exact (machine.withKeyWait_self ▸ idle ▸ rfl)
  | succ step inductionHypothesis =>
      have here := inductionHypothesis (fun earlier small => held earlier (Nat.lt_succ_of_lt small))
      have stays := polled_stays atWait keys frames step here (held step (Nat.lt_succ_self step))
      rw [polled, stays.2, afterAll_frames, here, framesBefore, Nat.add_comm,
        Function.iterate_add_apply]
      exact iterate_countDown_withKeyWait (countDown^[framesBefore frames step] machine)
        (.seen x (snapshots keys step).highest?) (frames step).length

end Machine
end ChipEight
