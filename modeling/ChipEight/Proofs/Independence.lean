import ChipEight.Proofs.Alike
import ChipEight.Random.ChaCha

namespace ChipEight

/-!
What a program does not notice.

Four things reach a machine from outside its program: the sound timer, the pace at which frames come
and the delay timer counts down, the keys, and the random numbers.  A program notices one of them
through an instruction that reads it, and in no other way.  Two runs that differ in some of them,
and in which no instruction reads one of those, therefore execute the same instructions and build up
the same state.

The two runs take their steps together.  Where the pace may differ, frames fall into either of them
at any point, on devices that work or fail; they move the timers, which are then not compared.
-/

/-- What may differ between two runs of a program. -/
inductive Influence where
  | sound
  /-- The delay timer, and with it how many frames there are, where they fall between the steps, and
  what the devices answer in them. -/
  | pace
  | keys
  | generator

/-- An instruction whose effect depends on an influence; there is none for the sound timer. -/
def Instruction.Reads (instruction : Instruction) : Influence -> Prop
  | .sound => False
  | .pace => instruction.ReadsDelay
  | .keys => instruction.ReadsKeys
  | .generator => instruction.ReadsGenerator

/-- The view that leaves out what some influences reach: frames move both timers. -/
def View.outside (D : Influence -> Prop) : View where
  SameAddress left right := left = right
  Compares part :=
    match part with
    | .delay => ¬ D .pace
    | .sound => ¬ D .sound ∧ ¬ D .pace
    | .generator => ¬ D .generator
    | .unused => True
  refl _ := rfl
  shift same distance := congrArg (fun address => address + distance) same
  cell same := congrArg Memory.cell same

namespace Machine

variable {G : Type}

/-- Two machines whose program is in the same state, and which differ at most in what some
influences reach. -/
structure EqualBut (D : Influence -> Prop) (left right : Machine G) : Prop where
  pc : left.cpu.pc = right.cpu.pc
  index : left.cpu.index = right.cpu.index
  registers : left.cpu.registers = right.cpu.registers
  memory : left.cpu.memory = right.cpu.memory
  stack : left.cpu.stack = right.cpu.stack
  sp : left.cpu.sp = right.cpu.sp
  keyWait : left.cpu.keyWait = right.cpu.keyWait
  screen : left.screen = right.screen
  delay : ¬ D .pace -> left.cpu.delayTimer = right.cpu.delayTimer
  sound : ¬ D .sound -> ¬ D .pace -> left.cpu.soundTimer = right.cpu.soundTimer
  generator : ¬ D .generator -> left.random = right.random

variable {D : Influence -> Prop} {left right : Machine G}

theorem EqualBut.alike (equal : EqualBut D left right) : Machine.Alike (.outside D) left right where
  cpu :=
    { pc := equal.pc
      index := equal.index
      sp := equal.sp
      stack := fun entry inside _ => congrArg (fun stack => stack[entry]) equal.stack
      registers := equal.registers
      memory := equal.memory
      keyWait := equal.keyWait
      delay := equal.delay
      sound := fun compared => equal.sound compared.1 compared.2 }
  screen := equal.screen
  generator := equal.generator

theorem Alike.equalBut (alike : Machine.Alike (.outside D) left right) : EqualBut D left right where
  pc := alike.cpu.pc
  index := alike.cpu.index
  registers := alike.cpu.registers
  memory := alike.cpu.memory
  stack := Vector.ext fun entry inside => alike.cpu.stack entry inside (Or.inr trivial)
  sp := alike.cpu.sp
  keyWait := alike.cpu.keyWait
  screen := alike.screen
  delay := alike.cpu.delay
  sound := fun sound pace => alike.cpu.sound ⟨sound, pace⟩
  generator := alike.generator

/-- Where the pace is not compared, frames on one side alone change nothing that is. -/
theorem EqualBut.frame_left (equal : EqualBut D left right) (paced : D .pace) :
    EqualBut D left.countDown right :=
  { equal with
    delay := fun unpaced => absurd paced unpaced
    sound := fun _ unpaced => absurd paced unpaced }

theorem EqualBut.frame_right (equal : EqualBut D left right) (paced : D .pace) :
    EqualBut D left right.countDown :=
  { equal with
    delay := fun unpaced => absurd paced unpaced
    sound := fun _ unpaced => absurd paced unpaced }

variable {K : Type} [Generator G] [KeySource K]

/-- The instructions that a history executes, the earliest first. -/
def executed (machine : Machine G) : List (Action K) -> List Instruction
  | [] => []
  | .tick keys :: history =>
      Instruction.decode machine.cpu.word :: (machine.tick keys).machine.executed history
  | action :: history => (machine.after action).executed history

theorem executed_cons (machine : Machine G) (action : Action K) (history : List (Action K)) :
    machine.executed (action :: history) =
      machine.executed [action] ++ (machine.after action).executed history := by
  cases action <;> rfl

end Machine

/-- Two histories of ticks and frames that step together.  The keys may differ in a step, and the
frames between two steps, only as far as the influences say so. -/
inductive Abreast {K : Type} (D : Influence -> Prop) :
    List (Action K) -> List (Action K) -> Prop where
  | nil : Abreast D [] []
  | tick {keys other : K} {history more : List (Action K)} (same : ¬ D .keys -> keys = other)
      (rest : Abreast D history more) :
      Abreast D (.tick keys :: history) (.tick other :: more)
  /-- A frame on both sides; its devices need not answer alike. -/
  | frame {replies other : Device.Replies} {history more : List (Action K)}
      (rest : Abreast D history more) :
      Abreast D (.frame replies :: history) (.frame other :: more)
  | frameLeft {replies : Device.Replies} {history more : List (Action K)} (paced : D .pace)
      (rest : Abreast D history more) :
      Abreast D (.frame replies :: history) more
  | frameRight {replies : Device.Replies} {history more : List (Action K)} (paced : D .pace)
      (rest : Abreast D history more) :
      Abreast D history (.frame replies :: more)

/-- An instruction that reads none of the influences is told all that it needs. -/
theorem View.informed_of_unread {K : Type} {D : Influence -> Prop} {instruction : Instruction}
    {keys other : K} (same : ¬ D .keys -> keys = other)
    (unread : forall influence, D influence -> ¬ instruction.Reads influence) :
    (View.outside D).Informed keys other instruction where
  delay := fun reads paced => unread .pace paced reads
  keys := fun reads => same fun differ => unread .keys differ reads
  generator := fun reads differ => unread .generator differ reads

namespace Machine

variable {G K : Type} [Generator G] [KeySource K] {D : Influence -> Prop} {left right : Machine G}

/-- Two runs that differ in what no instruction of the first one reads execute the same instructions
with the same outcomes, and end in machines that differ in nothing else. -/
theorem unread_unnoticed (equal : EqualBut D left right) {history other : List (Action K)}
    (abreast : Abreast D history other)
    (unread : forall instruction, instruction ∈ left.executed history ->
      forall influence, D influence -> ¬ instruction.Reads influence) :
    left.executed history = right.executed other ∧
      (left.steps history).map Step.flow = (right.steps other).map Step.flow ∧
      EqualBut D (left.afterAll history) (right.afterAll other) := by
  induction abreast generalizing left right with
  | nil => exact ⟨rfl, rfl, equal⟩
  | @tick keys shown history more same rest inductionHypothesis =>
      have informed := View.informed_of_unread same (unread _ List.mem_cons_self)
      have step := equal.alike.tick informed
      have next := inductionHypothesis step.machine.equalBut
        (fun instruction member => unread instruction (List.mem_cons_of_mem _ member))
      have word : left.cpu.word = right.cpu.word := equal.alike.cpu.word_eq
      simp only [executed, steps, List.map_cons, word, step.flow, next.1, next.2.1, true_and]
      exact next.2.2
  | @frame replies shown history more rest inductionHypothesis =>
      have next : EqualBut D (left.after (.frame replies : Action K))
          (right.after (.frame shown : Action K)) := by
        rw [after_frame, after_frame]
        exact equal.alike.countDown.equalBut
      exact inductionHypothesis next unread
  | @frameLeft replies history more paced rest inductionHypothesis =>
      have next : EqualBut D (left.after (.frame replies : Action K)) right := by
        rw [after_frame]
        exact equal.frame_left paced
      exact inductionHypothesis next unread
  | @frameRight replies history more paced rest inductionHypothesis =>
      have next : EqualBut D left (right.after (.frame replies : Action K)) := by
        rw [after_frame]
        exact equal.frame_right paced
      exact inductionHypothesis next unread

/-- Devices that fail whenever they can. -/
def brokenDevices : Device.Replies
  | .name => "broken"
  | .keys => .released
  | .update => .error "no input"
  | .render _ => .error "no screen"
  | .buzz => .error "no speaker"
  | .now => 0
  | .sleep _ => ()
  | .report _ => ()

/-- A program that draws one row does so at any pace, with any timers, keys and random numbers. -/
theorem draws_at_any_pace :
    let machine := (boot .standard ChaCha.unkeyed [0x60, 0x05, 0xA2, 0x00, 0xD0, 0x01]).machine
    let other := { machine with
      cpu := { machine.cpu with delayTimer := 7, soundTimer := 9 }
      random := ⟨.replicate 8 1, 5⟩ }
    let down : Keys := .replicate 16 true
    let history : List (Action Keys) := [.tick .released, .tick .released, .tick .released]
    let more : List (Action Keys) :=
      [.frame brokenDevices, .tick down, .frame brokenDevices, .frame brokenDevices, .tick down,
        .tick down, .frame brokenDevices]
    EqualBut (fun _ => True) machine other ∧ Abreast (fun _ => True) history more ∧
      machine.executed history = [.loadByte 0 5, .loadIndex 0x200, .draw 0 0 1] ∧
      other.executed more = [.loadByte 0 5, .loadIndex 0x200, .draw 0 0 1] ∧
      (machine.afterAll history).screen = (other.afterAll more).screen := by
  intro machine other down history more
  have equal : EqualBut (fun _ => True) machine other :=
    ⟨rfl, rfl, rfl, rfl, rfl, rfl, rfl, rfl, fun unpaced => absurd trivial unpaced,
      fun unsounded => absurd trivial unsounded, fun ungenerated => absurd trivial ungenerated⟩
  have shown {keys shown : Keys} : ¬ True -> keys = shown := fun unseen => absurd trivial unseen
  have abreast : Abreast (fun _ => True) history more :=
    .frameRight trivial <| .tick shown <| .frameRight trivial <| .frameRight trivial <|
      .tick shown <| .tick shown <| .frameRight trivial .nil
  have ran : machine.executed history = [.loadByte 0 5, .loadIndex 0x200, .draw 0 0 1] := by
    decide +kernel
  have unread : forall instruction, instruction ∈ machine.executed history ->
      forall influence, True -> ¬ instruction.Reads influence := by
    intro instruction member influence _ reads
    simp only [ran, List.mem_cons, List.not_mem_nil, or_false] at member
    rcases member with rfl | rfl | rfl <;> cases influence <;> exact reads
  have together := unread_unnoticed equal abreast unread
  exact ⟨equal, abreast, ran, together.1 ▸ ran, together.2.2.screen⟩

end Machine
end ChipEight
