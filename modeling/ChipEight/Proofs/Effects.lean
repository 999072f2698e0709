import ChipEight.Machine.Tick

namespace ChipEight

/-!
What instructions leave alone.

Three instructions are about where a program is going next and whether it goes on at all: the call,
the return, and the wait for a key.  All others are *plain*: they keep the call stack and the
progress of a wait, and there is nothing to tell about them.  What a step does to the stack or to
a wait is therefore a matter of four cases, and no later argument has to look at the plain
instructions one by one.

Stores and loads of several registers go through memory or the registers one at a time, and change
nothing else on their way.
-/

/-- What an instruction may have to tell: that it met an end of the stack, or how a wait goes on. -/
def Event.OfInstruction : Event -> Prop
  | underflow _ | overflow _ | keySeen _ | keyTaken .. => True
  | _ => False

namespace Instruction

/-- An instruction that neither calls, nor returns, nor waits for a key. -/
def Plain : Instruction -> Prop
  | .call _ | .leave | .waitKey _ => False
  | _ => True

/-- Every instruction is a call, a return, a wait for a key, or plain. -/
theorem cases_plain (instruction : Instruction) :
    (Exists fun target => instruction = .call target) ∨ instruction = .leave ∨
      (Exists fun x => instruction = .waitKey x) ∨ instruction.Plain := by
  cases instruction with
  | call target => exact Or.inl ⟨target, rfl⟩
  | leave => exact Or.inr (Or.inl rfl)
  | waitKey x => exact Or.inr (Or.inr (Or.inl ⟨x, rfl⟩))
  | _ => exact Or.inr (Or.inr (Or.inr trivial))

end Instruction

namespace Cpu

theorem storeAt_eq (cpu : Cpu) (address : UInt16) (numbers : List Nat) :
    cpu.storeAt address numbers =
      { cpu with memory := (cpu.storeAt address numbers).memory } := by
  induction numbers generalizing cpu with
  | nil => rfl
  | cons number numbers inductionHypothesis =>
      rw [storeAt, inductionHypothesis]
      rfl

theorem loadAt_eq (cpu : Cpu) (address : UInt16) (numbers : List Nat) :
    cpu.loadAt address numbers =
      { cpu with registers := (cpu.loadAt address numbers).registers } := by
  induction numbers generalizing cpu with
  | nil => rfl
  | cons number numbers inductionHypothesis =>
      rw [loadAt, inductionHypothesis]
      rfl

/-- A store changes memory and moves the index register. -/
theorem storeRegisters_eq (cpu : Cpu) (x : UInt8) :
    cpu.storeRegisters x =
      { cpu with
        memory := (cpu.storeRegisters x).memory
        index := cpu.index + (x.toUInt16 + 1) } := by
  rw [storeRegisters, storeAt_eq]
  rfl

/-- A load changes the registers and moves the index register. -/
theorem loadRegisters_eq (cpu : Cpu) (x : UInt8) :
    cpu.loadRegisters x =
      { cpu with
        registers := (cpu.loadRegisters x).registers
        index := cpu.index + (x.toUInt16 + 1) } := by
  rw [loadRegisters, loadAt_eq]
  rfl

end Cpu

namespace Machine

variable {G : Type}

/-- The machine that has moved past its next instruction and not yet executed it. -/
def passed (machine : Machine G) : Machine G :=
  { machine with cpu := machine.cpu.skip }

/-- What a step tells of the instruction at the program counter. -/
def announcement (machine : Machine G) : Event :=
  .executing (machine.cpu.pc &&& 0xFFF) machine.cpu.word (Instruction.decode machine.cpu.word)

/-- The instruction that is executed is the one at the address it was fetched from. -/
theorem current_passed (machine : Machine G) : machine.passed.cpu.current = machine.cpu.pc := by
  simp only [passed, Cpu.skip, Cpu.current, UInt16.add_sub_cancel]

/-- What is left alone by a step that is about neither the stack nor a wait. -/
structure Undisturbed (before : Machine G) (step : Step G) : Prop where
  sp : step.machine.cpu.sp = before.cpu.sp
  stack : step.machine.cpu.stack = before.cpu.stack
  keyWait : step.machine.cpu.keyWait = before.cpu.keyWait
  silent : step.events = []

theorem skipIf_undisturbed (machine : Machine G) (condition : Bool) :
    Undisturbed machine (machine.skipIf condition) := by
  cases condition <;> exact ⟨rfl, rfl, rfl, rfl⟩

theorem ofInstruction_awaitKey (machine : Machine G) (keys : Keys) (x : UInt8) :
    forall event, event ∈ (machine.awaitKey keys x).events -> event.OfInstruction := by
  unfold awaitKey
  split
  case h_1 => exact List.forall_mem_nil _
  case h_2 =>
    simp only
    split
    case isTrue => exact List.forall_mem_singleton.mpr trivial
    case isFalse => exact List.forall_mem_nil _

variable {K : Type} [Generator G] [KeySource K]

/-- A step executes, behind the program counter, what the word there encodes. -/
theorem tick_eq (machine : Machine G) (keys : K) {instruction : Instruction}
    (decoded : Instruction.decode machine.cpu.word = instruction) :
    machine.tick keys =
      { machine.passed.execute keys instruction with
        events := machine.announcement :: (machine.passed.execute keys instruction).events } := by
  rw [← decoded, announcement, ← current_passed]
  rfl

/-- Execute a word, wherever it comes from, as a step executes the word at the program counter. -/
def obey (machine : Machine G) (keys : K) (word : UInt16) : Step G :=
  machine.passed.execute keys (Instruction.decode word)

example (machine : Machine G) (keys : K) :
    (machine.tick keys).machine = (machine.obey keys machine.cpu.word).machine :=
  rfl

/-- Execute a list of words, one after another. -/
def obeyAll (machine : Machine G) (keys : K) (words : List UInt16) : Machine G :=
  words.foldl (fun machine word => (machine.obey keys word).machine) machine

/-- A plain instruction disturbs neither the stack nor a wait. -/
theorem execute_undisturbed (machine : Machine G) (keys : K) {instruction : Instruction}
    (plain : instruction.Plain) : Undisturbed machine (machine.execute keys instruction) := by
  cases instruction with
  | call target => exact False.elim plain
  | leave => exact False.elim plain
  | waitKey x => exact False.elim plain
  | skipIfByte | skipUnlessByte | skipIfSame | skipUnlessSame | skipIfKey | skipUnlessKey =>
      exact skipIf_undisturbed machine _
  | storeRegisters x =>
      change Undisturbed machine (machine.quietly fun cpu => cpu.storeRegisters x)
      rw [quietly, Cpu.storeRegisters_eq]
      exact ⟨rfl, rfl, rfl, rfl⟩
  | loadRegisters x =>
      change Undisturbed machine (machine.quietly fun cpu => cpu.loadRegisters x)
      rw [quietly, Cpu.loadRegisters_eq]
      exact ⟨rfl, rfl, rfl, rfl⟩
  | _ => exact ⟨rfl, rfl, rfl, rfl⟩

/-- An instruction tells of nothing but the stack and waits. -/
theorem ofInstruction_execute (machine : Machine G) (keys : K) (instruction : Instruction) :
    forall event, event ∈ (machine.execute keys instruction).events -> event.OfInstruction := by
  rcases instruction.cases_plain with ⟨target, rfl⟩ | rfl | ⟨x, rfl⟩ | plain
  · change forall event, event ∈ (machine.call target).events -> _
    unfold call
    rcases machine.cpu.push machine.cpu.pc with ⟨room, cpu⟩
    cases room with
    | true => exact List.forall_mem_nil _
    | false => exact List.forall_mem_singleton.mpr trivial
  · change forall event, event ∈ machine.leave.events -> _
    unfold leave
    split
    case h_1 => exact List.forall_mem_nil _
    case h_2 => exact List.forall_mem_singleton.mpr trivial
  · change forall event, event ∈ (machine.waitKey (KeySource.keys keys) x).events -> _
    unfold waitKey
    split
    case h_1 => exact machine.ofInstruction_awaitKey _ x
    case h_2 =>
      split
      case isTrue => exact machine.ofInstruction_awaitKey _ x
      case isFalse => exact List.forall_mem_singleton.mpr trivial
  · rw [(execute_undisturbed machine keys plain).silent]
    exact List.forall_mem_nil _

end Machine
end ChipEight
