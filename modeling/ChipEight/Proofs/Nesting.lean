import ChipEight.Proofs.Effects
import ChipEight.Proofs.History

namespace ChipEight

/-!
What a step does to the call stack.

A call with room pushes, a call without room replaces the last entry, and a return pops, unless
there is nothing to pop.  Each of these steps is spelled out in full, since nothing else about it is
left open.  Every other step keeps the stack and its pointer, and has no warning to give: the only
warnings of a step are those of a call without room and of a return without a caller.
-/

namespace Machine

variable {G : Type}

/-- What a step that neither calls nor returns does not do. -/
structure Level (before : Machine G) (step : Step G) : Prop where
  sp : step.machine.cpu.sp = before.cpu.sp
  stack : step.machine.cpu.stack = before.cpu.stack
  calm : forall event, event ∈ step.events -> event.severity ≠ .warn

theorem awaitKey_level (machine : Machine G) (keys : Keys) (x : UInt8) :
    Level machine (machine.awaitKey keys x) := by
  unfold awaitKey
  split
  case h_1 => exact ⟨rfl, rfl, fun event member => absurd member List.not_mem_nil⟩
  case h_2 key highest =>
    refine ⟨rfl, rfl, fun event member => ?_⟩
    split at member
    case isTrue =>
      rw [List.mem_singleton.mp member]
      exact Severity.noConfusion
    case isFalse => exact absurd member List.not_mem_nil

theorem waitKey_level (machine : Machine G) (keys : Keys) (x : UInt8) :
    Level machine (machine.waitKey keys x) := by
  unfold waitKey
  split
  case h_1 => exact awaitKey_level machine keys x
  case h_2 register key remembered =>
    split
    case isTrue => exact awaitKey_level machine keys x
    case isFalse =>
      refine ⟨rfl, rfl, fun event member => ?_⟩
      rw [List.mem_singleton.mp member]
      exact Severity.noConfusion

variable {K : Type} [Generator G] [KeySource K] {machine : Machine G} {target : UInt16} (keys : K)

theorem tick_call_of_room (decoded : Instruction.decode machine.cpu.word = .call target)
    (room : machine.cpu.sp < stackSize) :
    machine.tick keys =
      ⟨{ machine with
          cpu := { machine.cpu with
            pc := target
            sp := machine.cpu.sp + 1
            stack := machine.cpu.stack.set machine.cpu.sp (machine.cpu.pc + 2) room } },
        .jump, [machine.announcement]⟩ := by
  have roomBehind : machine.passed.cpu.sp < stackSize := room
  rw [machine.tick_eq keys decoded]
  simp only [execute, call, Cpu.push, dif_pos roomBehind]
  rfl

theorem tick_call_of_full (decoded : Instruction.decode machine.cpu.word = .call target)
    (full : ¬ machine.cpu.sp < stackSize) :
    machine.tick keys =
      ⟨{ machine with
          cpu := { machine.cpu with
            pc := target
            stack := machine.cpu.stack.set 15 (machine.cpu.pc + 2) } },
        .jump, [machine.announcement, .overflow machine.cpu.pc]⟩ := by
  have fullBehind : ¬ machine.passed.cpu.sp < stackSize := full
  rw [machine.tick_eq keys decoded]
  simp only [execute, call, Cpu.push, dif_neg fullBehind, current_passed]
  rfl

theorem tick_leave_of_empty (decoded : Instruction.decode machine.cpu.word = .leave)
    (empty : machine.cpu.sp = 0) :
    machine.tick keys =
      ⟨machine.passed, .ok, [machine.announcement, .underflow machine.cpu.pc]⟩ := by
  have emptyBehind : machine.passed.cpu.sp = 0 := empty
  rw [machine.tick_eq keys decoded]
  simp only [execute, leave, Cpu.pop, emptyBehind, current_passed]

theorem tick_leave_of_succ {sp : Nat} (decoded : Instruction.decode machine.cpu.word = .leave)
    (pointer : machine.cpu.sp = sp + 1) :
    machine.tick keys =
      ⟨{ machine with
          cpu := { machine.cpu with
            pc := machine.cpu.stack[sp]?.getD 0
            sp := sp } },
        .jump, [machine.announcement]⟩ := by
  have pointerBehind : machine.passed.cpu.sp = sp + 1 := pointer
  rw [machine.tick_eq keys decoded]
  simp only [execute, leave, Cpu.pop, pointerBehind]
  rfl

/-- A step that neither calls nor returns keeps the stack and warns of nothing. -/
theorem tick_level (noCall : forall target, Instruction.decode machine.cpu.word ≠ .call target)
    (noReturn : Instruction.decode machine.cpu.word ≠ .leave) :
    Level machine (machine.tick keys) := by
  have behind : Level machine (machine.passed.execute keys
      (Instruction.decode machine.cpu.word)) := by
    rcases (Instruction.decode machine.cpu.word).cases_plain with
      ⟨target, called⟩ | left | ⟨x, waited⟩ | plain
    · exact absurd called (noCall target)
    · exact absurd left noReturn
    · rw [waited]
      have kept := waitKey_level machine.passed (KeySource.keys keys) x
      exact ⟨kept.sp, kept.stack, kept.calm⟩
    · have kept := execute_undisturbed machine.passed keys plain
      refine ⟨kept.sp, kept.stack, fun event member => ?_⟩
      rw [kept.silent] at member
      exact absurd member List.not_mem_nil
  refine ⟨behind.sp, behind.stack, fun event member => ?_⟩
  rcases List.mem_cons.mp member with announced | told
  · rw [announced]
    exact Severity.noConfusion
  · exact behind.calm event told

/-- The five ways in which a step may treat the stack. -/
inductive StackTurn (machine : Machine G) (step : Step G) : Prop where
  | push (target : UInt16) (called : Instruction.decode machine.cpu.word = .call target)
      (room : machine.cpu.sp < stackSize)
  | replace (target : UInt16) (called : Instruction.decode machine.cpu.word = .call target)
      (full : ¬ machine.cpu.sp < stackSize)
  | pop (sp : Nat) (left : Instruction.decode machine.cpu.word = .leave)
      (pointer : machine.cpu.sp = sp + 1)
  | stay (left : Instruction.decode machine.cpu.word = .leave) (empty : machine.cpu.sp = 0)
  | level (noCall : forall target, Instruction.decode machine.cpu.word ≠ .call target)
      (noReturn : Instruction.decode machine.cpu.word ≠ .leave) (kept : Level machine step)

theorem stackTurn (machine : Machine G) (keys : K) : StackTurn machine (machine.tick keys) := by
  by_cases called : Exists fun target => Instruction.decode machine.cpu.word = .call target
  · rcases called with ⟨target, called⟩
    by_cases room : machine.cpu.sp < stackSize
    · exact .push target called room
    · exact .replace target called room
  · have noCall : forall target, Instruction.decode machine.cpu.word ≠ .call target :=
      fun target found => called ⟨target, found⟩
    by_cases left : Instruction.decode machine.cpu.word = .leave
    · cases pointer : machine.cpu.sp with
      | zero => exact .stay left pointer
      | succ sp => exact .pop sp left pointer
    · exact .level noCall left (tick_level keys noCall left)

/-- No step moves the stack pointer past the end of the stack. -/
theorem sp_tick_le (bounded : machine.cpu.sp ≤ stackSize) :
    (machine.tick keys).machine.cpu.sp ≤ stackSize := by
  cases machine.stackTurn keys with
  | push target called room =>
      rw [tick_call_of_room keys called room]
      exact room
  | replace target called full =>
      rw [tick_call_of_full keys called full]
      exact bounded
  | pop sp left pointer =>
      rw [tick_leave_of_succ keys left pointer]
      rw [pointer] at bounded
      exact Nat.le_of_succ_le bounded
  | stay left empty =>
      rw [tick_leave_of_empty keys left empty]
      exact bounded
  | level noCall noReturn kept =>
      rw [kept.sp]
      exact bounded

/-- No action moves the stack pointer past the end of the stack. -/
theorem sp_after_le (action : Action K) (bounded : machine.cpu.sp ≤ stackSize) :
    (machine.after action).cpu.sp ≤ stackSize := by
  cases action with
  | tick keys => exact sp_tick_le keys bounded
  | frame replies =>
      rw [after_frame]
      exact bounded
  | load program => exact Nat.zero_le stackSize
  | setPixel x y on => exact bounded

end Machine
end ChipEight
