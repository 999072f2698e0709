import ChipEight.Proofs.Guarded
import ChipEight.Proofs.KeyWait
import ChipEight.Proofs.Nesting

namespace ChipEight

/-!
What holds of every machine that can be reached.

A wait that has seen a key is written down in two places: the processor remembers its register and
its key, and the program counter stays at its instruction.  The two belong together.  Whatever is
done to a machine, a remembered key is one of the sixteen and the word at the program counter is
the one of a wait for the remembered register, so no other instruction ever finds a wait pending.

With the stack pointer, which never gets past the end of the stack, this is all that a step needs
in order not to go astray.
-/

namespace Cpu

/-- A wait that has seen a key remembers a key and a register that there are, and is at its own
instruction. -/
def WaitInPlace (cpu : Cpu) : Prop :=
  forall register key, cpu.keyWait = .waiting register key ->
    key ≤ 0xF ∧ register ≤ 0xF ∧ cpu.word = 0xF00A + 256 * register.toUInt16

/-- What a step relies on. -/
structure InOrder (cpu : Cpu) : Prop where
  sp : cpu.sp ≤ stackSize
  wait : cpu.WaitInPlace

theorem waitInPlace_of_idle {cpu : Cpu} (idle : cpu.keyWait = .idle) : cpu.WaitInPlace := by
  intro register key remembered
  rw [idle] at remembered
  cases remembered

end Cpu

namespace Machine

variable {G : Type} {machine : Machine G}

/-- Where a wait has seen a key, the next instruction is that wait. -/
theorem decode_of_waiting (wait : machine.cpu.WaitInPlace) {register key : UInt8}
    (remembered : machine.cpu.keyWait = .waiting register key) :
    Instruction.decode machine.cpu.word = .waitKey register :=
  Instruction.decode_eq_waitKey_iff.mpr (wait register key remembered).2

/-- At any instruction but a wait, no wait is pending. -/
theorem idle_of_not_wait (wait : machine.cpu.WaitInPlace)
    (elsewhere : forall x, Instruction.decode machine.cpu.word ≠ .waitKey x) :
    machine.cpu.keyWait = .idle := by
  cases remembered : machine.cpu.keyWait with
  | idle => rfl
  | waiting register key =>
      exact absurd (decode_of_waiting wait remembered) (elsewhere register)

/-- What a wait remembers after it has looked at the keys belongs to it. -/
theorem waitInPlace_seen {x : UInt8} (atWait : Instruction.decode machine.cpu.word = .waitKey x)
    (keys : Keys) : (machine.withKeyWait (.seen x keys.highest?)).cpu.WaitInPlace := by
  have encoded := Instruction.decode_eq_waitKey_iff.mp atWait
  cases highest : keys.highest? with
  | none => exact Cpu.waitInPlace_of_idle rfl
  | some found =>
      intro register key remembered
      cases remembered
      exact ⟨Keys.le_of_down (Keys.highest?_eq_some_iff.mp highest).down, encoded⟩

/-- A machine in order has no step that goes astray. -/
theorem guarded_of_inOrder (order : machine.cpu.InOrder) : machine.Guarded :=
  ⟨order.sp, fun register key remembered => (order.wait register key remembered).1⟩

variable {K : Type} [Generator G] [KeySource K]

/-- A step of a wait keeps it in place, or ends it. -/
theorem waitInPlace_tick_wait (keys : K) {x : UInt8}
    (atWait : Instruction.decode machine.cpu.word = .waitKey x) :
    (machine.tick keys).machine.cpu.WaitInPlace := by
  by_cases held : forall register key, machine.cpu.keyWait = .waiting register key ->
      (KeySource.keys keys).down key = true
  · rw [(tick_stays keys atWait held).2]
    exact waitInPlace_seen atWait (KeySource.keys keys)
  · simp only [not_forall, Bool.not_eq_true] at held
    rcases held with ⟨register, key, remembered, up⟩
    rw [(tick_releases keys atWait remembered up).2]
    exact Cpu.waitInPlace_of_idle rfl

/-- A step of anything but a wait does not begin one. -/
theorem keyWait_tick (keys : K)
    (elsewhere : forall x, Instruction.decode machine.cpu.word ≠ .waitKey x) :
    (machine.tick keys).machine.cpu.keyWait = machine.cpu.keyWait := by
  rcases (Instruction.decode machine.cpu.word).cases_plain with
    ⟨target, called⟩ | left | ⟨x, waited⟩ | plain
  · by_cases room : machine.cpu.sp < stackSize
    · rw [tick_call_of_room keys called room]
    · rw [tick_call_of_full keys called room]
  · cases pointer : machine.cpu.sp with
    | zero =>
        rw [tick_leave_of_empty keys left pointer]
        rfl
    | succ sp => rw [tick_leave_of_succ keys left pointer]
  · exact absurd waited (elsewhere x)
  · exact (execute_undisturbed machine.passed keys plain).keyWait

theorem waitInPlace_tick (keys : K) (wait : machine.cpu.WaitInPlace) :
    (machine.tick keys).machine.cpu.WaitInPlace := by
  by_cases waits : Exists fun x => Instruction.decode machine.cpu.word = .waitKey x
  · rcases waits with ⟨x, atWait⟩
    exact waitInPlace_tick_wait keys atWait
  · have elsewhere : forall x, Instruction.decode machine.cpu.word ≠ .waitKey x :=
      fun x atWait => waits ⟨x, atWait⟩
    apply Cpu.waitInPlace_of_idle
    rw [keyWait_tick keys elsewhere, idle_of_not_wait wait elsewhere]

theorem waitInPlace_after (action : Action K) (wait : machine.cpu.WaitInPlace) :
    (machine.after action).cpu.WaitInPlace := by
  cases action with
  | tick keys => exact waitInPlace_tick keys wait
  | frame replies =>
      rw [after_frame]
      exact wait
  | load program => exact Cpu.waitInPlace_of_idle rfl
  | setPixel x y on => exact wait

/-- The machines that a boot and a history lead to are in order. -/
theorem inOrder_reached (config : Config) (unforeseen : G) (program : List UInt8)
    (history : List (Action K)) :
    ((boot config unforeseen program).machine.afterAll history).cpu.InOrder := by
  apply afterAll_keeps (fun machine => machine.cpu.InOrder)
  · intro machine action order
    exact ⟨sp_after_le action order.sp, waitInPlace_after action order.wait⟩
  · exact ⟨Nat.zero_le stackSize, Cpu.waitInPlace_of_idle rfl⟩

/-- Whatever is done to a machine after it was booted, its stack pointer is on the stack or just
above it, a wait that has seen a key is at its own instruction, which no other wait can take over,
and every access of the next step is in bounds. -/
theorem reached_never_strays (config : Config) (unforeseen : G) (program : List UInt8)
    (history : List (Action K)) :
    let machine := (boot config unforeseen program).machine.afterAll history
    machine.cpu.sp ≤ 16 ∧
      (forall register key, machine.cpu.keyWait = .waiting register key ->
        key ≤ 0xF ∧ register ≤ 0xF ∧ machine.cpu.word = 0xF00A + 256 * register.toUInt16 ∧
          Instruction.decode machine.cpu.word = .waitKey register) ∧
      forall keys : K, machine.tick? keys = some (machine.tick keys) := by
  intro machine
  have order := inOrder_reached config unforeseen program history
  refine ⟨order.sp, fun register key remembered => ?_, fun keys => ?_⟩
  · have inPlace := order.wait register key remembered
    exact ⟨inPlace.1, inPlace.2.1, inPlace.2.2, decode_of_waiting order.wait remembered⟩
  · exact tick?_eq (guarded_of_inOrder order) keys

end Machine
end ChipEight
