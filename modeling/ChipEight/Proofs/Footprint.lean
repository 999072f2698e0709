import ChipEight.Proofs.Effects
import ChipEight.Proofs.Forms

namespace ChipEight

/-!
What an instruction leaves alone.

An instruction is executed with the program counter already past its word.  Of the parts of the
machine it changes only those for which its form is listed in `Component.changers`; everything else
is as it was.  For the memory and the registers that is still too coarse, and which cells and which
registers are meant depends on the digits of the word and on the index.

The flow is what the caller of an instruction learns of it.  It tells of a drawing, a sound, a jump
or a wait exactly when there was one, so a caller that looks at nothing else does not miss any.

All of this is said of words, because those are what the table of forms is about, and proved of the
instructions that they encode.
-/

/-- The parts of a machine. -/
inductive Component where
  | memory
  | registers
  | index
  | pc
  | stack
  | sp
  | delayTimer
  | soundTimer
  | keyWait
  | screen
  | generator
  | configuration
deriving DecidableEq, Repr

namespace Component

variable {G : Type}

/-- A part is the same in two machines. -/
def Kept (component : Component) (before after : Machine G) : Prop :=
  match component with
  | memory => after.cpu.memory = before.cpu.memory
  | registers => after.cpu.registers = before.cpu.registers
  | index => after.cpu.index = before.cpu.index
  | pc => after.cpu.pc = before.cpu.pc
  | stack => after.cpu.stack = before.cpu.stack
  | sp => after.cpu.sp = before.cpu.sp
  | delayTimer => after.cpu.delayTimer = before.cpu.delayTimer
  | soundTimer => after.cpu.soundTimer = before.cpu.soundTimer
  | keyWait => after.cpu.keyWait = before.cpu.keyWait
  | screen => after.screen = before.screen
  | generator => after.random = before.random
  | configuration => after.config = before.config

/-- The forms of the instructions that may change a part. -/
def changers : Component -> List Form
  | memory => [.low 0xF 0x33, .low 0xF 0x55]
  | registers =>
      [.first 0x6, .first 0x7, .ends 0x8 0x0, .ends 0x8 0x1, .ends 0x8 0x2, .ends 0x8 0x3,
        .ends 0x8 0x4, .ends 0x8 0x5, .ends 0x8 0x6, .ends 0x8 0x7, .ends 0x8 0xE, .first 0xC,
        .first 0xD, .low 0xF 0x07, .low 0xF 0x0A, .low 0xF 0x65]
  | index => [.first 0xA, .low 0xF 0x1E, .low 0xF 0x29, .low 0xF 0x55, .low 0xF 0x65]
  | pc =>
      [.whole 0x00EE, .first 0x1, .first 0x2, .first 0x3, .first 0x4, .first 0x5, .first 0x9,
        .first 0xB, .low 0xE 0x9E, .low 0xE 0xA1, .low 0xF 0x0A]
  | stack => [.first 0x2]
  | sp => [.whole 0x00EE, .first 0x2]
  | delayTimer => [.low 0xF 0x15]
  | soundTimer => [.low 0xF 0x18]
  | keyWait => [.low 0xF 0x0A]
  | screen => [.whole 0x00E0, .first 0xD]
  | generator => [.first 0xC]
  | configuration => []

theorem Kept.refl (component : Component) (machine : Machine G) :
    component.Kept machine machine := by
  cases component <;> exact rfl

end Component

namespace Machine

variable {G : Type}

theorem skipIf_eq (machine : Machine G) (condition : Bool) :
    (machine.skipIf condition).machine =
      { machine with
        cpu := { machine.cpu with pc := (machine.skipIf condition).machine.cpu.pc } } := by
  cases condition <;> rfl

theorem leave_eq (machine : Machine G) :
    machine.leave.machine =
      { machine with
        cpu := { machine.cpu with
          pc := machine.leave.machine.cpu.pc
          sp := machine.leave.machine.cpu.sp } } := by
  unfold leave Cpu.pop
  cases machine.cpu.sp with
  | zero => rfl
  | succ sp => rfl

theorem call_eq (machine : Machine G) (target : UInt16) :
    (machine.call target).machine =
      { machine with
        cpu := { machine.cpu with
          pc := target
          sp := (machine.call target).machine.cpu.sp
          stack := (machine.call target).machine.cpu.stack } } := by
  by_cases room : machine.cpu.sp < stackSize
  · simp only [call, Cpu.push, dif_pos room, Cpu.goto]
  · simp only [call, Cpu.push, dif_neg room, Cpu.goto]

theorem awaitKey_eq (machine : Machine G) (keys : Keys) (x : UInt8) :
    (machine.awaitKey keys x).machine =
      { machine with
        cpu := { machine.cpu with
          pc := machine.cpu.pc - 2
          keyWait := (machine.awaitKey keys x).machine.cpu.keyWait } } := by
  unfold awaitKey
  cases keys.highest? with
  | none => rfl
  | some key => rfl

/-- The key that a wait remembers is up again. -/
def LetsGo (machine : Machine G) (keys : Keys) : Prop :=
  Exists fun register => Exists fun key =>
    machine.cpu.keyWait = .waiting register key ∧ keys.down key = false

theorem waitKey_of_letsGo {machine : Machine G} {keys : Keys} (letsGo : machine.LetsGo keys)
    (x : UInt8) :
    (machine.waitKey keys x).flow = .ok ∧
      Exists fun key =>
        (machine.waitKey keys x).machine =
          { machine with
            cpu := { machine.cpu.setRegister x key with keyWait := .idle } } := by
  rcases letsGo with ⟨register, key, remembered, up⟩
  simp only [waitKey, remembered, up, Bool.false_eq_true, if_false, true_and]
  exact ⟨key, rfl⟩

theorem waitKey_of_held {machine : Machine G} {keys : Keys} (held : ¬ machine.LetsGo keys)
    (x : UInt8) : machine.waitKey keys x = machine.awaitKey keys x := by
  unfold waitKey
  cases remembered : machine.cpu.keyWait with
  | idle => rfl
  | waiting register key =>
      cases down : keys.down key with
      | false => exact absurd ⟨register, key, remembered, down⟩ held
      | true => simp only [down, if_true]

/-- The result of a wait for a key is the old machine but for a register, the program counter and
the progress of the wait. -/
theorem waitKey_eq (machine : Machine G) (keys : Keys) (x : UInt8) :
    (machine.waitKey keys x).machine =
      { machine with
        cpu := { machine.cpu with
          registers := (machine.waitKey keys x).machine.cpu.registers
          pc := (machine.waitKey keys x).machine.cpu.pc
          keyWait := (machine.waitKey keys x).machine.cpu.keyWait } } := by
  by_cases letsGo : machine.LetsGo keys
  · rcases waitKey_of_letsGo letsGo x with ⟨-, key, released⟩
    rw [released]
    rfl
  · rw [waitKey_of_held letsGo, awaitKey_eq]

variable {K : Type} [Generator G] [KeySource K] {machine : Machine G} {keys : K}
  {instruction : Instruction}

/-- An instruction keeps every part that its form is not listed to change. -/
theorem kept_execute {component : Component}
    (spared : forall form, form ∈ component.changers -> instruction.form? ≠ some form) :
    component.Kept machine (machine.execute keys instruction).machine := by
  cases instruction with
  | hostRoutine | undefined => exact .refl component machine
  | clearScreen =>
      cases component with
      | screen => exact (spared _ (by decide) rfl).elim
      | _ => exact rfl
  | leave =>
      change component.Kept machine machine.leave.machine
      rw [leave_eq]
      cases component with
      | pc | sp => exact (spared _ (by decide) rfl).elim
      | _ => exact rfl
  | call target =>
      change component.Kept machine (machine.call target).machine
      rw [call_eq]
      cases component with
      | pc | sp | stack => exact (spared _ (by decide) rfl).elim
      | _ => exact rfl
  | jump | jumpOffset =>
      cases component with
      | pc => exact (spared _ (by decide) rfl).elim
      | _ => exact rfl
  | skipIfByte | skipUnlessByte | skipIfSame | skipUnlessSame | skipIfKey | skipUnlessKey =>
      unfold execute
      dsimp only
      rw [skipIf_eq]
      cases component with
      | pc => exact (spared _ (by decide) rfl).elim
      | _ => exact rfl
  | loadByte | addByte | move | or | and | xor | add | sub | shiftRight | subFrom | shiftLeft
  | readDelay =>
      cases component with
      | registers => exact (spared _ (by decide) rfl).elim
      | _ => exact rfl
  | loadIndex | addIndex | loadGlyph =>
      cases component with
      | index => exact (spared _ (by decide) rfl).elim
      | _ => exact rfl
  | random =>
      cases component with
      | registers | generator => exact (spared _ (by decide) rfl).elim
      | _ => exact rfl
  | draw =>
      cases component with
      | registers | screen => exact (spared _ (by decide) rfl).elim
      | _ => exact rfl
  | waitKey x =>
      change component.Kept machine (machine.waitKey (KeySource.keys keys) x).machine
      rw [waitKey_eq]
      cases component with
      | registers | pc | keyWait => exact (spared _ (by decide) rfl).elim
      | _ => exact rfl
  | setDelay =>
      cases component with
      | delayTimer => exact (spared _ (by decide) rfl).elim
      | _ => exact rfl
  | setSound =>
      cases component with
      | soundTimer => exact (spared _ (by decide) rfl).elim
      | _ => exact rfl
  | storeDecimal =>
      cases component with
      | memory => exact (spared _ (by decide) rfl).elim
      | _ => exact rfl
  | storeRegisters x =>
      change component.Kept machine (machine.quietly fun cpu => cpu.storeRegisters x).machine
      rw [quietly, Cpu.storeRegisters_eq]
      cases component with
      | memory | index => exact (spared _ (by decide) rfl).elim
      | _ => exact rfl
  | loadRegisters x =>
      change component.Kept machine (machine.quietly fun cpu => cpu.loadRegisters x).machine
      rw [quietly, Cpu.loadRegisters_eq]
      cases component with
      | registers | index => exact (spared _ (by decide) rfl).elim
      | _ => exact rfl

/-- A part that an instruction has changed is one that its form is listed to change. -/
theorem form?_mem_changers {component : Component}
    (changed : ¬ component.Kept machine (machine.execute keys instruction).machine) :
    instruction.form? ∈ component.changers.map some := by
  by_contra unlisted
  apply changed
  apply kept_execute
  intro form member told
  apply unlisted
  rw [told]
  exact List.mem_map_of_mem member

end Machine

namespace Memory

theorem val_cell_add (address : UInt16) (distance : Nat) :
    (cell (address + UInt16.ofNat distance)).val = (address.toNat + distance) % 4096 := by
  rw [val_cell, UInt16.toNat_add, UInt16.toNat_ofNat']
  omega

end Memory

namespace Cpu

/-- A cell that is not as it was is the one just written, or was not as it was before. -/
theorem written_or_changed {cpu : Cpu} {target : UInt16} {value old : UInt8} {cell : Fin 4096}
    (changed : (cpu.write target value).memory.cells.get cell ≠ old) :
    Memory.cell target = cell ∨ cpu.memory.cells.get cell ≠ old := by
  by_cases here : Memory.cell target = cell
  · exact Or.inl here
  · apply Or.inr
    have kept : (cpu.write target value).memory.cells.get cell = cpu.memory.cells.get cell :=
      Vector.getElem_set_ne (Memory.cell target).isLt cell.isLt fun same => here (Fin.ext same)
    rwa [kept] at changed

theorem storeAt_or_changed {cpu : Cpu} {address : UInt16} {numbers : List Nat} {old : UInt8}
    {cell : Fin 4096} (changed : (cpu.storeAt address numbers).memory.cells.get cell ≠ old) :
    (Exists fun number => number ∈ numbers ∧
      Memory.cell (address + UInt16.ofNat number) = cell) ∨ cpu.memory.cells.get cell ≠ old := by
  induction numbers generalizing cpu with
  | nil => exact Or.inr changed
  | cons number numbers inductionHypothesis =>
      rcases inductionHypothesis changed with ⟨later, member, here⟩ | before
      · exact Or.inl ⟨later, List.mem_cons_of_mem _ member, here⟩
      · rcases written_or_changed before with here | before
        · exact Or.inl ⟨number, List.mem_cons_self, here⟩
        · exact Or.inr before

/-- A register that is not as it was is the one just set, or was not as it was before. -/
theorem set_or_changed {cpu : Cpu} {target value old : UInt8} {number : Fin 16}
    (changed : (cpu.setRegister target value).registers.get number ≠ old) :
    number = place target ∨ cpu.registers.get number ≠ old := by
  by_cases here : place target = number
  · exact Or.inl here.symm
  · apply Or.inr
    have kept : (cpu.setRegister target value).registers.get number = cpu.registers.get number :=
      Vector.getElem_set_ne (place target).isLt number.isLt fun same => here (Fin.ext same)
    rwa [kept] at changed

theorem val_place (number : UInt8) : (place number).val = number.toNat % 16 := by
  simp only [place, UInt8.toNat_and]
  exact Nat.and_two_pow_sub_one_eq_mod number.toNat 4

theorem loadAt_or_changed {cpu : Cpu} {address : UInt16} {numbers : List Nat} {old : UInt8}
    {number : Fin 16} (changed : (cpu.loadAt address numbers).registers.get number ≠ old) :
    (Exists fun loaded => loaded ∈ numbers ∧ number = place (UInt8.ofNat loaded)) ∨
      cpu.registers.get number ≠ old := by
  induction numbers generalizing cpu with
  | nil => exact Or.inr changed
  | cons loaded numbers inductionHypothesis =>
      rcases inductionHypothesis changed with ⟨later, member, here⟩ | before
      · exact Or.inl ⟨later, List.mem_cons_of_mem _ member, here⟩
      · rcases set_or_changed before with here | before
        · exact Or.inl ⟨loaded, List.mem_cons_self, here⟩
        · exact Or.inr before

end Cpu

namespace Machine

variable {G K : Type} [KeySource K]

/-- The cells of memory that the instruction of a word may write. -/
inductive MayStore (machine : Machine G) (word : UInt16) (cell : Fin 4096) : Prop where
  /-- `FX33` writes three digits. -/
  | digit (fits : (Form.low 0xF 0x33).Fits word) (k : Nat) (short : k ≤ 2)
      (here : cell.val = (machine.cpu.index.toNat + k) % 4096)
  /-- `FX55` writes the registers up to VX. -/
  | register (fits : (Form.low 0xF 0x55).Fits word) (k : Nat) (short : k ≤ (Word.x word).toNat)
      (here : cell.val = (machine.cpu.index.toNat + k) % 4096)

/-- The registers that the instruction of a word may write. -/
inductive MaySet (machine : Machine G) (keys : Keys) (word : UInt16) (number : Fin 16) : Prop where
  | result (here : number = Cpu.place (Word.x word)) (fits : Form.FitsAny Form.unflagged word)
  | resultOrFlag (here : number = Cpu.place (Word.x word) ∨ number = 0xF)
      (fits : Form.FitsAny Form.flagged word)
  /-- `DXYN` has a flag and no result. -/
  | flag (here : number = 0xF) (fits : (Form.first 0xD).Fits word)
  /-- `FX0A` has a result as soon as the key is let go. -/
  | key (here : number = Cpu.place (Word.x word)) (fits : (Form.low 0xF 0x0A).Fits word)
      (letsGo : machine.LetsGo keys)
  /-- `FX65` loads the registers up to VX. -/
  | loaded (here : number.val ≤ (Word.x word).toNat) (fits : (Form.low 0xF 0x65).Fits word)

/-- The word sets the program counter to a new address: `1NNN`, `2NNN`, `BNNN`, and `00EE` where
there is something to go back to. -/
def Jumps (machine : Machine G) (word : UInt16) : Prop :=
  Form.FitsAny [.first 0x1, .first 0x2, .first 0xB] word ∨
    (Form.whole 0x00EE).Fits word ∧ 0 < machine.cpu.sp

/-- The word is a skip, and what it asks for is the case. -/
inductive Skips (machine : Machine G) (keys : K) (word : UInt16) : Prop where
  | sameByte (fits : (Form.first 0x3).Fits word)
      (holds : machine.cpu.register (Word.x word) = Word.nn word)
  | otherByte (fits : (Form.first 0x4).Fits word)
      (holds : machine.cpu.register (Word.x word) ≠ Word.nn word)
  | sameRegister (fits : (Form.first 0x5).Fits word)
      (holds : machine.cpu.register (Word.x word) = machine.cpu.register (Word.y word))
  | otherRegister (fits : (Form.first 0x9).Fits word)
      (holds : machine.cpu.register (Word.x word) ≠ machine.cpu.register (Word.y word))
  | keyDown (fits : (Form.low 0xE 0x9E).Fits word)
      (holds : KeySource.isPressed keys (machine.cpu.register (Word.x word)) = true)
  | keyUp (fits : (Form.low 0xE 0xA1).Fits word)
      (holds : KeySource.isPressed keys (machine.cpu.register (Word.x word)) = false)

/-- The word is a wait that is not over. -/
def Stalls (machine : Machine G) (keys : Keys) (word : UInt16) : Prop :=
  (Form.low 0xF 0x0A).Fits word ∧ ¬ machine.LetsGo keys

theorem pc_of_taken (machine : Machine G) {condition : Bool} (holds : condition = true) :
    (machine.skipIf condition).machine.cpu.pc = machine.cpu.pc + 2 := by
  rw [holds]
  rfl

theorem pc_of_untaken (machine : Machine G) {condition : Bool} (fails : condition ≠ true) :
    (machine.skipIf condition).machine.cpu.pc = machine.cpu.pc := by
  rw [Bool.eq_false_iff.mpr fails]
  rfl

theorem flow_leave (machine : Machine G) :
    machine.leave.flow = if machine.cpu.sp = 0 then .ok else .jump := by
  unfold leave Cpu.pop
  cases machine.cpu.sp with
  | zero => rfl
  | succ sp => rfl

theorem flow_awaitKey (machine : Machine G) (keys : Keys) (x : UInt8) :
    (machine.awaitKey keys x).flow = .keyWait := by
  unfold awaitKey
  cases keys.highest? with
  | none => rfl
  | some key => rfl

/-- A flow that the instruction of a word may have. -/
inductive MayTell (machine : Machine G) (keys : Keys) (word : UInt16) : Flow -> Prop where
  | ok : MayTell machine keys word .ok
  | draw (fits : Form.FitsAny [.whole 0x00E0, .first 0xD] word) : MayTell machine keys word .draw
  | sound (fits : (Form.low 0xF 0x18).Fits word) : MayTell machine keys word .sound
  | jump (jumps : machine.Jumps word) : MayTell machine keys word .jump
  | keyWait (stalls : machine.Stalls keys word) : MayTell machine keys word .keyWait

variable [Generator G] {machine : Machine G} {keys : K} {instruction : Instruction}
  {word : UInt16}

theorem mayStore_of_changed (encoded : instruction.EncodedBy word) {cell : Fin 4096}
    (changed : (machine.execute keys instruction).machine.cpu.memory.cells.get cell ≠
      machine.cpu.memory.cells.get cell) : machine.MayStore word cell := by
  have moved : ¬ Component.memory.Kept machine (machine.execute keys instruction).machine := by
    intro kept
    exact changed (congrArg (fun memory : Memory => memory.cells.get cell) kept)
  have listed := form?_mem_changers moved
  cases instruction with
  | storeDecimal x =>
      have fits : (Form.low 0xF 0x33).Fits word := encoded.fits rfl
      rcases Cpu.written_or_changed changed with here | changed
      · exact .digit fits 2 (by omega) (here ▸ Memory.val_cell_add _ 2)
      rcases Cpu.written_or_changed changed with here | changed
      · exact .digit fits 1 (by omega) (here ▸ Memory.val_cell_add _ 1)
      rcases Cpu.written_or_changed changed with here | changed
      · refine .digit fits 0 (by omega) ?_
        rw [← here]
        exact Memory.val_cell _
      exact absurd rfl changed
  | storeRegisters x =>
      rcases Cpu.storeAt_or_changed changed with ⟨number, member, here⟩ | changed
      · have short : number < x.toNat + 1 := List.mem_range.mp member
        have operand : x = Word.x word := encoded.operands
        subst operand
        exact .register (encoded.fits rfl) number (Nat.le_of_lt_succ short)
          (here ▸ Memory.val_cell_add _ number)
      · exact absurd rfl changed
  | _ => simp [Component.changers, Instruction.form?] at listed

theorem maySet_of_changed (encoded : instruction.EncodedBy word) {number : Fin 16}
    (changed : (machine.execute keys instruction).machine.cpu.registers.get number ≠
      machine.cpu.registers.get number) : machine.MaySet (KeySource.keys keys) word number := by
  have moved : ¬ Component.registers.Kept machine (machine.execute keys instruction).machine := by
    intro kept
    exact changed (congrArg (fun registers : Vector UInt8 16 => registers.get number) kept)
  have listed := form?_mem_changers moved
  cases instruction with
  | loadByte x | addByte x | move x | or x | and x | xor x | random x =>
      rcases encoded.operands with ⟨rfl, -⟩
      rcases Cpu.set_or_changed changed with here | same
      · exact .result here (encoded.fitsAny rfl (by decide))
      · exact absurd rfl same
  | readDelay x =>
      have operand : x = Word.x word := encoded.operands
      subst operand
      rcases Cpu.set_or_changed changed with here | same
      · exact .result here (encoded.fitsAny rfl (by decide))
      · exact absurd rfl same
  -- The last write is peeled off first: the result here, and the flag in the subtractions.
  | add x | shiftRight x | shiftLeft x =>
      rcases encoded.operands with ⟨rfl, -⟩
      rcases Cpu.set_or_changed changed with here | changed
      · exact .resultOrFlag (Or.inl here) (encoded.fitsAny rfl (by decide))
      rcases Cpu.set_or_changed changed with here | same
      · exact .resultOrFlag (Or.inr here) (encoded.fitsAny rfl (by decide))
      · exact absurd rfl same
  | sub x | subFrom x =>
      rcases encoded.operands with ⟨rfl, -⟩
      rcases Cpu.set_or_changed changed with here | changed
      · exact .resultOrFlag (Or.inr here) (encoded.fitsAny rfl (by decide))
      rcases Cpu.set_or_changed changed with here | same
      · exact .resultOrFlag (Or.inl here) (encoded.fitsAny rfl (by decide))
      · exact absurd rfl same
  | draw =>
      rcases Cpu.set_or_changed changed with here | changed
      · exact .flag here (encoded.fits rfl)
      rcases Cpu.set_or_changed changed with here | same
      · exact .flag here (encoded.fits rfl)
      · exact absurd rfl same
  | waitKey x =>
      have operand : x = Word.x word := encoded.operands
      subst operand
      change
        (machine.waitKey (KeySource.keys keys) (Word.x word)).machine.cpu.registers.get number ≠ _
        at changed
      by_cases letsGo : machine.LetsGo (KeySource.keys keys)
      · rcases waitKey_of_letsGo letsGo (Word.x word) with ⟨-, key, released⟩
        rw [released] at changed
        rcases Cpu.set_or_changed changed with here | same
        · exact .key here (encoded.fits rfl) letsGo
        · exact absurd rfl same
      · rw [waitKey_of_held letsGo, awaitKey_eq] at changed
        exact absurd rfl changed
  | loadRegisters x =>
      have operand : x = Word.x word := encoded.operands
      subst operand
      rcases Cpu.loadAt_or_changed changed with ⟨loaded, member, rfl⟩ | same
      · have short : loaded < (Word.x word).toNat + 1 := List.mem_range.mp member
        apply MaySet.loaded _ (encoded.fits rfl)
        rw [Cpu.val_place, UInt8.toNat_ofNat']
        omega
      · exact absurd rfl same
  | _ => simp [Component.changers, Instruction.form?] at listed

theorem pc_of_skips (machine : Machine G) (keys : K) (skips : machine.Skips keys word) :
    (machine.execute keys (Instruction.decode word)).machine.cpu.pc = machine.cpu.pc + 2 := by
  cases skips with
  | sameByte fits holds =>
      unfold Form.Fits at fits
      simp only [Instruction.decode, fits]
      exact pc_of_taken _ (beq_iff_eq.mpr holds)
  | otherByte fits holds =>
      unfold Form.Fits at fits
      simp only [Instruction.decode, fits]
      exact pc_of_taken _ (bne_iff_ne.mpr holds)
  | sameRegister fits holds =>
      unfold Form.Fits at fits
      simp only [Instruction.decode, fits]
      exact pc_of_taken _ (beq_iff_eq.mpr holds)
  | otherRegister fits holds =>
      unfold Form.Fits at fits
      simp only [Instruction.decode, fits]
      exact pc_of_taken _ (bne_iff_ne.mpr holds)
  | keyDown fits holds =>
      unfold Form.Fits at fits
      simp only [Instruction.decode, fits]
      exact pc_of_taken _ holds
  | keyUp fits holds =>
      unfold Form.Fits at fits
      simp only [Instruction.decode, fits]
      exact pc_of_taken _ ((Bool.not_eq_true' _).mpr holds)

theorem execute_of_stalls (keys : K) (stalls : machine.Stalls (KeySource.keys keys) word) :
    machine.execute keys (Instruction.decode word) =
      machine.awaitKey (KeySource.keys keys) (Word.x word) := by
  rcases stalls with ⟨fits, held⟩
  unfold Form.Fits at fits
  simp only [Instruction.decode, fits]
  exact waitKey_of_held held (Word.x word)

theorem pc_of_straight (encoded : instruction.EncodedBy word) (noJump : ¬ machine.Jumps word)
    (noSkip : ¬ machine.Skips keys word) (noStall : ¬ machine.Stalls (KeySource.keys keys) word) :
    (machine.execute keys instruction).machine.cpu.pc = machine.cpu.pc := by
  cases instruction with
  | jump | call | jumpOffset => exact (noJump (Or.inl (encoded.fitsAny rfl (by decide)))).elim
  | leave =>
      have empty : machine.cpu.sp = 0 := by
        by_contra some
        exact noJump (Or.inr ⟨encoded.fits rfl, Nat.pos_of_ne_zero some⟩)
      change machine.leave.machine.cpu.pc = _
      simp only [leave, Cpu.pop, empty]
  | skipIfByte x nn =>
      rcases encoded.operands with ⟨rfl, rfl⟩
      apply pc_of_untaken
      intro holds
      exact noSkip (.sameByte (encoded.fits rfl) (beq_iff_eq.mp holds))
  | skipUnlessByte x nn =>
      rcases encoded.operands with ⟨rfl, rfl⟩
      apply pc_of_untaken
      intro holds
      exact noSkip (.otherByte (encoded.fits rfl) (bne_iff_ne.mp holds))
  | skipIfSame x y =>
      rcases encoded.operands with ⟨rfl, rfl⟩
      apply pc_of_untaken
      intro holds
      exact noSkip (.sameRegister (encoded.fits rfl) (beq_iff_eq.mp holds))
  | skipUnlessSame x y =>
      rcases encoded.operands with ⟨rfl, rfl⟩
      apply pc_of_untaken
      intro holds
      exact noSkip (.otherRegister (encoded.fits rfl) (bne_iff_ne.mp holds))
  | skipIfKey x =>
      have operand : x = Word.x word := encoded.operands
      subst operand
      apply pc_of_untaken
      intro holds
      exact noSkip (.keyDown (encoded.fits rfl) holds)
  | skipUnlessKey x =>
      have operand : x = Word.x word := encoded.operands
      subst operand
      apply pc_of_untaken
      intro holds
      exact noSkip (.keyUp (encoded.fits rfl) ((Bool.not_eq_true' _).mp holds))
  | waitKey x =>
      by_cases letsGo : machine.LetsGo (KeySource.keys keys)
      · rcases waitKey_of_letsGo letsGo x with ⟨-, key, released⟩
        exact congrArg (fun machine => machine.cpu.pc) released
      · exact (noStall ⟨encoded.fits rfl, letsGo⟩).elim
  | storeRegisters | loadRegisters =>
      change Component.pc.Kept machine _
      apply kept_execute
      simp [Component.changers, Instruction.form?]
  | _ => exact rfl

theorem mayTell_execute (encoded : instruction.EncodedBy word) :
    machine.MayTell (KeySource.keys keys) word (machine.execute keys instruction).flow := by
  cases instruction with
  | clearScreen | draw => exact .draw (encoded.fitsAny rfl (by decide))
  | setSound => exact .sound (encoded.fits rfl)
  | jump | call | jumpOffset => exact .jump (Or.inl (encoded.fitsAny rfl (by decide)))
  | leave =>
      change machine.MayTell _ word machine.leave.flow
      rw [flow_leave]
      split
      case isTrue => exact .ok
      case isFalse some => exact .jump (Or.inr ⟨encoded.fits rfl, Nat.pos_of_ne_zero some⟩)
  | waitKey x =>
      change machine.MayTell _ word (machine.waitKey (KeySource.keys keys) x).flow
      by_cases letsGo : machine.LetsGo (KeySource.keys keys)
      · rw [(waitKey_of_letsGo letsGo x).1]
        exact .ok
      · rw [waitKey_of_held letsGo, flow_awaitKey]
        exact .keyWait ⟨encoded.fits rfl, letsGo⟩
  | _ => exact .ok

theorem flow_of_draws (keys : K) (fits : Form.FitsAny [.whole 0x00E0, .first 0xD] word) :
    (machine.execute keys (Instruction.decode word)).flow = .draw := by
  rcases fits with ⟨form, member, fits⟩
  simp only [List.mem_cons, List.not_mem_nil, or_false] at member
  rcases member with rfl | rfl
  · unfold Form.Fits at fits
    subst fits
    rfl
  · unfold Form.Fits at fits
    simp only [Instruction.decode, fits]
    rfl

theorem flow_of_sounds (keys : K) (fits : (Form.low 0xF 0x18).Fits word) :
    (machine.execute keys (Instruction.decode word)).flow = .sound := by
  unfold Form.Fits at fits
  simp only [Instruction.decode, fits]
  rfl

theorem flow_of_jumps (keys : K) (jumps : machine.Jumps word) :
    (machine.execute keys (Instruction.decode word)).flow = .jump := by
  rcases jumps with ⟨form, member, fits⟩ | ⟨fits, some⟩
  · simp only [List.mem_cons, List.not_mem_nil, or_false] at member
    rcases member with rfl | rfl | rfl
    all_goals
      unfold Form.Fits at fits
      simp only [Instruction.decode, fits]
      rfl
  · unfold Form.Fits at fits
    subst fits
    exact (flow_leave machine).trans (if_neg (Nat.ne_of_gt some))

/-- What executing a word may change, and what its flow tells of it. -/
structure Footprint (machine : Machine G) (keys : K) (word : UInt16) (step : Step G) : Prop where
  /-- A part of the machine changes only under the forms that are listed for it. -/
  parts : forall component : Component, ¬ component.Kept machine step.machine ->
    Form.FitsAny component.changers word
  cells : forall cell : Fin 4096,
    step.machine.cpu.memory.cells.get cell ≠ machine.cpu.memory.cells.get cell ->
      machine.MayStore word cell
  registers : forall number : Fin 16,
    step.machine.cpu.registers.get number ≠ machine.cpu.registers.get number ->
      machine.MaySet (KeySource.keys keys) word number
  /-- `CXNN` draws one random word. -/
  drawn : (Form.first 0xC).Fits word ->
    step.machine.random = (Generator.next machine.random).2
  skipped : machine.Skips keys word -> step.machine.cpu.pc = machine.cpu.pc + 2
  stalled : machine.Stalls (KeySource.keys keys) word ->
    step.machine.cpu.pc = machine.cpu.pc - 2
  straight : ¬ machine.Jumps word -> ¬ machine.Skips keys word ->
    ¬ machine.Stalls (KeySource.keys keys) word -> step.machine.cpu.pc = machine.cpu.pc
  /-- A word without a form is a routine of the host, or undefined. -/
  idle : (forall form, form ∈ Form.table -> ¬ form.Fits word) -> step.machine = machine
  draw : step.flow = .draw ↔ Form.FitsAny [.whole 0x00E0, .first 0xD] word
  sound : step.flow = .sound ↔ (Form.low 0xF 0x18).Fits word
  jump : step.flow = .jump ↔ machine.Jumps word
  keyWait : step.flow = .keyWait ↔ machine.Stalls (KeySource.keys keys) word
  interrupt : step.flow ≠ .interrupt

theorem execute_of_unfit (encoded : instruction.EncodedBy word)
    (unfit : forall form, form ∈ Form.table -> ¬ form.Fits word) :
    (machine.execute keys instruction).machine = machine := by
  cases told : instruction.form? with
  | some form => exact (unfit form (Instruction.form?_mem_table told) (encoded.fits told)).elim
  | none =>
      cases instruction with
      | hostRoutine | undefined => rfl
      | _ => cases told

/-- Executing any word, behind the program counter, changes no more than its form allows, and the
flow tells exactly of draws, sounds, jumps and waits. -/
theorem execute_footprint (machine : Machine G) (keys : K) (word : UInt16) :
    machine.Footprint keys word (machine.execute keys (Instruction.decode word)) := by
  have encoded := Instruction.decode_encodedBy word
  have told : machine.MayTell (KeySource.keys keys) word
      (machine.execute keys (Instruction.decode word)).flow := mayTell_execute encoded
  constructor
  case parts =>
    intro component changed
    have listed : component.changers ⊆ Form.table := by
      cases component <;> decide
    exact (encoded.fitsAny_iff listed).mpr (form?_mem_changers changed)
  case cells =>
    intro cell changed
    exact mayStore_of_changed encoded changed
  case registers =>
    intro number changed
    exact maySet_of_changed encoded changed
  case drawn =>
    intro fits
    unfold Form.Fits at fits
    simp only [Instruction.decode, fits]
    rfl
  case skipped => exact pc_of_skips machine keys
  case stalled =>
    intro stalls
    rw [execute_of_stalls keys stalls, awaitKey_eq]
  case straight => exact pc_of_straight encoded
  case idle => exact execute_of_unfit encoded
  case draw =>
    constructor
    · intro flow
      rw [flow] at told
      cases told with
      | draw fits => exact fits
    · exact flow_of_draws keys
  case sound =>
    constructor
    · intro flow
      rw [flow] at told
      cases told with
      | sound fits => exact fits
    · exact flow_of_sounds keys
  case jump =>
    constructor
    · intro flow
      rw [flow] at told
      cases told with
      | jump jumps => exact jumps
    · exact flow_of_jumps keys
  case keyWait =>
    constructor
    · intro flow
      rw [flow] at told
      cases told with
      | keyWait stalls => exact stalls
    · intro stalls
      rw [execute_of_stalls keys stalls]
      exact flow_awaitKey machine _ _
  case interrupt =>
    intro flow
    rw [flow] at told
    cases told

end Machine
end ChipEight
