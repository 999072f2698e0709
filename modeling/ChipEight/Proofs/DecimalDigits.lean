import ChipEight.Proofs.Dumps
import ChipEight.Random.ChaCha

namespace ChipEight

/-!
The decimal digits of a register.

`FX33` stores the hundreds, tens and ones of a register, and `F265` loads the same three bytes into
V0, V1 and V2.  The three cells are apart even where they go around the end of memory, so no digit
is written over by another one, and the digits that are loaded make up the value that the register
had.  The register may itself be one of the three.
-/

/-- The hundreds, tens and ones of a byte. -/
def decimalDigits (value : UInt8) : List UInt8 :=
  [value / 100 % 10, value / 10 % 10, value % 10]

theorem le_nine_of_mem_decimalDigits {value digit : UInt8} (member : digit ∈ decimalDigits value) :
    digit ≤ 9 := by
  have small : forall number : UInt8, number % 10 ≤ 9 := by
    intro number
    rw [UInt8.le_iff_toNat_le, UInt8.toNat_mod]
    exact Nat.le_of_lt_succ (Nat.mod_lt number.toNat (by decide))
  simp only [decimalDigits, List.mem_cons, List.not_mem_nil, or_false] at member
  rcases member with rfl | rfl | rfl <;> exact small _

/-- A byte is made up of its digits. -/
theorem sum_of_decimalDigits {value hundreds tens ones : UInt8}
    (digits : [hundreds, tens, ones] = decimalDigits value) :
    100 * hundreds.toNat + 10 * tens.toNat + ones.toNat = value.toNat := by
  have inside := value.toNat_lt
  simp only [decimalDigits, List.cons.injEq, and_true] at digits
  obtain ⟨rfl, rfl, rfl⟩ := digits
  simp only [UInt8.toNat_mod, UInt8.toNat_div, UInt8.reduceToNat]
  omega

namespace Instruction

theorem decode_split (number : Fin 16) :
    decode (Word.onRegister number 0x33) = .storeDecimal (UInt8.ofNat number.val) := by
  revert number
  decide

end Instruction

namespace Memory

/-- The cells of three bytes, by their addresses. -/
theorem stretch_three (address : UInt16) :
    stretch address.toNat 3 = [cell address, cell (address + 1), cell (address + 2)] := by
  have first : cell address = Fin.ofNat 4096 address.toNat := Fin.ext (val_cell address)
  have second := cell_add address 1
  have third := cell_add address 2
  change cell (address + 1) = _ at second
  change cell (address + 2) = _ at third
  rw [first, second, third]
  rfl

end Memory

namespace Cpu

/-- `FX33` puts the digits of a register into the stretch from the index on. -/
theorem bytes_storeDecimal (cpu : Cpu) (x : UInt8) :
    (cpu.storeDecimal x).memory.bytes cpu.index.toNat 3 = decimalDigits (cpu.register x) := by
  have distinct := Memory.stretch_nodup cpu.index.toNat (by decide : 3 ≤ 4096)
  rw [Memory.stretch_three] at distinct
  simp only [List.nodup_cons, List.mem_cons, List.not_mem_nil, not_or, or_false] at distinct
  rw [Memory.bytes, Memory.stretch_three]
  change [(cpu.storeDecimal x).read cpu.index, (cpu.storeDecimal x).read (cpu.index + 1),
    (cpu.storeDecimal x).read (cpu.index + 2)] = _
  -- A digit is read where it was stored, since those behind it are in other cells.
  simp only [storeDecimal, read_write, Ne.symm distinct.1.1, Ne.symm distinct.1.2,
    Ne.symm distinct.2.1, if_true, if_false]
  rfl

end Cpu

namespace Machine

variable {G K : Type} [Generator G] [KeySource K]

/-- `FX33` writes the digits of VX behind the index, and moves nothing. -/
theorem cpu_obey_split (machine : Machine G) (keys : K) (x : Fin 16) :
    (machine.obey keys (Word.onRegister x 0x33)).machine.cpu =
      machine.passed.cpu.storeDecimal (UInt8.ofNat x.val) := by
  rw [obey, Instruction.decode_split]
  rfl

theorem registers_obey_split (machine : Machine G) (keys : K) (x : Fin 16) :
    (machine.obey keys (Word.onRegister x 0x33)).machine.cpu.registers =
      machine.cpu.registers := by
  rw [cpu_obey_split]
  rfl

theorem index_obey_split (machine : Machine G) (keys : K) (x : Fin 16) :
    (machine.obey keys (Word.onRegister x 0x33)).machine.cpu.index = machine.cpu.index := by
  rw [cpu_obey_split]
  rfl

theorem bytes_obey_split (machine : Machine G) (keys : K) (x : Fin 16) :
    (machine.obey keys (Word.onRegister x 0x33)).machine.cpu.memory.bytes
      machine.cpu.index.toNat 3 = decimalDigits (machine.cpu.registers.get x) := by
  have value : machine.passed.cpu.register (UInt8.ofNat x.val) = machine.cpu.registers.get x :=
    congrArg machine.cpu.registers.get (Cpu.place_ofNat x.isLt)
  rw [cpu_obey_split, ← value]
  exact machine.passed.cpu.bytes_storeDecimal (UInt8.ofNat x.val)

/-- `F265` takes V0, V1 and V2 from the stretch from the index on. -/
theorem get_obey_load (machine : Machine G) (keys : K) (number : Fin 16) :
    (machine.obey keys (Word.onRegister 2 0x65)).machine.cpu.registers.get number =
      if number ≤ 2 then
        machine.cpu.memory.cells.get (Fin.ofNat 4096 (machine.cpu.index.toNat + number.val))
      else machine.cpu.registers.get number := by
  rw [cpu_obey_load]
  exact machine.passed.cpu.get_loadRegisters (by decide : (2 : UInt8).toNat < 16) number

/-- The digits of a register are stored in three cells, and when they are loaded they make up the
value that the register had.  Nothing else is stored or loaded, and the index has moved past
them. -/
theorem split_digits_come_back (machine : Machine G) (keys : K) (x : Fin 16) :
    let split := (machine.obey keys (Word.onRegister x 0x33)).machine
    let after := (split.obey keys (Word.onRegister 2 0x65)).machine
    let hundreds := after.cpu.registers.get 0
    let tens := after.cpu.registers.get 1
    let ones := after.cpu.registers.get 2
    let index := machine.cpu.index
    let cells := [Memory.cell index, Memory.cell (index + 1), Memory.cell (index + 2)]
    (hundreds ≤ 9 ∧ tens ≤ 9 ∧ ones ≤ 9) ∧
    100 * hundreds.toNat + 10 * tens.toNat + ones.toNat =
      (machine.cpu.registers.get x).toNat ∧
    (forall number : Fin 16, 2 < number ->
      after.cpu.registers.get number = machine.cpu.registers.get number) ∧
    cells.Nodup ∧
    cells.map after.cpu.memory.cells.get = [hundreds, tens, ones] ∧
    (forall cell, cell ∉ cells ->
      after.cpu.memory.cells.get cell = machine.cpu.memory.cells.get cell) ∧
    after.cpu.index = index + 3 := by
  intro split after hundreds tens ones index cells
  have loaded : after.cpu = split.passed.cpu.loadRegisters 2 := split.cpu_obey_load keys 2
  have memory : after.cpu.memory = split.cpu.memory := by
    rw [loaded, Cpu.loadRegisters_eq]
    rfl
  have stays : split.cpu.index = index := machine.index_obey_split keys x
  have register := split.get_obey_load keys
  have shown : [hundreds, tens, ones] = split.cpu.memory.bytes index.toNat 3 := by
    rw [← stays]
    simp only [hundreds, tens, ones, after, register]
    rfl
  have digits : [hundreds, tens, ones] = decimalDigits (machine.cpu.registers.get x) :=
    shown.trans (machine.bytes_obey_split keys x)
  have small : forall digit, digit ∈ [hundreds, tens, ones] -> digit ≤ 9 :=
    fun digit member => le_nine_of_mem_decimalDigits (digits ▸ member)
  have places : Memory.stretch index.toNat 3 = cells := Memory.stretch_three index
  refine ⟨?small, sum_of_decimalDigits digits, ?kept, ?apart, ?there, ?others, ?moved⟩
  case small =>
    simpa only [List.mem_cons, List.not_mem_nil, or_false, forall_eq_or_imp, forall_eq] using small
  case kept =>
    intro number beyond
    rw [register, if_neg (Fin.not_le.mpr beyond), machine.registers_obey_split keys x]
  case apart =>
    rw [← places]
    exact Memory.stretch_nodup index.toNat (by decide)
  case there =>
    rw [shown, memory, ← places]
    rfl
  case others =>
    intro cell outside
    rw [← places] at outside
    rw [memory, machine.cpu_obey_split keys x]
    exact machine.passed.cpu.get_storeDecimal_of_notMem _ cell outside
  case moved =>
    rw [loaded, Cpu.loadRegisters_eq, ← stays]
    rfl

/-- The digits of V1 go around the end of memory and come back over V1 itself. -/
theorem split_digits_around_end :
    let loaded := (boot .standard ChaCha.unkeyed []).machine
    let machine := (loaded.withRegisters (.replicate 16 234)).withIndex 0xFFFE
    let split := (machine.obey Keys.released (Word.onRegister 1 0x33)).machine
    let after := (split.obey Keys.released (Word.onRegister 2 0x65)).machine
    (2 : Fin 16) < 3 ∧ Memory.cell 0x003 ∉
      [Memory.cell 0xFFFE, Memory.cell (0xFFFE + 1), Memory.cell (0xFFFE + 2)] ∧
    (after.cpu.registers.get 0).toNat = 2 ∧ (after.cpu.registers.get 1).toNat = 3 ∧
    (after.cpu.registers.get 2).toNat = 4 ∧ after.cpu.registers.get 3 = 234 ∧
    after.cpu.memory.cells.get 0 = after.cpu.registers.get 2 ∧
    after.cpu.memory.cells.get (Memory.cell 0x003) = loaded.cpu.memory.cells.get 3 ∧
    after.cpu.index = 1 := by
  intro loaded machine split after
  have behind : (2 : Fin 16) < 3 := by decide
  have outside : Memory.cell 0x003 ∉
      [Memory.cell 0xFFFE, Memory.cell (0xFFFE + 1), Memory.cell (0xFFFE + 2)] := by decide
  obtain ⟨⟨hundreds, tens, ones⟩, sum, kept, -, there, others, index⟩ :=
    machine.split_digits_come_back Keys.released 1
  have small : forall digit : UInt8, digit ≤ 9 -> digit.toNat ≤ 9 :=
    fun _ small => UInt8.le_iff_toNat_le.mp small
  have value : 100 * (after.cpu.registers.get 0).toNat + 10 * (after.cpu.registers.get 1).toNat +
      (after.cpu.registers.get 2).toNat = 234 := sum
  have hundreds := small (after.cpu.registers.get 0) hundreds
  have tens := small (after.cpu.registers.get 1) tens
  have ones := small (after.cpu.registers.get 2) ones
  have last : Memory.cell (0xFFFE + 2) = 0 := by decide
  have moved : (0xFFFE : UInt16) + 3 = 1 := by decide
  rw [← last, ← moved]
  exact ⟨behind, outside, by omega, by omega, by omega, kept 3 behind,
    (List.cons.inj (List.cons.inj (List.cons.inj there).2).2).1, others _ outside, index⟩

end Machine
end ChipEight
