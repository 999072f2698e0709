import ChipEight.Instruction
import ChipEight.Listing
import ChipEight.Memory

namespace ChipEight

/-!
The registers, the timers, the call stack and the memory of the machine.

Addresses are sixteen bits wide and wrap; only their low twelve bits reach memory.  The call
stack has sixteen entries.  A call that finds it full replaces the innermost return address, and
a return that finds it empty has nowhere to go: neither stops the machine.
-/

/-- How far the instruction that waits for a key has come. -/
inductive KeyWait where
  | idle
  /-- A key is down, and the register receives it once it is let go. -/
  | waiting (register key : UInt8)
deriving DecidableEq, Repr

/-- The state of the processor, its stack and its memory. -/
structure Cpu where
  /-- The address of the next instruction. -/
  pc : UInt16
  /-- The number of return addresses on the stack. -/
  sp : Nat
  /-- The general registers V0 to VF; VF also receives flags. -/
  registers : Vector UInt8 16
  index : UInt16
  delayTimer : UInt8
  /-- The sound timer; the buzzer sounds while it runs. -/
  soundTimer : UInt8
  /-- The progress of a wait for a key. -/
  keyWait : KeyWait
  memory : Memory
  /-- The return addresses, the outermost first; those from `sp` on are stale. -/
  stack : Vector UInt16 16
deriving DecidableEq, Repr

def stackSize : Nat := 16

/-- The size of the longest program that fits between the load address and the end of memory. -/
def maxProgramSize : Nat := Memory.size - loadAddress

namespace Cpu

/-- Fill the memory and the stack entries with zeros; the stack pointer stays. -/
def clearMemory (cpu : Cpu) : Cpu :=
  { cpu with memory := .zero, stack := .replicate 16 0 }

def placeGlyphs (cpu : Cpu) : Cpu :=
  { cpu with memory := cpu.memory.place 0 glyphs }

/-- A processor that has just been switched on, with the glyphs in memory and no program. -/
def initial : Cpu :=
  placeGlyphs {
    pc := UInt16.ofNat loadAddress
    sp := 0
    registers := .replicate 16 0
    index := 0
    delayTimer := 0
    soundTimer := 0
    keyWait := .idle
    memory := .zero
    stack := .replicate 16 0 }

/--
Put every register and every cell of memory back to its initial value and place a program at the
load address.  What does not fit is cut off; the answer tells how many bytes were kept.
-/
def load (cpu : Cpu) (program : List UInt8) : Nat × Cpu :=
  let kept := program.take maxProgramSize
  let cpu := cpu.clearMemory.placeGlyphs
  (kept.length,
    { cpu with
      pc := UInt16.ofNat loadAddress
      sp := 0
      registers := .replicate 16 0
      index := 0
      delayTimer := 0
      soundTimer := 0
      keyWait := .idle
      memory := cpu.memory.place (UInt16.ofNat loadAddress) kept })

def read (cpu : Cpu) (address : UInt16) : UInt8 :=
  cpu.memory.read address

def write (cpu : Cpu) (address : UInt16) (value : UInt8) : Cpu :=
  { cpu with memory := cpu.memory.write address value }

theorem read_write (cpu : Cpu) (target address : UInt16) (value : UInt8) :
    (cpu.write target value).read address =
      if Memory.cell target = Memory.cell address then value else cpu.read address :=
  cpu.memory.read_write target address value

def word (cpu : Cpu) : UInt16 :=
  Word.ofBytes (cpu.read cpu.pc) (cpu.read (cpu.pc + 1))

def skip (cpu : Cpu) : Cpu :=
  { cpu with pc := cpu.pc + 2 }

/-- Move back, so that the current instruction runs again. -/
def rewind (cpu : Cpu) : Cpu :=
  { cpu with pc := cpu.pc - 2 }

/-- Read the word at the program counter and move past it. -/
def fetch (cpu : Cpu) : UInt16 × Cpu :=
  (cpu.word, cpu.skip)

def goto (cpu : Cpu) (address : UInt16) : Cpu :=
  { cpu with pc := address }

/-- The place of a register; only the low nibble of its number counts. -/
def place (number : UInt8) : Fin 16 :=
  ⟨(number &&& 0xF).toNat, by
    rw [UInt8.toNat_and]
    exact Nat.lt_of_le_of_lt Nat.and_le_right (by decide)⟩

def register (cpu : Cpu) (number : UInt8) : UInt8 :=
  cpu.registers[place number]

def setRegister (cpu : Cpu) (number value : UInt8) : Cpu :=
  { cpu with registers := cpu.registers.set (place number).val value (place number).isLt }

/-- A change shows in the numbers that name its register, and in no others. -/
theorem register_setRegister (cpu : Cpu) (target number value : UInt8) :
    (cpu.setRegister target value).register number =
      if place target = place number then value else cpu.register number := by
  simp only [register, setRegister, Fin.getElem_fin, Vector.getElem_set, Fin.val_inj]

def setFlag (cpu : Cpu) (flag : Bool) : Cpu :=
  cpu.setRegister 0xF (if flag then 1 else 0)

/-- Push a return address, and tell whether there was room for it. -/
def push (cpu : Cpu) (address : UInt16) : Bool × Cpu :=
  if room : cpu.sp < stackSize then
    (true, { cpu with stack := cpu.stack.set cpu.sp address room, sp := cpu.sp + 1 })
  else
    (false, { cpu with stack := cpu.stack.set 15 address })

/-- Pop a return address; there is none on an empty stack, which then stays as it is. -/
def pop (cpu : Cpu) : Option UInt16 × Cpu :=
  match cpu.sp with
  | 0 => (none, cpu)
  | sp + 1 => (some (cpu.stack[sp]?.getD 0), { cpu with sp })

/-- What was pushed while there was room comes back first. -/
theorem pop_push (cpu : Cpu) (address : UInt16) (room : cpu.sp < stackSize) :
    (cpu.push address).2.pop.1 = some address := by
  have inside : cpu.sp < 16 := room
  simp only [push, room, dite_true, pop]
  simp only [Vector.getElem?_set_self inside, Option.getD_some]

/-- Count both timers down by one; they stop at zero. -/
def tickTimers (cpu : Cpu) : Cpu :=
  { cpu with
    delayTimer := if cpu.delayTimer = 0 then 0 else cpu.delayTimer - 1
    soundTimer := if cpu.soundTimer = 0 then 0 else cpu.soundTimer - 1 }

end Cpu
end ChipEight
