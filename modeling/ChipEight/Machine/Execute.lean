import ChipEight.Flow
import ChipEight.Keypad
import ChipEight.Machine
import ChipEight.Sprite

namespace ChipEight

/-!
What every instruction does.

An instruction is executed with the program counter already past it; jumps, returns and skips go
on from there.  Where a result and a flag are both written, their order matters as soon as VF is
itself an operand, so it is spelled out for every instruction that has both.
-/

/-- The outcome of one instruction. -/
structure Step (G : Type) where
  machine : Machine G
  flow : Flow
  events : List Event

namespace Cpu

/-- `8XY4`: the carry is written first, then the sum. -/
def addRegisters (cpu : Cpu) (x y : UInt8) : Cpu :=
  let a := cpu.register x
  let b := cpu.register y
  (cpu.setFlag (256 ≤ a.toNat + b.toNat)).setRegister x (a + b)

/-- `8XY5`: the difference is written first; the flag is one when its sign bit is clear. -/
def subRegisters (cpu : Cpu) (x y : UInt8) : Cpu :=
  let difference := cpu.register x - cpu.register y
  (cpu.setRegister x difference).setFlag (difference < 0x80)

/-- `8XY6`: the low bit of VX becomes the flag, then VX takes VY shifted right. -/
def shiftRightRegisters (cpu : Cpu) (x y : UInt8) : Cpu :=
  let cpu := cpu.setFlag (cpu.register x &&& 0x01 = 0x01)
  cpu.setRegister x (cpu.register y >>> 1)

/-- `8XY7`: the difference is written first; the flag compares VY with what VX then holds. -/
def subFromRegisters (cpu : Cpu) (x y : UInt8) : Cpu :=
  let cpu := cpu.setRegister x (cpu.register y - cpu.register x)
  cpu.setFlag (cpu.register x ≤ cpu.register y)

/-- `8XYE`: the high bit of VX becomes the flag, then VX takes VY shifted left. -/
def shiftLeftRegisters (cpu : Cpu) (x y : UInt8) : Cpu :=
  let cpu := cpu.setFlag (cpu.register x &&& 0x80 = 0x80)
  cpu.setRegister x (cpu.register y <<< 1)

/-- `FX29`: the address of the glyph of the digit in VX. -/
def loadGlyph (cpu : Cpu) (x : UInt8) : Cpu :=
  { cpu with index := (cpu.register x).toUInt16 * UInt16.ofNat glyphHeight }

/-- `FX33`: the hundreds, tens and ones of VX go to the three bytes from I on. -/
def storeDecimal (cpu : Cpu) (x : UInt8) : Cpu :=
  let value := cpu.register x
  ((cpu.write cpu.index (value / 100 % 10)).write (cpu.index + 1) (value / 10 % 10)).write
    (cpu.index + 2) (value % 10)

/-- Store the registers with the given numbers, each as far from an address as its number. -/
def storeAt (cpu : Cpu) (address : UInt16) : List Nat -> Cpu
  | [] => cpu
  | number :: numbers =>
      (cpu.write (address + UInt16.ofNat number) (cpu.register (UInt8.ofNat number))).storeAt
        address numbers

/-- Load the registers with the given numbers, each from as far behind an address as its number. -/
def loadAt (cpu : Cpu) (address : UInt16) : List Nat -> Cpu
  | [] => cpu
  | number :: numbers =>
      (cpu.setRegister (UInt8.ofNat number) (cpu.read (address + UInt16.ofNat number))).loadAt
        address numbers

def advanceIndex (cpu : Cpu) (x : UInt8) : Cpu :=
  { cpu with index := cpu.index + (x.toUInt16 + 1) }

/-- `FX55`: store V0 to VX from I on and move I past them. -/
def storeRegisters (cpu : Cpu) (x : UInt8) : Cpu :=
  (cpu.storeAt cpu.index (List.range (x.toNat + 1))).advanceIndex x

/-- `FX65`: load V0 to VX from I on and move I past them. -/
def loadRegisters (cpu : Cpu) (x : UInt8) : Cpu :=
  (cpu.loadAt cpu.index (List.range (x.toNat + 1))).advanceIndex x

def sprite (cpu : Cpu) (height : UInt8) : Sprite :=
  (List.range height.toNat).map (fun row => cpu.read (cpu.index + UInt16.ofNat row))

/-- The address of the instruction that is being executed. -/
def current (cpu : Cpu) : UInt16 :=
  cpu.pc - 2

end Cpu

namespace Machine

variable {G : Type}

/-- Change the processor alone; nothing of note happens. -/
def quietly (machine : Machine G) (change : Cpu -> Cpu) : Step G :=
  ⟨{ machine with cpu := change machine.cpu }, .ok, []⟩

def skipIf (machine : Machine G) (condition : Bool) : Step G :=
  machine.quietly (fun cpu => if condition then cpu.skip else cpu)

/-- `00EE`: go back to the innermost return address, if there is one. -/
def leave (machine : Machine G) : Step G :=
  match machine.cpu.pop with
  | (some address, cpu) => ⟨{ machine with cpu := cpu.goto address }, .jump, []⟩
  | (none, _) => ⟨machine, .ok, [.underflow machine.cpu.current]⟩

/-- `2NNN`: remember the next instruction and jump; a full stack is only told about. -/
def call (machine : Machine G) (address : UInt16) : Step G :=
  let (room, cpu) := machine.cpu.push machine.cpu.pc
  ⟨{ machine with cpu := cpu.goto address }, .jump,
    if room then [] else [.overflow machine.cpu.current]⟩

/-- `CXNN`: draw one random word, whatever the mask, and keep its low byte under the mask. -/
def randomByte [Generator G] (machine : Machine G) (x mask : UInt8) : Step G :=
  let (word, random) := Generator.next machine.random
  ⟨{ machine with cpu := machine.cpu.setRegister x (word.toUInt8 &&& mask), random }, .ok, []⟩

/--
`DXYN`: draw the sprite that I points at.  The flag is cleared before the coordinates are read,
so VF as a coordinate is zero; it is set in the end if a pixel was erased.
-/
def drawSprite (machine : Machine G) (x y height : UInt8) : Step G :=
  let cpu := machine.cpu.setFlag false
  let (erased, screen) :=
    machine.screen.draw (cpu.register x).toNat (cpu.register y).toNat (cpu.sprite height)
  ⟨{ machine with cpu := cpu.setFlag erased, screen }, .draw, []⟩

/-- Stay at the instruction that waits for a key, and remember the highest key that is down. -/
def awaitKey (machine : Machine G) (keys : Keys) (x : UInt8) : Step G :=
  match keys.highest? with
  | none => ⟨{ machine with cpu := machine.cpu.rewind }, .keyWait, []⟩
  | some key =>
      ⟨{ machine with cpu := { machine.cpu with keyWait := .waiting x key }.rewind }, .keyWait,
        if machine.cpu.keyWait = .idle then [.keySeen key] else []⟩

/--
`FX0A`: a wait ends when the remembered key is up again, and VX then receives it.  Until then the
program counter is moved back, so that the next step looks at the keys anew.
-/
def waitKey (machine : Machine G) (keys : Keys) (x : UInt8) : Step G :=
  match machine.cpu.keyWait with
  | .idle => machine.awaitKey keys x
  | .waiting _ key =>
      if keys.down key then machine.awaitKey keys x
      else
        ⟨{ machine with cpu := { machine.cpu.setRegister x key with keyWait := .idle } }, .ok,
          [.keyTaken x key]⟩

/-- Execute an instruction that the program counter has already passed. -/
def execute {K : Type} [Generator G] [KeySource K] (machine : Machine G) (keys : K)
    (instruction : Instruction) : Step G :=
  match instruction with
  | .hostRoutine _ | .undefined _ => ⟨machine, .ok, []⟩
  | .clearScreen => ⟨{ machine with screen := machine.screen.clear }, .draw, []⟩
  | .leave => machine.leave
  | .jump nnn => ⟨{ machine with cpu := machine.cpu.goto nnn }, .jump, []⟩
  | .call nnn => machine.call nnn
  | .skipIfByte x nn => machine.skipIf (machine.cpu.register x == nn)
  | .skipUnlessByte x nn => machine.skipIf (machine.cpu.register x != nn)
  | .skipIfSame x y => machine.skipIf (machine.cpu.register x == machine.cpu.register y)
  | .skipUnlessSame x y => machine.skipIf (machine.cpu.register x != machine.cpu.register y)
  | .loadByte x nn => machine.quietly (fun cpu => cpu.setRegister x nn)
  | .addByte x nn => machine.quietly (fun cpu => cpu.setRegister x (cpu.register x + nn))
  | .move x y => machine.quietly (fun cpu => cpu.setRegister x (cpu.register y))
  | .or x y => machine.quietly (fun cpu => cpu.setRegister x (cpu.register x ||| cpu.register y))
  | .and x y => machine.quietly (fun cpu => cpu.setRegister x (cpu.register x &&& cpu.register y))
  | .xor x y => machine.quietly (fun cpu => cpu.setRegister x (cpu.register x ^^^ cpu.register y))
  | .add x y => machine.quietly (fun cpu => cpu.addRegisters x y)
  | .sub x y => machine.quietly (fun cpu => cpu.subRegisters x y)
  | .shiftRight x y => machine.quietly (fun cpu => cpu.shiftRightRegisters x y)
  | .subFrom x y => machine.quietly (fun cpu => cpu.subFromRegisters x y)
  | .shiftLeft x y => machine.quietly (fun cpu => cpu.shiftLeftRegisters x y)
  | .loadIndex nnn => machine.quietly (fun cpu => { cpu with index := nnn })
  | .jumpOffset nnn =>
      ⟨{ machine with cpu := machine.cpu.goto (nnn + (machine.cpu.register 0).toUInt16) },
        .jump, []⟩
  | .random x nn => machine.randomByte x nn
  | .draw x y n => machine.drawSprite x y n
  | .skipIfKey x => machine.skipIf (KeySource.isPressed keys (machine.cpu.register x))
  | .skipUnlessKey x => machine.skipIf (!KeySource.isPressed keys (machine.cpu.register x))
  | .readDelay x => machine.quietly (fun cpu => cpu.setRegister x cpu.delayTimer)
  | .waitKey x => machine.waitKey (KeySource.keys keys) x
  | .setDelay x => machine.quietly (fun cpu => { cpu with delayTimer := cpu.register x })
  | .setSound x =>
      ⟨{ machine with cpu := { machine.cpu with soundTimer := machine.cpu.register x } },
        .sound, []⟩
  | .addIndex x =>
      machine.quietly (fun cpu => { cpu with index := cpu.index + (cpu.register x).toUInt16 })
  | .loadGlyph x => machine.quietly (fun cpu => cpu.loadGlyph x)
  | .storeDecimal x => machine.quietly (fun cpu => cpu.storeDecimal x)
  | .storeRegisters x => machine.quietly (fun cpu => cpu.storeRegisters x)
  | .loadRegisters x => machine.quietly (fun cpu => cpu.loadRegisters x)

end Machine
end ChipEight
