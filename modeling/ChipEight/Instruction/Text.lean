import ChipEight.Hex
import ChipEight.Instruction

namespace ChipEight

/-!
The assembly text of an instruction.

A text is a mnemonic followed by the operands, separated by a comma and a blank.  Several
instructions share a mnemonic: eleven are called `LD`.  They differ in the kinds of their
operands, and each kind is written in its own way, so the text still names one instruction.
-/

/-- One operand as it is written. -/
inductive Operand where
  /-- A general register, `V` and its hexadecimal number. -/
  | register (number : UInt8)
  /-- An address, of at least three digits. -/
  | address (value : UInt16)
  /-- A byte constant, of two digits. -/
  | byte (value : UInt8)
  | word (value : UInt16)
  /-- The height of a sprite, in decimal. -/
  | height (rows : UInt8)
  | index
  /-- The memory that the index register points at. -/
  | indirect
  | delayTimer
  | soundTimer
  | key
  | glyph
  | decimal
deriving DecidableEq, Repr

def Operand.text : Operand -> String
  | .register number => "V" ++ Hex.padded 1 number.toNat
  | .address value => "0x" ++ Hex.padded 3 value.toNat
  | .byte value => "0x" ++ Hex.byte value
  | .word value => "0x" ++ Hex.word value
  | .height rows => toString rows.toNat
  | .index => "I"
  | .indirect => "[I]"
  | .delayTimer => "DT"
  | .soundTimer => "ST"
  | .key => "K"
  | .glyph => "F"
  | .decimal => "B"

namespace Instruction

/-- The conventional name of an instruction, without its operands. -/
def mnemonic : Instruction -> String
  | .hostRoutine _ => "SYS"
  | .clearScreen => "CLS"
  | .leave => "RET"
  | .jump _ | .jumpOffset _ => "JP"
  | .call _ => "CALL"
  | .skipIfByte .. | .skipIfSame .. => "SE"
  | .skipUnlessByte .. | .skipUnlessSame .. => "SNE"
  | .loadByte .. | .move .. | .loadIndex _ | .readDelay _ | .waitKey _ | .setDelay _
  | .setSound _ | .loadGlyph _ | .storeDecimal _ | .storeRegisters _ | .loadRegisters _ => "LD"
  | .addByte .. | .add .. | .addIndex _ => "ADD"
  | .or .. => "OR"
  | .and .. => "AND"
  | .xor .. => "XOR"
  | .sub .. => "SUB"
  | .shiftRight .. => "SHR"
  | .subFrom .. => "SUBN"
  | .shiftLeft .. => "SHL"
  | .random .. => "RND"
  | .draw .. => "DRW"
  | .skipIfKey _ => "SKP"
  | .skipUnlessKey _ => "SKNP"
  | .undefined _ => "DW"

/-- The operands in the order they are written, the target first. -/
def operands : Instruction -> List Operand
  | .clearScreen | .leave => []
  | .hostRoutine nnn | .jump nnn | .call nnn => [.address nnn]
  | .jumpOffset nnn => [.register 0, .address nnn]
  | .loadIndex nnn => [.index, .address nnn]
  | .skipIfByte x nn | .skipUnlessByte x nn | .loadByte x nn | .addByte x nn | .random x nn =>
      [.register x, .byte nn]
  | .skipIfSame x y | .skipUnlessSame x y | .move x y | .or x y | .and x y | .xor x y
  | .add x y | .sub x y | .shiftRight x y | .subFrom x y | .shiftLeft x y =>
      [.register x, .register y]
  | .draw x y n => [.register x, .register y, .height n]
  | .skipIfKey x | .skipUnlessKey x => [.register x]
  | .readDelay x => [.register x, .delayTimer]
  | .waitKey x => [.register x, .key]
  | .setDelay x => [.delayTimer, .register x]
  | .setSound x => [.soundTimer, .register x]
  | .addIndex x => [.index, .register x]
  | .loadGlyph x => [.glyph, .register x]
  | .storeDecimal x => [.decimal, .register x]
  | .storeRegisters x => [.indirect, .register x]
  | .loadRegisters x => [.register x, .indirect]
  | .undefined word => [.word word]

/-- The assembly text: the mnemonic, then the operands if there are any. -/
def text (instruction : Instruction) : String :=
  match instruction.operands with
  | [] => instruction.mnemonic
  | operands => instruction.mnemonic ++ " " ++ ", ".intercalate (operands.map Operand.text)

end Instruction
end ChipEight
