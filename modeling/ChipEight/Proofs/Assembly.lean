import ChipEight.Instruction.Text
import ChipEight.Proofs.Words

namespace ChipEight

/-!
The text of an instruction read back.

Mnemonics are shared: eleven instructions are called `LD`.  What tells them apart is how their
operands are spelled, and of an operand it is enough to know whether it is a register, a number in
hexadecimal digits, or something else.  A number is known by its value and not by its width, since
no two instructions of one name differ in the width of a number alone.

A text is read by dropping its commas and cutting it at its blanks.  The first of the parts is the
mnemonic, and the others are the operands.
-/

/-- How an operand is spelled. -/
inductive Spelling where
  | register (number : Nat)
  | literal (value : Nat)
  | plain (text : String)
deriving DecidableEq, Repr

namespace Spelling

def ofText : List Char -> Spelling
  | 'V' :: digits => register (Hex.number digits)
  | '0' :: 'x' :: digits => literal (Hex.number digits)
  | text => plain (String.ofList text)

/-- A text of decimal digits is neither a register nor a number in hexadecimal digits. -/
theorem ofText_of_isDigit {text : List Char} (digits : forall c, c ∈ text -> c.isDigit = true) :
    ofText text = plain (String.ofList text) := by
  unfold ofText
  split
  case h_1 => cases digits 'V' List.mem_cons_self
  case h_2 => cases digits 'x' (List.mem_cons_of_mem _ List.mem_cons_self)
  case h_3 => rfl

end Spelling

namespace Operand

def spelling : Operand -> Spelling
  | register number => .register number.toNat
  | address value | word value => .literal value.toNat
  | byte value => .literal value.toNat
  | height rows => .plain rows.toNat.repr
  | index => .plain "I"
  | indirect => .plain "[I]"
  | delayTimer => .plain "DT"
  | soundTimer => .plain "ST"
  | key => .plain "K"
  | glyph => .plain "F"
  | decimal => .plain "B"

theorem ofText_text (operand : Operand) :
    Spelling.ofText operand.text.toList = operand.spelling := by
  have sign : "0x".toList = ['0', 'x'] := by decide
  have letter : "V".toList = ['V'] := by decide
  cases operand with
  | register number =>
      rw [text, String.toList_append, letter]
      exact congrArg Spelling.register (Hex.number_padded 1 number.toNat)
  | address value | byte value | word value =>
      rw [text, String.toList_append, sign]
      exact congrArg Spelling.literal (Hex.number_padded _ value.toNat)
  | height rows =>
      rw [text, Nat.toString_eq_repr, Nat.toList_repr,
        Spelling.ofText_of_isDigit (fun c => Nat.isDigit_of_mem_toDigits (by decide) (by decide)),
        ← Nat.toList_repr, String.ofList_toList]
      rfl
  | _ => rfl

theorem isWord_text (operand : Operand) : IsWord operand.text.toList := by
  have sign : IsWord "0x".toList := by decide
  have letter : IsWord "V".toList := by decide
  cases operand with
  | register number =>
      rw [text, String.toList_append]
      exact letter.append (.hexadecimal 1 number.toNat)
  | address value | byte value | word value =>
      rw [text, String.toList_append]
      exact sign.append (.hexadecimal _ value.toNat)
  | height rows => exact .decimal rows.toNat
  | _ => decide

end Operand

namespace Instruction

/-- The instruction of a name and of operands that are spelled in some way. -/
def assemble? (name : String) (operands : List Spelling) : Option Instruction :=
  match operands with
  | [] =>
      match name with
      | "CLS" => some .clearScreen
      | "RET" => some .leave
      | _ => none
  | [.literal value] =>
      match name with
      | "SYS" => some (.hostRoutine (.ofNat value))
      | "JP" => some (.jump (.ofNat value))
      | "CALL" => some (.call (.ofNat value))
      | "DW" => some (.undefined (.ofNat value))
      | _ => none
  | [.register x] =>
      match name with
      | "SKP" => some (.skipIfKey (.ofNat x))
      | "SKNP" => some (.skipUnlessKey (.ofNat x))
      | _ => none
  | [.register x, .literal value] =>
      match name with
      | "SE" => some (.skipIfByte (.ofNat x) (.ofNat value))
      | "SNE" => some (.skipUnlessByte (.ofNat x) (.ofNat value))
      | "LD" => some (.loadByte (.ofNat x) (.ofNat value))
      | "ADD" => some (.addByte (.ofNat x) (.ofNat value))
      | "RND" => some (.random (.ofNat x) (.ofNat value))
      | "JP" => if x = 0 then some (.jumpOffset (.ofNat value)) else none
      | _ => none
  | [.register x, .register y] =>
      match name with
      | "SE" => some (.skipIfSame (.ofNat x) (.ofNat y))
      | "SNE" => some (.skipUnlessSame (.ofNat x) (.ofNat y))
      | "LD" => some (.move (.ofNat x) (.ofNat y))
      | "OR" => some (.or (.ofNat x) (.ofNat y))
      | "AND" => some (.and (.ofNat x) (.ofNat y))
      | "XOR" => some (.xor (.ofNat x) (.ofNat y))
      | "ADD" => some (.add (.ofNat x) (.ofNat y))
      | "SUB" => some (.sub (.ofNat x) (.ofNat y))
      | "SHR" => some (.shiftRight (.ofNat x) (.ofNat y))
      | "SUBN" => some (.subFrom (.ofNat x) (.ofNat y))
      | "SHL" => some (.shiftLeft (.ofNat x) (.ofNat y))
      | _ => none
  | [.register x, .plain source] =>
      match name, source with
      | "LD", "DT" => some (.readDelay (.ofNat x))
      | "LD", "K" => some (.waitKey (.ofNat x))
      | "LD", "[I]" => some (.loadRegisters (.ofNat x))
      | _, _ => none
  | [.plain target, .literal value] =>
      match name, target with
      | "LD", "I" => some (.loadIndex (.ofNat value))
      | _, _ => none
  | [.plain target, .register x] =>
      match name, target with
      | "LD", "DT" => some (.setDelay (.ofNat x))
      | "LD", "ST" => some (.setSound (.ofNat x))
      | "LD", "F" => some (.loadGlyph (.ofNat x))
      | "LD", "B" => some (.storeDecimal (.ofNat x))
      | "LD", "[I]" => some (.storeRegisters (.ofNat x))
      | "ADD", "I" => some (.addIndex (.ofNat x))
      | _, _ => none
  | [.register x, .register y, .plain rows] =>
      match name with
      | "DRW" => some (.draw (.ofNat x) (.ofNat y) (.ofNat (Nat.ofDigitChars 10 rows.toList 0)))
      | _ => none
  | _ => none

theorem assemble?_spelling (instruction : Instruction) :
    assemble? instruction.mnemonic (instruction.operands.map Operand.spelling) =
      some instruction := by
  cases instruction <;> simp [assemble?, mnemonic, operands, Operand.spelling]

theorem isWord_mnemonic (instruction : Instruction) : IsWord instruction.mnemonic.toList := by
  cases instruction
  all_goals
    rw [mnemonic]
    decide

/-- The words of which the text of an instruction is made. -/
def words (instruction : Instruction) : List String :=
  instruction.mnemonic :: instruction.operands.map Operand.text

theorem isWord_of_mem_words {instruction : Instruction} :
    forall word, word ∈ instruction.words.map String.toList -> IsWord word := by
  intro word member
  obtain ⟨text, listed, rfl⟩ := List.mem_map.mp member
  rcases List.mem_cons.mp listed with rfl | behind
  · exact instruction.isWord_mnemonic
  · obtain ⟨operand, -, rfl⟩ := List.mem_map.mp behind
    exact operand.isWord_text

theorem filter_text (instruction : Instruction) :
    instruction.text.toList.filter (· ≠ ',') =
      [' '].intercalate (instruction.words.map String.toList) := by
  have name := instruction.isWord_mnemonic.filter_comma
  unfold text words
  split
  case h_1 none =>
    rw [none, List.map_nil, List.map_singleton, List.intercalate_singleton, name]
  case h_2 some =>
    have comma : ", ".toList = [',', ' '] := by decide
    have blank : " ".toList.filter (· ≠ ',') = [' '] := by decide
    have operands : (instruction.operands.map Operand.text).map String.toList ≠ [] := by
      simpa using some
    have clear : forall word, word ∈ (instruction.operands.map Operand.text).map String.toList ->
        IsWord word :=
      fun word member => isWord_of_mem_words word (List.mem_cons_of_mem _ member)
    rw [String.toList_append, String.toList_append, String.toList_intercalate, comma,
      List.filter_append, List.filter_append, name, blank, IsWord.filter_intercalate clear,
      List.map_cons, List.intercalate_cons_of_ne_nil operands]

theorem newline_not_mem_text (instruction : Instruction) : '\n' ∉ instruction.text.toList := by
  intro member
  have kept : '\n' ∈ instruction.text.toList.filter (· ≠ ',') :=
    List.mem_filter.mpr ⟨member, by decide⟩
  rw [filter_text] at kept
  exact IsWord.newline_not_mem isWord_of_mem_words kept

/-- Cut a text at its blanks, without its commas. -/
def parts (text : List Char) : List (List Char) :=
  (text.filter (· ≠ ',')).splitOn ' '

theorem parts_text (instruction : Instruction) :
    parts instruction.text.toList = instruction.words.map String.toList := by
  have blankless : forall word, word ∈ instruction.words.map String.toList -> ' ' ∉ word :=
    fun word member => (isWord_of_mem_words word member).blank_not_mem
  rw [parts, filter_text, List.splitOn_intercalate ' ' blankless (List.cons_ne_nil _ _)]

/-- Two words on the two sides of a blank are two parts. -/
theorem parts_pair {name operand : List Char} (word : IsWord name) (also : IsWord operand) :
    parts (name ++ ' ' :: operand) = [name, operand] := by
  have kept : (name ++ ' ' :: operand).filter (· ≠ ',') = name ++ ' ' :: operand := by
    rw [List.filter_append, List.filter_cons_of_pos (by decide), word.filter_comma,
      also.filter_comma]
  rw [parts, kept, List.splitOn_append_cons_self_of_not_mem word.blank_not_mem,
    List.splitOn_eq_singleton also.blank_not_mem]

/-- Read the text of an instruction. -/
def read? (text : List Char) : Option Instruction :=
  match parts text with
  | [] => none
  | name :: operands => assemble? (String.ofList name) (operands.map Spelling.ofText)

theorem read?_text (instruction : Instruction) :
    read? instruction.text.toList = some instruction := by
  have spelled : ((instruction.operands.map Operand.text).map String.toList).map Spelling.ofText =
      instruction.operands.map Operand.spelling := by
    rw [List.map_map, List.map_map]
    exact List.map_congr_left fun operand _ => operand.ofText_text
  rw [read?, parts_text, words, List.map_cons]
  dsimp only
  rw [String.ofList_toList, spelled, assemble?_spelling]

/-- The operands tell the jumps apart. -/
example : read? "JP V0, 0x2A8".toList = some (.jumpOffset 0x2A8) ∧
    read? "JP 0x2A8".toList = some (.jump 0x2A8) ∧ read? "JP V1, 0x2A8".toList = none := by
  decide +kernel

/-- No two instructions have the same text. -/
theorem text_injective : Function.Injective text := by
  intro instruction other same
  have read := congrArg (fun text : String => read? text.toList) same
  rw [read?_text, read?_text] at read
  exact Option.some.inj read

end Instruction
end ChipEight
