import ChipEight.Proofs.Assembly
import ChipEight.Proofs.CompleteListing
import ChipEight.Proofs.Forms

namespace ChipEight

/-!
What the mnemonic column of a listing tells of a program.

The column stands behind the address and the digits of a line.  It alone tells how long the program
is and which instruction each of its words encodes, because no two instructions have the same text
and the last byte of an odd program is called by a name that no instruction has.

The words themselves are told as far as decoding keeps them.  The last digit of `5XY_` and of `9XY_`
is free and is lost, and no other digit of any word is.
-/

namespace Word

variable {word other : UInt16}

theorem shiftRight_eq (word : UInt16) : (word >>> 4).toNat = word.toNat / 16 := by
  rw [UInt16.toNat_shiftRight, Nat.shiftRight_eq_div_pow]
  rfl

/-- Words that begin with the same three digits differ in the last one only. -/
theorem shiftRight_eq_of_digits (families : family word = family other) (first : x word = x other)
    (second : y word = y other) : word >>> 4 = other >>> 4 := by
  rw [← UInt8.toNat_inj, toNat_family, toNat_family] at families
  rw [← UInt8.toNat_inj, toNat_x, toNat_x] at first
  rw [← UInt8.toNat_inj, toNat_y, toNat_y] at second
  rw [← UInt16.toNat_inj, shiftRight_eq, shiftRight_eq]
  omega

theorem eq_of_digits (families : family word = family other) (first : x word = x other)
    (second : y word = y other) (last : n word = n other) : word = other := by
  have high := congrArg UInt16.toNat (shiftRight_eq_of_digits families first second)
  rw [shiftRight_eq, shiftRight_eq] at high
  rw [← UInt8.toNat_inj, toNat_n, toNat_n] at last
  rw [← UInt16.toNat_inj]
  omega

theorem eq_of_low_byte (families : family word = family other) (first : x word = x other)
    (low : nn word = nn other) : word = other := by
  rw [← UInt8.toNat_inj, toNat_nn, toNat_nn] at low
  apply eq_of_digits families first
  · rw [← UInt8.toNat_inj, toNat_y, toNat_y]
    omega
  · rw [← UInt8.toNat_inj, toNat_n, toNat_n]
    omega

end Word

/-- Words that fit one form begin with the same digit. -/
theorem Form.Fits.family_eq {form : Form} {word other : UInt16} (fits : form.Fits word)
    (alsoFits : form.Fits other) : Word.family word = Word.family other := by
  cases form with
  | whole => exact congrArg Word.family (fits.trans alsoFits.symm)
  | first => exact fits.trans alsoFits.symm
  | ends | low => exact fits.1.trans alsoFits.1.symm

namespace Instruction

/-- Only words that begin with a zero call a routine of the host. -/
theorem family_of_hostRoutine {word nnn : UInt16} (decoded : decode word = .hostRoutine nnn) :
    Word.family word = 0x0 := by
  simp only [decode] at decoded
  split at decoded
  case h_1 family => exact family
  case h_9 =>
    simp only [arithmetic?] at decoded
    split at decoded <;> cases decoded
  case h_15 =>
    simp only [keyboard?] at decoded
    split at decoded <;> cases decoded
  case h_16 =>
    simp only [transfer?] at decoded
    split at decoded <;> cases decoded
  all_goals cases decoded

/-- Words of one instruction begin with the same digit. -/
theorem family_of_decode_eq {word other : UInt16} (same : decode word = decode other) :
    Word.family word = Word.family other := by
  have told := decode_toldBy word
  have alsoTold := decode_toldBy other
  rw [← same] at alsoTold
  cases shown : decode word with
  | hostRoutine nnn =>
      rw [shown] at same
      exact (family_of_hostRoutine shown).trans (family_of_hostRoutine same.symm).symm
  | undefined =>
      rw [shown] at told alsoTold
      exact congrArg Word.family (told.operands.symm.trans alsoTold.operands)
  | _ =>
      rw [shown] at told alsoTold
      exact (told.fits _ rfl).family_eq (alsoTold.fits _ rfl)

/-- Words of one instruction are equal, but for the digit that `5XY_` and `9XY_` leave free. -/
theorem words_of_decode_eq {word other : UInt16} (same : decode word = decode other) :
    word = other ∨
      ((Word.family word = 0x5 ∨ Word.family word = 0x9) ∧ word >>> 4 = other >>> 4) := by
  have families := family_of_decode_eq same
  have told := decode_toldBy word
  have alsoTold := decode_toldBy other
  rw [← same] at alsoTold
  generalize decode word = instruction at told alsoTold
  have operands := told.operands
  have alsoOperands := alsoTold.operands
  cases instruction with
  | undefined => exact Or.inl (operands.symm.trans alsoOperands)
  | clearScreen | leave => exact Or.inl ((told.fits _ rfl).trans (alsoTold.fits _ rfl).symm)
  | hostRoutine nnn | jump nnn | call nnn | loadIndex nnn | jumpOffset nnn =>
      exact Or.inl (Word.ext_iff.mpr ⟨families, operands.symm.trans alsoOperands⟩)
  | skipIfByte x nn | skipUnlessByte x nn | loadByte x nn | addByte x nn | random x nn =>
      exact Or.inl (Word.eq_of_low_byte families (operands.1.symm.trans alsoOperands.1)
        (operands.2.symm.trans alsoOperands.2))
  | draw x y n =>
      exact Or.inl (Word.eq_of_digits families (operands.1.symm.trans alsoOperands.1)
        (operands.2.1.symm.trans alsoOperands.2.1) (operands.2.2.symm.trans alsoOperands.2.2))
  | skipIfSame x y | skipUnlessSame x y =>
      have family : Word.family word = _ := told.fits _ rfl
      refine Or.inr ⟨by rw [family]; decide, ?_⟩
      exact Word.shiftRight_eq_of_digits families (operands.1.symm.trans alsoOperands.1)
        (operands.2.symm.trans alsoOperands.2)
  | move x y | or x y | and x y | xor x y | add x y | sub x y | shiftRight x y | subFrom x y
  | shiftLeft x y =>
      have last : Word.n word = _ := (told.fits _ rfl).2
      have alsoLast : Word.n other = _ := (alsoTold.fits _ rfl).2
      exact Or.inl (Word.eq_of_digits families (operands.1.symm.trans alsoOperands.1)
        (operands.2.symm.trans alsoOperands.2) (last.trans alsoLast.symm))
  | _ =>
      have low : Word.nn word = _ := (told.fits _ rfl).2
      have alsoLow : Word.nn other = _ := (alsoTold.fits _ rfl).2
      exact Or.inl (Word.eq_of_low_byte families (operands.symm.trans alsoOperands)
        (low.trans alsoLow.symm))

end Instruction

/-- What stands behind the address and the digits of a line. -/
def mnemonicColumn (line : List Char) : List Char :=
  (line.dropWhile (· ≠ ':')).drop 8

/-- The mnemonic columns of the lines of a text. -/
def mnemonicColumns (text : String) : List (List Char) :=
  (text.toList.splitOn '\n').map mnemonicColumn

/-- The column begins seven places behind the colon. -/
theorem mnemonicColumn_padded {between : List Char} (seven : between.length = 7)
    (width value : Nat) (rest : List Char) :
    mnemonicColumn ((Hex.padded width value).toList ++ ':' :: (between ++ rest)) = rest := by
  have digits : forall c, c ∈ (Hex.padded width value).toList -> decide (c ≠ ':') = true := by
    intro c member
    apply decide_eq_true
    rintro rfl
    cases Hex.isDigit_of_mem member
  rw [mnemonicColumn, List.dropWhile_append_of_pos digits,
    List.dropWhile_cons_of_neg (by simp), List.drop_succ_cons, ← seven, List.drop_left]

namespace Line

/-- What a line shows in the mnemonic column. -/
def shown : Line -> String
  | code _ word => (Instruction.decode word).text
  | data _ byte => "DB 0x" ++ Hex.byte byte

/-- The digits of a line, behind a blank and with blanks behind them, take seven places. -/
def between (line : Line) : List Char :=
  ' ' :: (line.digits.toList ++ List.replicate (6 - line.digits.toList.length) ' ')

theorem length_between (line : Line) : line.between.length = 7 := by
  have digits : line.digits.toList.length ≤ 4 := by
    rw [length_digits]
    cases line with
    | code => exact Nat.le_refl 4
    | data => exact Nat.le_add_right 2 2
  rw [between, List.length_cons, List.length_append, List.length_replicate]
  omega

theorem toList_text (line : Line) :
    line.text.toList =
      (Hex.padded 4 line.address).toList ++ ':' :: (line.between ++ line.shown.toList) := by
  have colon : ": ".toList = [':', ' '] := by decide
  cases line with
  | code address word =>
      have four : (Hex.word word).toList.length = 4 := length_digits (code address word)
      have blanks : "  ".toList = List.replicate (6 - 4) ' ' := by decide
      simp only [text, between, four, shown, Line.address, digits, String.toList_append, colon,
        blanks, List.append_assoc, List.cons_append, List.nil_append]
  | data address byte =>
      have two : (Hex.byte byte).toList.length = 2 := length_digits (data address byte)
      have name : "    DB 0x".toList = List.replicate (6 - 2) ' ' ++ "DB 0x".toList := by decide
      simp only [text, between, two, shown, Line.address, digits, String.toList_append, colon, name,
        List.append_assoc, List.cons_append, List.nil_append]

theorem mnemonicColumn_text (line : Line) :
    mnemonicColumn line.text.toList = line.shown.toList := by
  rw [toList_text, mnemonicColumn_padded line.length_between]

theorem newline_not_mem_shown (line : Line) : '\n' ∉ line.shown.toList := by
  cases line with
  | code address word => exact (Instruction.decode word).newline_not_mem_text
  | data address byte =>
      have word : IsWord (Hex.byte byte).toList := .hexadecimal 2 byte.toNat
      have name : '\n' ∉ "DB 0x".toList := by decide
      rw [shown, String.toList_append, List.mem_append, not_or]
      exact ⟨name, fun member => word '\n' member (by decide)⟩

theorem newline_not_mem_text (line : Line) : '\n' ∉ line.text.toList := by
  have address : '\n' ∉ (Hex.padded 4 line.address).toList :=
    fun member => IsWord.hexadecimal 4 line.address '\n' member (by decide)
  have digits : '\n' ∉ line.digits.toList := by
    cases line with
    | code _ word => exact fun member => IsWord.hexadecimal 4 word.toNat '\n' member (by decide)
    | data _ byte => exact fun member => IsWord.hexadecimal 2 byte.toNat '\n' member (by decide)
  rw [toList_text, between]
  simp [address, digits, line.newline_not_mem_shown]

/-- What stands in place of the instruction of a last byte is the text of no instruction. -/
theorem read?_shown_data (address : Nat) (byte : UInt8) :
    Instruction.read? (data address byte).shown.toList = none := by
  have front : "DB 0x".toList = "DB".toList ++ ' ' :: "0x".toList := by decide
  have name : IsWord "DB".toList := by decide
  have value : IsWord ("0x".toList ++ (Hex.byte byte).toList) :=
    IsWord.append (by decide) (.hexadecimal 2 byte.toNat)
  rw [shown, String.toList_append, front, List.append_assoc, List.cons_append, Instruction.read?,
    Instruction.parts_pair name value]
  rfl

/-- A word is never shown as a last byte is. -/
theorem shown_code_ne_data (address more : Nat) (word : UInt16) (byte : UInt8) :
    (code address word).shown ≠ (data more byte).shown := by
  intro same
  have read := Instruction.read?_text (Instruction.decode word)
  change Instruction.read? (code address word).shown.toList = _ at read
  rw [same, read?_shown_data] at read
  cases read

theorem byte_of_shown {address more : Nat} {byte other : UInt8}
    (same : (data address byte).shown = (data more other).shown) : byte = other := by
  have texts := congrArg String.toList same
  rw [shown, shown, String.toList_append, String.toList_append] at texts
  exact UInt8.toNat_inj.mp (Hex.eq_of_toList_padded (List.append_cancel_left texts))

end Line

/-- The columns are what the lines show, and an empty one behind the last line end. -/
theorem mnemonicColumns_listing (program : List UInt8) :
    mnemonicColumns (listing program) =
      ((Listing.ofProgram program).lines.map Line.shown).map String.toList ++ [[]] := by
  let texts := (Listing.ofProgram program).lines.map fun line => line.text.toList
  have text : (listing program).toList = texts.flatMap fun line => line ++ ['\n'] := by
    have lineEnd : "\n".toList = ['\n'] := by decide
    rw [listing, Listing.text_eq_join, String.toList_join]
    simp only [texts, List.flatMap_map, Line.written, String.toList_append, lineEnd]
  have whole : forall line, line ∈ texts -> '\n' ∉ line := by
    intro line member
    obtain ⟨line, -, rfl⟩ := List.mem_map.mp member
    exact line.newline_not_mem_text
  rw [mnemonicColumns, text, splitOn_lines whole, List.map_append, List.map_map, List.map_map]
  congr 1
  exact List.map_congr_left fun line _ => line.mnemonicColumn_text

namespace Listing

section

variable {program other : List UInt8}

/-- Programs with the same columns show the same in each of their lines. -/
theorem shown_of_columns
    (same : mnemonicColumns (listing program) = mnemonicColumns (listing other)) (line : Nat) :
    (linesFrom loadAddress program)[line]?.map Line.shown =
      (linesFrom loadAddress other)[line]?.map Line.shown := by
  rw [mnemonicColumns_listing, mnemonicColumns_listing, List.append_cancel_right_eq] at same
  have shown := (List.map_inj_right fun _ _ => String.toList_inj.mp).mp same
  rw [← List.getElem?_map, ← List.getElem?_map]
  exact congrArg (fun lines : List String => lines[line]?) shown

/-- A program is not longer than another one with the same columns: where the other one ends with a
single byte, it has no word. -/
theorem length_le_of_columns
    (same : mnemonicColumns (listing program) = mnemonicColumns (listing other)) :
    program.length ≤ other.length := by
  by_contra longer
  have counts : (program.length + 1) / 2 = (other.length + 1) / 2 := by
    have lengths := congrArg List.length same
    rw [mnemonicColumns_listing, mnemonicColumns_listing] at lengths
    simpa [Listing.lines, Listing.ofProgram, length_linesFrom] using lengths
  obtain ⟨line, odd⟩ : Exists fun line => other.length = 2 * line + 1 :=
    ⟨other.length / 2, by omega⟩
  have shown := shown_of_columns same line
  rw [linesFrom_word loadAddress program line (by omega),
    linesFrom_byte loadAddress other line odd, Option.map_some, Option.map_some] at shown
  exact Line.shown_code_ne_data _ _ _ _ (Option.some.inj shown)

end

/-- No two instructions have the same text.  The mnemonic column of a listing therefore tells how
long the program is, which instruction each of its words encodes and what its last byte is if it has
an odd one.  It tells the words as well, but for the last digit of those that begin with 5 or 9. -/
theorem mnemonics_tell_instructions :
    Function.Injective Instruction.text ∧
    forall program other : List UInt8,
      mnemonicColumns (listing program) = mnemonicColumns (listing other) ->
        program.length = other.length ∧
        (forall line (inside : 2 * line + 1 < program.length)
            (alsoInside : 2 * line + 1 < other.length),
          let word := Word.ofBytes program[2 * line] program[2 * line + 1]
          let next := Word.ofBytes other[2 * line] other[2 * line + 1]
          Instruction.decode word = Instruction.decode next ∧
            (word ≠ next ->
              (Word.family word = 0x5 ∨ Word.family word = 0x9) ∧ word >>> 4 = next >>> 4)) ∧
        (forall line (last : program.length = 2 * line + 1)
            (alsoLast : other.length = 2 * line + 1), program[2 * line] = other[2 * line]) := by
  refine ⟨Instruction.text_injective, fun program other same => ?_⟩
  refine ⟨Nat.le_antisymm (length_le_of_columns same) (length_le_of_columns same.symm), ?_, ?_⟩
  · intro line inside alsoInside word next
    have shown := shown_of_columns same line
    rw [linesFrom_word loadAddress program line inside,
      linesFrom_word loadAddress other line alsoInside, Option.map_some, Option.map_some] at shown
    have decoded : Instruction.decode word = Instruction.decode next :=
      Instruction.text_injective (Option.some.inj shown)
    exact ⟨decoded, (Instruction.words_of_decode_eq decoded).resolve_left⟩
  · intro line last alsoLast
    have shown := shown_of_columns same line
    rw [linesFrom_byte loadAddress program line last,
      linesFrom_byte loadAddress other line alsoLast, Option.map_some, Option.map_some] at shown
    exact Line.byte_of_shown (Option.some.inj shown)

/-- The last digits of `5120` and `512F` are lost, and nothing else of these programs. -/
theorem mnemonics_tell_skip :
    let program : List UInt8 := [0x51, 0x20, 0x12]
    let other : List UInt8 := [0x51, 0x2F, 0x12]
    mnemonicColumns (listing program) = mnemonicColumns (listing other) ∧
      program.length = other.length ∧
      Instruction.decode (Word.ofBytes 0x51 0x20) = Instruction.decode (Word.ofBytes 0x51 0x2F) ∧
      Word.ofBytes 0x51 0x20 >>> 4 = Word.ofBytes 0x51 0x2F >>> 4 := by
  intro program other
  have same : mnemonicColumns (listing program) = mnemonicColumns (listing other) := by
    decide +kernel
  obtain ⟨lengths, words, -⟩ := mnemonics_tell_instructions.2 program other same
  obtain ⟨decoded, apart⟩ := words 0 (by decide) (by decide)
  exact ⟨same, lengths, decoded, (apart (by decide)).2⟩

end Listing
end ChipEight
