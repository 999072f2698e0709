import ChipEight.Proofs.Encoding

namespace ChipEight

/-!
The table of instructions.

A word is told to be a certain instruction by some of its digits, and the others are operands.
Which digits those are, and what they have to be, is the *form* of the instruction: `8XY4`, for
example, is told by its first and its last digit.  Words that begin with a zero and fit no form are
routines of the host, and all others that fit none are undefined.

Decoding is to look a word up in this table.  It finds the instruction of the form that the word
fits, no word fits two forms, and the operands are the digits that the form leaves open.
-/

namespace Word

/-- The last digit is what the fifteen others leave over. -/
theorem family_eq_last {word : UInt16} (others : (family word).toNat ∉ List.range 15) :
    family word = 0xF := by
  have nibble := family_lt word
  rw [List.mem_range] at others
  apply UInt8.toNat_inj.mp
  change (family word).toNat = 15
  omega

theorem toNat_eq (word : UInt16) : word.toNat = 4096 * (family word).toNat + (nnn word).toNat := by
  rw [toNat_family, toNat_nnn]
  omega

/-- The first digit and the other three make up a word. -/
theorem ext_iff {word other : UInt16} :
    word = other ↔ family word = family other ∧ nnn word = nnn other := by
  constructor
  · intro same
    rw [same]
    exact ⟨rfl, rfl⟩
  · intro same
    apply UInt16.toNat_inj.mp
    rw [toNat_eq word, toNat_eq other, same.1, same.2]

end Word

/-- The digits by which a word is told to be a certain instruction. -/
inductive Form where
  /-- All four digits, as in `00EE`. -/
  | whole (word : UInt16)
  /-- The first digit, as in `6XNN`. -/
  | first (digit : UInt8)
  /-- The first and the last digit, as in `8XY4`. -/
  | ends (digit last : UInt8)
  /-- The first digit and the low byte, as in `FX33`. -/
  | low (digit byte : UInt8)
deriving DecidableEq, Repr

namespace Form

def Fits (form : Form) (word : UInt16) : Prop :=
  match form with
  | whole other => word = other
  | first digit => Word.family word = digit
  | ends digit last => Word.family word = digit ∧ Word.n word = last
  | low digit byte => Word.family word = digit ∧ Word.nn word = byte

/-- A word fits one of several forms. -/
def FitsAny (forms : List Form) (word : UInt16) : Prop :=
  Exists fun form => form ∈ forms ∧ form.Fits word

/-- The forms of all instructions. -/
def table : List Form :=
  [whole 0x00E0, whole 0x00EE] ++
    [0x1, 0x2, 0x3, 0x4, 0x5, 0x6, 0x7, 0x9, 0xA, 0xB, 0xC, 0xD].map first ++
    [0x0, 0x1, 0x2, 0x3, 0x4, 0x5, 0x6, 0x7, 0xE].map (ends 0x8) ++
    [0x9E, 0xA1].map (low 0xE) ++
    [0x07, 0x0A, 0x15, 0x18, 0x1E, 0x29, 0x33, 0x55, 0x65].map (low 0xF)

/-- `6XNN`, `7XNN`, `8XY0` to `8XY3`, `CXNN` and `FX07`, which have a result and no flag. -/
def unflagged : List Form :=
  [first 0x6, first 0x7, ends 0x8 0x0, ends 0x8 0x1, ends 0x8 0x2, ends 0x8 0x3, first 0xC,
    low 0xF 0x07]

/-- `8XY4` to `8XY7` and `8XYE`, which have a result and a flag. -/
def flagged : List Form :=
  [ends 0x8 0x4, ends 0x8 0x5, ends 0x8 0x6, ends 0x8 0x7, ends 0x8 0xE]

end Form

namespace Instruction

/-- The form by which an instruction is told, if it has one of its own. -/
def form? : Instruction -> Option Form
  | hostRoutine _ | undefined _ => none
  | clearScreen => some (.whole 0x00E0)
  | leave => some (.whole 0x00EE)
  | jump _ => some (.first 0x1)
  | call _ => some (.first 0x2)
  | skipIfByte .. => some (.first 0x3)
  | skipUnlessByte .. => some (.first 0x4)
  | skipIfSame .. => some (.first 0x5)
  | loadByte .. => some (.first 0x6)
  | addByte .. => some (.first 0x7)
  | move .. => some (.ends 0x8 0x0)
  | or .. => some (.ends 0x8 0x1)
  | and .. => some (.ends 0x8 0x2)
  | xor .. => some (.ends 0x8 0x3)
  | add .. => some (.ends 0x8 0x4)
  | sub .. => some (.ends 0x8 0x5)
  | shiftRight .. => some (.ends 0x8 0x6)
  | subFrom .. => some (.ends 0x8 0x7)
  | shiftLeft .. => some (.ends 0x8 0xE)
  | skipUnlessSame .. => some (.first 0x9)
  | loadIndex _ => some (.first 0xA)
  | jumpOffset _ => some (.first 0xB)
  | random .. => some (.first 0xC)
  | draw .. => some (.first 0xD)
  | skipIfKey _ => some (.low 0xE 0x9E)
  | skipUnlessKey _ => some (.low 0xE 0xA1)
  | readDelay _ => some (.low 0xF 0x07)
  | waitKey _ => some (.low 0xF 0x0A)
  | setDelay _ => some (.low 0xF 0x15)
  | setSound _ => some (.low 0xF 0x18)
  | addIndex _ => some (.low 0xF 0x1E)
  | loadGlyph _ => some (.low 0xF 0x29)
  | storeDecimal _ => some (.low 0xF 0x33)
  | storeRegisters _ => some (.low 0xF 0x55)
  | loadRegisters _ => some (.low 0xF 0x65)

/-- The operands of an instruction stand in a word at their places. -/
def OperandsIn (word : UInt16) : Instruction -> Prop
  | clearScreen | leave => True
  | hostRoutine nnn | jump nnn | call nnn | loadIndex nnn | jumpOffset nnn => nnn = Word.nnn word
  | skipIfByte x nn | skipUnlessByte x nn | loadByte x nn | addByte x nn | random x nn =>
      x = Word.x word ∧ nn = Word.nn word
  | skipIfSame x y | skipUnlessSame x y | move x y | or x y | and x y | xor x y | add x y | sub x y
  | shiftRight x y | subFrom x y | shiftLeft x y => x = Word.x word ∧ y = Word.y word
  | draw x y n => x = Word.x word ∧ y = Word.y word ∧ n = Word.n word
  | skipIfKey x | skipUnlessKey x | readDelay x | waitKey x | setDelay x | setSound x | addIndex x
  | loadGlyph x | storeDecimal x | storeRegisters x | loadRegisters x => x = Word.x word
  | undefined other => other = word

/-- A word tells of an instruction: it fits the form, if there is one, and holds the operands. -/
structure ToldBy (word : UInt16) (instruction : Instruction) : Prop where
  fits : forall form, instruction.form? = some form -> form.Fits word
  operands : instruction.OperandsIn word

namespace ToldBy

variable {word : UInt16}

theorem of_form {instruction : Instruction} {form : Form} (told : instruction.form? = some form)
    (fits : form.Fits word) (operands : instruction.OperandsIn word) :
    instruction.ToldBy word := by
  constructor
  · intro other alsoTold
    rw [told] at alsoTold
    cases alsoTold
    exact fits
  · exact operands

theorem of_none {instruction : Instruction} (untold : instruction.form? = none)
    (operands : instruction.OperandsIn word) : instruction.ToldBy word := by
  constructor
  · intro form told
    rw [untold] at told
    cases told
  · exact operands

theorem system (family : Word.family word = 0x0) :
    (Instruction.system (Word.nnn word)).ToldBy word := by
  unfold Instruction.system
  split
  case h_1 rest => exact of_form rfl (Word.ext_iff.mpr ⟨family, rest⟩) trivial
  case h_2 rest => exact of_form rfl (Word.ext_iff.mpr ⟨family, rest⟩) trivial
  case h_3 => exact of_none rfl rfl

theorem arithmetic (family : Word.family word = 0x8) :
    ((arithmetic? (Word.x word) (Word.y word) (Word.n word)).getD (undefined word)).ToldBy
      word := by
  unfold arithmetic?
  split
  case h_10 => exact of_none rfl rfl
  all_goals exact of_form rfl ⟨family, by assumption⟩ ⟨rfl, rfl⟩

theorem keyboard (family : Word.family word = 0xE) :
    ((keyboard? (Word.x word) (Word.nn word)).getD (undefined word)).ToldBy word := by
  unfold keyboard?
  split
  case h_3 => exact of_none rfl rfl
  all_goals exact of_form rfl ⟨family, by assumption⟩ rfl

theorem transfer (family : Word.family word = 0xF) :
    ((transfer? (Word.x word) (Word.nn word)).getD (undefined word)).ToldBy word := by
  unfold transfer?
  split
  case h_10 => exact of_none rfl rfl
  all_goals exact of_form rfl ⟨family, by assumption⟩ rfl

end ToldBy

/-- A word tells of what it decodes to. -/
theorem decode_toldBy (word : UInt16) : (decode word).ToldBy word := by
  simp only [decode]
  split
  case h_1 family => exact .system family
  case h_9 family => exact .arithmetic family
  case h_15 family => exact .keyboard family
  case h_16 =>
    apply ToldBy.transfer
    apply Word.family_eq_last
    simp only [← UInt8.toNat_inj, UInt8.reduceToNat, imp_false, List.mem_range] at *
    omega
  case h_14 family => exact .of_form rfl family ⟨rfl, rfl, rfl⟩
  case h_2 family => exact .of_form rfl family rfl
  case h_3 family => exact .of_form rfl family rfl
  case h_11 family => exact .of_form rfl family rfl
  case h_12 family => exact .of_form rfl family rfl
  all_goals exact .of_form rfl (by assumption) ⟨rfl, rfl⟩

/-- A word that fits a form of the table decodes to an instruction of that form. -/
theorem form?_decode_of_fits {word : UInt16} {form : Form} (listed : form ∈ Form.table)
    (fits : form.Fits word) : (decode word).form? = some form := by
  simp only [Form.table, List.map_cons, List.map_nil, List.cons_append, List.nil_append,
    List.mem_cons, List.not_mem_nil, or_false] at listed
  cases form with
  | whole other =>
      simp only [Form.whole.injEq, reduceCtorEq, or_false] at listed
      unfold Form.Fits at fits
      subst fits
      rcases listed with rfl | rfl
      all_goals rfl
  | first digit =>
      simp only [Form.first.injEq, reduceCtorEq, false_or, or_false] at listed
      unfold Form.Fits at fits
      rcases listed with
        rfl | rfl | rfl | rfl | rfl | rfl | rfl | rfl | rfl | rfl | rfl | rfl
      all_goals
        simp only [decode, fits]
        rfl
  | ends digit last =>
      simp only [Form.ends.injEq, reduceCtorEq, false_or, or_false] at listed
      unfold Form.Fits at fits
      rcases listed with
        ⟨rfl, rfl⟩ | ⟨rfl, rfl⟩ | ⟨rfl, rfl⟩ | ⟨rfl, rfl⟩ | ⟨rfl, rfl⟩ | ⟨rfl, rfl⟩ | ⟨rfl, rfl⟩ |
          ⟨rfl, rfl⟩ | ⟨rfl, rfl⟩
      all_goals
        simp only [decode, fits]
        rfl
  | low digit byte =>
      simp only [Form.low.injEq, reduceCtorEq, false_or] at listed
      unfold Form.Fits at fits
      rcases listed with
        ⟨rfl, rfl⟩ | ⟨rfl, rfl⟩ | ⟨rfl, rfl⟩ | ⟨rfl, rfl⟩ | ⟨rfl, rfl⟩ | ⟨rfl, rfl⟩ | ⟨rfl, rfl⟩ |
          ⟨rfl, rfl⟩ | ⟨rfl, rfl⟩ | ⟨rfl, rfl⟩ | ⟨rfl, rfl⟩
      all_goals
        simp only [decode, fits]
        rfl

/-- Every form of an instruction stands in the table. -/
theorem form?_mem_table {instruction : Instruction} {form : Form}
    (told : instruction.form? = some form) : form ∈ Form.table := by
  cases instruction with
  | hostRoutine | undefined => cases told
  | _ =>
      cases told
      decide

/-- A word encodes an instruction: of the forms in the table it fits the one of the instruction and
no other, and it holds the operands. -/
structure EncodedBy (word : UInt16) (instruction : Instruction) : Prop where
  fits_iff : forall {form}, form ∈ Form.table -> (form.Fits word ↔ instruction.form? = some form)
  operands : instruction.OperandsIn word

/-- Decoding looks a word up in the table. -/
theorem decode_encodedBy (word : UInt16) : (decode word).EncodedBy word where
  fits_iff listed := ⟨form?_decode_of_fits listed, (decode_toldBy word).fits _⟩
  operands := (decode_toldBy word).operands

namespace EncodedBy

variable {word : UInt16} {instruction : Instruction} (encoded : instruction.EncodedBy word)

include encoded

theorem fits {form : Form} (told : instruction.form? = some form) : form.Fits word :=
  (encoded.fits_iff (form?_mem_table told)).mpr told

theorem fitsAny {form : Form} {forms : List Form} (told : instruction.form? = some form)
    (member : form ∈ forms) : Form.FitsAny forms word :=
  ⟨form, member, encoded.fits told⟩

theorem fitsAny_iff {forms : List Form} (listed : forms ⊆ Form.table) :
    Form.FitsAny forms word ↔ instruction.form? ∈ forms.map some := by
  unfold Form.FitsAny
  rw [List.mem_map]
  constructor
  · rintro ⟨form, member, fits⟩
    exact ⟨form, member, ((encoded.fits_iff (listed member)).mp fits).symm⟩
  · rintro ⟨form, member, told⟩
    exact ⟨form, member, encoded.fits told.symm⟩

end EncodedBy
end Instruction
end ChipEight
