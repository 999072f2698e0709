import ChipEight.Listing
import ChipEight.Proofs.Digits
import ChipEight.Proofs.Encoding

namespace ChipEight

/-!
Listings are complete and lose nothing.

A listing can be asked for its lines one at a time, and what is left can be written at any moment.
Both read the same lines: asking takes the first of them, and once there is none, asking again
changes nothing.  The lines hold every byte of the program once, in order.

Of the text of a line it is enough to know that its numbers end where no digit follows.  Address and
word, or the last byte, are then read back from it, and with them the whole program.
-/

namespace Word

theorem toNat_ofBytes (high low : UInt8) :
    (ofBytes high low).toNat = 256 * high.toNat + low.toNat := by
  have inside := high.toNat_lt
  have shifted : (high.toUInt16 <<< 8).toNat = high.toNat <<< 8 := by
    rw [UInt16.toNat_shiftLeft, UInt8.toNat_toUInt16]
    change high.toNat <<< 8 % 65536 = _
    rw [Nat.shiftLeft_eq]
    omega
  rw [ofBytes, UInt16.toNat_or, shifted, UInt8.toNat_toUInt16,
    ← Nat.shiftLeft_add_eq_or_of_lt low.toNat_lt, Nat.shiftLeft_eq]
  omega

theorem ofBytes_eq (high low : UInt8) :
    ofBytes high low = UInt16.ofNat (256 * high.toNat + low.toNat) := by
  rw [← toNat_ofBytes, UInt16.ofNat_toNat]

/-- The bytes of a word, in the order they stand in memory. -/
def bytes (word : UInt16) : List UInt8 :=
  [(word >>> 8).toUInt8, word.toUInt8]

theorem bytes_ofBytes (high low : UInt8) : bytes (ofBytes high low) = [high, low] := by
  have inside := high.toNat_lt
  have lowInside := low.toNat_lt
  have value := toNat_ofBytes high low
  have first : (ofBytes high low >>> 8).toUInt8 = high := by
    apply UInt8.toNat_inj.mp
    rw [UInt16.toNat_toUInt8, UInt16.toNat_shiftRight, value, Nat.shiftRight_eq_div_pow]
    change (256 * high.toNat + low.toNat) / 256 % 256 = high.toNat
    omega
  have second : (ofBytes high low).toUInt8 = low := by
    apply UInt8.toNat_inj.mp
    rw [UInt16.toNat_toUInt8, value]
    omega
  rw [bytes, first, second]

end Word

namespace Line

/-- The instruction that a line shows, if it shows a word. -/
def instruction? : Line -> Option Instruction
  | code _ word => some (Instruction.decode word)
  | data .. => none

/-- The bytes of the program that a line shows. -/
def bytes : Line -> List UInt8
  | code _ word => Word.bytes word
  | data _ byte => [byte]

/-- A line as it is written, with its line end. -/
def written (line : Line) : String :=
  line.text ++ "\n"

def address : Line -> Nat
  | code address _ => address
  | data address _ => address

/-- The digits of what a line shows; how many there are tells a word from a byte. -/
def digits : Line -> String
  | code _ word => Hex.word word
  | data _ byte => Hex.byte byte

/-- What is written behind the digits, which is known from them. -/
def comment : Line -> String
  | code _ word => " " ++ (Instruction.decode word).text
  | data _ byte => "   DB 0x" ++ Hex.byte byte

theorem length_digits (line : Line) : line.digits.toList.length = 2 * line.bytes.length := by
  cases line with
  | code address word => exact Hex.length_padded (by decide) word.toNat_lt
  | data address byte => exact Hex.length_padded (by decide) byte.toNat_lt

/-- Lines at one address that show the same digits are equal. -/
theorem eq_of_digits {line other : Line} (place : line.address = other.address)
    (shown : line.digits.toList = other.digits.toList) : line = other := by
  have lengths := congrArg List.length shown
  rw [length_digits, length_digits] at lengths
  cases line with
  | code address word =>
      cases other with
      | code more next =>
          obtain rfl : word = next := UInt16.toNat_inj.mp (Hex.eq_of_toList_padded shown)
          exact congrArg (fun address => code address word) place
      | data more next => cases lengths
  | data address byte =>
      cases other with
      | code more next => cases lengths
      | data more next =>
          obtain rfl : byte = next := UInt8.toNat_inj.mp (Hex.eq_of_toList_padded shown)
          exact congrArg (fun address => data address byte) place

/-- The text of a line, cut where its numbers end. -/
theorem written_append (line : Line) (rest : List Char) :
    line.written.toList ++ rest =
      (Hex.padded 4 line.address).toList ++ ':' :: ' ' :: (line.digits.toList ++
        ' ' :: (line.comment.toList ++ '\n' :: rest)) := by
  have colon : ": ".toList = [':', ' '] := by decide
  have blanks : "  ".toList = ' ' :: " ".toList := by decide
  have directive : "    DB 0x".toList = ' ' :: "   DB 0x".toList := by decide
  have lineEnd : "\n".toList = ['\n'] := by decide
  cases line with
  | code | data =>
      simp only [written, text, address, digits, comment, String.toList_append, List.append_assoc,
        colon, blanks, directive, lineEnd, List.cons_append, List.nil_append]

/-- A line can be read back from the front of a text. -/
theorem written_append_inj {line other : Line} {left right : List Char}
    (same : line.written.toList ++ left = other.written.toList ++ right) :
    line = other ∧ left = right := by
  have digitsEnd : forall (line : Line) {before after : List Char},
      line.digits.toList ++ ' ' :: before = other.digits.toList ++ ' ' :: after ->
        line.digits.toList = other.digits.toList ∧ ' ' :: before = ' ' :: after := by
    intro line before after
    cases line <;> cases other <;>
      exact Hex.padded_append_inj (Hex.ends_cons rfl _) (Hex.ends_cons rfl _)
  rw [written_append, written_append] at same
  obtain ⟨places, behind⟩ :=
    Hex.padded_append_inj (Hex.ends_cons rfl _) (Hex.ends_cons rfl _) same
  rw [List.cons_inj_right, List.cons_inj_right] at behind
  obtain ⟨shown, behind⟩ := digitsEnd line behind
  obtain rfl := eq_of_digits (Hex.eq_of_toList_padded places) shown
  rw [List.cons_inj_right, List.append_cancel_left_eq, List.cons_inj_right] at behind
  exact ⟨rfl, behind⟩

theorem written_ne_nil (line : Line) : line.written.toList ≠ [] := by
  rw [← List.append_nil line.written.toList, written_append]
  simp

/-- The lines of a text can be read back from it. -/
theorem written_injective :
    Function.Injective fun lines : List Line => String.join (lines.map written) := by
  intro lines others same
  have texts : lines.flatMap (fun line => line.written.toList) =
      others.flatMap (fun line => line.written.toList) := by
    have lists := congrArg String.toList same
    simpa only [String.toList_join, List.flatMap_map] using lists
  clear same
  induction lines generalizing others with
  | nil =>
      cases others with
      | nil => rfl
      | cons other others =>
          have empty := (List.append_eq_nil_iff.mp texts.symm).1
          exact absurd empty other.written_ne_nil
  | cons line lines inductionHypothesis =>
      cases others with
      | nil =>
          have empty := (List.append_eq_nil_iff.mp texts).1
          exact absurd empty line.written_ne_nil
      | cons other others =>
          obtain ⟨rfl, rest⟩ := written_append_inj texts
          rw [inductionHypothesis rest]

end Line

namespace Listing

/-- What is left to list after a number of lines have been asked for. -/
def advance (listing : Listing) (calls : Nat) : Listing :=
  (fun listing => listing.next.2)^[calls] listing

/-- To ask for a line is to take the first of those that are left. -/
theorem next_eq (listing : Listing) :
    listing.next.1 = listing.lines.head? ∧ listing.next.2.lines = listing.lines.tail := by
  obtain ⟨address, rest⟩ := listing
  match rest with
  | [] => exact ⟨rfl, rfl⟩
  | [_] => exact ⟨rfl, rfl⟩
  | _ :: _ :: _ => exact ⟨rfl, rfl⟩

theorem lines_advance (listing : Listing) (calls : Nat) :
    (listing.advance calls).lines = listing.lines.drop calls := by
  induction calls with
  | zero => rfl
  | succ calls inductionHypothesis =>
      rw [advance, Function.iterate_succ_apply', (next_eq _).2]
      change (listing.advance calls).lines.tail = _
      rw [inductionHypothesis, List.tail_drop]

/-- The answers to repeated calls are the lines, and nothing after the last one. -/
theorem next_advance (listing : Listing) (call : Nat) :
    (listing.advance call).next.1 = listing.lines[call]? := by
  rw [(next_eq _).1, lines_advance, List.head?_drop]

theorem text_eq_join (listing : Listing) :
    listing.text = String.join (listing.lines.map Line.written) := by
  have folded : forall (lines : List Line) (before : String),
      lines.foldl (fun written line => written ++ line.text ++ "\n") before =
        before ++ String.join (lines.map Line.written) := by
    intro lines
    induction lines with
    | nil =>
        intro before
        rw [List.foldl_nil, List.map_nil, String.join_nil, String.append_empty]
    | cons line lines inductionHypothesis =>
        intro before
        rw [List.foldl_cons, inductionHypothesis, List.map_cons, String.join_cons, Line.written]
        simp only [String.append_assoc]
  rw [text, folded, String.empty_append]

theorem length_linesFrom (address : Nat) (program : List UInt8) :
    (linesFrom address program).length = (program.length + 1) / 2 := by
  match program with
  | [] => rfl
  | [_] => simp only [linesFrom, List.length_singleton, Nat.reduceAdd, Nat.reduceDiv]
  | high :: low :: rest =>
      rw [linesFrom, List.length_cons, length_linesFrom (address + 2) rest, List.length_cons,
        List.length_cons]
      omega

/-- The lines show every byte of the program, in order. -/
theorem bytes_linesFrom (address : Nat) (program : List UInt8) :
    (linesFrom address program).flatMap Line.bytes = program := by
  match program with
  | [] => rfl
  | [_] => rfl
  | high :: low :: rest =>
      rw [linesFrom, List.flatMap_cons, bytes_linesFrom (address + 2) rest, Line.bytes,
        Word.bytes_ofBytes]
      rfl

theorem linesFrom_word (address : Nat) (program : List UInt8) (line : Nat)
    (inside : 2 * line + 1 < program.length) :
    (linesFrom address program)[line]? =
      some (.code (address + 2 * line) (Word.ofBytes program[2 * line] program[2 * line + 1])) := by
  match program, line with
  | high :: low :: rest, 0 => rfl
  | high :: low :: rest, line + 1 =>
      have below : 2 * line + 1 < rest.length := by
        simp only [List.length_cons] at inside
        omega
      rw [linesFrom, List.getElem?_cons_succ, linesFrom_word (address + 2) rest line below]
      simp only [Nat.mul_add, Nat.mul_one, List.getElem_cons_succ]
      rw [Nat.add_assoc, Nat.add_comm 2]

theorem linesFrom_byte (address : Nat) (program : List UInt8) (line : Nat)
    (last : program.length = 2 * line + 1) :
    (linesFrom address program)[line]? = some (.data (address + 2 * line) program[2 * line]) := by
  match program, line with
  | [_], 0 => rfl
  | high :: low :: rest, line + 1 =>
      have below : rest.length = 2 * line + 1 := by
        simp only [List.length_cons] at last
        omega
      rw [linesFrom, List.getElem?_cons_succ, linesFrom_byte (address + 2) rest line below]
      simp only [Nat.mul_add, Nat.mul_one, List.getElem_cons_succ]
      rw [Nat.add_assoc, Nat.add_comm 2]

theorem advance_advance (listing : Listing) (first second : Nat) :
    (listing.advance first).advance second = listing.advance (first + second) := by
  rw [Nat.add_comm, advance, advance, advance, Function.iterate_add_apply]

/-- A page with room for all lines takes them all. -/
theorem writeFrom_of_fits {limit address : Nat} {before : String} {program : List UInt8}
    (fits : (before ++ String.join ((linesFrom address program).map Line.written)).utf8ByteSize ≤
      limit) :
    writeFrom limit address before program =
      (some (before ++ String.join ((linesFrom address program).map Line.written)),
        advance ⟨address, program⟩ (linesFrom address program).length) := by
  fun_induction linesFrom address program generalizing before with
  | case1 address =>
      rw [List.map_nil, String.join_nil, String.append_empty]
      rfl
  | case2 address byte =>
      simp only [List.map_cons, List.map_nil, String.join_cons, String.join_nil,
        String.append_empty, Line.written, ← String.append_assoc] at fits ⊢
      rw [writeFrom, if_pos fits]
      rfl
  | case3 address high low rest inductionHypothesis =>
      simp only [List.map_cons, String.join_cons, Line.written, ← String.append_assoc] at fits ⊢
      have room : (before ++ (Line.code address (Word.ofBytes high low)).text ++
          "\n").utf8ByteSize ≤ limit := by
        rw [String.utf8ByteSize_append] at fits
        exact Nat.le_of_add_right_le fits
      rw [writeFrom, if_pos room]
      exact inductionHypothesis fits

theorem writeWithin_of_fits {limit : Nat} {listing : Listing}
    (fits : listing.text.utf8ByteSize ≤ limit) :
    listing.writeWithin limit = (some listing.text, listing.advance listing.lines.length) := by
  have whole : listing.text = "" ++ String.join (listing.lines.map Line.written) := by
    rw [text_eq_join, String.empty_append]
  rw [whole] at fits ⊢
  exact writeFrom_of_fits fits

theorem lines_ofProgram_injective {program other : List UInt8}
    (same : (ofProgram program).lines = (ofProgram other).lines) : program = other := by
  rw [← bytes_linesFrom loadAddress program, ← bytes_linesFrom loadAddress other]
  exact congrArg (List.flatMap Line.bytes) same

/-- A listing has a line for every two bytes of its program and one for a last odd byte, and answers
with them one after another and then no more.  Its text is theirs, each with a line end, and that of
what is left at any moment is theirs from there on.  No two programs have the same listing. -/
theorem complete_and_lossless :
    (forall program : List UInt8,
      let start := ofProgram program
      let answer := fun call => (start.advance call).next.1
      let count := (program.length + 1) / 2
      start.lines.length = count ∧
      (forall call, answer call = start.lines[call]?) ∧
      (forall call, answer call = none ↔ count ≤ call) ∧
      (forall line (inside : 2 * line + 1 < program.length),
        let word := UInt16.ofNat (256 * program[2 * line].toNat + program[2 * line + 1].toNat)
        answer line = some (.code (0x200 + 2 * line) word) ∧
          (answer line).bind Line.instruction? = some (Instruction.decode word)) ∧
      (forall line (last : program.length = 2 * line + 1),
        answer line = some (.data (0x200 + 2 * line) program[2 * line])) ∧
      listing program = String.join (start.lines.map Line.written) ∧
      forall calls,
        (start.advance calls).text = String.join ((start.lines.drop calls).map Line.written) ∧
          forall limit, (start.advance calls).text.utf8ByteSize ≤ limit ->
            (start.advance calls).writeWithin limit =
              (some (start.advance calls).text, start.advance (max calls count))) ∧
    Function.Injective listing := by
  constructor
  · intro program start answer count
    have answers := start.next_advance
    have size : start.lines.length = count := length_linesFrom loadAddress program
    have text : listing program = String.join (start.lines.map Line.written) := by
      rw [← text_eq_join, ChipEight.listing]
    refine ⟨size, answers, fun call => ?_, fun line inside => ?_, fun line last => ?_, text,
      fun calls => ⟨?_, fun limit fits => ?_⟩⟩
    · rw [← size, ← List.getElem?_eq_none_iff, ← answers]
    · have shown := (answers line).trans (linesFrom_word loadAddress program line inside)
      rw [Word.ofBytes_eq] at shown
      exact ⟨shown, congrArg (fun line => line.bind Line.instruction?) shown⟩
    · exact (answers line).trans (linesFrom_byte loadAddress program line last)
    · rw [text_eq_join, lines_advance]
    · have exhausted : calls + (start.lines.drop calls).length = max calls count := by
        rw [List.length_drop, size]
        omega
      rw [writeWithin_of_fits fits, advance_advance, lines_advance, exhausted]
  · intro program other same
    apply lines_ofProgram_injective
    apply Line.written_injective
    change String.join _ = String.join _
    rw [← text_eq_join, ← text_eq_join]
    exact same

/-- The last byte of three has a line of its own, which is all that is written after one call. -/
theorem listing_of_three_bytes :
    let start := ofProgram [0x00, 0xEE, 0xF0]
    start.next.1 = some (.code 0x200 0x00EE) ∧
      (start.advance 1).next.1 = some (.data 0x202 0xF0) ∧
      (start.advance 2).next.1 = none ∧ (start.advance 3).next.1 = none ∧
      (start.advance 1).text = "0202: F0    DB 0xF0\n" ∧
      (start.advance 1).writeWithin 20 = (some "0202: F0    DB 0xF0\n", start.advance 2) := by
  intro start
  obtain ⟨-, -, none, words, byte, -, rest⟩ := complete_and_lossless.1 [0x00, 0xEE, 0xF0]
  have first := (words 0 (by decide)).1
  have last := byte 1 rfl
  have text : (start.advance 1).text = "0202: F0    DB 0xF0\n" := by decide +kernel
  have fits : (start.advance 1).text.utf8ByteSize ≤ 20 := by
    rw [text]
    decide
  have written := (rest 1).2 20 fits
  rw [text] at written
  exact ⟨first, last, (none 2).mpr (by decide), (none 3).mpr (by decide), text, written⟩

end Listing
end ChipEight
