import ChipEight.Instruction.Text

namespace ChipEight

/-!
Program listings.

A program is read two bytes at a time, as it lies in memory from the load address on.  Data
inside a program, such as a sprite, is shown as if it were code; a last odd byte is shown as a
data byte.  A listing is the lines that remain to be read, so taking a line and writing the rest
can be mixed in any order.  Addresses are not bounded by the memory of the machine: a long
program is listed to its end.
-/

def loadAddress : Nat := 0x200

/-- One line of a listing. -/
inductive Line where
  /-- A word of the program and the instruction it encodes. -/
  | code (address : Nat) (word : UInt16)
  /-- The last byte of a program of odd length. -/
  | data (address : Nat) (byte : UInt8)
deriving DecidableEq, Repr

namespace Line

/-- The text of a line, without the line end. -/
def text : Line -> String
  | .code address word =>
      Hex.padded 4 address ++ ": " ++ Hex.word word ++ "  " ++ (Instruction.decode word).text
  | .data address byte =>
      Hex.padded 4 address ++ ": " ++ Hex.byte byte ++ "    DB 0x" ++ Hex.byte byte

end Line

/-- What is left to list: the address that comes next and the bytes from there on. -/
structure Listing where
  address : Nat
  rest : List UInt8
deriving DecidableEq, Repr

namespace Listing

def ofProgram (program : List UInt8) : Listing :=
  ⟨loadAddress, program⟩

/-- The next line, if any is left, and what remains after it. -/
def next : Listing -> Option Line × Listing
  | ⟨address, []⟩ => (none, ⟨address, []⟩)
  | ⟨address, [byte]⟩ => (some (.data address byte), ⟨address + 2, []⟩)
  | ⟨address, high :: low :: rest⟩ =>
      (some (.code address (Word.ofBytes high low)), ⟨address + 2, rest⟩)

/-- The lines of the bytes that stand from an address on. -/
def linesFrom (address : Nat) : List UInt8 -> List Line
  | [] => []
  | [byte] => [.data address byte]
  | high :: low :: rest =>
      .code address (Word.ofBytes high low) :: linesFrom (address + 2) rest

def lines (listing : Listing) : List Line :=
  linesFrom listing.address listing.rest

/-- Taking a line takes the first of the lines that remain. -/
theorem lines_eq_next (listing : Listing) :
    listing.lines = match listing.next with
      | (none, _) => []
      | (some line, rest) => line :: rest.lines := by
  obtain ⟨address, rest⟩ := listing
  match rest with
  | [] => rfl
  | [_] => rfl
  | _ :: _ :: _ => rfl

/-- The text of the remaining lines, each with its line end. -/
def text (listing : Listing) : String :=
  listing.lines.foldl (fun written line => written ++ line.text ++ "\n") ""

/--
Write the remaining lines from an address on to a page that holds at most `limit` bytes, of which
`written` are there.  A line that does not fit with its line end spoils the page: the answer has
no text then, and what remains starts after that line.
-/
def writeFrom (limit address : Nat) (written : String) : List UInt8 -> Option String × Listing
  | [] => (some written, ⟨address, []⟩)
  | [byte] =>
      let written := written ++ (Line.data address byte).text ++ "\n"
      if written.utf8ByteSize ≤ limit then (some written, ⟨address + 2, []⟩)
      else (none, ⟨address + 2, []⟩)
  | high :: low :: rest =>
      let written := written ++ (Line.code address (Word.ofBytes high low)).text ++ "\n"
      if written.utf8ByteSize ≤ limit then writeFrom limit (address + 2) written rest
      else (none, ⟨address + 2, rest⟩)

/-- Write the remaining lines to an empty page that holds at most `limit` bytes. -/
def writeWithin (limit : Nat) (listing : Listing) : Option String × Listing :=
  writeFrom limit listing.address "" listing.rest

end Listing

def listing (program : List UInt8) : String :=
  (Listing.ofProgram program).text

end ChipEight
