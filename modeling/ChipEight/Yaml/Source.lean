namespace ChipEight
namespace Yaml

/-!
The characters of a document.

Every character knows its place: the line and the column, since indentation carries the structure
of a document, and the number of bytes in front of it, since a key may not be too long.  A line
ends with a carriage return, a line feed, both, a next line mark, or a separator of lines or
paragraphs.
-/

/-- A place in a document: its line, its column, and the number of bytes in front of it. -/
structure Place where
  line : Nat
  column : Nat
  offset : Nat
deriving DecidableEq, Repr

namespace Place

def start : Place :=
  ⟨0, 0, 0⟩

def next (place : Place) (c : Char) : Place :=
  ⟨place.line, place.column + 1, place.offset + c.utf8Size⟩

def nextLine (place : Place) (size : Nat) : Place :=
  ⟨place.line + 1, 0, place.offset + size⟩

end Place

/-- A character and its place. -/
structure Glyph where
  char : Char
  place : Place
deriving DecidableEq, Repr

abbrev Source := List Glyph

/-- What a line end counts as: the separators stay as they are, all else is a line feed. -/
def lineEnd? : Char -> Option Char
  | '\n' => some '\n'
  | '\r' => some '\n'
  | '\u0085' => some '\n'
  | '\u2028' => some '\u2028'
  | '\u2029' => some '\u2029'
  | _ => none

/-- The characters from a place on, with line ends as what they count as. -/
def locate (place : Place) : List Char -> Source
  | [] => []
  | '\r' :: '\n' :: rest => ⟨'\n', place⟩ :: locate (place.nextLine 2) rest
  | c :: rest =>
      match lineEnd? c with
      | some written => ⟨written, place⟩ :: locate (place.nextLine c.utf8Size) rest
      | none => ⟨c, place⟩ :: locate (place.next c) rest

def isAllowed (c : Char) : Bool :=
  let code := c.toNat
  code == 0x9 || code == 0xA || code == 0xD || (0x20 ≤ code && code ≤ 0x7E) || code == 0x85
    || (0xA0 ≤ code && code ≤ 0xFFFD) || 0x10000 ≤ code

def isBreak (c : Char) : Bool :=
  (lineEnd? c).isSome

def isBlank (c : Char) : Bool :=
  c == ' ' || c == '\t'

/-- Whether the rest begins with a blank or a line end, or is empty. -/
def startsBlank : Source -> Bool
  | [] => true
  | glyph :: _ => isBlank glyph.char || isBreak glyph.char

/-- Whether a line begins here with a mark of three equal characters that stands alone. -/
def startsMark (c : Char) : Source -> Bool
  | ⟨a, ⟨_, 0, _⟩⟩ :: ⟨b, _⟩ :: ⟨d, _⟩ :: rest =>
      a == c && b == c && d == c && startsBlank rest
  | _ => false

/-- Whether the rest begins with a mark between documents. -/
def startsDocumentMark (source : Source) : Bool :=
  startsMark '-' source || startsMark '.' source

/-- A character of a name: an ASCII letter or digit, a hyphen or an underscore. -/
def isNameChar (c : Char) : Bool :=
  c.isAlphanum || c == '-' || c == '_'

/-- The longest text in front of which all characters satisfy a condition, and what follows. -/
def textWhile (condition : Char -> Bool) (source : Source) : String × Source :=
  (String.ofList ((source.takeWhile (fun glyph => condition glyph.char)).map Glyph.char),
    source.dropWhile (fun glyph => condition glyph.char))

def dropBlanks (source : Source) : Source :=
  source.dropWhile (fun glyph => isBlank glyph.char)

/-- The next line, if nothing but blanks and a comment is left of this one. -/
def nextLine? (source : Source) : Option Source :=
  match dropBlanks source with
  | [] => some []
  | glyph :: rest =>
      if glyph.char = '#' then some ((rest.dropWhile (fun glyph => !isBreak glyph.char)).drop 1)
      else if isBreak glyph.char then some rest
      else none

end Yaml
end ChipEight
