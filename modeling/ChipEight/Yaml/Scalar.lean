import ChipEight.Hex
import ChipEight.Yaml.Source

namespace ChipEight
namespace Yaml

/-!
The scalars of a document.

A scalar may go over several lines: the blanks around a line break are dropped, a single break
becomes a blank, and each further one stays.  A break that is a separator of lines or paragraphs
always stays.
-/

/-- The blanks and line breaks that a scalar has run through and that are not yet written. -/
inductive Gap where
  /-- Blanks inside a line, the last first. -/
  | blanks (reversed : List Char)
  /-- A line break, unless it was escaped, and the breaks after it, the last first. -/
  | breaks (first : Option Char) (reversed : List Char)

namespace Gap

def none : Gap :=
  .blanks []

def isEmpty : Gap -> Bool
  | blanks [] => true
  | _ => false

def isBroken : Gap -> Bool
  | blanks _ => false
  | breaks .. => true

def addBlank (gap : Gap) (c : Char) : Gap :=
  match gap with
  | blanks reversed => blanks (c :: reversed)
  | breaks first reversed => breaks first reversed

def addBreak (gap : Gap) (c : Char) : Gap :=
  match gap with
  | blanks _ => breaks (some c) []
  | breaks first reversed => breaks first (c :: reversed)

/-- What is written, the last character first. -/
def written : Gap -> List Char
  | blanks reversed => reversed
  | breaks (some '\n') [] => [' ']
  | breaks (some '\n') reversed => reversed
  | breaks first reversed => reversed ++ first.toList

/-- What is written if no line break is folded, the last character first. -/
def unfolded : Gap -> List Char
  | blanks reversed => reversed
  | breaks first reversed => reversed ++ first.toList

end Gap

/-- The text of a scalar in single quotes, after the opening quote. -/
def singleQuoted (written : List Char) (gap : Gap) : Source -> Option (String × Source)
  | [] => none
  | ⟨'\'', _⟩ :: ⟨'\'', _⟩ :: rest =>
      singleQuoted ('\'' :: (gap.written ++ written)) .none rest
  | ⟨'\'', _⟩ :: rest => some (String.ofList (gap.written ++ written).reverse, rest)
  | glyph :: rest =>
      if startsDocumentMark (glyph :: rest) then none
      else if isBreak glyph.char then singleQuoted written (gap.addBreak glyph.char) rest
      else if isBlank glyph.char then singleQuoted written (gap.addBlank glyph.char) rest
      else singleQuoted (glyph.char :: (gap.written ++ written)) .none rest

/-- Where a reader stands inside double quotes. -/
inductive Within where
  | text (gap : Gap)
  | escape
  /-- In a code point with some digits still to come. -/
  | code (left value : Nat)

def shortEscape? : Char -> Option Char
  | '0' => some '\x00'
  | 'a' => some '\x07'
  | 'b' => some '\x08'
  | 't' => some '\t'
  | '\t' => some '\t'
  | 'n' => some '\n'
  | 'v' => some '\x0b'
  | 'f' => some '\x0c'
  | 'r' => some '\r'
  | 'e' => some '\x1b'
  | ' ' => some ' '
  | '"' => some '"'
  | '/' => some '/'
  | '\\' => some '\\'
  | 'N' => some '\u0085'
  | '_' => some '\u00a0'
  | 'L' => some '\u2028'
  | 'P' => some '\u2029'
  | _ => none

/-- The number of digits of the code point that an escape announces. -/
def codeLength? : Char -> Option Nat
  | 'x' => some 2
  | 'u' => some 4
  | 'U' => some 8
  | _ => none

/-- The character of a code point, if there is one. -/
def charOfCode? (code : Nat) : Option Char :=
  if valid : code.isValidChar then some (Char.ofNatAux code valid) else none

/-- The text of a scalar in double quotes, after the opening quote. -/
def doubleQuoted (written : List Char) (within : Within) : Source -> Option (String × Source)
  | [] => none
  | glyph :: rest =>
      match within with
      | .text gap =>
          if startsDocumentMark (glyph :: rest) then none
          else if glyph.char = '"' then
            some (String.ofList (gap.written ++ written).reverse, rest)
          else if glyph.char = '\\' then doubleQuoted (gap.written ++ written) .escape rest
          else if isBreak glyph.char then
            doubleQuoted written (.text (gap.addBreak glyph.char)) rest
          else if isBlank glyph.char then
            doubleQuoted written (.text (gap.addBlank glyph.char)) rest
          else doubleQuoted (glyph.char :: (gap.written ++ written)) (.text .none) rest
      | .escape =>
          if isBreak glyph.char then doubleQuoted written (.text (.breaks none [])) rest
          else
            match shortEscape? glyph.char, codeLength? glyph.char with
            | some c, _ => doubleQuoted (c :: written) (.text .none) rest
            | none, some length => doubleQuoted written (.code length 0) rest
            | none, none => none
      | .code left value =>
          match Hex.value? glyph.char with
          | none => none
          | some digit =>
              let value := value * 16 + digit
              if left ≤ 1 then
                match charOfCode? value with
                | none => none
                | some c => doubleQuoted (c :: written) (.text .none) rest
              else doubleQuoted written (.code (left - 1) value) rest

/-- The characters that separate the parts of a collection in brackets. -/
def isBracketing (c : Char) : Bool :=
  c == ',' || c == '[' || c == ']' || c == '\x7b' || c == '\x7d'

def isIndicator (c : Char) : Bool :=
  isBracketing c || c == '-' || c == '?' || c == ':' || c == '#' || c == '&' || c == '*'
    || c == '!' || c == '|' || c == '>' || c == '\'' || c == '"' || c == '%' || c == '@'
    || c == '\x60'

/-- Whether a plain scalar begins here, inside brackets or outside. -/
def startsPlain (bracketed : Bool) : Source -> Bool
  | [] => false
  | glyph :: rest =>
      if startsBlank [glyph] then false
      else if glyph.char == '-' then !startsBlank rest
      else if glyph.char == '?' || glyph.char == ':' then !bracketed && !startsBlank rest
      else !isIndicator glyph.char

/-- Whether a plain scalar ends before this place because of what stands here. -/
def endsPlain (bracketed : Bool) (afterGap : Bool) : Source -> Bool
  | [] => true
  | glyph :: rest =>
      (glyph.char == ':' && startsBlank rest) || (bracketed && isBracketing glyph.char)
        || (afterGap && glyph.char == '#') || startsDocumentMark (glyph :: rest)

/-- Whether a colon stands here that neither separates nor belongs to a plain scalar. -/
def strayColon (bracketed : Bool) : Source -> Bool
  | ⟨':', _⟩ :: ⟨c, _⟩ :: _ => bracketed && (isBracketing c || c == '?')
  | _ => false

/-- A plain scalar and what follows it. -/
structure PlainScalar where
  text : String
  /-- Whether a line break stands behind it. -/
  isBroken : Bool
  /-- What follows, from the first character on that is neither blank nor part of the scalar. -/
  rest : Source

/--
Read a plain scalar.  A further line has no tab before the column `floor`, and outside brackets it
belongs to the scalar only from that column on.
-/
def plain (bracketed : Bool) (floor : Nat) (written : List Char) (gap : Gap) :
    Source -> Option PlainScalar
  | [] => some ⟨String.ofList written.reverse, gap.isBroken, []⟩
  | glyph :: rest =>
      let outside := gap.isBroken && decide (glyph.place.column < floor)
      if isBreak glyph.char then plain bracketed floor written (gap.addBreak glyph.char) rest
      else if isBlank glyph.char then
        if outside && glyph.char == '\t' then none
        else plain bracketed floor written (gap.addBlank glyph.char) rest
      else if (outside && !bracketed) || endsPlain bracketed (!gap.isEmpty) (glyph :: rest) then
        some ⟨String.ofList written.reverse, gap.isBroken, glyph :: rest⟩
      else if strayColon bracketed (glyph :: rest) then none
      else plain bracketed floor (glyph.char :: (gap.written ++ written)) .none rest

end Yaml
end ChipEight
