import ChipEight.Yaml.Block
import ChipEight.Yaml.Directive

namespace ChipEight
namespace Yaml

/-!
The tokens of a document.

The layout of a document is turned into tokens of its own: where an indented collection begins and
ends, and where a key begins.  A key shows itself only by the colon behind it, so the last place at
which one may have begun is kept in mind, for the text outside of every open bracket and inside the
innermost one.  Such a place is given up with the end of its line, and when the colon is more than
1024 bytes away.

A node may have a name, an anchor, by which references mean it later.  In the tokens a number takes
the place of the name: the number of different names in front of the anchor.  A name that is used
again thus gets a new number, which the next new name gets as well.
-/

/-- The parts of which a document is composed. -/
inductive Token where
  | documentStart
  | documentEnd
  | openSequence
  | openMapping
  | close
  | dash
  | key
  | colon
  | openBracket
  | closeBracket
  | openBrace
  | closeBrace
  | comma
  | directive
  /-- The name of the node that follows. -/
  | anchor (number : Nat)
  /-- A node that appeared under a name before. -/
  | reference (number : Nat)
  /-- The tag of the node that follows. -/
  | tag (tag : Tag)
  | plain (text : String)
  | quoted (text : String)
deriving DecidableEq, Repr

/-- A place at which a key may have begun. -/
structure Candidate where
  place : Place
  /-- The number of tokens in front of it. -/
  index : Nat
  /-- Whether nothing but a key may stand there. -/
  required : Bool
deriving DecidableEq, Repr

namespace Candidate

/-- The bytes from a key to its colon, at most. -/
def reach : Nat := 1024

/-- Whether a colon at a place comes too late for a key that began here. -/
def isStale (candidate : Candidate) (place : Place) : Bool :=
  decide (candidate.place.line < place.line)
    || decide (candidate.place.offset + reach < place.offset)

/-- What is left of a place at which a key may have begun; a key that is required must come. -/
def refresh? (place : Place) : Option Candidate -> Option (Option Candidate)
  | none => some none
  | some candidate =>
      if !candidate.isStale place then some (some candidate)
      else if candidate.required then none
      else some none

end Candidate

/-- How far a document has been turned into tokens. -/
structure Layout where
  tokens : Array Token := #[]
  /-- The columns of the open indented collections, the innermost first. -/
  columns : List Nat := []
  candidate : Option Candidate := none
  /-- Where a key may have begun before each of the open brackets, the innermost first. -/
  outer : List (Option Candidate) := []
  keyAllowed : Bool := true
  /-- The names of nodes up to here, each one once, and their numbers. -/
  anchors : List (String × Nat) := []
  /-- The handles of tags that directives have introduced. -/
  handles : Handles := []
  /-- Whether a directive has given the version. -/
  isVersioned : Bool := false

namespace Layout

/-- Whether a bracket is open; then indentation does not count. -/
def isBracketed (layout : Layout) : Bool :=
  !layout.outer.isEmpty

/-- The first column that is inside the innermost indented collection. -/
def floor (layout : Layout) : Nat :=
  match layout.columns with
  | [] => 0
  | column :: _ => column + 1

def push (layout : Layout) (token : Token) : Layout :=
  { layout with tokens := layout.tokens.push token }

def insert (layout : Layout) (index : Nat) (token : Token) : Layout :=
  { layout with tokens := layout.tokens.insertIdxIfInBounds index token }

/-- Open an indented collection at a place between tokens, unless its column is open already. -/
def enter (layout : Layout) (column index : Nat) (token : Token) : Layout :=
  if layout.isBracketed || decide (column < layout.floor) then layout
  else { layout.insert index token with columns := column :: layout.columns }

/-- Close the indented collections that satisfy a condition on their columns. -/
def leaveWhile (layout : Layout) (inside : Nat -> Bool) : Layout :=
  if layout.isBracketed then layout
  else { layout with
    tokens := layout.tokens ++ (layout.columns.takeWhile inside).map (fun _ => Token.close)
    columns := layout.columns.dropWhile inside }

/-- No key can have begun at the last candidate; it must not have been required. -/
def dismiss? (layout : Layout) : Option Layout :=
  match layout.candidate with
  | some candidate => if candidate.required then none else some { layout with candidate := none }
  | none => some layout

/-- A key may begin at a place, if one is allowed at all. -/
def propose? (layout : Layout) (place : Place) : Option Layout := do
  if !layout.keyAllowed then return layout
  let required := !layout.isBracketed && layout.columns.head? == some place.column
  return { (← layout.dismiss?) with candidate := some ⟨place, layout.tokens.size, required⟩ }

/-- Give up the candidates that are out of reach from a place. -/
def refresh? (layout : Layout) (place : Place) : Option Layout := do
  let candidate ← Candidate.refresh? place layout.candidate
  let outer ← layout.outer.mapM (Candidate.refresh? place)
  return { layout with candidate, outer }

/--
Skip blanks, line breaks and comments, and tell whether a key may begin behind them.  Outside
brackets a key may begin in a new line, and no tab may stand where a key may begin.  A byte order
mark at the beginning of a line is passed over, but it fills the first column.
-/
def skip (bracketed keyAllowed comment : Bool) : Source -> Bool × Source
  | [] => (keyAllowed, [])
  | glyph :: rest =>
      if isBreak glyph.char then skip bracketed (keyAllowed || !bracketed) false rest
      else if comment then skip bracketed keyAllowed true rest
      else if glyph.char = '\ufeff' && glyph.place.column = 0 then
        skip bracketed keyAllowed false rest
      else if glyph.char = ' ' || (glyph.char = '\t' && (bracketed || !keyAllowed)) then
        skip bracketed keyAllowed false rest
      else if glyph.char = '#' then skip bracketed keyAllowed true rest
      else (keyAllowed, glyph :: rest)

def mark? (layout : Layout) (token : Token) : Option Layout := do
  let layout ← (layout.leaveWhile (fun _ => true)).dismiss?
  return { layout with keyAllowed := false }.push token

/-- An opening bracket, which may begin a key. -/
def openBracket? (layout : Layout) (place : Place) (token : Token) : Option Layout := do
  let layout ← layout.propose? place
  return { layout with
    candidate := none
    outer := layout.candidate :: layout.outer
    keyAllowed := true }.push token

/-- A closing bracket; the key that may have begun before the opening one counts again. -/
def closeBracket? (layout : Layout) (token : Token) : Option Layout := do
  let layout ← layout.dismiss?
  return { layout with
    candidate := layout.outer.head?.join
    outer := layout.outer.tail
    keyAllowed := false }.push token

def comma? (layout : Layout) : Option Layout := do
  return { (← layout.dismiss?) with keyAllowed := true }.push .comma

def dash? (layout : Layout) (place : Place) : Option Layout := do
  guard (layout.isBracketed || layout.keyAllowed)
  let layout ← (layout.enter place.column layout.tokens.size .openSequence).dismiss?
  return { layout with keyAllowed := true }.push .dash

/-- The question mark before a key that need not be short. -/
def question? (layout : Layout) (place : Place) : Option Layout := do
  guard (layout.isBracketed || layout.keyAllowed)
  let layout ← (layout.enter place.column layout.tokens.size .openMapping).dismiss?
  return { layout with keyAllowed := !layout.isBracketed }.push .key

/-- The colon before a value; it makes a key of what began at the last candidate. -/
def colon? (layout : Layout) (place : Place) : Option Layout := do
  match layout.candidate with
  | some candidate =>
      let layout := layout.insert candidate.index .key
      let layout := layout.enter candidate.place.column candidate.index .openMapping
      return { layout with candidate := none, keyAllowed := false }.push .colon
  | none =>
      guard (layout.isBracketed || layout.keyAllowed)
      let layout := layout.enter place.column layout.tokens.size .openMapping
      return { layout with keyAllowed := !layout.isBracketed }.push .colon

/-- A part that may begin a key; behind it none may, unless its line is over. -/
def part? (layout : Layout) (place : Place) (lineIsOver : Bool) (token : Token) :
    Option Layout := do
  return { (← layout.propose? place) with keyAllowed := lineIsOver }.push token

/-- A block; behind it a new line begins. -/
def block? (layout : Layout) (text : String) : Option Layout := do
  return { (← layout.dismiss?) with keyAllowed := true }.push (.quoted text)

def anchor? (layout : Layout) (place : Place) (name : String) : Option Layout :=
  let number := layout.anchors.length
  let others := layout.anchors.filter (fun anchor => anchor.1 != name)
  { layout with anchors := (name, number) :: others }.part? place false (.anchor number)

def reference? (layout : Layout) (place : Place) (name : String) : Option Layout := do
  layout.part? place false (.reference (← layout.anchors.lookup name))

/-- A directive; the version is given once at most, and every handle introduced once. -/
def directive? (layout : Layout) (directive : Directive) : Option Layout := do
  let layout ← layout.mark? .directive
  match directive with
  | .version major minor =>
      guard (!layout.isVersioned && major = 1 && (minor = 1 || minor = 2))
      return { layout with isVersioned := true }
  | .handle name octets =>
      guard ((layout.handles.lookup name).isNone)
      return { layout with handles := (name, octets) :: layout.handles }

def name? (source : Source) : Option (String × Source) := do
  let (name, rest) := textWhile isNameChar source
  guard (!name.isEmpty)
  guard (startsBlank rest || rest.head?.any (fun glyph => "?:,]\x7d%@\x60".contains glyph.char))
  return (name, rest)

def read? (layout : Layout) (glyph : Glyph) (rest : Source) : Option (Layout × Source) := do
  let place := glyph.place
  let bracketed := layout.isBracketed
  if glyph.char = '%' && place.column = 0 then
    let (directive, rest) ← Directive.read? rest
    return (← layout.directive? directive, rest)
  if startsMark '-' (glyph :: rest) then return (← layout.mark? .documentStart, rest.drop 2)
  if startsMark '.' (glyph :: rest) then return (← layout.mark? .documentEnd, rest.drop 2)
  if glyph.char = '[' then return (← layout.openBracket? place .openBracket, rest)
  if glyph.char = '\x7b' then return (← layout.openBracket? place .openBrace, rest)
  if glyph.char = ']' then return (← layout.closeBracket? .closeBracket, rest)
  if glyph.char = '\x7d' then return (← layout.closeBracket? .closeBrace, rest)
  if glyph.char = ',' then return (← layout.comma?, rest)
  if glyph.char = '-' && startsBlank rest then return (← layout.dash? place, rest)
  if glyph.char = '?' && (bracketed || startsBlank rest) then
    return (← layout.question? place, rest)
  if glyph.char = ':' && (bracketed || startsBlank rest) then return (← layout.colon? place, rest)
  if glyph.char = '*' then
    let (name, rest) ← name? rest
    return (← layout.reference? place name, rest)
  if glyph.char = '&' then
    let (name, rest) ← name? rest
    return (← layout.anchor? place name, rest)
  if glyph.char = '!' then
    let (tag, rest) ← Tag.read? layout.handles bracketed rest
    return (← layout.part? place false (.tag tag), rest)
  if (glyph.char = '|' || glyph.char = '>') && !bracketed then
    let (text, rest) ← Yaml.block? (glyph.char = '>') layout.columns.head? rest
    return (← layout.block? text, rest)
  if glyph.char = '\'' then
    let (text, rest) ← singleQuoted [] .none rest
    return (← layout.part? place false (.quoted text), rest)
  if glyph.char = '"' then
    let (text, rest) ← doubleQuoted [] (.text .none) rest
    return (← layout.part? place false (.quoted text), rest)
  guard (startsPlain bracketed (glyph :: rest))
  let scalar ← plain bracketed layout.floor [] .none (glyph :: rest)
  return (← layout.part? place scalar.isBroken (.plain scalar.text), scalar.rest)

def finish? (layout : Layout) : Option (List Token) := do
  return (← (layout.leaveWhile (fun _ => true)).dismiss?).tokens.toList

/-- The tokens of the rest of a document, if there are fewer of them than a bound says. -/
def run? : Nat -> Layout -> Source -> Option (List Token)
  | 0, _, _ => none
  | bound + 1, layout, source =>
      let (keyAllowed, source) := skip layout.isBracketed layout.keyAllowed false source
      let layout := { layout with keyAllowed }
      match source with
      | [] => layout.finish?
      | glyph :: rest => do
          let layout ← layout.refresh? glyph.place
          let layout := layout.leaveWhile (glyph.place.column < ·)
          let (layout, rest) ← layout.read? glyph rest
          run? bound layout rest

end Layout

/-- The tokens of a document; every token takes a character at least. -/
def tokens? (source : Source) : Option (List Token) :=
  Layout.run? (source.length + 1) {} source

end Yaml
end ChipEight
