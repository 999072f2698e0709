import ChipEight.Yaml.Scalar

namespace ChipEight
namespace Yaml

/-!
Blocks of text.

A block is a scalar of whole lines behind a mark, all of them indented.  A literal block keeps its
line breaks.  A folded block folds them as other scalars do, except next to a line that is indented
further.  The mark says how the block ends, and how far it is indented unless that shows itself.
-/

/-- What is left of the line breaks at the end of a block. -/
inductive Ending where
  | strip
  | clip
  | keep
deriving DecidableEq, Repr

/-- The line breaks behind a text that stay there, the last first. -/
def Ending.written (ending : Ending) (gap : Gap) : List Char :=
  match ending, gap with
  | .strip, _ => []
  | .clip, .blanks _ => []
  | .clip, .breaks first _ => first.toList
  | .keep, gap => gap.unfolded

/-- The mark of a block says how it ends and, if it likes, by how much it is indented. -/
structure BlockMark where
  ending : Ending
  indentation : Option Nat
deriving DecidableEq, Repr

namespace BlockMark

def ending? : Char -> Option Ending
  | '-' => some .strip
  | '+' => some .keep
  | _ => none

def indentation? (c : Char) : Option Nat :=
  if '1' ≤ c ∧ c ≤ '9' then some (c.toNat - 48) else none

def optional {α : Type} (meaning? : Char -> Option α) : Source -> Option α × Source
  | [] => (none, [])
  | glyph :: rest =>
      match meaning? glyph.char with
      | some meaning => (some meaning, rest)
      | none => (none, glyph :: rest)

/-- Read what stands behind the first character of a mark, the sign and the digit in any order. -/
def read (source : Source) : BlockMark × Source :=
  match optional ending? source with
  | (some ending, rest) =>
      let (indentation, rest) := optional indentation? rest
      (⟨ending, indentation⟩, rest)
  | (none, rest) =>
      let (indentation, rest) := optional indentation? rest
      let (ending, rest) := optional ending? rest
      (⟨ending.getD .clip, indentation⟩, rest)

end BlockMark

/-- The deepest column that blanks reach up to the first text, in front of which no tab stands. -/
def deepestColumn? (deepest : Nat) : Source -> Option Nat
  | [] => some deepest
  | glyph :: rest =>
      if glyph.char = ' ' then deepestColumn? (max deepest (glyph.place.column + 1)) rest
      else if isBreak glyph.char then deepestColumn? deepest rest
      else if glyph.char = '\t' then none
      else some deepest

/--
Read the lines of a block that are indented up to a column.  Whether the line before begins with a
blank is kept in mind, since next to such a line no break is folded.
-/
def blockLines (folded : Bool) (column : Nat) (written : List Char) (gap : Gap) (further : Bool) :
    Source -> Option (List Char × Gap × Source)
  | [] => some (written, gap, [])
  | glyph :: rest =>
      if isBreak glyph.char then
        blockLines folded column written (gap.addBreak glyph.char) further rest
      else if !gap.isBroken then
        blockLines folded column (glyph.char :: written) gap further rest
      else if glyph.place.column < column then
        if glyph.char = ' ' then blockLines folded column written gap further rest
        else if glyph.char = '\t' then none
        else some (written, gap, glyph :: rest)
      else
        let indented := isBlank glyph.char
        let between := if folded && !further && !indented then gap.written else gap.unfolded
        blockLines folded column (glyph.char :: (between ++ written)) .none indented rest

/--
Read a block behind the first character of its mark.  It is indented further than the innermost
indented collection, whose column is given, if there is one.
-/
def block? (folded : Bool) (column : Option Nat) (source : Source) : Option (String × Source) := do
  let (mark, rest) := BlockMark.read source
  let rest ← nextLine? rest
  let column ←
    match mark.indentation with
    | some indentation => pure (column.getD 0 + indentation)
    | none => (deepestColumn? 0 rest).map (max (column.elim 1 (· + 1)))
  let (written, gap, rest) ← blockLines folded column [] (.breaks none []) false rest
  return (String.ofList (mark.ending.written gap ++ written).reverse, rest)

end Yaml
end ChipEight
