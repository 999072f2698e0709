import ChipEight.Yaml.Tag

namespace ChipEight
namespace Yaml

/-!
The directives of a document.

A directive is a line in front of the document that begins with a percent sign: it gives the
version of the format, or says what a handle of tags stands for.
-/

/-- A directive. -/
inductive Directive where
  | version (major minor : Nat)
  | handle (name : String) (octets : List UInt8)
deriving DecidableEq, Repr

namespace Directive

def number? (source : Source) : Option (Nat × Source) := do
  let (digits, rest) := textWhile Char.isDigit source
  guard (digits.length ≤ 9)
  return (← digits.toNat?, rest)

/-- Read a version: two numbers with a point between them. -/
def version? (source : Source) : Option (Directive × Source) := do
  match ← number? (dropBlanks source) with
  | (major, ⟨'.', _⟩ :: rest) =>
      let (minor, rest) ← number? rest
      return (.version major minor, rest)
  | _ => none

/-- Read the name of a handle, a mark alone or a word between two marks. -/
def name? (source : Source) : Option (String × Source) :=
  match source with
  | ⟨'!', _⟩ :: rest =>
      match textWhile isNameChar rest with
      | (word, ⟨'!', _⟩ :: rest) => some ("!" ++ word ++ "!", rest)
      | ("", rest) => some ("!", rest)
      | _ => none
  | _ => none

/-- Read a handle and what it stands for, with blanks between them. -/
def handle? (source : Source) : Option (Directive × Source) := do
  let (name, rest) ← name? (dropBlanks source)
  guard (rest.head?.any (fun glyph => isBlank glyph.char))
  let (octets, rest) ← Tag.name? true (dropBlanks rest)
  guard (startsBlank rest)
  return (.handle name octets, rest)

/-- Read a directive behind its percent sign, up to the next line. -/
def read? (source : Source) : Option (Directive × Source) := do
  let (word, rest) := textWhile isNameChar source
  guard (startsBlank rest)
  let (directive, rest) ←
    match word with
    | "YAML" => version? rest
    | "TAG" => handle? rest
    | _ => none
  return (directive, ← nextLine? rest)

end Directive
end Yaml
end ChipEight
