import ChipEight.Hex
import ChipEight.Yaml.Source

namespace ChipEight
namespace Yaml

/-!
The tags of a document.

A tag says of what kind a node is.  It is a sequence of octets, most of them written as ASCII
characters, each of the others as a percent sign and two hexadecimal digits.  Behind an exclamation
mark it is written in full between angle brackets, or it begins with a handle that stands for some
octets; the mark itself is a part of the handle.
-/

/-- A tag. -/
structure Tag where
  octets : List UInt8
deriving DecidableEq, Repr

abbrev Handles := List (String × List UInt8)

def toOctets (text : String) : List UInt8 :=
  text.toUTF8.toList

/-- The handles that stand for something even if nothing is said about them. -/
def commonHandles : Handles :=
  [("!", toOctets "!"), ("!!", toOctets "tag:yaml.org,2002:")]

namespace Tag

def mark : Tag :=
  ⟨toOctets "!"⟩

def common (name : String) : Tag :=
  ⟨toOctets "tag:yaml.org,2002:" ++ toOctets name⟩

/-- Whether a tag begins with an exclamation mark; then it is meant for one application alone. -/
def isLocal (tag : Tag) : Bool :=
  tag.octets.head? == some 0x21

/-- Whether the octets of a tag are the octets of a text. -/
def isText (tag : Tag) : Bool :=
  (String.fromUTF8? ⟨tag.octets.toArray⟩).isSome

/-- The number of octets of a character, by the first of them. -/
def width? (octet : UInt8) : Option Nat :=
  if octet < 0x80 then some 1
  else if octet < 0xC0 then none
  else if octet < 0xE0 then some 2
  else if octet < 0xF0 then some 3
  else if octet < 0xF8 then some 4
  else none

/-- The octets of a character that are still to come behind one of them. -/
def due? (due : Nat) (octet : UInt8) : Option Nat :=
  match due with
  | 0 => (width? octet).map Nat.pred
  | due + 1 => if 0x80 ≤ octet ∧ octet < 0xC0 then some due else none

/-- Whether a character of a tag is written as it is; commas and brackets need not be. -/
def isPlain (withBrackets : Bool) (c : Char) : Bool :=
  isNameChar c || ";/?:@&=+$.!~*'()".contains c || (withBrackets && ",[]".contains c)

/-- Read the characters of a tag; of an escaped one, `due` octets are still to come. -/
def characters? (withBrackets : Bool) (due : Nat) : Source -> Option (List UInt8 × Source)
  | [] => if due = 0 then some ([], []) else none
  | ⟨'%', _⟩ :: high :: low :: rest => do
      let octet := UInt8.ofNat (16 * (← Hex.value? high.char) + (← Hex.value? low.char))
      let (octets, rest) ← characters? withBrackets (← due? due octet) rest
      return (octet :: octets, rest)
  | glyph :: rest =>
      if due ≠ 0 || glyph.char = '%' then none
      else if isPlain withBrackets glyph.char then do
        let (octets, rest) ← characters? withBrackets 0 rest
        return (UInt8.ofNat glyph.char.toNat :: octets, rest)
      else some ([], glyph :: rest)

/-- The octets in front of a zero, which ends them. -/
def untilZero (octets : List UInt8) : List UInt8 :=
  octets.takeWhile (· != 0)

def name? (withBrackets : Bool) (source : Source) : Option (List UInt8 × Source) := do
  let (octets, rest) ← characters? withBrackets 0 source
  guard !octets.isEmpty
  return (untilZero octets, rest)

def ofHandle? (handles : Handles) (handle : String) (name : List UInt8) : Option Tag :=
  ((handles ++ commonHandles).lookup handle).map (fun octets => ⟨octets ++ name⟩)

/-- Read a tag behind its first mark, whatever follows it. -/
def open? (handles : Handles) (source : Source) : Option (Tag × Source) :=
  match source with
  | ⟨'<', _⟩ :: rest => do
      match ← name? true rest with
      | (name, ⟨'>', _⟩ :: rest) => return (⟨name⟩, rest)
      | _ => none
  | _ => do
      match textWhile isNameChar source with
      | (word, ⟨'!', _⟩ :: rest) =>
          let (name, rest) ← name? false rest
          return (← ofHandle? handles ("!" ++ word ++ "!") name, rest)
      | (word, rest) =>
          let (more, rest) ← characters? false 0 rest
          let name := untilZero (toOctets word ++ more)
          if name.isEmpty then return (mark, rest)
          return (← ofHandle? handles "!" name, rest)

/-- Read a tag behind its first mark; a blank, a line end, or in brackets a comma must follow. -/
def read? (handles : Handles) (bracketed : Bool) (source : Source) : Option (Tag × Source) := do
  let (tag, rest) ← open? handles source
  guard (startsBlank rest || (bracketed && rest.head?.any (fun glyph => glyph.char == ',')))
  return (tag, rest)

end Tag
end Yaml
end ChipEight
