import ChipEight.KeyCode.Reading
import ChipEight.Yaml.Tag

namespace ChipEight
namespace Yaml

/-!
The contents of a YAML document.

A plain scalar, one without quotes, may stand for something else than its text: nothing, a truth
value or an integer.  A scalar in quotes is always a text.  A tag may ask that a scalar stands for
something, or that it stands for its text.  Numbers that are not integers keep their text here,
since nobody asks for them.
-/

/-- A node of a document. -/
inductive Node where
  | plain (text : String)
  | quoted (text : String)
  | sequence (items : List Node)
  | mapping (entries : List (Node × Node))
  | tagged (tag : Tag) (node : Node)
  /-- A node to which references may refer by a number. -/
  | anchored (number : Nat) (node : Node)
  | reference (number : Nat)

/-- The value of digits of a radix; without a digit there is none. -/
def digits? (radix : Nat) (digits : List Char) : Option Nat :=
  if digits.isEmpty then none
  else digits.foldl (fun value c => do
    let value ← value
    let digit ← Hex.value? c
    if digit < radix then some (value * radix + digit) else none) (some 0)

/-- Whether zeros in front make digits a text and not a number. -/
def hasLeadingZero : List Char -> Bool
  | '0' :: c :: rest => (c :: rest).all Char.isDigit
  | _ => false

/-- The value of an unsigned number: hexadecimal, octal, binary, or decimal. -/
def natural? : List Char -> Option Nat
  | '0' :: 'x' :: digits => digits? 16 digits
  | '0' :: 'o' :: digits => digits? 8 digits
  | '0' :: 'b' :: digits => digits? 2 digits
  | digits => if hasLeadingZero digits then none else digits? 10 digits

/-- The value of an integer, with a sign or without. -/
def integer? : List Char -> Option Int
  | '+' :: digits => (natural? digits).map Int.ofNat
  | '-' :: digits => (natural? digits).map (fun value => -Int.ofNat value)
  | digits => (natural? digits).map Int.ofNat

def resolve (text : String) : Datum :=
  if text ∈ ["", "~", "null", "Null", "NULL"] then .null
  else if text ∈ ["true", "True", "TRUE"] then .boolean true
  else if text ∈ ["false", "False", "FALSE"] then .boolean false
  else
    match integer? text.toList with
    | some value => .integer value
    | none => .text text

/--
What a scalar with a tag stands for.  With a local tag it stands for nothing that is known here,
unless the tag is no text; then the tag changes nothing.  The tag of a truth value, of a number or
of nothing is only for a scalar that stands for it, and every other tag is one of texts.
-/
def resolveTagged (tag : Tag) (untagged : Datum) (text : String) : Option Datum :=
  if tag.isLocal then if tag.isText then none else some untagged
  else if tag = .common "bool" then
    match resolve text with
    | .boolean value => some (.boolean value)
    | _ => none
  else if tag = .common "int" then (integer? text.toList).map Datum.integer
  else if tag = .common "float" then none
  else if tag = .common "null" then if text != "" && resolve text = .null then some .null else none
  else some (.text text)

namespace Node

def absent : Node :=
  plain ""

def bare : Node -> Node
  | tagged _ node => node.bare
  | anchored _ node => node.bare
  | node => node

/-- A node as a piece of data of unknown kind; a tag may not fit it. -/
def datum? : Node -> Option Datum
  | plain text => some (resolve text)
  | quoted text => some (.text text)
  | sequence _ => some .sequence
  | mapping _ => some .mapping
  | tagged tag (plain text) => resolveTagged tag (resolve text) text
  | tagged tag (quoted text) => resolveTagged tag (.text text) text
  | tagged _ node => node.datum?
  | anchored _ node => node.datum?
  | reference _ => none

/-- The text of a scalar, whatever it stands for. -/
def scalar? (node : Node) : Option String :=
  match node.bare with
  | plain text => some text
  | quoted text => some text
  | _ => none

/-- The items of a sequence; a scalar that is not written at all is an empty one. -/
def items? (node : Node) : Option (List Node) :=
  match node.bare with
  | sequence items => some items
  | plain "" => some []
  | _ => none

/-- The entries of a mapping; a scalar that is not written at all is an empty one. -/
def entries? (node : Node) : Option (List (Node × Node)) :=
  match node.bare with
  | mapping entries => some entries
  | plain "" => some []
  | _ => none

mutual

/-- A node and the nodes inside it, in the order of the document. -/
def parts : Node -> List Node
  | sequence items => sequence items :: itemParts items
  | mapping entries => mapping entries :: entryParts entries
  | tagged tag node => tagged tag node :: node.parts
  | anchored number node => anchored number node :: node.parts
  | node => [node]

def itemParts : List Node -> List Node
  | [] => []
  | item :: rest => item.parts ++ itemParts rest

def entryParts : List (Node × Node) -> List Node
  | [] => []
  | (key, value) :: rest => key.parts ++ value.parts ++ entryParts rest

end

def anchor? : Node -> Option (Nat × Node)
  | anchored number node => some (number, node)
  | _ => none

/-- What a node adds to the extent of a document: a collection has a beginning and an end. -/
def weight : Node -> Nat
  | sequence _ => 2
  | mapping _ => 2
  | tagged _ _ => 0
  | anchored _ _ => 0
  | _ => 1

end Node
end Yaml
end ChipEight
