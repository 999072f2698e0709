import ChipEight.Yaml.Document
import ChipEight.Yaml.Reference

namespace ChipEight

/-!
Key maps: which key of the keypad a typed character presses.

A key map comes from a list of definitions, each naming a key and the characters that press it.
The first definition of a character counts.  A capital letter that is not defined itself presses
the key of its small letter.
-/

/-- One definition: a key and the characters that press it. -/
structure KeyDefinition where
  key : KeyCode
  characters : List Char
deriving DecidableEq, Repr

/-- The characters that press a key, in the order of their definitions. -/
structure KeyMap where
  bindings : List (Char × KeyCode)
deriving DecidableEq, Repr

/-- The small letter of an ASCII capital; every other character is its own. -/
def smallLetter (c : Char) : Char :=
  if 'A' ≤ c ∧ c ≤ 'Z' then Char.ofNat (c.toNat + 32) else c

namespace KeyMap

def ofDefinitions (definitions : List KeyDefinition) : KeyMap :=
  ⟨definitions.flatMap (fun definition =>
    definition.characters.map (fun c => (c, definition.key)))⟩

/-- The key map in which every key is pressed by its own digit. -/
def hexadecimal : KeyMap :=
  ⟨KeyCode.all.map (fun key => (Hex.smallDigit key.value.val, key))⟩

/-- The key that a character presses by its own definition. -/
def find? (keyMap : KeyMap) (c : Char) : Option KeyCode :=
  (keyMap.bindings.find? (fun binding => binding.1 == c)).map (fun binding => binding.2)

def press? (keyMap : KeyMap) (c : Char) : Option KeyCode :=
  (keyMap.find? c).or (keyMap.find? (smallLetter c))

end KeyMap

namespace KeyDefinition

/-- The value of a field, if the field is there; it must not be there twice. -/
def field? (name : String) (entries : List (String × Yaml.Node)) : Option (Option Yaml.Node) :=
  match entries.filter (fun entry => entry.1 == name) with
  | [] => some none
  | [entry] => some (some entry.2)
  | _ => none

def character? (node : Yaml.Node) : Option Char := do
  match (← node.scalar?).toList with
  | [c] => some c
  | _ => none

/-- The characters in the field for them; without the field there are none. -/
def charactersOf : Option Yaml.Node -> Yaml.Reader (List Char)
  | none => return []
  | some node => do
      (← (← node.target).items?.getM).mapM (fun item => do
        (character? (← item.target)).getM)

/-- The definition that a node holds; fields of other names do not matter. -/
def ofNode (node : Yaml.Node) : Yaml.Reader KeyDefinition := do
  let entries ← (← (← node.target).entries?.getM).mapM (fun (name, value) => do
    return (← (← name.target).scalar?.getM, value))
  let key ← (← (← field? "chip8" entries).getM).target
  let key ← (KeyCode.read (← key.datum?.getM)).toOption.getM
  return ⟨key, ← charactersOf (← (field? "keyboard_keys" entries).getM)⟩

end KeyDefinition

namespace KeyMap

/-- The key map that a text describes: a list of definitions, which an empty text leaves empty. -/
def ofText? (text : String) : Option KeyMap := do
  match ← Yaml.read? text with
  | .empty => return ofDefinitions []
  | .document root =>
      return ofDefinitions (← Yaml.Reader.run? ((← root.items?).mapM KeyDefinition.ofNode) root)

/-- The text of a key map for the left hand side of a keyboard. -/
def leftHandText : String :=
"# Left hand side of a QWERTY keyboard.
#
#   1 2 3 C      1 2 3 4
#   4 5 6 D      q w e r
#   7 8 9 E      a s d f
#   A 0 B F      z x c v
- chip8: '1'
  keyboard_keys: ['1']
- chip8: '2'
  keyboard_keys: ['2']
- chip8: '3'
  keyboard_keys: ['3']
- chip8: 'C'
  keyboard_keys: ['4']
- chip8: '4'
  keyboard_keys: [q]
- chip8: '5'
  keyboard_keys: [w]
- chip8: '6'
  keyboard_keys: [e]
- chip8: 'D'
  keyboard_keys: [r]
- chip8: '7'
  keyboard_keys: [a]
- chip8: '8'
  keyboard_keys: [s]
- chip8: '9'
  keyboard_keys: [d]
- chip8: 'E'
  keyboard_keys: [f]
- chip8: 'A'
  keyboard_keys: [z]
- chip8: '0'
  keyboard_keys: [x]
- chip8: 'B'
  keyboard_keys: [c]
- chip8: 'F'
  keyboard_keys: [v]
"

end KeyMap
end ChipEight
