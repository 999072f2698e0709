import ChipEight.Decimal
import ChipEight.KeyCode
import ChipEight.Text.Blank
import ChipEight.Text.Quoted

namespace ChipEight

/-!
Reading a key from a piece of data.

A key is written as an integer from 0 to 15, or as a text that consists of one hexadecimal digit
and perhaps blanks around it.  Whatever else is found is refused, a floating point number without
regard to its value, and the refusal shows it as it was found.
-/

/-- A piece of data in which a key is looked for; what is inside a collection does not matter. -/
inductive Datum where
  | integer (value : Int)
  | floating (value : Float)
  | text (value : String)
  | boolean (value : Bool)
  | null
  | sequence
  | mapping
deriving DecidableEq, Repr

/-- Why a piece of data is no key. -/
inductive NoKey where
  /-- An integer or a text, but not one that names a key. -/
  | invalidValue (found : Datum)
  /-- Data of a kind that never names a key. -/
  | invalidType (found : Datum)
deriving DecidableEq, Repr

def Datum.description : Datum -> String
  | integer value => "integer \x60" ++ toString value ++ "\x60"
  | floating value => "floating point \x60" ++ Decimal.text value ++ "\x60"
  | text value => "string " ++ Quoted.quote value
  | boolean value => "boolean \x60" ++ (if value then "true" else "false") ++ "\x60"
  | null => "null"
  | sequence => "sequence"
  | mapping => "map"

def NoKey.message : NoKey -> String
  | invalidValue found =>
      "invalid value: " ++ found.description ++ ", expected " ++ KeyCode.rangeText
  | invalidType found =>
      "invalid type: " ++ found.description
        ++ ", expected an integer between 0 and 15, or a hexadecimal digit"

namespace KeyCode

/-- An integer as a byte, unless it is negative or too large for one. -/
def byte? (value : Int) : Option UInt8 :=
  if 0 ≤ value ∧ value < 256 then some (UInt8.ofNat value.toNat) else none

def ofInt? (value : Int) : Option KeyCode :=
  (byte? value).bind ofByte?

/-- The key named by the only character of a text, blanks around it apart. -/
def ofText? (text : String) : Option KeyCode :=
  match Blank.trim text.toList with
  | [c] => ofDigit? c
  | _ => none

def read (datum : Datum) : Except NoKey KeyCode :=
  match datum with
  | .integer value => (ofInt? value).elim (.error (.invalidValue datum)) .ok
  | .text value => (ofText? value).elim (.error (.invalidValue datum)) .ok
  | _ => .error (.invalidType datum)

end KeyCode
end ChipEight
