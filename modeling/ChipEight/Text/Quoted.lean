import ChipEight.Hex
import ChipEight.Text.Printable

namespace ChipEight
namespace Quoted

/-!
Quoted text: a text between double quotes in which nothing invisible remains.

The common controls, the quote and the backslash have short escapes; every other character that
cannot be shown is given by its code point in braces.
-/

/-- The hexadecimal digits of a number in small letters, without zeros in front. -/
def codePoint (value : Nat) : List Char :=
  (Hex.lowest (Hex.places value) value).map Char.toLower

def escape (c : Char) : List Char :=
  match c with
  | '\x00' => ['\\', '0']
  | '\t' => ['\\', 't']
  | '\r' => ['\\', 'r']
  | '\n' => ['\\', 'n']
  | '"' => ['\\', '"']
  | '\\' => ['\\', '\\']
  | c =>
      if Printable.isPrintable c then [c]
      else ['\\', 'u', '\x7b'] ++ codePoint c.toNat ++ ['\x7d']

def quote (text : String) : String :=
  String.ofList (['"'] ++ text.toList.flatMap escape ++ ['"'])

end Quoted
end ChipEight
