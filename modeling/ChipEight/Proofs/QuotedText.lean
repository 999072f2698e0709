import ChipEight.Proofs.Digits
import ChipEight.Text.Quoted
import Mathlib.Data.List.Basic

namespace ChipEight

/-!
Quoted text hides nothing.

The escapes of a quoted text can be told from its other characters, because a backslash is itself
escaped, and each of them says which character it stands for.  A quote inside the text is escaped
too, so the next one that is not is the end.  A text can therefore be read back from between its
quotes, character by character and whatever follows, and no two texts are quoted alike.
-/

namespace Hex

theorem value?_toLower {c : Char} (digit : isDigit c = true) : value? c.toLower = value? c := by
  have capitals : forall value, value < 16 ->
      value? (Hex.digit value).toLower = value? (Hex.digit value) := by decide
  have smalls : forall value, value < 16 ->
      value? (smallDigit value).toLower = value? (smallDigit value) := by decide
  obtain ⟨value, read⟩ := Option.isSome_iff_exists.mp digit
  obtain ⟨small, rfl | rfl⟩ := value?_eq_some_iff.mp read
  · exact capitals value small
  · exact smalls value small

/-- Digits stand for the same number in either case. -/
theorem number_map_toLower {digits : List Char}
    (all : forall c, c ∈ digits -> isDigit c = true) :
    number (digits.map Char.toLower) = number digits := by
  rw [number, List.foldl_map]
  apply List.foldl_ext
  intro high c member
  rw [value?_toLower (all c member)]

end Hex

namespace Quoted

theorem number_codePoint (value : Nat) : Hex.number (codePoint value) = value := by
  have digits : forall c, c ∈ Hex.lowest (Hex.places value) value -> Hex.isDigit c = true :=
    fun c member => Hex.isDigit_of_mem_lowest member
  rw [codePoint, Hex.number_map_toLower digits, Hex.number_lowest,
    Nat.mod_eq_of_lt (Hex.lt_pow_places value)]

theorem isDigit_of_mem_codePoint {value : Nat} {c : Char} (member : c ∈ codePoint value) :
    Hex.isDigit c = true := by
  obtain ⟨digit, inside, rfl⟩ := List.mem_map.mp member
  have isDigit := Hex.isDigit_of_mem_lowest inside
  rw [Hex.isDigit, Hex.value?_toLower isDigit]
  exact isDigit

/-- The character that a short escape stands for. -/
def named : Char -> Option Char
  | '0' => some '\x00'
  | 't' => some '\t'
  | 'r' => some '\r'
  | 'n' => some '\n'
  | '"' => some '"'
  | '\\' => some '\\'
  | _ => none

/-- The character that an escape stands for, behind its backslash, and what follows. -/
def escaped? : List Char -> Option (Char × List Char)
  | 'u' :: '\x7b' :: rest =>
      some (Char.ofNat (Hex.number (rest.takeWhile Hex.isDigit)), (rest.dropWhile Hex.isDigit).tail)
  | mark :: rest => (named mark).map fun c => (c, rest)
  | [] => none

/-- The first character that the inside of a quotation stands for, and what follows. -/
def unescape? : List Char -> Option (Char × List Char)
  | [] => none
  | first :: rest => if first = '\\' then escaped? rest else some (first, rest)

theorem escaped?_codePoint (c : Char) (rest : List Char) :
    escaped? ('u' :: '\x7b' :: (codePoint c.toNat ++ '\x7d' :: rest)) = some (c, rest) := by
  have digits : forall digit, digit ∈ codePoint c.toNat -> Hex.isDigit digit = true :=
    fun _ member => isDigit_of_mem_codePoint member
  have brace : ¬ Hex.isDigit '\x7d' = true := by decide
  rw [escaped?, List.takeWhile_append_of_pos digits, List.dropWhile_append_of_pos digits,
    List.takeWhile_cons_of_neg brace, List.dropWhile_cons_of_neg brace, List.append_nil,
    number_codePoint, Char.ofNat_toNat, List.tail_cons]

/-- A character is read back from its escape, whatever follows. -/
theorem unescape?_escape (c : Char) (rest : List Char) :
    unescape? (escape c ++ rest) = some (c, rest) := by
  unfold escape
  split
  case h_7 backslash =>
    split
    case isTrue => exact if_neg backslash
    case isFalse =>
      rw [List.append_assoc, List.append_assoc]
      exact escaped?_codePoint c rest
  all_goals rfl

theorem length_lt_of_escaped? {chars rest : List Char} {c : Char}
    (read : escaped? chars = some (c, rest)) : rest.length < chars.length := by
  unfold escaped? at read
  split at read
  case h_1 digits =>
    cases read
    have tail := (digits.dropWhile Hex.isDigit).length_tail
    have kept := (List.dropWhile_sublist (p := Hex.isDigit) (l := digits)).length_le
    simp only [List.length_cons]
    omega
  case h_2 =>
    obtain ⟨_, -, same⟩ := Option.map_eq_some_iff.mp read
    cases same
    exact Nat.lt_succ_self _
  case h_3 => cases read

theorem length_lt_of_unescape? {chars rest : List Char} {c : Char}
    (read : unescape? chars = some (c, rest)) : rest.length < chars.length := by
  cases chars with
  | nil => cases read
  | cons first behind =>
      rw [unescape?] at read
      split at read
      case isTrue => exact Nat.lt_succ_of_lt (length_lt_of_escaped? read)
      case isFalse =>
        cases read
        exact Nat.lt_succ_self _

/-- What stands in front of the next quote that is not escaped, and what follows that quote. -/
def inside? (chars : List Char) : Option (List Char × List Char) :=
  if chars.head? = some '"' then some ([], chars.tail)
  else
    match _read : unescape? chars with
    | none => none
    | some (c, rest) => (inside? rest).map fun (text, behind) => (c :: text, behind)
termination_by chars.length
decreasing_by exact length_lt_of_unescape? _read

/-- The text that a quotation at the front stands for, and what follows the quotation. -/
def unquote? : List Char -> Option (String × List Char)
  | '"' :: rest => (inside? rest).map fun (text, behind) => (String.ofList text, behind)
  | _ => none

/-- The escape of a character is not taken for the closing quote. -/
theorem head?_escape_ne (c : Char) (rest : List Char) : (escape c ++ rest).head? ≠ some '"' := by
  unfold escape
  split
  case h_7 notQuote _ =>
    split
    case isTrue => exact fun same => notQuote (Option.some.inj same)
    case isFalse => exact nofun
  all_goals exact nofun

theorem inside?_escape (c : Char) (rest : List Char) :
    inside? (escape c ++ rest) = (inside? rest).map fun (text, behind) => (c :: text, behind) := by
  rw [inside?, if_neg (head?_escape_ne c rest)]
  split
  case h_1 unread =>
    rw [unescape?_escape] at unread
    cases unread
  case h_2 read =>
    rw [unescape?_escape] at read
    cases read
    rfl

theorem inside?_flatMap_escape (text rest : List Char) :
    inside? (text.flatMap escape ++ '"' :: rest) = some (text, rest) := by
  induction text with
  | nil =>
      rw [inside?]
      exact if_pos rfl
  | cons c text inductionHypothesis =>
      rw [List.flatMap_cons, List.append_assoc, inside?_escape, inductionHypothesis]
      rfl

/-- A text is read back from between its quotes, whatever follows them. -/
theorem unquote?_quote (text : String) (rest : List Char) :
    unquote? ((quote text).toList ++ rest) = some (text, rest) := by
  have shape : (quote text).toList ++ rest =
      '"' :: (text.toList.flatMap escape ++ '"' :: rest) := by
    rw [quote, String.toList_ofList, List.append_assoc, List.append_assoc]
    rfl
  rw [shape, unquote?, inside?_flatMap_escape]
  exact congrArg (fun text => some (text, rest)) String.ofList_toList

/-- No two texts are quoted alike. -/
theorem quote_injective : Function.Injective quote := by
  intro text other same
  have read := unquote?_quote text []
  rw [same, unquote?_quote] at read
  exact (congrArg Prod.fst (Option.some.inj read)).symm

end Quoted
end ChipEight
