import ChipEight.KeyCode.Reading
import ChipEight.Proofs.QuotedText
import Mathlib.Data.List.DropRight
import Mathlib.Data.List.TakeWhile

namespace ChipEight

/-!
How a key is written.

A key is written as an integer, or as its hexadecimal digit, capital or small, with any blanks
around it.  These are all the ways, and in each of them the key is read back.  The integers are not
cut to the width of a byte first, and the digits are those of ASCII only.

All other integers and texts are refused as invalid values, and the refusal quotes them as they were
found, blanks included.  Data of any other kind is refused for its type, whatever it contains.
-/

namespace Blank

/-- A text from which only one visible character is left has nothing but blanks around it. -/
theorem trim_eq_singleton_iff {text : List Char} {c : Char} (visible : isBlank c = false) :
    trim text = [c] ↔ Exists fun before => Exists fun after =>
      (forall blank, blank ∈ before -> isBlank blank = true) ∧
      (forall blank, blank ∈ after -> isBlank blank = true) ∧ text = before ++ c :: after := by
  have notBlank : ¬ isBlank c = true := by
    rw [visible]
    exact Bool.false_ne_true
  constructor
  · intro trimmed
    change (text.dropWhile isBlank).rdropWhile isBlank = [c] at trimmed
    refine ⟨text.takeWhile isBlank, (text.dropWhile isBlank).rtakeWhile isBlank,
      fun _ member => List.mem_takeWhile_imp member, fun _ member => List.mem_rtakeWhile_imp member,
      ?_⟩
    calc
      text = text.takeWhile isBlank ++ text.dropWhile isBlank :=
        List.takeWhile_append_dropWhile.symm
      _ = text.takeWhile isBlank ++ ((text.dropWhile isBlank).rdropWhile isBlank ++
          (text.dropWhile isBlank).rtakeWhile isBlank) := by
        rw [List.rdropWhile_append_rtakeWhile]
      _ = text.takeWhile isBlank ++ c :: (text.dropWhile isBlank).rtakeWhile isBlank := by
        rw [trimmed]
        rfl
  · rintro ⟨before, after, blanksBefore, blanksBehind, rfl⟩
    have reversed : forall blank, blank ∈ after.reverse -> isBlank blank = true :=
      fun blank member => blanksBehind blank (List.mem_reverse.mp member)
    rw [trim, List.dropWhile_append_of_pos blanksBefore, List.dropWhile_cons_of_neg notBlank,
      List.reverse_cons, List.dropWhile_append_of_pos reversed,
      List.dropWhile_cons_of_neg notBlank]
    rfl

end Blank

namespace KeyCode

/-- The digits of a key, capital and small. -/
def Names (c : Char) (key : KeyCode) : Prop :=
  c = Hex.digit key.value.val ∨ c = Hex.smallDigit key.value.val

/-- The ways in which a key is written. -/
inductive Written (key : KeyCode) : Datum -> Prop where
  | integer : Written key (.integer key.value.val)
  | digit {before after : List Char} {c : Char}
      (blanksBefore : forall blank, blank ∈ before -> Blank.isBlank blank = true)
      (blanksBehind : forall blank, blank ∈ after -> Blank.isBlank blank = true)
      (names : Names c key) : Written key (.text (String.ofList (before ++ c :: after)))

variable {key : KeyCode}

theorem ofNat?_eq_some_iff {number : Nat} : ofNat? number = some key ↔ number = key.value.val := by
  unfold ofNat?
  constructor
  · intro found
    split at found
    case isTrue => exact congrArg (fun key : KeyCode => key.value.val) (Option.some.inj found)
    case isFalse => cases found
  · rintro rfl
    exact dif_pos key.value.isLt

/-- The byte of a number is that number as long as it is cut from nothing larger. -/
theorem ofByte?_ofNat {number : Nat} (small : number < 256) :
    ofByte? (UInt8.ofNat number) = ofNat? number := by
  rw [ofByte?, UInt8.toNat_ofNat_of_lt' small]

theorem ofInt?_eq_some_iff {value : Int} : ofInt? value = some key ↔ value = key.value.val := by
  have inside := key.value.isLt
  unfold ofInt? byte?
  split
  case isTrue small =>
    have narrow : value.toNat < 256 := by omega
    rw [Option.bind_some, ofByte?_ofNat narrow, ofNat?_eq_some_iff]
    omega
  case isFalse large =>
    rw [Option.bind_none]
    refine iff_of_false nofun ?_
    rintro rfl
    omega

theorem ofDigit?_eq_some_iff {c : Char} : ofDigit? c = some key ↔ Names c key := by
  rw [ofDigit?, Option.bind_eq_some_iff]
  constructor
  · rintro ⟨value, read, found⟩
    obtain ⟨small, shapes⟩ := Hex.value?_eq_some_iff.mp read
    rw [ofByte?_ofNat (Nat.lt_trans small (by decide)), ofNat?_eq_some_iff] at found
    rwa [found] at shapes
  · intro names
    have small := key.value.isLt
    refine ⟨key.value.val, Hex.value?_eq_some_iff.mpr ⟨small, names⟩, ?_⟩
    rw [ofByte?_ofNat (Nat.lt_trans small (by decide)), ofNat?_eq_some_iff]

theorem visible_of_names {c : Char} (names : Names c key) : Blank.isBlank c = false := by
  have visible : forall value, value < 16 -> Blank.isBlank (Hex.digit value) = false ∧
      Blank.isBlank (Hex.smallDigit value) = false := by decide
  rcases names with rfl | rfl
  · exact (visible _ key.value.isLt).1
  · exact (visible _ key.value.isLt).2

theorem written_integer_iff {value : Int} :
    Written key (.integer value) ↔ value = key.value.val := by
  constructor
  · intro written
    cases written
    rfl
  · rintro rfl
    exact .integer

theorem ofText?_eq_some_iff {text : String} :
    ofText? text = some key ↔ Written key (.text text) := by
  constructor
  · intro found
    unfold ofText? at found
    split at found
    case h_1 c trimmed =>
      have names := ofDigit?_eq_some_iff.mp found
      obtain ⟨before, after, blanksBefore, blanksBehind, shape⟩ :=
        (Blank.trim_eq_singleton_iff (visible_of_names names)).mp trimmed
      obtain rfl : String.ofList (before ++ c :: after) = text := by
        rw [← shape, String.ofList_toList]
      exact .digit blanksBefore blanksBehind names
    case h_2 => cases found
  · rintro ⟨⟩
    case digit before after c blanksBefore blanksBehind names =>
      have trimmed := (Blank.trim_eq_singleton_iff (visible_of_names names)).mpr
        ⟨before, after, blanksBefore, blanksBehind, rfl⟩
      rw [ofText?, String.toList_ofList, trimmed]
      exact ofDigit?_eq_some_iff.mpr names

theorem elim_eq_ok_iff {found : Option KeyCode} {reason : NoKey} :
    found.elim (.error reason) Except.ok = .ok key ↔ found = some key := by
  cases found with
  | none => exact ⟨nofun, nofun⟩
  | some other =>
      rw [Option.elim_some, Except.ok.injEq, Option.some_inj]

/-- A key is read where it is written, and nowhere else. -/
theorem read_eq_ok_iff {datum : Datum} : read datum = .ok key ↔ Written key datum := by
  cases datum with
  | integer value => exact elim_eq_ok_iff.trans (ofInt?_eq_some_iff.trans written_integer_iff.symm)
  | text value => exact elim_eq_ok_iff.trans ofText?_eq_some_iff
  | _ => exact ⟨nofun, nofun⟩

theorem elim_of_unwritten {found : Option KeyCode} {reason : NoKey}
    (unwritten : forall key, found ≠ some key) :
    found.elim (.error reason) Except.ok = .error reason := by
  rw [Option.eq_none_iff_forall_ne_some.mpr unwritten, Option.elim_none]

/-- A key is read from an integer or a text just where it is written in it.  All other integers and
texts are refused as they were found, and the refusal quotes a text so that it can be read back from
between its quotes; data of other kinds is refused for its kind. -/
theorem reads_what_is_written :
    (forall datum key, read datum = .ok key ↔ Written key datum) ∧
    (forall value : Int, (forall key, ¬ Written key (.integer value)) ->
      read (.integer value) = .error (.invalidValue (.integer value))) ∧
    (forall text : String, (forall key, ¬ Written key (.text text)) ->
      read (.text text) = .error (.invalidValue (.text text))) ∧
    (forall value, read (.boolean value) = .error (.invalidType (.boolean value))) ∧
    (forall value, read (.floating value) = .error (.invalidType (.floating value))) ∧
    read .null = .error (.invalidType .null) ∧
    read .sequence = .error (.invalidType .sequence) ∧
    read .mapping = .error (.invalidType .mapping) ∧
    (forall value : Int, (NoKey.invalidValue (.integer value)).message =
      "invalid value: " ++ ("integer \x60" ++ toString value ++ "\x60") ++ ", expected " ++
        rangeText) ∧
    (forall text, (NoKey.invalidValue (.text text)).message =
      "invalid value: " ++ ("string " ++ Quoted.quote text) ++ ", expected " ++ rangeText) ∧
    Function.Injective Quoted.quote ∧
    forall text rest, Quoted.unquote? ((Quoted.quote text).toList ++ rest) = some (text, rest) := by
  refine ⟨fun _ _ => read_eq_ok_iff, fun value unwritten => ?_, fun text unwritten => ?_,
    fun _ => rfl, fun _ => rfl, rfl, rfl, rfl, fun _ => rfl, fun _ => rfl,
    Quoted.quote_injective, Quoted.unquote?_quote⟩
  · apply elim_of_unwritten
    intro key found
    exact unwritten key (written_integer_iff.mpr (ofInt?_eq_some_iff.mp found))
  · apply elim_of_unwritten
    intro key found
    exact unwritten key (ofText?_eq_some_iff.mp found)

/-- A small digit is read between a wide blank and a line end, and fifteen as an integer.  A digit
of full width names no key, nor does an integer whose low byte alone would. -/
theorem reads_what_is_written_wide :
    read (.text "\u3000f\n") = .ok ⟨15⟩ ∧ read (.integer 15) = .ok ⟨15⟩ ∧
    (forall key, ¬ Written key (.integer 256)) ∧
    read (.integer 256) = .error (.invalidValue (.integer 256)) ∧
    (forall key, ¬ Written key (.text " \uFF15")) ∧
    read (.text " \uFF15") = .error (.invalidValue (.text " \uFF15")) := by
  obtain ⟨written, integers, texts, -⟩ := reads_what_is_written
  have digit : Written ⟨15⟩ (.text "\u3000f\n") :=
    @Written.digit ⟨15⟩ ['\u3000'] ['\n'] 'f' (List.forall_mem_singleton.mpr (by decide))
      (List.forall_mem_singleton.mpr (by decide)) (Or.inr rfl)
  have large : forall key, ¬ Written key (.integer 256) := by
    intro key here
    have same := written_integer_iff.mp here
    have small := key.value.isLt
    omega
  have wide : forall key, ¬ Written key (.text " \uFF15") := by
    intro key here
    have unread : ofText? " \uFF15" = none := by decide
    rw [← ofText?_eq_some_iff, unread] at here
    cases here
  exact ⟨(written _ _).mpr digit, (written _ _).mpr .integer, large, integers 256 large, wide,
    texts " \uFF15" wide⟩

end KeyCode
end ChipEight
