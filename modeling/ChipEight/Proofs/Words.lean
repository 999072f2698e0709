import ChipEight.Proofs.Digits

namespace ChipEight

/-!
Texts made of words and lines come apart again.

A word has no blank, comma or line end in it.  Words between blanks are found again by cutting the
text at its blanks, and lines by cutting it at the line ends.  Numbers are words, in hexadecimal and
in decimal digits.
-/

/-- The characters that stand between words. -/
def separators : List Char :=
  [' ', ',', '\n']

def IsWord (text : List Char) : Prop :=
  forall c, c ∈ text -> c ∉ separators

-- Along the text: the instance for all characters there are cannot be evaluated.
instance (text : List Char) : Decidable (IsWord text) :=
  List.decidableBAll (fun c => c ∉ separators) text

namespace IsWord

variable {text other : List Char}

theorem append (word : IsWord text) (also : IsWord other) : IsWord (text ++ other) := by
  intro c member
  rcases List.mem_append.mp member with early | late
  · exact word c early
  · exact also c late

/-- The characters of a class without separators make up words. -/
theorem of_class (inClass : Char -> Bool) (apart : separators.any inClass = false)
    (only : forall c, c ∈ text -> inClass c = true) : IsWord text := by
  intro c member separator
  exact List.any_eq_false.mp apart c separator (only c member)

theorem hexadecimal (width value : Nat) : IsWord (Hex.padded width value).toList :=
  of_class Hex.isDigit (by decide) fun _ => Hex.isDigit_of_mem

theorem decimal (value : Nat) : IsWord value.repr.toList := by
  rw [Nat.toList_repr]
  exact of_class Char.isDigit (by decide)
    fun _ => Nat.isDigit_of_mem_toDigits (by decide) (by decide)

theorem blank_not_mem (word : IsWord text) : ' ' ∉ text :=
  fun member => word ' ' member (by decide)

theorem filter_comma (word : IsWord text) : text.filter (· ≠ ',') = text := by
  apply List.filter_eq_self.mpr
  rintro c member
  apply decide_eq_true
  rintro rfl
  exact word ',' member (by decide)

/-- Without commas, words between commas and blanks are words between blanks. -/
theorem filter_intercalate {words : List (List Char)}
    (clear : forall word, word ∈ words -> IsWord word) :
    ([',', ' '].intercalate words).filter (· ≠ ',') = [' '].intercalate words := by
  induction words with
  | nil => rfl
  | cons word words inductionHypothesis =>
      have first := (clear word List.mem_cons_self).filter_comma
      cases words with
      | nil => rw [List.intercalate_singleton, List.intercalate_singleton, first]
      | cons next words =>
          have rest := inductionHypothesis
            (fun other member => clear other (List.mem_cons_of_mem word member))
          rw [List.intercalate_cons_cons, List.intercalate_cons_cons, List.filter_append,
            List.filter_append, first, rest]
          rfl

/-- Words between blanks make up a single line. -/
theorem newline_not_mem {words : List (List Char)}
    (clear : forall word, word ∈ words -> IsWord word) : '\n' ∉ [' '].intercalate words := by
  induction words with
  | nil => exact List.not_mem_nil
  | cons word words inductionHypothesis =>
      have first : '\n' ∉ word := fun member =>
        clear word List.mem_cons_self '\n' member (by decide)
      cases words with
      | nil =>
          rw [List.intercalate_singleton]
          exact first
      | cons next words =>
          have rest := inductionHypothesis
            (fun other member => clear other (List.mem_cons_of_mem word member))
          rw [List.intercalate_cons_cons]
          simp [first, rest]

end IsWord

/-- Lines without line ends of their own, each with one behind it, come apart again. -/
theorem splitOn_lines {lines : List (List Char)}
    (whole : forall line, line ∈ lines -> '\n' ∉ line) :
    (lines.flatMap fun line => line ++ ['\n']).splitOn '\n' = lines ++ [[]] := by
  induction lines with
  | nil => rfl
  | cons line lines inductionHypothesis =>
      rw [List.flatMap_cons, List.append_assoc, List.singleton_append,
        List.splitOn_append_cons_self_of_not_mem (whole line List.mem_cons_self),
        inductionHypothesis (fun other member => whole other (List.mem_cons_of_mem line member))]
      rfl

end ChipEight
