import ChipEight.KeyMap

namespace ChipEight

/-!
How far letters match regardless of their case.

A character presses the key of the first definition that has it.  A capital without a definition
presses the key of its small letter.  There is no way back: a small letter does not press the key
that is defined for its capital alone.  So both cases of a letter press a key, or neither does, just
when the small letter is defined wherever the capital is.
-/

theorem isCapital_iff {c : Char} : 'A' ≤ c ∧ c ≤ 'Z' ↔ 65 ≤ c.toNat ∧ c.toNat ≤ 90 :=
  and_congr UInt32.le_iff_toNat_le UInt32.le_iff_toNat_le

theorem isSmall_iff {c : Char} : 'a' ≤ c ∧ c ≤ 'z' ↔ 97 ≤ c.toNat ∧ c.toNat ≤ 122 :=
  and_congr UInt32.le_iff_toNat_le UInt32.le_iff_toNat_le

theorem toNat_toLower (c : Char) :
    c.toLower.toNat = if 65 ≤ c.toNat ∧ c.toNat ≤ 90 then c.toNat + 32 else c.toNat := by
  delta Char.toLower
  split
  case isTrue capital =>
    have within := isCapital_iff.mp capital
    rw [if_pos within]
    calc
      (c.val + ('a'.val - 'A'.val)).toNat = (c.toNat + 32) % 4294967296 := UInt32.toNat_add ..
      _ = c.toNat + 32 := by omega
  case isFalse other => rw [if_neg (mt isCapital_iff.mpr other)]

theorem toNat_toUpper (c : Char) :
    c.toUpper.toNat = if 97 ≤ c.toNat ∧ c.toNat ≤ 122 then c.toNat - 32 else c.toNat := by
  delta Char.toUpper
  split
  case isTrue small =>
    have within := isSmall_iff.mp small
    rw [if_pos within]
    -- What is added is -32 in 32 bits.
    calc
      (c.val + ('A'.val - 'a'.val)).toNat = (c.toNat + 4294967264) % 4294967296 :=
        UInt32.toNat_add ..
      _ = c.toNat - 32 := by omega
  case isFalse other => rw [if_neg (mt isSmall_iff.mpr other)]

/-- Small letters are those of ASCII. -/
theorem smallLetter_eq_toLower (c : Char) : smallLetter c = c.toLower := by
  apply Char.toNat_inj.mp
  rw [toNat_toLower, smallLetter]
  split
  case isTrue capital =>
    have within := isCapital_iff.mp capital
    have valid : (c.toNat + 32).isValidChar := Or.inl (by omega)
    rw [if_pos within, Char.ofNat, dif_pos valid]
    rfl
  case isFalse other => rw [if_neg (mt isCapital_iff.mpr other)]

theorem smallLetter_toLower (c : Char) : smallLetter c.toLower = c.toLower := by
  apply Char.toNat_inj.mp
  rw [smallLetter_eq_toLower, toNat_toLower, toNat_toLower]
  grind

theorem smallLetter_toUpper (c : Char) : smallLetter c.toUpper = c.toLower := by
  apply Char.toNat_inj.mp
  rw [smallLetter_eq_toLower, toNat_toLower, toNat_toLower, toNat_toUpper]
  grind

namespace KeyMap

/-- Some definition of a list has a character. -/
def Defined (definitions : List KeyDefinition) (c : Char) : Prop :=
  Exists fun definition => definition ∈ definitions ∧ c ∈ definition.characters

section

variable {definitions : List KeyDefinition}

theorem isSome_find?_iff {c : Char} :
    ((ofDefinitions definitions).find? c).isSome = true ↔ Defined definitions c := by
  rw [find?, Option.isSome_map, List.find?_isSome]
  constructor
  · rintro ⟨binding, bound, same⟩
    obtain ⟨definition, listed, inside⟩ := List.mem_flatMap.mp bound
    obtain ⟨c, member, rfl⟩ := List.mem_map.mp inside
    obtain rfl := beq_iff_eq.mp same
    exact ⟨definition, listed, member⟩
  · rintro ⟨definition, listed, member⟩
    have bound := List.mem_map_of_mem (f := fun c => (c, definition.key)) member
    exact ⟨_, List.mem_flatMap.mpr ⟨definition, listed, bound⟩, beq_self_eq_true c⟩

/-- A small letter presses a key by its own definition only. -/
theorem press?_toLower (keyMap : KeyMap) (c : Char) :
    keyMap.press? c.toLower = keyMap.find? c.toLower := by
  rw [press?, smallLetter_toLower, Option.or_self]

/-- A capital presses a key by its own definition, or else by that of its small letter. -/
theorem press?_toUpper (keyMap : KeyMap) (c : Char) :
    keyMap.press? c.toUpper = (keyMap.find? c.toUpper).or (keyMap.find? c.toLower) := by
  rw [press?, smallLetter_toUpper]

theorem isSome_press?_toLower {c : Char} :
    ((ofDefinitions definitions).press? c.toLower).isSome = true ↔
      Defined definitions c.toLower := by
  rw [press?_toLower, isSome_find?_iff]

theorem isSome_press?_toUpper {c : Char} :
    ((ofDefinitions definitions).press? c.toUpper).isSome = true ↔
      Defined definitions c.toUpper ∨ Defined definitions c.toLower := by
  rw [press?_toUpper, Option.isSome_or, Bool.or_eq_true, isSome_find?_iff, isSome_find?_iff]

end

/-- Where the small letter presses a key, the capital does too, and it is the same key unless the
capital has a definition of its own.  Both of them press a key, or neither does, just when the small
letter has a definition if the capital has one. -/
theorem letter_cases_agree_iff (definitions : List KeyDefinition) (c : Char) :
    let keyMap := ofDefinitions definitions
    let defined := Defined definitions
    ((keyMap.press? c.toLower).isSome = true -> (keyMap.press? c.toUpper).isSome = true) ∧
    (¬ defined c.toUpper -> keyMap.press? c.toUpper = keyMap.press? c.toLower) ∧
    (((keyMap.press? c.toUpper).isSome = true ↔ (keyMap.press? c.toLower).isSome = true) ↔
      (defined c.toUpper -> defined c.toLower)) := by
  intro keyMap defined
  have small : (keyMap.press? c.toLower).isSome = true ↔ defined c.toLower :=
    isSome_press?_toLower
  have capital : (keyMap.press? c.toUpper).isSome = true ↔
      defined c.toUpper ∨ defined c.toLower := isSome_press?_toUpper
  rw [small, capital]
  refine ⟨Or.inr, fun undefined => ?_, ?_⟩
  · have unbound : keyMap.find? c.toUpper = none := by
      rw [← Option.not_isSome_iff_eq_none]
      exact mt isSome_find?_iff.mp undefined
    rw [press?_toUpper, press?_toLower, unbound, Option.none_or]
  · exact ⟨fun both first => both.mp (Or.inl first),
      fun along => ⟨fun either => either.elim along id, Or.inr⟩⟩

/-- A key that is defined for a capital alone is not pressed by the small letter. -/
theorem capital_definition_misses_small_letter :
    let keyMap := ofDefinitions [⟨⟨0⟩, ['A']⟩]
    ¬ ((keyMap.press? 'a'.toUpper).isSome = true ↔ (keyMap.press? 'a'.toLower).isSome = true) := by
  decide

end KeyMap
end ChipEight
