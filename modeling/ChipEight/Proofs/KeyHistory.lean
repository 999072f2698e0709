import ChipEight.Keypad
import Mathlib.Logic.Basic

namespace ChipEight

/-!
What a keypad remembers of what was done to it.

A keypad keeps sixteen keys in the bits of one word, and is held by handles.  A copy of a handle
leads to the same keypad, so a front end can press what a machine reads.  Handles are copied at any
time, and there may be other keypads with handles of their own.

A keypad forgets all but this: every key is as the last of the touches that concern the key left it,
whichever handle it came through.  This follows from one step.  A touch leaves the keys that it does
not concern as they were, and what it makes of a key does not depend on the key.
-/

/-- Something that is done to a keypad. -/
inductive Touch where
  | set (key : KeyCode) (pressed : Bool)
  | press (key : KeyCode)
  | release (key : KeyCode)
  | releaseAll
deriving DecidableEq, Repr

namespace Touch

/-- The only key that a touch concerns, if it does not concern all. -/
def key? : Touch -> Option KeyCode
  | set key _ | press key | release key => some key
  | releaseAll => none

/-- What a touch leaves a key as, if it concerns the key. -/
def leaves? (key : KeyCode) : Touch -> Option Bool
  | set other pressed => if other = key then some pressed else none
  | press other => if other = key then some true else none
  | release other => if other = key then some false else none
  | releaseAll => some false

/-- Whether the last of the touches that concern a key left it down; at first no key is down. -/
def lastLeft (touches : List Touch) (key : KeyCode) : Bool :=
  (touches.filterMap (leaves? key)).getLast?.getD false

def onKeypad (keypad : Keypad) : Touch -> Keypad
  | set key pressed => keypad.set key pressed
  | press key => keypad.press key
  | release key => keypad.release key
  | releaseAll => keypad.releaseAll

end Touch

namespace Keypad

theorem toBitVec_bit {number : Nat} (inside : number < 16) :
    (bit number).toBitVec = BitVec.twoPow 16 number := by
  have each : forall place : Fin 16, (bit place.val).toBitVec = BitVec.twoPow 16 place.val := by
    decide
  exact each ⟨number, inside⟩

/-- To test a key is to read its bit. -/
theorem test_eq_getLsbD (keypad : Keypad) {number : Nat} (inside : number < 16) :
    keypad.test number = keypad.bits.toBitVec.getLsbD number := by
  have single : BitVec.twoPow 16 number ≠ 0#16 := by
    intro none
    have bit := congrArg (fun word : BitVec 16 => word.getLsbD number) none
    simp [inside] at bit
  rw [test, Bool.eq_iff_iff, bne_iff_ne, ne_eq, ← UInt16.toBitVec_inj, UInt16.toBitVec_and,
    toBitVec_bit inside, BitVec.and_twoPow]
  cases keypad.bits.toBitVec.getLsbD number with
  | true => simp [single]
  | false => simp

theorem test_eq_testBit (keypad : Keypad) {number : Nat} (inside : number < 16) :
    keypad.test number = keypad.bits.toNat.testBit number :=
  keypad.test_eq_getLsbD inside

theorem get_keys (keypad : Keypad) (key : Fin 16) : keypad.keys.get key = keypad.test key.val := by
  change (Vector.ofFn fun key : Fin 16 => keypad.test key.val)[key.val] = keypad.test key.val
  rw [Vector.getElem_ofFn]

/-- A keypad is known by its keys. -/
theorem ext_test {keypad other : Keypad}
    (same : forall key : KeyCode, keypad.test key.value.val = other.test key.value.val) :
    keypad = other := by
  cases keypad
  cases other
  apply congrArg Keypad.mk
  apply UInt16.toBitVec_inj.mp
  apply BitVec.eq_of_getLsbD_eq
  intro place inside
  have key := same ⟨⟨place, inside⟩⟩
  rwa [test_eq_getLsbD _ inside, test_eq_getLsbD _ inside] at key

theorem test_released (number : Nat) : released.test number = false := by
  rw [released, test, UInt16.zero_and, bne_self_eq_false]

/-- A change shows at its key, and at no other. -/
theorem test_set (keypad : Keypad) (changed key : KeyCode) (pressed : Bool) :
    (keypad.set changed pressed).test key.value.val =
      if changed = key then pressed else keypad.test key.value.val := by
  have place : changed.value.val = key.value.val ↔ changed = key := by
    rw [Fin.val_inj]
    exact ⟨fun same => congrArg KeyCode.mk same, congrArg KeyCode.value⟩
  have single : (bit changed.value.val).toBitVec.getLsbD key.value.val = decide (changed = key) := by
    rw [toBitVec_bit changed.value.isLt, BitVec.getLsbD_twoPow, decide_eq_true changed.value.isLt,
      Bool.true_and, decide_eq_decide, place]
  rw [test_eq_getLsbD _ key.value.isLt, test_eq_getLsbD _ key.value.isLt]
  cases pressed with
  | true =>
      change (keypad.bits ||| bit changed.value.val).toBitVec.getLsbD key.value.val = _
      rw [UInt16.toBitVec_or, BitVec.getLsbD_or, single]
      by_cases here : changed = key <;> simp [here]
  | false =>
      change (keypad.bits &&& ~~~ bit changed.value.val).toBitVec.getLsbD key.value.val = _
      rw [UInt16.toBitVec_and, UInt16.toBitVec_not, BitVec.getLsbD_and, BitVec.getLsbD_not, single,
        decide_eq_true key.value.isLt]
      by_cases here : changed = key <;> simp [here]

/-- Some key is down exactly if not all bits are zero. -/
theorem anyKey_iff (keypad : Keypad) :
    keypad.anyKey = true ↔ Exists fun key : KeyCode => keypad.keys.get key.value = true := by
  have none : keypad.bits = 0 ↔ forall key : KeyCode, keypad.test key.value.val = false := by
    constructor
    · intro empty key
      have same : keypad = released := congrArg Keypad.mk empty
      rw [same, test_released]
    · intro up
      have same : keypad = released := ext_test fun key => (up key).trans (test_released _).symm
      rw [same, released]
  rw [anyKey, decide_eq_true_iff, gt_iff_lt, UInt16.pos_iff_ne_zero, ne_eq, none, not_forall]
  simp only [get_keys, Bool.not_eq_false]

end Keypad

namespace Touch

/-- A key that a touch concerns becomes what the touch makes of it, and the others stay. -/
theorem test_onKeypad (keypad : Keypad) (touch : Touch) (key : KeyCode) :
    (touch.onKeypad keypad).test key.value.val =
      (touch.leaves? key).getD (keypad.test key.value.val) := by
  have decided (other : KeyCode) (pressed : Bool) :
      (keypad.set other pressed).test key.value.val =
        (if other = key then some pressed else none).getD (keypad.test key.value.val) := by
    rw [Keypad.test_set]
    by_cases here : other = key
    · rw [if_pos here, if_pos here, Option.getD_some]
    · rw [if_neg here, if_neg here, Option.getD_none]
  cases touch with
  | set other pressed => exact decided other pressed
  | press other => exact decided other true
  | release other => exact decided other false
  | releaseAll => exact Keypad.test_released key.value.val

/-- After any number of touches a key is as the last one that concerns it left it. -/
theorem test_foldl (keypad : Keypad) (touches : List Touch) (key : KeyCode) :
    (touches.foldl onKeypad keypad).test key.value.val =
      (touches.filterMap (leaves? key)).getLast?.getD (keypad.test key.value.val) := by
  induction touches generalizing keypad with
  | nil => rfl
  | cons touch touches inductionHypothesis =>
      rw [List.foldl_cons, inductionHypothesis, test_onKeypad]
      cases leaves : touch.leaves? key with
      | none => rw [List.filterMap_cons_none leaves, Option.getD_none]
      | some pressed =>
          rw [List.filterMap_cons_some leaves, List.getLast?_cons, Option.getD_some,
            Option.getD_some]

theorem leaves?_of_ne {touch : Touch} {key other : KeyCode} (about : touch.key? = some key)
    (apart : key ≠ other) : touch.leaves? other = none := by
  cases touch with
  | set | press | release =>
      cases about
      exact if_neg apart
  | releaseAll => cases about

/-- Touches of different keys do not get into each other's way. -/
theorem onKeypad_comm {first second : Touch} {here there : KeyCode}
    (about : first.key? = some here) (other : second.key? = some there) (apart : here ≠ there)
    (keypad : Keypad) :
    second.onKeypad (first.onKeypad keypad) = first.onKeypad (second.onKeypad keypad) := by
  apply Keypad.ext_test
  intro key
  simp only [test_onKeypad]
  by_cases atHere : here = key
  · rw [leaves?_of_ne other (fun atThere => apart (atHere.trans atThere.symm)), Option.getD_none,
      Option.getD_none]
  · rw [leaves?_of_ne about atHere, Option.getD_none, Option.getD_none]

end Touch

/-- Keypads, and the handles that lead to them, in the order in which they came up. -/
@[ext]
structure Room where
  keypads : List Keypad
  /-- For each handle, the number of its keypad. -/
  handles : List Nat
  /-- No handle leads nowhere. -/
  lead : forall number, number ∈ handles -> number < keypads.length

/-- Something that is done in a room; with a handle that there is not, nothing is done. -/
inductive Deed where
  /-- Bring in a keypad with its first handle. -/
  | bring
  /-- Copy a handle. -/
  | copy (handle : Nat)
  /-- Touch a keypad through one of its handles. -/
  | touch (handle : Nat) (touch : Touch)
deriving DecidableEq, Repr

namespace Room

def empty : Room where
  keypads := []
  handles := []
  lead := fun _ member => absurd member List.not_mem_nil

def bring (room : Room) : Room where
  keypads := room.keypads ++ [.released]
  handles := room.handles ++ [room.keypads.length]
  lead := by
    intro number member
    rw [List.length_append, List.length_singleton]
    rcases List.mem_append.mp member with old | new
    · exact Nat.lt_succ_of_lt (room.lead number old)
    · rw [List.mem_singleton.mp new]
      exact Nat.lt_succ_self room.keypads.length

def copy (room : Room) (handle : Nat) : Room where
  keypads := room.keypads
  handles := room.handles ++ room.handles[handle]?.toList
  lead := by
    intro number member
    rcases List.mem_append.mp member with old | new
    · exact room.lead number old
    · exact room.lead number (List.mem_of_getElem? (Option.mem_toList.mp new))

/-- The keypads after the one with a number was touched. -/
def touched (keypads : List Keypad) (touch : Touch) : Option Nat -> List Keypad
  | some number => keypads.modify number fun keypad => touch.onKeypad keypad
  | none => keypads

theorem length_touched (keypads : List Keypad) (touch : Touch) (target : Option Nat) :
    (touched keypads touch target).length = keypads.length := by
  cases target with
  | none => rfl
  | some number => exact List.length_modify _ _ _

theorem getElem?_touched (keypads : List Keypad) (touch : Touch) (target : Option Nat)
    (number : Nat) : (touched keypads touch target)[number]? =
      if target = some number then keypads[number]?.map fun keypad => touch.onKeypad keypad
      else keypads[number]? := by
  cases target with
  | none => rw [if_neg (Option.some_ne_none number).symm, touched]
  | some target =>
      rw [touched, List.getElem?_modify]
      by_cases here : target = number <;> simp [here]

def touch (room : Room) (handle : Nat) (touch : Touch) : Room where
  keypads := touched room.keypads touch room.handles[handle]?
  handles := room.handles
  lead := by
    rw [length_touched]
    exact room.lead

/-- The room after a deed. -/
def after (room : Room) : Deed -> Room
  | .bring => room.bring
  | .copy handle => room.copy handle
  | .touch handle touch => room.touch handle touch

def afterAll (room : Room) (deeds : List Deed) : Room :=
  deeds.foldl after room

/-- The keypad that a handle leads to. -/
def behind? (room : Room) (handle : Nat) : Option Keypad :=
  room.handles[handle]?.bind fun number => room.keypads[number]?

/-- The touch of a keypad that a deed is, if it comes through one of the handles of the keypad. -/
def touch? (room : Room) (number : Nat) : Deed -> Option Touch
  | .touch handle touch => if room.handles[handle]? = some number then some touch else none
  | .bring | .copy _ => none

/-- The touches of a keypad, through whichever of its handles, in their order. -/
def touches (number : Nat) : Room -> List Deed -> List Touch
  | _, [] => []
  | room, deed :: deeds => (room.touch? number deed).toList ++ (room.after deed).touches number deeds

variable (room : Room)

/-- The keypad with a number, or what it will be when it is brought in. -/
def keypad (number : Nat) : Keypad :=
  room.keypads[number]?.getD .released

theorem keypad_bring (number : Nat) : room.bring.keypad number = room.keypad number := by
  rw [keypad, keypad, bring]
  rcases Nat.lt_trichotomy number room.keypads.length with old | new | later
  · rw [List.getElem?_append_left old]
  · rw [new, List.getElem?_concat_length, List.getElem?_eq_none (Nat.le_refl _)]
    rfl
  · have none : (room.keypads ++ [Keypad.released])[number]? = none := by
      apply List.getElem?_eq_none
      rw [List.length_append, List.length_singleton]
      exact later
    rw [none, List.getElem?_eq_none (Nat.le_of_lt later)]

/-- A deed does to a keypad what it does through one of its handles. -/
theorem keypad_after (deed : Deed) (number : Nat) :
    (room.after deed).keypad number =
      (room.touch? number deed).toList.foldl Touch.onKeypad (room.keypad number) := by
  cases deed with
  | bring => exact room.keypad_bring number
  | copy handle => rfl
  | touch handle touch =>
      rw [keypad, after, Room.touch, getElem?_touched, touch?]
      by_cases leads : room.handles[handle]? = some number
      · have inside := room.lead number (List.mem_of_getElem? leads)
        rw [if_pos leads, if_pos leads, keypad, List.getElem?_eq_getElem inside]
        rfl
      · rw [if_neg leads, if_neg leads]
        rfl

/-- A history does to a keypad what was done through its handles. -/
theorem keypad_afterAll (deeds : List Deed) (number : Nat) :
    (room.afterAll deeds).keypad number =
      (room.touches number deeds).foldl Touch.onKeypad (room.keypad number) := by
  induction deeds generalizing room with
  | nil => rfl
  | cons deed deeds inductionHypothesis =>
      change ((room.after deed).afterAll deeds).keypad number = _
      rw [inductionHypothesis, keypad_after, touches, List.foldl_append]

/-- In a room that was empty at first, a key is as the last touch that concerns it left it. -/
theorem test_afterAll_empty (deeds : List Deed) (number : Nat) (key : KeyCode) :
    ((empty.afterAll deeds).keypad number).test key.value.val =
      Touch.lastLeft (empty.touches number deeds) key := by
  have fresh : empty.keypad number = .released := rfl
  rw [keypad_afterAll, fresh, Touch.test_foldl, Keypad.test_released, Touch.lastLeft]

/-- Handles lead where they led. -/
theorem handles_after (deed : Deed) : room.handles <+: (room.after deed).handles := by
  cases deed with
  | bring => exact List.prefix_append room.handles [room.keypads.length]
  | copy handle => exact List.prefix_append room.handles room.handles[handle]?.toList
  | touch handle touch => exact List.prefix_rfl

theorem handles_afterAll (deeds : List Deed) : room.handles <+: (room.afterAll deeds).handles := by
  induction deeds generalizing room with
  | nil => exact List.prefix_rfl
  | cons deed deeds inductionHypothesis =>
      exact (room.handles_after deed).trans (inductionHypothesis (room.after deed))

theorem leads_afterAll (deeds : List Deed) {handle number : Nat}
    (leads : room.handles[handle]? = some number) :
    (room.afterAll deeds).handles[handle]? = some number := by
  obtain ⟨later, whole⟩ := room.handles_afterAll deeds
  have inside := (List.getElem?_eq_some_iff.mp leads).1
  rw [← whole, List.getElem?_append_left inside, leads]

theorem behind?_of_leads {handle number : Nat} (leads : room.handles[handle]? = some number) :
    room.behind? handle = some (room.keypad number) := by
  have inside := room.lead number (List.mem_of_getElem? leads)
  rw [behind?, leads, Option.bind_some, keypad, List.getElem?_eq_getElem inside, Option.getD_some]

/-- A copy of a handle leads for ever to the same keypad. -/
theorem behind?_copy {handle : Nat} (inside : handle < room.handles.length) (deeds : List Deed) :
    ((room.copy handle).afterAll deeds).behind? room.handles.length =
      ((room.copy handle).afterAll deeds).behind? handle := by
  have leads := List.getElem?_eq_getElem inside
  have old : (room.copy handle).handles[handle]? = some room.handles[handle] := by
    rw [copy, List.getElem?_append_left inside, leads]
  have new : (room.copy handle).handles[room.handles.length]? = some room.handles[handle] := by
    change (room.handles ++ room.handles[handle]?.toList)[room.handles.length]? = _
    rw [leads, Option.toList_some, List.getElem?_concat_length]
  rw [behind?_of_leads _ (leads_afterAll _ deeds old),
    behind?_of_leads _ (leads_afterAll _ deeds new)]

/-- Touches of different keys can be made in either order, through any handles. -/
theorem touch_comm {first second : Touch} {here there : KeyCode} (about : first.key? = some here)
    (other : second.key? = some there) (apart : here ≠ there) (handle another : Nat) :
    (room.touch handle first).touch another second =
      (room.touch another second).touch handle first := by
  apply Room.ext
  · apply List.ext_getElem?
    intro number
    simp only [Room.touch, getElem?_touched]
    by_cases one : room.handles[handle]? = some number
    · by_cases two : room.handles[another]? = some number
      · simp only [one, two, if_true, Option.map_map, Function.comp_def,
          Touch.onKeypad_comm about other apart]
      · simp only [one, two, if_true, if_false]
    · simp only [one, if_false]
  · rfl

end Room
end ChipEight
