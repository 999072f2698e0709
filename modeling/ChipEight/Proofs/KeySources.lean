import ChipEight.Proofs.History
import ChipEight.Proofs.KeyHistory
import ChipEight.Random.ChaCha

namespace ChipEight

/-!
All sources of keys agree.

A source shows a snapshot of all keys, and may know a shorter way to tell one of them.  The keypad
does: it tests a bit, and so must not be asked for a key that it does not have.  A source is lawful
if its short way agrees with its snapshot for every number.  To a machine a lawful source is no more
than its snapshot, at every step and hence in every history.
-/

/-- A source that answers for one key as its snapshot does. -/
class LawfulKeySource (K : Type) [KeySource K] : Prop where
  isPressed_eq : forall (source : K) (number : UInt8),
    KeySource.isPressed source number = (KeySource.keys source).down number

instance : LawfulKeySource Keys where
  isPressed_eq _ _ := rfl

instance : LawfulKeySource Keypad where
  isPressed_eq := Keypad.isPressed_eq_down

instance {K : Type} [KeySource K] : LawfulKeySource (Handle K) where
  isPressed_eq _ _ := rfl

theorem Keys.keys_self (keys : Keys) : KeySource.keys keys = keys :=
  rfl

theorem Handle.keys_mk {K : Type} [KeySource K] (source : K) :
    KeySource.keys (Handle.mk source) = KeySource.keys source :=
  rfl

theorem Keypad.keySource_keys (keypad : Keypad) : KeySource.keys keypad = keypad.keys :=
  rfl

theorem Keypad.keys_snapshot (keypad : Keypad) :
    KeySource.keys keypad.keys = KeySource.keys keypad := by
  rw [Keys.keys_self, keySource_keys]

theorem Keys.down_iff {keys : Keys} {number : UInt8} :
    keys.down number = true ↔
      Exists fun inside : number.toNat < 16 => keys[number.toNat] = true := by
  rw [down]
  by_cases inside : number.toNat < 16
  · simp only [Vector.getElem?_eq_getElem inside, Option.getD_some, exists_prop_of_true inside]
  · simp only [Vector.getElem?_eq_none (Nat.le_of_not_lt inside), Option.getD_none,
      exists_prop_of_false inside, Bool.false_eq_true]

namespace Action

variable {K L : Type}

/-- The same action, with the keys looked at in another way. -/
def through (look : K -> L) : Action K -> Action L
  | tick source => tick (look source)
  | frame replies => frame replies
  | load program => load program
  | setPixel x y on => setPixel x y on

theorem through_through {M : Type} (look : K -> L) (further : L -> M) (action : Action K) :
    (action.through look).through further = action.through (fun source => further (look source)) := by
  cases action <;> rfl

end Action

namespace Machine

variable {G K : Type} [Generator G] [KeySource K] [LawfulKeySource K] (machine : Machine G)

/-- Instructions see of a source what its snapshot shows. -/
theorem execute_snapshot (source : K) (instruction : Instruction) :
    machine.execute source instruction = machine.execute (KeySource.keys source) instruction := by
  have pressed := LawfulKeySource.isPressed_eq source
  cases instruction with
  | skipIfKey x | skipUnlessKey x =>
      simp only [execute, pressed]
      rfl
  | _ => rfl

theorem tick_snapshot (source : K) : machine.tick source = machine.tick (KeySource.keys source) := by
  have executed := execute_snapshot { machine with cpu := machine.cpu.skip } source
    (Instruction.decode machine.cpu.word)
  simp only [tick, Cpu.fetch]
  rw [executed]

theorem runFrom_snapshot (source : K) (count : Nat) (flow : Flow) (told : Array Event) :
    runFrom source count machine flow told =
      runFrom (KeySource.keys source) count machine flow told := by
  induction count generalizing machine flow told with
  | zero => rfl
  | succ count inductionHypothesis =>
      rw [runFrom, runFrom, tick_snapshot]
      exact inductionHypothesis _ _ _

theorem run_snapshot (source : K) (count : Nat) :
    machine.run source count = machine.run (KeySource.keys source) count :=
  machine.runFrom_snapshot source count .ok #[]

theorem after_snapshot (action : Action K) :
    machine.after action = machine.after (action.through KeySource.keys) := by
  cases action with
  | tick source => exact congrArg Step.machine (machine.tick_snapshot source)
  | frame replies => rfl
  | load program => rfl
  | setPixel x y on => rfl

/-- A history with a lawful source is the history with its snapshots. -/
theorem afterAll_snapshot (history : List (Action K)) :
    machine.afterAll history = machine.afterAll (history.map (Action.through KeySource.keys)) := by
  induction history generalizing machine with
  | nil => rfl
  | cons action history inductionHypothesis =>
      rw [List.map_cons, afterAll_cons, afterAll_cons, after_snapshot, inductionHypothesis]

theorem steps_snapshot (history : List (Action K)) :
    machine.steps history = machine.steps (history.map (Action.through KeySource.keys)) := by
  induction history generalizing machine with
  | nil => rfl
  | cons action history inductionHypothesis =>
      cases action with
      | tick source =>
          simp only [List.map_cons, Action.through, steps, ← tick_snapshot]
          rw [inductionHypothesis]
      | frame | load | setPixel =>
          simp only [List.map_cons, Action.through, steps]
          rw [inductionHypothesis]
          rfl

variable {L : Type} [KeySource L] [LawfulKeySource L]

/-- Lawful sources with the same snapshots make the same history. -/
theorem history_through (look : K -> L)
    (same : forall source, KeySource.keys (look source) = KeySource.keys source)
    (history : List (Action K)) :
    machine.afterAll (history.map (Action.through look)) = machine.afterAll history ∧
      machine.steps (history.map (Action.through look)) = machine.steps history := by
  have snapshots : (history.map (Action.through look)).map (Action.through KeySource.keys) =
      history.map (Action.through KeySource.keys) := by
    rw [List.map_map]
    apply List.map_congr_left
    intro action _
    exact (action.through_through look KeySource.keys).trans
      (congrArg action.through (funext same))
  constructor
  · rw [afterAll_snapshot, snapshots, ← afterAll_snapshot]
  · rw [steps_snapshot, snapshots, ← steps_snapshot]

theorem run_eq_of_keys (source : K) (other : L)
    (same : KeySource.keys other = KeySource.keys source) (count : Nat) :
    machine.run other count = machine.run source count := by
  rw [run_snapshot, same, ← run_snapshot]

end Machine

namespace Keypad

/-- Through whichever handles a keypad is touched, its keys and bits are as the last touches left
them.  A handle and its copies show the same, and touches of different keys can change places.  A
single key is answered for in the same way by the keypad, by a handle to it and by a snapshot of it,
also where there is no such key.  So machines that read any of these go the same way. -/
theorem all_views_agree {G : Type} [Generator G] :
    (forall (deeds : List Deed) (handle : Nat),
      let room := Room.empty.afterAll deeds
      handle < room.handles.length ->
        Exists fun number => Exists fun keypad =>
          room.handles[handle]? = some number ∧ room.behind? handle = some keypad ∧
          (forall key : KeyCode,
            let left := Touch.lastLeft (Room.empty.touches number deeds) key
            keypad.keys.get key.value = left ∧ keypad.bits.toNat.testBit key.value.val = left) ∧
          (keypad.anyKey = true ↔ Exists fun key : KeyCode => keypad.keys.get key.value = true)) ∧
    (forall (room : Room) (handle : Nat) (deeds : List Deed),
      handle < room.handles.length ->
        ((room.copy handle).afterAll deeds).behind? room.handles.length =
          ((room.copy handle).afterAll deeds).behind? handle) ∧
    (forall (room : Room) (handle another : Nat) (first second : Touch) (here there : KeyCode),
      first.key? = some here -> second.key? = some there -> here ≠ there ->
        (room.touch handle first).touch another second =
          (room.touch another second).touch handle first) ∧
    (forall (keypad : Keypad) (number : UInt8),
      let down := Exists fun inside : number.toNat < 16 => keypad.keys[number.toNat] = true
      (KeySource.isPressed keypad number = true ↔ down) ∧
      (KeySource.isPressed (Handle.mk keypad) number = true ↔ down) ∧
      (KeySource.isPressed keypad.keys number = true ↔ down)) ∧
    (forall (machine : Machine G) (history : List (Action Keypad)),
      let throughHandle := history.map (Action.through Handle.mk)
      let throughSnapshot := history.map (Action.through keys)
      (machine.afterAll throughHandle = machine.afterAll history ∧
        machine.steps throughHandle = machine.steps history) ∧
      machine.afterAll throughSnapshot = machine.afterAll history ∧
        machine.steps throughSnapshot = machine.steps history) ∧
    forall (machine : Machine G) (keypad : Keypad) (count : Nat),
      machine.run (Handle.mk keypad) count = machine.run keypad count ∧
        machine.run keypad.keys count = machine.run keypad count := by
  refine ⟨?_, fun room handle deeds inside => room.behind?_copy inside deeds,
    fun room handle another first second here there about other apart =>
      room.touch_comm about other apart handle another, ?_, ?_, ?_⟩
  · intro deeds handle room inside
    have leads : room.handles[handle]? = some room.handles[handle] := List.getElem?_eq_getElem inside
    refine ⟨room.handles[handle], room.keypad room.handles[handle], leads,
      room.behind?_of_leads leads, fun key => ?_, anyKey_iff _⟩
    have last := Room.test_afterAll_empty deeds room.handles[handle] key
    constructor
    · rw [get_keys]
      exact last
    · rw [← test_eq_testBit _ key.value.isLt]
      exact last
  · intro keypad number down
    have snapshot : keypad.keys.down number = true ↔ down := Keys.down_iff
    refine ⟨?_, snapshot, ?_⟩
    · rw [LawfulKeySource.isPressed_eq, keySource_keys]
      exact snapshot
    · rw [LawfulKeySource.isPressed_eq, Keys.keys_self]
      exact snapshot
  · intro machine history throughHandle throughSnapshot
    exact ⟨machine.history_through Handle.mk Handle.keys_mk history,
      machine.history_through keys keys_snapshot history⟩
  · intro machine keypad count
    exact ⟨machine.run_eq_of_keys keypad (Handle.mk keypad) (Handle.keys_mk keypad) count,
      machine.run_eq_of_keys keypad keypad.keys keypad.keys_snapshot count⟩

/-- What a front end presses through a copy of a handle is what a machine sees through the first. -/
theorem pressed_through_copy :
    let three : KeyCode := ⟨3⟩
    let ten : KeyCode := ⟨10⟩
    let deeds := [.bring, .copy 0, .touch 1 (.press ten), .touch 0 (.press three), .bring,
      .touch 2 .releaseAll, .touch 1 (.set three false)]
    let room := Room.empty.afterAll deeds
    0 < room.handles.length ∧
    (Exists fun number => Exists fun keypad =>
      room.handles[0]? = some number ∧ room.behind? 0 = some keypad ∧
        keypad.keys.get ten.value = true ∧ keypad.keys.get three.value = false ∧
        keypad.anyKey = true) ∧
    room.behind? 1 = room.behind? 0 ∧
    (Touch.press ten).key? = some ten ∧ (Touch.release three).key? = some three ∧ ten ≠ three ∧
    (room.touch 0 (.press ten)).touch 1 (.release three) =
      (room.touch 1 (.release three)).touch 0 (.press ten) := by
  intro three ten deeds room
  obtain ⟨history, copies, commute, -⟩ := all_views_agree (G := ChaCha)
  have inside : 0 < room.handles.length := by decide
  obtain ⟨number, keypad, leads, behind, shows, any⟩ := history deeds 0 inside
  have first : number = 0 := Option.some_inj.mp (leads.symm.trans (by decide))
  subst first
  have downTen : keypad.keys.get ten.value = true := (shows ten).1.trans (by decide)
  refine ⟨inside, ⟨0, keypad, leads, behind, downTen, (shows three).1.trans (by decide),
    any.mpr ⟨ten, downTen⟩⟩, ?_, by decide, by decide, by decide, ?_⟩
  · exact copies (Room.empty.after .bring) 0 (deeds.drop 2) (by decide)
  · exact commute room 0 1 (.press ten) (.release three) ten three (by decide) (by decide) (by decide)

end Keypad
end ChipEight
