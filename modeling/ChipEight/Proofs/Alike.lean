import ChipEight.Proofs.Effects
import ChipEight.Proofs.History

namespace ChipEight

/-!
Two machines side by side.

Two machines are compared through a *view*.  A view says when two addresses count as one, and which
parts of a machine are looked at, beyond those that every instruction works with.  Addresses that
count as one reach the same cell of memory and still do so when both are moved on by the same
amount; nothing else is known of them, so an instruction may only move an address on, remember it,
or read and write memory there.

Machines that are alike in a view execute the same instruction, and are alike after it, unless the
instruction reads something that the view does not look at.  The argument goes through the parts of
the machine one operation at a time, and only then through the instructions.
-/

/-- The parts of a machine that a view may leave out. -/
inductive Part where
  | delay
  | sound
  | generator
  /-- The entries of the stack from the stack pointer on. -/
  | unused

/-- A way of comparing machines. -/
structure View where
  SameAddress : UInt16 -> UInt16 -> Prop
  Compares : Part -> Prop
  refl : forall address, SameAddress address address
  shift : forall {left right}, SameAddress left right ->
    forall distance, SameAddress (left + distance) (right + distance)
  cell : forall {left right}, SameAddress left right -> Memory.cell left = Memory.cell right

/-- Two processors show no difference in a view. -/
structure Cpu.Alike (view : View) (left right : Cpu) : Prop where
  pc : view.SameAddress left.pc right.pc
  index : view.SameAddress left.index right.index
  sp : left.sp = right.sp
  stack : forall entry (_ : entry < 16), entry < left.sp ∨ view.Compares .unused ->
    view.SameAddress left.stack[entry] right.stack[entry]
  registers : left.registers = right.registers
  memory : left.memory = right.memory
  keyWait : left.keyWait = right.keyWait
  delay : view.Compares .delay -> left.delayTimer = right.delayTimer
  sound : view.Compares .sound -> left.soundTimer = right.soundTimer

variable {G : Type}

/-- Two machines show no difference in a view. -/
structure Machine.Alike (view : View) (left right : Machine G) : Prop where
  cpu : Cpu.Alike view left.cpu right.cpu
  screen : left.screen = right.screen
  generator : view.Compares .generator -> left.random = right.random

/-- Two steps take the same turn, and what they lead to shows no difference. -/
structure Step.Alike (view : View) (left right : Step G) : Prop where
  machine : Machine.Alike view left.machine right.machine
  flow : left.flow = right.flow

variable {view : View}

/-- Two tables that get the same address at the same place. -/
theorem View.sameAddress_set {table more : Vector UInt16 16} {address other : UInt16}
    (same : view.SameAddress address other) {place entry : Nat} (room : place < 16)
    (inside : entry < 16) (kept : place ≠ entry -> view.SameAddress table[entry] more[entry]) :
    view.SameAddress (table.set place address)[entry] (more.set place other)[entry] := by
  by_cases here : place = entry
  · subst here
    rw [Vector.getElem_set_self, Vector.getElem_set_self]
    exact same
  · rw [Vector.getElem_set_ne _ _ here, Vector.getElem_set_ne _ _ here]
    exact kept here

theorem Cpu.Alike.refl (view : View) (cpu : Cpu) : Cpu.Alike view cpu cpu :=
  ⟨view.refl _, view.refl _, rfl, fun _ _ _ => view.refl _, rfl, rfl, rfl,
    fun _ => rfl, fun _ => rfl⟩

namespace Cpu.Alike

variable {left right : Cpu} (alike : Cpu.Alike view left right)

include alike

theorem register_eq (number : UInt8) : left.register number = right.register number := by
  rw [Cpu.register, Cpu.register, alike.registers]

theorem read_eq {address other : UInt16} (same : view.SameAddress address other) :
    left.read address = right.read other := by
  simp only [Cpu.read, Memory.read, alike.memory, view.cell same]

theorem word_eq : left.word = right.word := by
  rw [Cpu.word, Cpu.word, alike.read_eq alike.pc, alike.read_eq (view.shift alike.pc 1)]

theorem goto {address other : UInt16} (same : view.SameAddress address other) :
    Cpu.Alike view (left.goto address) (right.goto other) :=
  { alike with pc := same }

theorem skip : Cpu.Alike view left.skip right.skip :=
  { alike with pc := view.shift alike.pc 2 }

theorem rewind : Cpu.Alike view left.rewind right.rewind := by
  -- A view only knows of addresses that move on, so moving back has to go around.
  have back := view.shift alike.pc (-2)
  rw [← UInt16.sub_eq_add_neg, ← UInt16.sub_eq_add_neg] at back
  exact { alike with pc := back }

theorem moveIndex {address other : UInt16} (same : view.SameAddress address other) :
    Cpu.Alike view { left with index := address } { right with index := other } :=
  { alike with index := same }

theorem setRegister (number : UInt8) {value other : UInt8} (same : value = other) :
    Cpu.Alike view (left.setRegister number value) (right.setRegister number other) := by
  subst same
  exact { alike with registers := by simp only [Cpu.setRegister, alike.registers] }

theorem setFlag {flag other : Bool} (same : flag = other) :
    Cpu.Alike view (left.setFlag flag) (right.setFlag other) :=
  alike.setRegister 0xF (by rw [same])

theorem write {address other : UInt16} (same : view.SameAddress address other)
    {value more : UInt8} (equal : value = more) :
    Cpu.Alike view (left.write address value) (right.write other more) := by
  subst equal
  exact { alike with
    memory := by simp only [Cpu.write, Memory.write, alike.memory, view.cell same] }

theorem addRegisters (x y : UInt8) :
    Cpu.Alike view (left.addRegisters x y) (right.addRegisters x y) := by
  have first := alike.register_eq x
  have second := alike.register_eq y
  exact (alike.setFlag (by rw [first, second])).setRegister x (by rw [first, second])

theorem subRegisters (x y : UInt8) :
    Cpu.Alike view (left.subRegisters x y) (right.subRegisters x y) := by
  have difference : left.register x - left.register y = right.register x - right.register y := by
    rw [alike.register_eq x, alike.register_eq y]
  exact (alike.setRegister x difference).setFlag (by rw [difference])

theorem shiftRightRegisters (x y : UInt8) :
    Cpu.Alike view (left.shiftRightRegisters x y) (right.shiftRightRegisters x y) := by
  have flagged : Cpu.Alike view (left.setFlag (left.register x &&& 0x01 = 0x01))
      (right.setFlag (right.register x &&& 0x01 = 0x01)) :=
    alike.setFlag (by rw [alike.register_eq x])
  exact flagged.setRegister x (by rw [flagged.register_eq y])

theorem subFromRegisters (x y : UInt8) :
    Cpu.Alike view (left.subFromRegisters x y) (right.subFromRegisters x y) := by
  have subtracted : Cpu.Alike view (left.setRegister x (left.register y - left.register x))
      (right.setRegister x (right.register y - right.register x)) :=
    alike.setRegister x (by rw [alike.register_eq x, alike.register_eq y])
  exact subtracted.setFlag (by rw [subtracted.register_eq x, subtracted.register_eq y])

theorem shiftLeftRegisters (x y : UInt8) :
    Cpu.Alike view (left.shiftLeftRegisters x y) (right.shiftLeftRegisters x y) := by
  have flagged : Cpu.Alike view (left.setFlag (left.register x &&& 0x80 = 0x80))
      (right.setFlag (right.register x &&& 0x80 = 0x80)) :=
    alike.setFlag (by rw [alike.register_eq x])
  exact flagged.setRegister x (by rw [flagged.register_eq y])

theorem storeDecimal (x : UInt8) :
    Cpu.Alike view (left.storeDecimal x) (right.storeDecimal x) := by
  have value := alike.register_eq x
  exact ((alike.write alike.index (by rw [value])).write (view.shift alike.index 1)
    (by rw [value])).write (view.shift alike.index 2) (by rw [value])

theorem storeAt {address other : UInt16} (same : view.SameAddress address other)
    (numbers : List Nat) :
    Cpu.Alike view (left.storeAt address numbers) (right.storeAt other numbers) := by
  induction numbers generalizing left right with
  | nil => exact alike
  | cons number numbers inductionHypothesis =>
      exact inductionHypothesis (alike.write (view.shift same _) (alike.register_eq _))

theorem loadAt {address other : UInt16} (same : view.SameAddress address other)
    (numbers : List Nat) :
    Cpu.Alike view (left.loadAt address numbers) (right.loadAt other numbers) := by
  induction numbers generalizing left right with
  | nil => exact alike
  | cons number numbers inductionHypothesis =>
      exact inductionHypothesis (alike.setRegister _ (alike.read_eq (view.shift same _)))

theorem advanceIndex (x : UInt8) :
    Cpu.Alike view (left.advanceIndex x) (right.advanceIndex x) :=
  alike.moveIndex (view.shift alike.index _)

theorem sprite_eq (height : UInt8) : left.sprite height = right.sprite height := by
  apply List.map_congr_left
  intro row member
  exact alike.read_eq (view.shift alike.index _)

/-- A push finds room on both sides or on neither. -/
theorem push {address other : UInt16} (same : view.SameAddress address other) :
    (left.push address).1 = (right.push other).1 ∧
      Cpu.Alike view (left.push address).2 (right.push other).2 := by
  by_cases room : left.sp < stackSize
  · have otherRoom : right.sp < stackSize := alike.sp ▸ room
    rw [Cpu.push, Cpu.push, dif_pos room, dif_pos otherRoom]
    refine ⟨rfl, { alike with sp := congrArg Nat.succ alike.sp, stack := ?_ }⟩
    intro entry inside live
    change entry < left.sp + 1 ∨ view.Compares .unused at live
    simp only [← alike.sp]
    exact View.sameAddress_set same room inside
      (fun below => alike.stack entry inside (live.imp_left (by omega)))
  · have noOtherRoom : ¬ right.sp < stackSize := alike.sp ▸ room
    rw [Cpu.push, Cpu.push, dif_neg room, dif_neg noOtherRoom]
    refine ⟨rfl, { alike with stack := ?_ }⟩
    intro entry inside live
    exact View.sameAddress_set same (by decide) inside (fun _ => alike.stack entry inside live)

end Cpu.Alike

namespace Machine.Alike

variable {left right : Machine G} (alike : Machine.Alike view left right)

include alike

theorem withCpu {cpu other : Cpu} (same : Cpu.Alike view cpu other) :
    Machine.Alike view { left with cpu } { right with cpu := other } :=
  { alike with cpu := same }

theorem quietly {cpu other : Cpu} (same : Cpu.Alike view cpu other) :
    Step.Alike view (left.quietly fun _ => cpu) (right.quietly fun _ => other) :=
  ⟨alike.withCpu same, rfl⟩

theorem skipIf {condition other : Bool} (same : condition = other) :
    Step.Alike view (left.skipIf condition) (right.skipIf other) := by
  subst same
  apply alike.quietly
  cases condition with
  | true => exact alike.cpu.skip
  | false => exact alike.cpu

theorem leave : Step.Alike view left.leave right.leave := by
  have pointers := alike.cpu.sp
  cases pointer : left.cpu.sp with
  | zero =>
      rw [pointer] at pointers
      simp only [Machine.leave, Cpu.pop, pointer, ← pointers]
      exact ⟨alike, rfl⟩
  | succ sp =>
      rw [pointer] at pointers
      simp only [Machine.leave, Cpu.pop, pointer, ← pointers]
      have address : view.SameAddress (left.cpu.stack[sp]?.getD 0)
          (right.cpu.stack[sp]?.getD 0) := by
        by_cases inside : sp < 16
        · rw [Vector.getElem?_eq_getElem inside, Vector.getElem?_eq_getElem inside]
          exact alike.cpu.stack sp inside (Or.inl (pointer ▸ Nat.lt_succ_self sp))
        · rw [Vector.getElem?_eq_none (Nat.le_of_not_lt inside),
            Vector.getElem?_eq_none (Nat.le_of_not_lt inside)]
          exact view.refl 0
      have popped : Cpu.Alike view { left.cpu with sp } { right.cpu with sp } :=
        { alike.cpu with
          sp := rfl
          stack := fun entry inside live => alike.cpu.stack entry inside
            (live.imp_left (fun small => pointer ▸ Nat.lt_succ_of_lt small)) }
      exact ⟨alike.withCpu (popped.goto address), rfl⟩

theorem call (target : UInt16) : Step.Alike view (left.call target) (right.call target) :=
  ⟨alike.withCpu ((alike.cpu.push alike.cpu.pc).2.goto (view.refl target)), rfl⟩

theorem drawSprite (x y height : UInt8) :
    Step.Alike view (left.drawSprite x y height) (right.drawSprite x y height) := by
  have cleared : Cpu.Alike view (left.cpu.setFlag false) (right.cpu.setFlag false) :=
    alike.cpu.setFlag rfl
  have drawn :
      left.screen.draw ((left.cpu.setFlag false).register x).toNat
        ((left.cpu.setFlag false).register y).toNat ((left.cpu.setFlag false).sprite height) =
      right.screen.draw ((right.cpu.setFlag false).register x).toNat
        ((right.cpu.setFlag false).register y).toNat ((right.cpu.setFlag false).sprite height) := by
    rw [alike.screen, cleared.register_eq x, cleared.register_eq y, cleared.sprite_eq height]
  exact ⟨⟨cleared.setFlag (congrArg Prod.fst drawn), congrArg Prod.snd drawn, alike.generator⟩, rfl⟩

end Machine.Alike

namespace Instruction

/-- The instruction that reads the delay timer. -/
def ReadsDelay : Instruction -> Prop
  | .readDelay _ => True
  | _ => False

/-- The instructions that look at the keys. -/
def ReadsKeys : Instruction -> Prop
  | .skipIfKey _ | .skipUnlessKey _ | .waitKey _ => True
  | _ => False

/-- A random byte depends on the generator unless its mask lets nothing through. -/
def ReadsGenerator : Instruction -> Prop
  | .random _ mask => mask ≠ 0
  | _ => False

end Instruction

/-- All that an instruction reads is compared in a view, or the same on both sides. -/
structure View.Informed {K : Type} (view : View) (keys other : K) (instruction : Instruction) :
    Prop where
  delay : instruction.ReadsDelay -> view.Compares .delay
  keys : instruction.ReadsKeys -> keys = other
  generator : instruction.ReadsGenerator -> view.Compares .generator

namespace Machine.Alike

variable {G : Type} {left right : Machine G} (alike : Machine.Alike view left right)

include alike

theorem awaitKey (keys : Keys) (x : UInt8) :
    Step.Alike view (left.awaitKey keys x) (right.awaitKey keys x) := by
  unfold Machine.awaitKey
  cases keys.highest? with
  | none => exact ⟨alike.withCpu alike.cpu.rewind, rfl⟩
  | some key =>
      have noted : Cpu.Alike view { left.cpu with keyWait := .waiting x key }
          { right.cpu with keyWait := .waiting x key } :=
        { alike.cpu with keyWait := rfl }
      exact ⟨alike.withCpu noted.rewind, rfl⟩

theorem waitKey (keys : Keys) (x : UInt8) :
    Step.Alike view (left.waitKey keys x) (right.waitKey keys x) := by
  unfold Machine.waitKey
  rw [← alike.cpu.keyWait]
  cases left.cpu.keyWait with
  | idle => exact alike.awaitKey keys x
  | waiting register key =>
      simp only
      cases keys.down key with
      | true => exact alike.awaitKey keys x
      | false =>
          have taken := alike.cpu.setRegister x (rfl : key = key)
          exact ⟨alike.withCpu { taken with keyWait := rfl }, rfl⟩

/-- The next instruction is announced in the same way. -/
theorem announcement_eq : left.announcement = right.announcement := by
  have address : left.cpu.pc &&& 0xFFF = right.cpu.pc &&& 0xFFF :=
    UInt16.toNat_inj.mp (congrArg (fun cell : Fin 4096 => cell.val) (view.cell alike.cpu.pc))
  rw [announcement, announcement, address, alike.cpu.word_eq]

theorem countDown : Machine.Alike view left.countDown right.countDown := by
  apply alike.withCpu
  refine { alike.cpu with delay := fun compared => ?_, sound := fun compared => ?_ }
  · simp only [Cpu.tickTimers, alike.cpu.delay compared]
  · simp only [Cpu.tickTimers, alike.cpu.sound compared]

/-- Nothing of a processor outlives the loading of a program. -/
theorem load (program : List UInt8) :
    Machine.Alike view (left.load program).machine (right.load program).machine := by
  have same : (left.load program).machine.cpu = (right.load program).machine.cpu := by
    simp only [Machine.load, Cpu.load, Cpu.placeGlyphs, Cpu.clearMemory]
  refine ⟨?_, rfl, alike.generator⟩
  rw [same]
  exact Cpu.Alike.refl view (right.load program).machine.cpu

variable {K : Type} [Generator G] [KeySource K] {keys other : K}

theorem randomByte (x mask : UInt8) (known : mask ≠ 0 -> view.Compares .generator) :
    Step.Alike view (left.randomByte x mask) (right.randomByte x mask) := by
  refine ⟨⟨alike.cpu.setRegister x ?_, alike.screen, fun compared => ?_⟩, rfl⟩
  · by_cases none : mask = 0
    · rw [none, UInt8.and_zero, UInt8.and_zero]
    · rw [alike.generator (known none)]
  · exact congrArg (fun random => (Generator.next random).2) (alike.generator compared)

/-- Machines that are alike stay so in every instruction that reads nothing else. -/
theorem execute {instruction : Instruction} (informed : view.Informed keys other instruction) :
    Step.Alike view (left.execute keys instruction) (right.execute other instruction) := by
  have register := alike.cpu.register_eq
  cases instruction with
  | hostRoutine | undefined => exact ⟨alike, rfl⟩
  | clearScreen => exact ⟨{ alike with screen := rfl }, rfl⟩
  | leave => exact alike.leave
  | jump nnn => exact ⟨alike.withCpu (alike.cpu.goto (view.refl nnn)), rfl⟩
  | call nnn => exact alike.call nnn
  | skipIfByte x nn => exact alike.skipIf (by rw [register x])
  | skipUnlessByte x nn => exact alike.skipIf (by rw [register x])
  | skipIfSame x y => exact alike.skipIf (by rw [register x, register y])
  | skipUnlessSame x y => exact alike.skipIf (by rw [register x, register y])
  | loadByte x nn => exact alike.quietly (alike.cpu.setRegister x rfl)
  | addByte x nn => exact alike.quietly (alike.cpu.setRegister x (by rw [register x]))
  | move x y => exact alike.quietly (alike.cpu.setRegister x (register y))
  | or x y | and x y | xor x y =>
      exact alike.quietly (alike.cpu.setRegister x (by rw [register x, register y]))
  | add x y => exact alike.quietly (alike.cpu.addRegisters x y)
  | sub x y => exact alike.quietly (alike.cpu.subRegisters x y)
  | shiftRight x y => exact alike.quietly (alike.cpu.shiftRightRegisters x y)
  | subFrom x y => exact alike.quietly (alike.cpu.subFromRegisters x y)
  | shiftLeft x y => exact alike.quietly (alike.cpu.shiftLeftRegisters x y)
  | loadIndex nnn => exact alike.quietly (alike.cpu.moveIndex (view.refl nnn))
  | jumpOffset nnn =>
      have address : view.SameAddress (nnn + (left.cpu.register 0).toUInt16)
          (nnn + (right.cpu.register 0).toUInt16) := register 0 ▸ view.refl _
      exact ⟨alike.withCpu (alike.cpu.goto address), rfl⟩
  | random x nn => exact alike.randomByte x nn informed.generator
  | draw x y n => exact alike.drawSprite x y n
  | skipIfKey x | skipUnlessKey x =>
      exact alike.skipIf (by rw [informed.keys trivial, register x])
  | readDelay x =>
      exact alike.quietly (alike.cpu.setRegister x (alike.cpu.delay (informed.delay trivial)))
  | waitKey x =>
      have shown := informed.keys trivial
      subst shown
      exact alike.waitKey (KeySource.keys keys) x
  | setDelay x => exact alike.quietly { alike.cpu with delay := fun _ => register x }
  | setSound x =>
      exact ⟨alike.withCpu { alike.cpu with sound := fun _ => register x }, rfl⟩
  | addIndex x =>
      have distance := register x
      exact alike.quietly (alike.cpu.moveIndex (distance ▸ view.shift alike.cpu.index _))
  | loadGlyph x => exact alike.quietly (alike.cpu.moveIndex (register x ▸ view.refl _))
  | storeDecimal x => exact alike.quietly (alike.cpu.storeDecimal x)
  | storeRegisters x =>
      exact alike.quietly ((alike.cpu.storeAt alike.cpu.index _).advanceIndex x)
  | loadRegisters x =>
      exact alike.quietly ((alike.cpu.loadAt alike.cpu.index _).advanceIndex x)

/-- Machines that are alike execute the same instruction, and stay so unless it reads something
that is not compared. -/
theorem tick (informed : view.Informed keys other (Instruction.decode left.cpu.word)) :
    Step.Alike view (left.tick keys) (right.tick other) := by
  have executed := (alike.withCpu alike.cpu.skip).execute informed
  rw [Machine.tick, Machine.tick]
  simp only [Cpu.fetch, ← alike.cpu.word_eq]
  exact ⟨executed.machine, executed.flow⟩

/-- Where all that an instruction may read is compared, machines that are alike stay so whatever is
done to both. -/
theorem after (whole : forall part, part ≠ .unused -> view.Compares part) (action : Action K) :
    Machine.Alike view (left.after action) (right.after action) := by
  cases action with
  | tick keys =>
      have informed : view.Informed keys keys (Instruction.decode left.cpu.word) :=
        ⟨fun _ => whole .delay Part.noConfusion, fun _ => rfl,
          fun _ => whole .generator Part.noConfusion⟩
      exact (alike.tick informed).machine
  | frame replies =>
      rw [after_frame, after_frame]
      exact alike.countDown
  | load program => exact alike.load program
  | setPixel x y on =>
      have drawn : left.screen.set x y on = right.screen.set x y on := by rw [alike.screen]
      exact { alike with screen := drawn }

end Machine.Alike
end ChipEight
