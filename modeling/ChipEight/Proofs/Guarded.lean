import ChipEight.Machine.Tick
import ChipEight.Proofs.Encoding

namespace ChipEight

/-!
The machine with every access guarded.

Tables are read and written here at places that may not exist, sums and products are formed that may
not fit, and an instruction may be sent to a part of the machine that has no case for it.  Whenever
one of these happens there is no outcome.  Nothing else is different, so that a guarded step that
has an outcome shows that the step it guards never went astray.

The main statement is that a guarded step always has its outcome, the one of the step without
guards, as long as the stack pointer is on the stack or just above it and a remembered key is one of
the sixteen.  Both conditions are needed: they are what a return and a wait for a key rely on.
-/

/-- A table with one entry replaced, if there is such an entry. -/
def replace? {T : Type} {size : Nat} (table : Vector T size) (place : Nat) (entry : T) :
    Option (Vector T size) :=
  if inside : place < size then some (table.set place entry inside) else none

theorem replace?_eq {T : Type} {size : Nat} (table : Vector T size) {place : Nat} (entry : T)
    (inside : place < size) : replace? table place entry = some (table.set place entry inside) :=
  dif_pos inside

/-- A sum, if it fits sixteen bits: an address has that many, and no counter has fewer. -/
def sum? (a b : Nat) : Option Nat :=
  if a + b < 0x10000 then some (a + b) else none

theorem sum?_eq {a b : Nat} (fits : a + b < 0x10000) : sum? a b = some (a + b) :=
  if_pos fits

def product? (a b : Nat) : Option Nat :=
  if a * b < 0x10000 then some (a * b) else none

theorem product?_eq {a b : Nat} (fits : a * b < 0x10000) : product? a b = some (a * b) :=
  if_pos fits

namespace Cpu

/-- The value of a register, if there is one at the low nibble of its number. -/
def register? (cpu : Cpu) (number : UInt8) : Option UInt8 :=
  cpu.registers[(number &&& 0xF).toNat]?

def setRegister? (cpu : Cpu) (number value : UInt8) : Option Cpu := do
  return { cpu with registers := ← replace? cpu.registers (number &&& 0xF).toNat value }

def setFlag? (cpu : Cpu) (flag : Bool) : Option Cpu := do
  return { cpu with registers := ← replace? cpu.registers 15 (if flag then 1 else 0) }

/-- The byte at the low twelve bits of an address, if memory reaches that far. -/
def read? (cpu : Cpu) (address : UInt16) : Option UInt8 :=
  cpu.memory.cells[(address &&& 0xFFF).toNat]?

def write? (cpu : Cpu) (address : UInt16) (value : UInt8) : Option Cpu := do
  return { cpu with memory := ⟨← replace? cpu.memory.cells (address &&& 0xFFF).toNat value⟩ }

def fetch? (cpu : Cpu) : Option (UInt16 × Cpu) := do
  let high ← cpu.read? cpu.pc
  let low ← cpu.read? (cpu.pc + 1)
  return (Word.ofBytes high low, cpu.skip)

/-- Push a return address where the stack pointer says, or over the last entry of a full stack. -/
def push? (cpu : Cpu) (address : UInt16) : Option (Bool × Cpu) :=
  if cpu.sp < stackSize then do
    let stack ← replace? cpu.stack cpu.sp address
    return (true, { cpu with stack, sp := ← sum? cpu.sp 1 })
  else do
    return (false, { cpu with stack := ← replace? cpu.stack 15 address })

def pop? (cpu : Cpu) : Option (Option UInt16 × Cpu) :=
  match cpu.sp with
  | 0 => some (none, cpu)
  | sp + 1 => do return (some (← cpu.stack[sp]?), { cpu with sp })

@[simp]
theorem register?_eq (cpu : Cpu) (number : UInt8) :
    cpu.register? number = some (cpu.register number) :=
  Vector.getElem?_eq_getElem (place number).isLt

@[simp]
theorem setRegister?_eq (cpu : Cpu) (number value : UInt8) :
    cpu.setRegister? number value = some (cpu.setRegister number value) := by
  have inside : (number &&& 0xF).toNat < 16 := (place number).isLt
  rw [setRegister?, replace?_eq cpu.registers value inside]
  rfl

@[simp]
theorem setFlag?_eq (cpu : Cpu) (flag : Bool) :
    cpu.setFlag? flag = some (cpu.setFlag flag) :=
  cpu.setRegister?_eq 0xF (if flag then 1 else 0)

@[simp]
theorem read?_eq (cpu : Cpu) (address : UInt16) :
    cpu.read? address = some (cpu.read address) :=
  Vector.getElem?_eq_getElem (Memory.cell address).isLt

@[simp]
theorem write?_eq (cpu : Cpu) (address : UInt16) (value : UInt8) :
    cpu.write? address value = some (cpu.write address value) := by
  have inside : (address &&& 0xFFF).toNat < 4096 := (Memory.cell address).isLt
  rw [write?, replace?_eq cpu.memory.cells value inside]
  rfl

@[simp]
theorem fetch?_eq (cpu : Cpu) : cpu.fetch? = some cpu.fetch := by
  simp only [fetch?, read?_eq]
  rfl

/-- A push always finds its place: the guards only ask for what was compared before. -/
@[simp]
theorem push?_eq (cpu : Cpu) (address : UInt16) : cpu.push? address = some (cpu.push address) := by
  by_cases room : cpu.sp < stackSize
  · have fits : cpu.sp + 1 < 0x10000 := Nat.lt_of_lt_of_le (Nat.succ_lt_succ room) (by decide)
    rw [push?, push, if_pos room, dif_pos room, replace?_eq cpu.stack address room, sum?_eq fits]
    rfl
  · rw [push?, push, if_neg room, dif_neg room, replace?_eq cpu.stack address (by decide)]
    rfl

/-- A pop finds its entry if the stack pointer is at most one past the last. -/
theorem pop?_eq {cpu : Cpu} (bounded : cpu.sp ≤ stackSize) : cpu.pop? = some cpu.pop := by
  unfold pop? pop
  cases pointer : cpu.sp with
  | zero => rfl
  | succ sp =>
      have inside : sp < 16 := by
        rw [pointer] at bounded
        exact bounded
      simp only [Vector.getElem?_eq_getElem inside, Option.getD_some]
      rfl

/-- The instructions on registers alone; others have no case here. -/
def calculate? (cpu : Cpu) : Instruction -> Option Cpu
  | .move x y => do cpu.setRegister? x (← cpu.register? y)
  | .or x y => do cpu.setRegister? x ((← cpu.register? x) ||| (← cpu.register? y))
  | .and x y => do cpu.setRegister? x ((← cpu.register? x) &&& (← cpu.register? y))
  | .xor x y => do cpu.setRegister? x ((← cpu.register? x) ^^^ (← cpu.register? y))
  | .add x y => do
      let a ← cpu.register? x
      let b ← cpu.register? y
      (← cpu.setFlag? (256 ≤ a.toNat + b.toNat)).setRegister? x (a + b)
  | .sub x y => do
      let difference := (← cpu.register? x) - (← cpu.register? y)
      (← cpu.setRegister? x difference).setFlag? (difference < 0x80)
  | .shiftRight x y => do
      let cpu ← cpu.setFlag? ((← cpu.register? x) &&& 0x01 = 0x01)
      cpu.setRegister? x ((← cpu.register? y) >>> 1)
  | .subFrom x y => do
      let cpu ← cpu.setRegister? x ((← cpu.register? y) - (← cpu.register? x))
      cpu.setFlag? ((← cpu.register? x) ≤ (← cpu.register? y))
  | .shiftLeft x y => do
      let cpu ← cpu.setFlag? ((← cpu.register? x) &&& 0x80 = 0x80)
      cpu.setRegister? x ((← cpu.register? y) <<< 1)
  | _ => none

/-- The address of the glyph of the digit in a register: its product with the height, from the
start of memory on. -/
def loadGlyph? (cpu : Cpu) (x : UInt8) : Option Cpu := do
  let start ← sum? 0 (← product? (← cpu.register? x).toNat glyphHeight)
  return { cpu with index := UInt16.ofNat start }

def storeDecimal? (cpu : Cpu) (x : UInt8) : Option Cpu := do
  let value ← cpu.register? x
  let first ← cpu.write? cpu.index (value / 100 % 10)
  let second ← first.write? (cpu.index + 1) (value / 10 % 10)
  second.write? (cpu.index + 2) (value % 10)

def storeAt? (cpu : Cpu) (address : UInt16) : List Nat -> Option Cpu
  | [] => some cpu
  | number :: numbers => do
      let value ← cpu.register? (UInt8.ofNat number)
      (← cpu.write? (address + UInt16.ofNat number) value).storeAt? address numbers

def loadAt? (cpu : Cpu) (address : UInt16) : List Nat -> Option Cpu
  | [] => some cpu
  | number :: numbers => do
      let value ← cpu.read? (address + UInt16.ofNat number)
      (← cpu.setRegister? (UInt8.ofNat number) value).loadAt? address numbers

def advanceIndex? (cpu : Cpu) (x : UInt8) : Option Cpu := do
  return { cpu with index := cpu.index + UInt16.ofNat (← sum? x.toNat 1) }

@[simp]
theorem loadGlyph?_eq (cpu : Cpu) (x : UInt8) : cpu.loadGlyph? x = some (cpu.loadGlyph x) := by
  have small := (cpu.register x).toNat_lt
  have fits : (cpu.register x).toNat * glyphHeight < 0x10000 := by unfold glyphHeight; omega
  have start : UInt16.ofNat (0 + (cpu.register x).toNat * glyphHeight) =
      (cpu.register x).toUInt16 * UInt16.ofNat glyphHeight := by
    rw [Nat.zero_add, UInt16.ofNat_mul, UInt16.ofNat_uInt8ToNat]
  simp only [loadGlyph?, register?_eq, Option.bind_eq_bind, Option.bind_some, product?_eq fits,
    sum?_eq (Nat.lt_of_le_of_lt (Nat.le_of_eq (Nat.zero_add _)) fits), start]
  rfl

@[simp]
theorem storeDecimal?_eq (cpu : Cpu) (x : UInt8) :
    cpu.storeDecimal? x = some (cpu.storeDecimal x) := by
  simp only [storeDecimal?, register?_eq, write?_eq, Option.bind_eq_bind, Option.bind_some]
  rfl

@[simp]
theorem storeAt?_eq (cpu : Cpu) (address : UInt16) (numbers : List Nat) :
    cpu.storeAt? address numbers = some (cpu.storeAt address numbers) := by
  induction numbers generalizing cpu with
  | nil => rfl
  | cons number numbers inductionHypothesis =>
      simp only [storeAt?, register?_eq, write?_eq, Option.bind_eq_bind, Option.bind_some,
        inductionHypothesis]
      rfl

@[simp]
theorem loadAt?_eq (cpu : Cpu) (address : UInt16) (numbers : List Nat) :
    cpu.loadAt? address numbers = some (cpu.loadAt address numbers) := by
  induction numbers generalizing cpu with
  | nil => rfl
  | cons number numbers inductionHypothesis =>
      simp only [loadAt?, read?_eq, setRegister?_eq, Option.bind_eq_bind, Option.bind_some,
        inductionHypothesis]
      rfl

@[simp]
theorem advanceIndex?_eq (cpu : Cpu) (x : UInt8) :
    cpu.advanceIndex? x = some (cpu.advanceIndex x) := by
  have small := x.toNat_lt
  have fits : x.toNat + 1 < 0x10000 := by omega
  have distance : UInt16.ofNat (x.toNat + 1) = x.toUInt16 + 1 := by
    rw [UInt16.ofNat_add, UInt16.ofNat_uInt8ToNat]
    rfl
  simp only [advanceIndex?, sum?_eq fits, Option.bind_eq_bind, Option.bind_some, distance]
  rfl

end Cpu

namespace Instruction

/-- The instruction that a word encodes, if its family is one of the sixteen. -/
def decode? (word : UInt16) : Option Instruction :=
  if Word.family word < 16 then some (decode word) else none

@[simp]
theorem decode?_eq (word : UInt16) : decode? word = some (decode word) :=
  if_pos (UInt8.lt_iff_toNat_lt.mpr (Word.family_lt word))

end Instruction

namespace Sprite

/-- Whether a row has its bit set in a column, if the row is wide enough for it. -/
def covers? (row : UInt8) (column : Nat) : Option Bool :=
  if column < width then some (covers row column) else none

end Sprite

namespace Screen

/-- Turn a pixel over, if the screen has one at the place computed from the coordinates. -/
def toggle? (screen : Screen) (x y : Nat) : Option (Bool × Screen) := do
  let place ← sum? (x % width) (← product? (y % height) width)
  let lit ← screen.pixels[place]?
  return (lit, ⟨← replace? screen.pixels place (!lit)⟩)

def drawRow? (screen : Screen) (x y : Nat) (row : UInt8) : List Nat -> Option (Bool × Screen)
  | [] => some (false, screen)
  | column :: columns => do
      if ← Sprite.covers? row column then
        let (erased, screen) ← screen.toggle? (← sum? x column) y
        let (more, screen) ← screen.drawRow? x y row columns
        return (erased || more, screen)
      else screen.drawRow? x y row columns

/-- Turn over the pixels under the lines of the sprite that a processor points at. -/
def drawLines? (screen : Screen) (cpu : Cpu) (x y : Nat) : List Nat -> Option (Bool × Screen)
  | [] => some (false, screen)
  | line :: lines => do
      let row ← cpu.read? (cpu.index + UInt16.ofNat line)
      let (erased, screen) ← screen.drawRow? x (← sum? y line) row (List.range Sprite.width)
      let (more, screen) ← screen.drawLines? cpu x y lines
      return (erased || more, screen)

@[simp]
theorem toggle?_eq (screen : Screen) (x y : Nat) :
    screen.toggle? x y = some (screen.toggle x y) := by
  have inside : x % width + y % height * width < 2048 := (place x y).isLt
  have rowFits : y % height * width < 0x10000 := by omega
  have fits : x % width + y % height * width < 0x10000 := by omega
  simp only [toggle?, product?_eq rowFits, sum?_eq fits, Vector.getElem?_eq_getElem inside,
    replace?_eq screen.pixels _ inside, Option.bind_eq_bind, Option.bind_some]
  rfl

theorem flip_append (screen : Screen) (cells more : List (Nat × Nat)) :
    screen.flip (cells ++ more) =
      ((screen.flip cells).1 || ((screen.flip cells).2.flip more).1,
        ((screen.flip cells).2.flip more).2) := by
  induction cells generalizing screen with
  | nil => rfl
  | cons cell cells inductionHypothesis =>
      simp only [List.cons_append, flip, inductionHypothesis, Bool.or_assoc]

theorem drawRow?_eq (screen : Screen) {x : Nat} (y : Nat) (row : UInt8) (columns : List Nat)
    (left : x < 256) (inside : forall column, column ∈ columns -> column < Sprite.width) :
    screen.drawRow? x y row columns =
      some (screen.flip
        ((columns.filter (Sprite.covers row)).map (fun column => (x + column, y)))) := by
  induction columns generalizing screen with
  | nil => rfl
  | cons column columns inductionHypothesis =>
      have narrow := inside column List.mem_cons_self
      have rest := fun screen => inductionHypothesis screen
        (fun column member => inside column (List.mem_cons_of_mem _ member))
      have fits : x + column < 0x10000 := by unfold Sprite.width at narrow; omega
      rw [drawRow?, Sprite.covers?, if_pos narrow]
      cases covered : Sprite.covers row column with
      | true =>
          simp only [Option.bind_eq_bind, Option.bind_some, if_true, sum?_eq fits, toggle?_eq,
            rest, List.filter_cons_of_pos covered, List.map_cons, flip]
          rfl
      | false =>
          have skipped : ¬ Sprite.covers row column = true := by
            rw [covered]
            exact Bool.false_ne_true
          simp only [Option.bind_eq_bind, Option.bind_some, Bool.false_eq_true, if_false, rest,
            List.filter_cons_of_neg skipped]

theorem drawLines?_eq (screen : Screen) (cpu : Cpu) {x y : Nat} (left : x < 256) (top : y < 256)
    (first count : Nat) (short : first + count ≤ 256) :
    screen.drawLines? cpu x y (List.range' first count) =
      some (screen.flip (Sprite.cells x (y + first) ((List.range' first count).map
        (fun line => cpu.read (cpu.index + UInt16.ofNat line))))) := by
  -- The lines that are left do not begin at zero, so the first of them is part of the induction.
  induction count generalizing screen first with
  | zero => rfl
  | succ count inductionHypothesis =>
      have fits : y + first < 0x10000 := by omega
      have narrow : forall column, column ∈ List.range Sprite.width -> column < Sprite.width :=
        fun column member => List.mem_range.mp member
      have rest := fun screen => inductionHypothesis screen (first + 1) (by omega)
      simp only [List.range'_succ, drawLines?, Cpu.read?_eq, sum?_eq fits, Option.bind_eq_bind,
        Option.bind_some, drawRow?_eq _ _ _ _ left narrow, rest, List.map_cons, Sprite.cells,
        Sprite.rowCells, flip_append, Nat.add_assoc]
      rfl

end Screen

namespace Keys

/-- The first key of a list that is down, if the snapshot shows all that are looked at. -/
def search? (keys : Keys) : List Nat -> Option (Option UInt8)
  | [] => some none
  | key :: others => do
      if ← keys[key]? then return some (UInt8.ofNat key) else keys.search? others

theorem search?_eq (keys : Keys) (candidates : List Nat)
    (shown : forall key, key ∈ candidates -> key < 16) :
    keys.search? candidates = some ((candidates.map UInt8.ofNat).find? keys.down) := by
  induction candidates with
  | nil => rfl
  | cons key others inductionHypothesis =>
      have inside := shown key List.mem_cons_self
      have rest := inductionHypothesis
        (fun other member => shown other (List.mem_cons_of_mem _ member))
      have number : (UInt8.ofNat key).toNat = key :=
        UInt8.toNat_ofNat_of_lt' (Nat.lt_trans inside (by decide))
      have looked : keys.down (UInt8.ofNat key) = keys[key] := by
        rw [down, number, Vector.getElem?_eq_getElem inside, Option.getD_some]
      rw [search?, Vector.getElem?_eq_getElem inside, List.map_cons]
      cases state : keys[key] with
      | true =>
          rw [List.find?_cons_of_pos (looked.trans state)]
          rfl
      | false =>
          rw [List.find?_cons_of_neg (by rw [looked, state]; exact Bool.false_ne_true), ← rest]
          rfl

theorem search?_highest (keys : Keys) :
    keys.search? (List.range 16).reverse = some keys.highest? :=
  keys.search?_eq _ (fun _ member => List.mem_range.mp (List.mem_reverse.mp member))

end Keys

namespace Machine

variable {G : Type}

def quietly? (machine : Machine G) (cpu : Option Cpu) : Option (Step G) := do
  return ⟨{ machine with cpu := ← cpu }, .ok, []⟩

def skipIf? (machine : Machine G) (condition : Option Bool) : Option (Step G) := do
  return machine.skipIf (← condition)

def leave? (machine : Machine G) : Option (Step G) := do
  match ← machine.cpu.pop? with
  | (some address, cpu) => return ⟨{ machine with cpu := cpu.goto address }, .jump, []⟩
  | (none, _) => return ⟨machine, .ok, [.underflow machine.cpu.current]⟩

def call? (machine : Machine G) (address : UInt16) : Option (Step G) := do
  let (room, cpu) ← machine.cpu.push? machine.cpu.pc
  return ⟨{ machine with cpu := cpu.goto address }, .jump,
    if room then [] else [.overflow machine.cpu.current]⟩

/-- `DXYN`, with the guards of its registers, of its coordinates and of every pixel. -/
def drawSprite? (machine : Machine G) (x y height : UInt8) : Option (Step G) := do
  let cpu ← machine.cpu.setFlag? false
  let left ← cpu.register? x
  let top ← cpu.register? y
  let (erased, screen) ←
    machine.screen.drawLines? cpu left.toNat top.toNat (List.range height.toNat)
  return ⟨{ machine with cpu := ← cpu.setFlag? erased, screen }, .draw, []⟩

def awaitKey? (machine : Machine G) (keys : Keys) (x : UInt8) : Option (Step G) := do
  match ← keys.search? (List.range 16).reverse with
  | none => return ⟨{ machine with cpu := machine.cpu.rewind }, .keyWait, []⟩
  | some key =>
      return ⟨{ machine with cpu := { machine.cpu with keyWait := .waiting x key }.rewind },
        .keyWait, if machine.cpu.keyWait = .idle then [.keySeen key] else []⟩

/-- `FX0A`, with a guard on the remembered key. -/
def waitKey? (machine : Machine G) (keys : Keys) (x : UInt8) : Option (Step G) :=
  match machine.cpu.keyWait with
  | .idle => machine.awaitKey? keys x
  | .waiting _ key => do
      if ← keys[key.toNat]? then machine.awaitKey? keys x
      else
        let cpu ← machine.cpu.setRegister? x key
        return ⟨{ machine with cpu := { cpu with keyWait := .idle } }, .ok, [.keyTaken x key]⟩

/-- What the guards of a step depend on: no pointer and no number that the machine keeps leads out
of its tables. -/
structure Guarded (machine : Machine G) : Prop where
  sp : machine.cpu.sp ≤ stackSize
  key : forall register key, machine.cpu.keyWait = .waiting register key -> key ≤ 0xF

theorem awaitKey?_eq (machine : Machine G) (keys : Keys) (x : UInt8) :
    machine.awaitKey? keys x = some (machine.awaitKey keys x) := by
  rw [awaitKey?, awaitKey, Keys.search?_highest]
  cases keys.highest? with
  | none => rfl
  | some key => rfl

theorem waitKey?_eq {machine : Machine G} (guarded : machine.Guarded) (keys : Keys) (x : UInt8) :
    machine.waitKey? keys x = some (machine.waitKey keys x) := by
  unfold waitKey? waitKey
  cases wait : machine.cpu.keyWait with
  | idle => exact machine.awaitKey?_eq keys x
  | waiting register key =>
      have inside : key.toNat < 16 :=
        Nat.lt_succ_of_le (UInt8.le_iff_toNat_le.mp (guarded.key register key wait))
      have looked : keys[key.toNat]? = some (keys.down key) := by
        rw [Keys.down, Vector.getElem?_eq_getElem inside, Option.getD_some]
      simp only [looked, Option.bind_eq_bind, Option.bind_some, awaitKey?_eq,
        Cpu.setRegister?_eq]
      cases keys.down key with
      | true => rfl
      | false => rfl

theorem leave?_eq {machine : Machine G} (guarded : machine.Guarded) :
    machine.leave? = some machine.leave := by
  rw [leave?, leave, Cpu.pop?_eq guarded.sp, Option.bind_eq_bind, Option.bind_some]
  match machine.cpu.pop with
  | (some address, cpu) => rfl
  | (none, cpu) => rfl

theorem drawSprite?_eq (machine : Machine G) (x y height : UInt8) :
    machine.drawSprite? x y height = some (machine.drawSprite x y height) := by
  have drawn := machine.screen.drawLines?_eq (machine.cpu.setFlag false)
    ((machine.cpu.setFlag false).register x).toNat_lt
    ((machine.cpu.setFlag false).register y).toNat_lt 0 height.toNat
    (by have small := height.toNat_lt; omega)
  simp only [drawSprite?, Cpu.setFlag?_eq, Cpu.register?_eq, Option.bind_eq_bind, Option.bind_some,
    List.range_eq_range', drawn, Nat.add_zero, drawSprite, Screen.draw, Cpu.sprite]
  rfl

variable {K : Type} [Generator G] [KeySource K]

def randomByte? (machine : Machine G) (x mask : UInt8) : Option (Step G) := do
  let (word, random) := Generator.next machine.random
  let cpu ← machine.cpu.setRegister? x (word.toUInt8 &&& mask)
  return ⟨{ machine with cpu, random }, .ok, []⟩

def execute? (machine : Machine G) (keys : K) (instruction : Instruction) : Option (Step G) :=
  let cpu := machine.cpu
  match instruction with
  | .hostRoutine _ | .undefined _ => some ⟨machine, .ok, []⟩
  | .clearScreen => some ⟨{ machine with screen := machine.screen.clear }, .draw, []⟩
  | .leave => machine.leave?
  | .jump nnn => some ⟨{ machine with cpu := cpu.goto nnn }, .jump, []⟩
  | .call nnn => machine.call? nnn
  | .skipIfByte x nn => machine.skipIf? (do return (← cpu.register? x) == nn)
  | .skipUnlessByte x nn => machine.skipIf? (do return (← cpu.register? x) != nn)
  | .skipIfSame x y => machine.skipIf? (do return (← cpu.register? x) == (← cpu.register? y))
  | .skipUnlessSame x y => machine.skipIf? (do return (← cpu.register? x) != (← cpu.register? y))
  | .loadByte x nn => machine.quietly? (cpu.setRegister? x nn)
  | .addByte x nn => machine.quietly? (do cpu.setRegister? x ((← cpu.register? x) + nn))
  | .move .. | .or .. | .and .. | .xor .. | .add .. | .sub .. | .shiftRight .. | .subFrom ..
  | .shiftLeft .. => machine.quietly? (cpu.calculate? instruction)
  | .loadIndex nnn => machine.quietly? (some { cpu with index := nnn })
  | .jumpOffset nnn => do
      let offset ← cpu.register? 0
      return ⟨{ machine with cpu := cpu.goto (nnn + offset.toUInt16) }, .jump, []⟩
  | .random x nn => machine.randomByte? x nn
  | .draw x y n => machine.drawSprite? x y n
  | .skipIfKey x => machine.skipIf? (do return KeySource.isPressed keys (← cpu.register? x))
  | .skipUnlessKey x => machine.skipIf? (do return !KeySource.isPressed keys (← cpu.register? x))
  | .readDelay x => machine.quietly? (cpu.setRegister? x cpu.delayTimer)
  | .waitKey x => machine.waitKey? (KeySource.keys keys) x
  | .setDelay x => machine.quietly? (do return { cpu with delayTimer := ← cpu.register? x })
  | .setSound x => do
      let time ← cpu.register? x
      return ⟨{ machine with cpu := { cpu with soundTimer := time } }, .sound, []⟩
  | .addIndex x =>
      machine.quietly? (do return { cpu with index := cpu.index + (← cpu.register? x).toUInt16 })
  | .loadGlyph x => machine.quietly? (cpu.loadGlyph? x)
  | .storeDecimal x => machine.quietly? (cpu.storeDecimal? x)
  | .storeRegisters x =>
      machine.quietly? (do
        (← cpu.storeAt? cpu.index (List.range (x.toNat + 1))).advanceIndex? x)
  | .loadRegisters x =>
      machine.quietly? (do
        (← cpu.loadAt? cpu.index (List.range (x.toNat + 1))).advanceIndex? x)

/-- Fetch, decode and execute one instruction, with all guards. -/
def tick? (machine : Machine G) (keys : K) : Option (Step G) := do
  let (word, cpu) ← machine.cpu.fetch?
  let instruction ← Instruction.decode? word
  let step ← { machine with cpu }.execute? keys instruction
  return { step with events := .executing (cpu.current &&& 0xFFF) word instruction :: step.events }

/-- Every instruction has its outcome, and it is that of the machine without guards. -/
theorem execute?_eq {machine : Machine G} (guarded : machine.Guarded) (keys : K)
    (instruction : Instruction) :
    machine.execute? keys instruction = some (machine.execute keys instruction) := by
  cases instruction with
  | leave => exact leave?_eq guarded
  | waitKey x => exact waitKey?_eq guarded _ x
  | draw x y n => exact machine.drawSprite?_eq x y n
  | call nnn =>
      simp only [execute?, call?, Cpu.push?_eq]
      rfl
  | random x nn =>
      simp only [execute?, randomByte?, Cpu.setRegister?_eq]
      rfl
  | _ =>
      simp only [execute?, quietly?, skipIf?, Cpu.calculate?, Cpu.register?_eq,
        Cpu.setRegister?_eq, Cpu.setFlag?_eq, Cpu.loadGlyph?_eq, Cpu.storeDecimal?_eq,
        Cpu.storeAt?_eq, Cpu.loadAt?_eq, Cpu.advanceIndex?_eq, Option.bind_eq_bind,
        Option.bind_some]
      rfl

/-- A step of a machine whose pointers stay in their tables has its outcome, that of the step
without guards. -/
theorem tick?_eq {machine : Machine G} (guarded : machine.Guarded) (keys : K) :
    machine.tick? keys = some (machine.tick keys) := by
  have moved : Guarded { machine with cpu := machine.cpu.skip } := ⟨guarded.sp, guarded.key⟩
  simp only [tick?, Cpu.fetch?_eq, Cpu.fetch, Instruction.decode?_eq, Option.bind_eq_bind,
    Option.bind_some, execute?_eq moved]
  rfl

end Machine
end ChipEight
