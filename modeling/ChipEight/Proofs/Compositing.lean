import ChipEight.Proofs.Drawing
import ChipEight.Proofs.Torus
import ChipEight.Proofs.Stretches
import ChipEight.Random.ChaCha

namespace ChipEight

/-!
What a draw composites.

A draw is an exclusive or on the torus: the sprite covers some of the cells, and exactly those are
turned over.  Which cells are covered can be said without going through the sprite bit by bit.  A
cell is covered if a set bit of a row lies over it, once the bit's column and the row went around
the torus, and the rows are read from the index on around memory.  The flag as a coordinate counts
as zero, because it is cleared before the coordinates are read.

This holds as no two bits of a sprite lie over the same cell, however the sprite wraps.  Otherwise
a cell could be turned over twice and stay as it was, and the flag would tell of an erasure that
the picture does not show.
-/

namespace Sprite

theorem mem_rowCells_iff {x y : Nat} {row : UInt8} {cell : Nat × Nat} :
    cell ∈ rowCells x y row ↔
      Exists fun column => column < 8 ∧ row.toNat.testBit (7 - column) = true ∧
        cell = (x + column, y) := by
  simp only [rowCells, width, List.mem_map, List.mem_filter, List.mem_range]
  constructor
  · rintro ⟨column, ⟨inside, covered⟩, rfl⟩
    rw [covers_eq_testBit row inside] at covered
    exact ⟨column, inside, covered, rfl⟩
  · rintro ⟨column, inside, set, rfl⟩
    rw [← covers_eq_testBit row inside] at set
    exact ⟨column, ⟨inside, set⟩, rfl⟩

/-- The cells of a sprite are those under its set bits. -/
theorem mem_cells_iff {x y : Nat} {sprite : Sprite} {cell : Nat × Nat} :
    cell ∈ sprite.cells x y ↔
      Exists fun row => Exists fun byte => sprite[row]? = some byte ∧
        Exists fun column => column < 8 ∧ byte.toNat.testBit (7 - column) = true ∧
          cell = (x + column, y + row) := by
  induction sprite generalizing y with
  | nil => simp [cells]
  | cons first rows inductionHypothesis =>
      rw [cells, List.mem_append, inductionHypothesis, mem_rowCells_iff]
      constructor
      · rintro (here | ⟨row, byte, read, column, inside, set, rfl⟩)
        · exact ⟨0, first, rfl, here⟩
        · refine ⟨row + 1, byte, read, column, inside, set, ?_⟩
          rw [Nat.add_assoc, Nat.add_comm 1 row]
      · rintro ⟨row, byte, read, column, inside, set, rfl⟩
        cases row with
        | zero =>
            have same : first = byte := Option.some.inj read
            exact Or.inl ⟨column, inside, same ▸ set, rfl⟩
        | succ row =>
            refine Or.inr ⟨row, byte, read, column, inside, set, ?_⟩
            rw [Nat.add_assoc, Nat.add_comm 1 row]

end Sprite

namespace Cpu

/-- A register as a coordinate of a draw: the flag is zero. -/
def coordinate (cpu : Cpu) (number : UInt8) : Nat :=
  if place number = place 0xF then 0 else (cpu.register number).toNat

/-- A row of the sprite that the index points at, which goes on at the start of memory. -/
def spriteRow (cpu : Cpu) (row : Nat) : UInt8 :=
  cpu.memory.cells.get ⟨(cpu.index.toNat + row) % 4096, Nat.mod_lt _ (by decide)⟩

/-- A set bit of the sprite of a word lies over a cell. -/
def Covers (cpu : Cpu) (word : UInt16) (cell : Cell) : Prop :=
  Exists fun row => row < (Word.n word).toNat ∧
    Exists fun column => column < 8 ∧
      (cpu.spriteRow row).toNat.testBit (7 - column) = true ∧
        cell = Cell.named (cpu.coordinate (Word.x word) + column)
          (cpu.coordinate (Word.y word) + row)

instance (cpu : Cpu) (word : UInt16) (cell : Cell) : Decidable (cpu.Covers word cell) :=
  inferInstanceAs (Decidable (Exists fun row => row < (Word.n word).toNat ∧
    Exists fun column => column < 8 ∧
      (cpu.spriteRow row).toNat.testBit (7 - column) = true ∧
        cell = Cell.named (cpu.coordinate (Word.x word) + column)
          (cpu.coordinate (Word.y word) + row)))

variable {cpu : Cpu} {word : UInt16}

theorem toNat_register_cleared (cpu : Cpu) (number : UInt8) :
    ((cpu.setFlag false).register number).toNat = cpu.coordinate number := by
  rw [coordinate, setFlag, register_setRegister]
  by_cases flag : place number = place 0xF
  · rw [if_pos flag.symm, if_pos flag]
    rfl
  · rw [if_neg (Ne.symm flag), if_neg flag]

theorem getElem?_sprite_iff {height : UInt8} {row : Nat} {byte : UInt8} :
    (cpu.sprite height)[row]? = some byte ↔ row < height.toNat ∧ cpu.spriteRow row = byte := by
  simp only [List.getElem?_eq_some_iff, sprite, List.length_map, List.length_range,
    List.getElem_map, List.getElem_range, read_add, exists_prop]
  exact Iff.rfl

/-- A flag that was cleared first is written over. -/
theorem setFlag_setFlag (cpu : Cpu) (first second : Bool) :
    (cpu.setFlag first).setFlag second = cpu.setFlag second := by
  simp only [setFlag, setRegister, Vector.set_set]

/-- What a draw turns over are the cells that its word covers. -/
theorem place_mem_turned_iff {cell : Cell} :
    Screen.place cell.1 cell.2 ∈ Screen.turned (cpu.drawnCells word) ↔ cpu.Covers word cell := by
  rw [Screen.turned_eq_toFinset (Machine.drawnCells_distinct cpu word), List.mem_toFinset,
    List.mem_map]
  constructor
  · rintro ⟨named, member, same⟩
    rw [drawnCells, toNat_register_cleared, toNat_register_cleared] at member
    obtain ⟨row, byte, read, column, inside, set, rfl⟩ := Sprite.mem_cells_iff.mp member
    obtain ⟨short, rfl⟩ := getElem?_sprite_iff.mp read
    refine ⟨row, short, column, inside, set, ?_⟩
    exact (Cell.named_self cell).symm.trans (Screen.place_eq_iff.mp same).symm
  · rintro ⟨row, short, column, inside, set, rfl⟩
    refine ⟨(cpu.coordinate (Word.x word) + column, cpu.coordinate (Word.y word) + row), ?_,
      Screen.place_eq_iff.mpr (Cell.named_self _).symm⟩
    rw [drawnCells, toNat_register_cleared, toNat_register_cleared]
    exact Sprite.mem_cells_iff.mpr
      ⟨row, cpu.spriteRow row, getElem?_sprite_iff.mpr ⟨short, rfl⟩, column, inside, set, rfl⟩

end Cpu

namespace Screen

theorem place_mem_lit_iff {screen : Screen} {x y : Nat} :
    place x y ∈ screen.lit ↔ screen.get x y = true :=
  mem_lit

/-- A property of pixels holds of one exactly if it holds of the pixel of some cell. -/
theorem exists_pixel_iff {holds : Fin 2048 -> Prop} :
    (Exists fun pixel => holds pixel) ↔ Exists fun cell : Cell => holds (place cell.1 cell.2) := by
  constructor
  · rintro ⟨pixel, held⟩
    refine ⟨Cell.named (pixel.val % 64) (pixel.val / 64), ?_⟩
    rwa [place_eq_iff.mpr (Cell.named_self _), place_of_pixel]
  · rintro ⟨cell, held⟩
    exact ⟨_, held⟩

end Screen

namespace Machine

variable {G : Type} {word : UInt16}

theorem get_flip_drawnCells (machine : Machine G) (cell : Cell) :
    (machine.screen.flip (machine.cpu.drawnCells word)).2.get cell.1 cell.2 =
      Bool.xor (machine.screen.get cell.1 cell.2) (decide (machine.cpu.Covers word cell)) := by
  apply Bool.eq_iff_iff.mpr
  rw [← Screen.place_mem_lit_iff, Screen.lit_flip, Finset.mem_symmDiff, Screen.place_mem_lit_iff,
    Cpu.place_mem_turned_iff]
  by_cases covered : machine.cpu.Covers word cell <;> simp [covered]

theorem flip_drawnCells_erases_iff (machine : Machine G) :
    (machine.screen.flip (machine.cpu.drawnCells word)).1 = true ↔
      Exists fun cell : Cell =>
        machine.cpu.Covers word cell ∧ machine.screen.get cell.1 cell.2 = true := by
  rw [Screen.flip_erases_iff _ (drawnCells_distinct machine.cpu word), Screen.exists_pixel_iff]
  simp only [Finset.mem_inter, Screen.place_mem_lit_iff, Cpu.place_mem_turned_iff, and_comm]

variable {K : Type} [Generator G] [KeySource K]

theorem execute_draw (machine : Machine G) (keys : K) (draws : Word.family word = 0xD) :
    machine.execute keys (Instruction.decode word) =
      ⟨{ machine with
          cpu := machine.cpu.setFlag (machine.screen.flip (machine.cpu.drawnCells word)).1
          screen := (machine.screen.flip (machine.cpu.drawnCells word)).2 }, .draw, []⟩ := by
  rw [Instruction.decode_of_draw draws, ← Cpu.setFlag_setFlag machine.cpu false]
  rfl

end Machine
end ChipEight
