namespace ChipEight

/-!
The main memory: 4096 bytes, reached by the low twelve bits of an address.

The bytes below the load address hold the glyphs of the sixteen hexadecimal digits, five rows of
one byte each, from address zero on.
-/

/-- The contents of memory. -/
structure Memory where
  cells : Vector UInt8 4096
deriving DecidableEq, Repr

namespace Memory

def size : Nat := 4096

def cell (address : UInt16) : Fin 4096 :=
  ⟨(address &&& 0xFFF).toNat, by
    rw [UInt16.toNat_and]
    exact Nat.lt_of_le_of_lt Nat.and_le_right (by decide)⟩

def zero : Memory :=
  ⟨Vector.replicate 4096 0⟩

def read (memory : Memory) (address : UInt16) : UInt8 :=
  memory.cells[cell address]

def write (memory : Memory) (address : UInt16) (value : UInt8) : Memory :=
  ⟨memory.cells.set (cell address).val value (cell address).isLt⟩

theorem read_zero (address : UInt16) : zero.read address = 0 := by
  simp only [read, zero, Fin.getElem_fin, Vector.getElem_replicate]

/-- A write shows at the addresses that reach its cell, and nowhere else. -/
theorem read_write (memory : Memory) (target address : UInt16) (value : UInt8) :
    (memory.write target value).read address =
      if cell target = cell address then value else memory.read address := by
  simp only [read, write, Fin.getElem_fin, Vector.getElem_set, Fin.val_inj]

def place (memory : Memory) (address : UInt16) : List UInt8 -> Memory
  | [] => memory
  | value :: values => (memory.write address value).place (address + 1) values

/-- The bytes of a stretch of memory, from a start up to and without an end. -/
def slice (memory : Memory) (start stop : Nat) : List UInt8 :=
  (memory.cells.toList.take stop).drop start

end Memory

/-- The rows of the glyphs of 0 to F, five for each; only the upper nibbles are drawn. -/
def glyphs : List UInt8 := [
  0xF0, 0x90, 0x90, 0x90, 0xF0,
  0x20, 0x60, 0x20, 0x20, 0x70,
  0xF0, 0x10, 0xF0, 0x80, 0xF0,
  0xF0, 0x10, 0xF0, 0x10, 0xF0,
  0x90, 0x90, 0xF0, 0x10, 0x10,
  0xF0, 0x80, 0xF0, 0x10, 0xF0,
  0xF0, 0x80, 0xF0, 0x90, 0xF0,
  0xF0, 0x10, 0x20, 0x40, 0x40,
  0xF0, 0x90, 0xF0, 0x90, 0xF0,
  0xF0, 0x90, 0xF0, 0x10, 0xF0,
  0xF0, 0x90, 0xF0, 0x90, 0x90,
  0xE0, 0x90, 0xE0, 0x90, 0xE0,
  0xF0, 0x80, 0x80, 0x80, 0xF0,
  0xE0, 0x90, 0x90, 0x90, 0xE0,
  0xF0, 0x80, 0xF0, 0x80, 0xF0,
  0xF0, 0x80, 0xF0, 0x80, 0x80]

def glyphHeight : Nat := 5

end ChipEight
