import ChipEight.Proofs.Footprint
import Mathlib.Data.List.Nodup

namespace ChipEight

/-!
Stretches of memory.

Some instructions go through memory cell by cell: from the index on, and behind the last cell with
the first again.  The cells that they visit are a *stretch*.  A stretch that is not longer than
memory visits no cell twice, and a long one is a short one with another behind it.

Registers are stored in a stretch in their order, and are loaded from it in the same order.  Cells
outside the stretch, and registers that are not asked for, are left alone.
-/

namespace Memory

variable {start length : Nat} {cell : Fin 4096}

/-- The cells of a stretch, from its first cell on around memory. -/
def stretch (start length : Nat) : List (Fin 4096) :=
  (List.range length).map fun distance => Fin.ofNat 4096 (start + distance)

/-- The bytes in a stretch. -/
def bytes (memory : Memory) (start length : Nat) : List UInt8 :=
  (stretch start length).map memory.cells.get

theorem length_bytes (memory : Memory) (start length : Nat) :
    (memory.bytes start length).length = length := by
  rw [bytes, stretch, List.length_map, List.length_map, List.length_range]

theorem getElem_bytes (memory : Memory) (start length distance : Nat)
    (inside : distance < (memory.bytes start length).length) :
    (memory.bytes start length)[distance] =
      memory.cells.get (Fin.ofNat 4096 (start + distance)) := by
  simp only [bytes, stretch, List.getElem_map, List.getElem_range]

theorem mem_stretch :
    cell ∈ stretch start length ↔
      Exists fun distance => distance < length ∧ Fin.ofNat 4096 (start + distance) = cell := by
  simp only [stretch, List.mem_map, List.mem_range]

theorem stretch_append (start first second : Nat) :
    stretch start (first + second) = stretch start first ++ stretch (start + first) second := by
  simp only [stretch, List.range_add, List.map_append, List.map_map, Function.comp_def,
    Nat.add_assoc]

theorem bytes_append (memory : Memory) (start first second : Nat) :
    memory.bytes start (first + second) =
      memory.bytes start first ++ memory.bytes (start + first) second := by
  rw [bytes, stretch_append, List.map_append]
  rfl

/-- A stretch begins at a cell, and not at a number. -/
theorem stretch_congr {other : Nat} (same : start % 4096 = other % 4096) (length : Nat) :
    stretch start length = stretch other length := by
  apply List.map_congr_left
  intro distance _
  apply Fin.ext
  change (start + distance) % 4096 = (other + distance) % 4096
  omega

/-- A stretch that is not longer than memory visits no cell twice. -/
theorem stretch_nodup (start : Nat) (short : length ≤ 4096) : (stretch start length).Nodup := by
  refine List.Nodup.map_on ?_ List.nodup_range
  intro distance member other otherMember same
  have inside := List.mem_range.mp member
  have otherInside := List.mem_range.mp otherMember
  have cells : (start + distance) % 4096 = (start + other) % 4096 := congrArg Fin.val same
  omega

/-- The cell at a distance from an address, as a number. -/
theorem cell_add (address : UInt16) (distance : Nat) :
    Memory.cell (address + UInt16.ofNat distance) = Fin.ofNat 4096 (address.toNat + distance) :=
  Fin.ext (val_cell_add address distance)

theorem bytes_congr {memory other : Memory}
    (same : forall cell, cell ∈ stretch start length ->
      memory.cells.get cell = other.cells.get cell) :
    memory.bytes start length = other.bytes start length :=
  List.map_congr_left same

/-- Memories that agree in a stretch and outside it are the same. -/
theorem eq_of_bytes {memory other : Memory}
    (inside : memory.bytes start length = other.bytes start length)
    (outside : forall cell, cell ∉ stretch start length ->
      memory.cells.get cell = other.cells.get cell) : memory = other := by
  have cells : memory.cells = other.cells := by
    apply Vector.ext
    intro number small
    by_cases member : ⟨number, small⟩ ∈ stretch start length
    · exact List.map_inj_left.mp inside _ member
    · exact outside _ member
  cases memory
  cases other
  exact congrArg Memory.mk cells

end Memory

namespace Cpu

variable {cpu : Cpu} {address : UInt16} {numbers : List Nat}

theorem place_ofNat {number : Nat} (small : number < 16) :
    place (UInt8.ofNat number) = ⟨number, small⟩ := by
  apply Fin.ext
  rw [val_place, UInt8.toNat_ofNat']
  change number % 256 % 16 = number
  omega

theorem register_ofNat (cpu : Cpu) {number : Nat} (small : number < 16) :
    cpu.register (UInt8.ofNat number) = cpu.registers[number] :=
  congrArg cpu.registers.get (place_ofNat small)

theorem read_add (cpu : Cpu) (address : UInt16) (distance : Nat) :
    cpu.read (address + UInt16.ofNat distance) =
      cpu.memory.cells.get (Fin.ofNat 4096 (address.toNat + distance)) :=
  congrArg cpu.memory.cells.get (Memory.cell_add address distance)

/-- Of several registers that are stored, each stands at its distance from the address. -/
theorem get_storeAt (distinct : numbers.Nodup)
    (short : forall number, number ∈ numbers -> number < 4096) {number : Nat}
    (member : number ∈ numbers) :
    (cpu.storeAt address numbers).memory.cells.get (Memory.cell (address + UInt16.ofNat number)) =
      cpu.register (UInt8.ofNat number) := by
  induction numbers generalizing cpu with
  | nil => cases member
  | cons first numbers inductionHypothesis =>
      rw [List.nodup_cons] at distinct
      have shortRest : forall number, number ∈ numbers -> number < 4096 :=
        fun number member => short number (List.mem_cons_of_mem first member)
      rcases List.mem_cons.mp member with rfl | member
      · let stored := cpu.write (address + UInt16.ofNat number) (cpu.register (UInt8.ofNat number))
        have kept : (stored.storeAt address numbers).memory.cells.get
              (Memory.cell (address + UInt16.ofNat number)) =
            stored.memory.cells.get (Memory.cell (address + UInt16.ofNat number)) := by
          by_contra changed
          -- No later store comes back to the cell that was written first.
          rcases storeAt_or_changed changed with ⟨later, laterMember, here⟩ | before
          · rw [Memory.cell_add, Memory.cell_add] at here
            have cells : (address.toNat + later) % 4096 = (address.toNat + number) % 4096 :=
              congrArg Fin.val here
            have laterShort := shortRest later laterMember
            have firstShort := short number List.mem_cons_self
            have same : later = number := by omega
            exact distinct.1 (same ▸ laterMember)
          · exact before rfl
        exact kept.trans (Vector.getElem_set_self _)
      · exact inductionHypothesis distinct.2 shortRest member

/-- Of several registers that are loaded, each comes from its distance from the address. -/
theorem get_loadAt (distinct : numbers.Nodup)
    (short : forall number, number ∈ numbers -> number < 16) {number : Nat}
    (member : number ∈ numbers) :
    (cpu.loadAt address numbers).registers.get (place (UInt8.ofNat number)) =
      cpu.read (address + UInt16.ofNat number) := by
  induction numbers generalizing cpu with
  | nil => cases member
  | cons first numbers inductionHypothesis =>
      rw [List.nodup_cons] at distinct
      have shortRest : forall number, number ∈ numbers -> number < 16 :=
        fun number member => short number (List.mem_cons_of_mem first member)
      rcases List.mem_cons.mp member with rfl | member
      · let loaded := cpu.setRegister (UInt8.ofNat number)
          (cpu.read (address + UInt16.ofNat number))
        have kept : (loaded.loadAt address numbers).registers.get (place (UInt8.ofNat number)) =
            loaded.registers.get (place (UInt8.ofNat number)) := by
          by_contra changed
          rcases loadAt_or_changed changed with ⟨later, laterMember, here⟩ | before
          · rw [place_ofNat (short number List.mem_cons_self),
              place_ofNat (shortRest later laterMember)] at here
            have same : number = later := congrArg Fin.val here
            exact distinct.1 (same ▸ laterMember)
          · exact before rfl
        exact kept.trans (Vector.getElem_set_self _)
      · exact inductionHypothesis distinct.2 shortRest member

theorem toNat_moved (address : UInt16) (x : UInt8) :
    (address + (x.toUInt16 + 1)).toNat = (address.toNat + (x.toNat + 1)) % 65536 := by
  have small := x.toNat_lt
  simp only [UInt16.toNat_add, UInt8.toNat_toUInt16, UInt16.reduceToNat]
  omega

/-- `FX55` puts the registers up to VX into the stretch from the index on. -/
theorem bytes_storeRegisters (cpu : Cpu) {x : UInt8} (digit : x.toNat < 16) :
    (cpu.storeRegisters x).memory.bytes cpu.index.toNat (x.toNat + 1) =
      cpu.registers.toList.take (x.toNat + 1) := by
  apply List.ext_getElem
  · rw [Memory.length_bytes, List.length_take, Vector.length_toList]
    omega
  · intro number inBytes _
    rw [Memory.length_bytes] at inBytes
    have small : number < 16 := by omega
    have short : forall other, other ∈ List.range (x.toNat + 1) -> other < 4096 :=
      fun other member => Nat.lt_trans (List.mem_range.mp member) (by omega)
    have stored : (cpu.storeRegisters x).memory.cells.get
          (Memory.cell (cpu.index + UInt16.ofNat number)) =
        cpu.register (UInt8.ofNat number) :=
      get_storeAt List.nodup_range short (List.mem_range.mpr inBytes)
    rw [Memory.cell_add, register_ofNat cpu small] at stored
    rw [Memory.getElem_bytes, List.getElem_take, Vector.getElem_toList]
    exact stored

/-- `FX55` leaves every cell outside its stretch alone. -/
theorem get_storeRegisters_of_notMem (cpu : Cpu) (x : UInt8) (cell : Fin 4096)
    (outside : cell ∉ Memory.stretch cpu.index.toNat (x.toNat + 1)) :
    (cpu.storeRegisters x).memory.cells.get cell = cpu.memory.cells.get cell := by
  by_contra changed
  rcases storeAt_or_changed changed with ⟨number, member, here⟩ | before
  · rw [Memory.cell_add] at here
    exact outside (Memory.mem_stretch.mpr ⟨number, List.mem_range.mp member, here⟩)
  · exact before rfl

/-- `FX33` leaves every cell outside its stretch alone. -/
theorem get_storeDecimal_of_notMem (cpu : Cpu) (x : UInt8) (cell : Fin 4096)
    (outside : cell ∉ Memory.stretch cpu.index.toNat 3) :
    (cpu.storeDecimal x).memory.cells.get cell = cpu.memory.cells.get cell := by
  have apart : forall distance, distance < 3 ->
      Memory.cell (cpu.index + UInt16.ofNat distance) ≠ cell := by
    intro distance short here
    rw [Memory.cell_add] at here
    exact outside (Memory.mem_stretch.mpr ⟨distance, short, here⟩)
  by_contra changed
  rcases written_or_changed changed with here | changed
  · exact apart 2 (by decide) here
  rcases written_or_changed changed with here | changed
  · exact apart 1 (by decide) here
  rcases written_or_changed changed with here | changed
  · exact apart 0 (by decide) ((congrArg Memory.cell (UInt16.add_zero cpu.index)).trans here)
  exact changed rfl

/-- A sprite stands in the stretch from the index on. -/
theorem sprite_eq_bytes (cpu : Cpu) (height : UInt8) :
    cpu.sprite height = cpu.memory.bytes cpu.index.toNat height.toNat := by
  rw [sprite, Memory.bytes, Memory.stretch, List.map_map]
  exact List.map_congr_left fun row _ => cpu.read_add cpu.index row

/-- `FX65` takes the registers up to VX from the stretch from the index on. -/
theorem get_loadRegisters (cpu : Cpu) {x : UInt8} (digit : x.toNat < 16) (number : Fin 16) :
    (cpu.loadRegisters x).registers.get number =
      if number.val ≤ x.toNat then
        cpu.memory.cells.get (Fin.ofNat 4096 (cpu.index.toNat + number.val))
      else cpu.registers.get number := by
  split
  case isTrue upTo =>
    have short : forall other, other ∈ List.range (x.toNat + 1) -> other < 16 :=
      fun other member => Nat.lt_of_lt_of_le (List.mem_range.mp member) digit
    have loaded : (cpu.loadRegisters x).registers.get (place (UInt8.ofNat number.val)) =
        cpu.read (cpu.index + UInt16.ofNat number.val) :=
      get_loadAt List.nodup_range short (List.mem_range.mpr (Nat.lt_succ_of_le upTo))
    rw [place_ofNat number.isLt, read_add] at loaded
    exact loaded
  case isFalse beyond =>
    by_contra changed
    rcases loadAt_or_changed changed with ⟨loaded, member, here⟩ | before
    · have upTo := List.mem_range.mp member
      rw [place_ofNat (by omega)] at here
      have same : number.val = loaded := congrArg Fin.val here
      omega
    · exact before rfl

theorem take_loadRegisters (cpu : Cpu) {x : UInt8} (digit : x.toNat < 16) :
    (cpu.loadRegisters x).registers.toList.take (x.toNat + 1) =
      cpu.memory.bytes cpu.index.toNat (x.toNat + 1) := by
  apply List.ext_getElem
  · rw [Memory.length_bytes, List.length_take, Vector.length_toList]
    omega
  · intro number _ inBytes
    rw [Memory.length_bytes] at inBytes
    have loaded := cpu.get_loadRegisters digit ⟨number, by omega⟩
    rw [if_pos (Nat.le_of_lt_succ inBytes)] at loaded
    rw [Memory.getElem_bytes, List.getElem_take, Vector.getElem_toList]
    exact loaded

end Cpu
end ChipEight
