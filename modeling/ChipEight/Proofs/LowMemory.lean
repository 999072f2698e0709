import ChipEight.Proofs.Reset
import ChipEight.Proofs.Stretches
import ChipEight.Random.ChaCha

namespace ChipEight

/-!
The memory below the load address.

A program is loaded behind the glyphs of the digits, and the memory between the glyphs and the
program is filled with zeros.  Nothing protects these cells.  An instruction that stores goes
wherever the index points, and around the end of memory to its start, so a program may write over
the glyphs.  A machine then draws what is there.

What a program has not stored to, it finds as it was loaded.  The instructions that store are two,
and the cells that they store to are stretches from the index on.  They are collected here along a
history, from one load to the next: every cell below the load address that is not among them still
holds its byte of a glyph or its zero.
-/

/-- The cells that an instruction stores to, with a value of the index. -/
def Instruction.storesTo (index : UInt16) : Instruction -> List (Fin 4096)
  | .storeDecimal _ => Memory.stretch index.toNat 3
  | .storeRegisters x => Memory.stretch index.toNat (x.toNat + 1)
  | _ => []

namespace Machine

variable {G : Type} {machine : Machine G}

/-- The cells below the load address hold what they were loaded with, but for some that were stored
to. -/
def LowKept (machine : Machine G) (stored : List (Fin 4096)) : Prop :=
  forall cell : Fin 4096, cell.val < 0x200 -> cell ∉ stored ->
    machine.cpu.memory.cells.get cell = glyphs.getD cell.val 0

theorem lowKept_load (machine : Machine G) (program : List UInt8) :
    (machine.load program).machine.LowKept [] := by
  intro cell low _
  refine (machine.cpu.cells_load program cell).trans ?_
  rw [Memory.image, if_pos low]
  by_cases glyph : cell.val < 80
  · exact if_pos glyph
  · rw [if_neg glyph, List.getD_eq_default]
    exact Nat.le_of_not_lt glyph

theorem LowKept.glyph {stored : List (Fin 4096)} (kept : machine.LowKept stored) {digit : Nat}
    (hexadecimal : digit ≤ 15)
    (spared : forall cell, cell ∈ Memory.stretch (5 * digit) 5 -> cell ∉ stored) :
    machine.cpu.memory.bytes (5 * digit) 5 = (glyphs.drop (5 * digit)).take 5 := by
  have glyphCount : glyphs.length = 80 := rfl
  apply List.ext_getElem
  · rw [Memory.length_bytes, List.length_take, List.length_drop, glyphCount]
    omega
  · intro row inBytes inGlyph
    have short : row < 5 := by rwa [Memory.length_bytes] at inBytes
    let cell := Fin.ofNat 4096 (5 * digit + row)
    have place : cell.val = 5 * digit + row := Nat.mod_eq_of_lt (by omega)
    have member : cell ∈ Memory.stretch (5 * digit) 5 := Memory.mem_stretch.mpr ⟨row, short, rfl⟩
    rw [Memory.getElem_bytes, List.getElem_take, List.getElem_drop]
    refine (kept cell (by omega) (spared cell member)).trans ?_
    rw [place, List.getD_eq_getElem]

variable {K : Type} [Generator G] [KeySource K]

/-- The cells that a history has stored to since the last load, with those that were stored to
before it. -/
def storedSince (machine : Machine G) (stored : List (Fin 4096)) :
    List (Action K) -> List (Fin 4096)
  | [] => stored
  | .tick keys :: history =>
      (machine.tick keys).machine.storedSince
        (stored ++ (Instruction.decode machine.cpu.word).storesTo machine.cpu.index) history
  | .load program :: history => (machine.load program).machine.storedSince [] history
  | action :: history => (machine.after action).storedSince stored history

/-- An instruction leaves every cell alone that it does not store to. -/
theorem get_execute_of_notMem (keys : K) (instruction : Instruction) {cell : Fin 4096}
    (outside : cell ∉ instruction.storesTo machine.cpu.index) :
    (machine.execute keys instruction).machine.cpu.memory.cells.get cell =
      machine.cpu.memory.cells.get cell := by
  by_contra changed
  have moved : ¬ Component.memory.Kept machine (machine.execute keys instruction).machine := by
    intro kept
    exact changed (congrArg (fun memory : Memory => memory.cells.get cell) kept)
  have listed := form?_mem_changers moved
  cases instruction with
  | storeDecimal x => exact changed (machine.cpu.get_storeDecimal_of_notMem x cell outside)
  | storeRegisters x => exact changed (machine.cpu.get_storeRegisters_of_notMem x cell outside)
  | _ => simp [Component.changers, Instruction.form?] at listed

theorem LowKept.tick {stored : List (Fin 4096)} (kept : machine.LowKept stored) (keys : K) :
    (machine.tick keys).machine.LowKept
      (stored ++ (Instruction.decode machine.cpu.word).storesTo machine.cpu.index) := by
  intro cell low outside
  rw [List.mem_append, not_or] at outside
  rw [← kept cell low outside.1, machine.tick_eq keys rfl]
  exact machine.passed.get_execute_of_notMem keys _ outside.2

theorem LowKept.afterAll {stored : List (Fin 4096)} (kept : machine.LowKept stored)
    (history : List (Action K)) :
    (machine.afterAll history).LowKept (machine.storedSince stored history) := by
  induction history generalizing machine stored with
  | nil => exact kept
  | cons action history inductionHypothesis =>
      cases action with
      | tick keys => exact inductionHypothesis (kept.tick keys)
      | frame replies =>
          apply inductionHypothesis
          rw [after_frame]
          exact kept
      | load program => exact inductionHypothesis (machine.lowKept_load program)
      | setPixel x y on => exact inductionHypothesis kept

/-- `FX29` points at the rows of a glyph, whatever they hold. -/
theorem tick_loadGlyph (keys : K) {x : UInt8}
    (decoded : Instruction.decode machine.cpu.word = .loadGlyph x) :
    let next := (machine.tick keys).machine
    next.cpu.index.toNat = 5 * (machine.cpu.register x).toNat ∧
      next.cpu.memory = machine.cpu.memory := by
  intro next
  have step : next = (machine.passed.execute keys (.loadGlyph x)).machine := by
    change (machine.tick keys).machine = _
    rw [machine.tick_eq keys decoded]
  rw [step]
  refine ⟨?_, rfl⟩
  change ((machine.cpu.register x).toUInt16 * 5).toNat = _
  have small := (machine.cpu.register x).toNat_lt
  simp only [UInt16.toNat_mul, UInt8.toNat_toUInt16, UInt16.reduceToNat]
  omega

/-- A cell below the load address that no instruction has stored to since a program was loaded still
holds its byte of a glyph, or its zero.  So `FX29` points at the glyph of a digit as long as none of
its five cells was stored to. -/
theorem low_memory_kept_until_stored (earlier : Machine G) (program : List UInt8)
    (history : List (Action K)) :
    let loaded := (earlier.load program).machine
    let reached := loaded.afterAll history
    let stored := loaded.storedSince [] history
    reached.LowKept stored ∧
    forall (keys : K) (x : UInt8), Instruction.decode reached.cpu.word = .loadGlyph x ->
      let digit := (reached.cpu.register x).toNat
      let next := (reached.tick keys).machine
      digit ≤ 15 -> (forall cell, cell ∈ Memory.stretch (5 * digit) 5 -> cell ∉ stored) ->
        next.cpu.index.toNat = 5 * digit ∧
          next.cpu.sprite 5 = (glyphs.drop (5 * digit)).take 5 := by
  intro loaded reached stored
  have kept : reached.LowKept stored := (earlier.lowKept_load program).afterAll history
  refine ⟨kept, ?_⟩
  intro keys x decoded digit next hexadecimal spared
  obtain ⟨index, memory⟩ := reached.tick_loadGlyph keys decoded
  refine ⟨index, ?_⟩
  rw [Cpu.sprite_eq_bytes, index, memory]
  exact kept.glyph hexadecimal spared

/-- The digits of a number over the first cells of the glyph of zero.  The glyph of one is still
there, and `FX29` points at it. -/
theorem next_glyph_spared :
    let loaded := ((boot .standard ChaCha.unkeyed []).machine.load
      [0x60, 0x01, 0xF0, 0x33, 0xF0, 0x29]).machine
    let history := [Action.tick Keys.released, .frame brokenDevices, .tick Keys.released]
    let reached := loaded.afterAll history
    let stored := loaded.storedSince [] history
    let next := (reached.tick Keys.released).machine
    stored = [0, 1, 2] ∧
    reached.cpu.memory.cells.get 3 = 0x90 ∧
    Instruction.decode reached.cpu.word = .loadGlyph 0 ∧
    (reached.cpu.register 0).toNat = 1 ∧
    (forall cell, cell ∈ Memory.stretch 5 5 -> cell ∉ stored) ∧
    next.cpu.index.toNat = 5 ∧
    next.cpu.sprite 5 = [0x20, 0x60, 0x20, 0x20, 0x70] := by
  intro loaded history reached stored next
  obtain ⟨low, points⟩ := (boot .standard ChaCha.unkeyed []).machine.low_memory_kept_until_stored
    [0x60, 0x01, 0xF0, 0x33, 0xF0, 0x29] history
  change reached.LowKept stored at low
  have ran : stored = [0, 1, 2] ∧ Instruction.decode reached.cpu.word = .loadGlyph 0 ∧
      (reached.cpu.register 0).toNat = 1 := by
    decide +kernel
  obtain ⟨cells, decoded, digit⟩ := ran
  have behind : forall row, row < 5 -> Fin.ofNat 4096 (5 + row) ∉ [0, 1, 2] := by decide
  have spared : forall cell, cell ∈ Memory.stretch 5 5 -> cell ∉ stored := by
    intro cell member
    obtain ⟨row, short, rfl⟩ := Memory.mem_stretch.mp member
    exact cells ▸ behind row short
  have apart : (3 : Fin 4096) ∉ stored := by
    rw [cells]
    decide
  have pointed := points Keys.released 0 decoded
  change (reached.cpu.register 0).toNat ≤ 15 -> _ at pointed
  rw [digit] at pointed
  obtain ⟨index, sprite⟩ := pointed (by decide) spared
  exact ⟨cells, (low 3 (by decide) apart).trans (by decide), decoded, digit, spared, index, sprite⟩

/-- A program that writes three zeros over the first rows of a glyph, and then points at it. -/
theorem digits_overwrite_glyph :
    let loaded := (boot .standard ChaCha.unkeyed [0xF0, 0x33, 0xF0, 0x29]).machine
    let stored := loaded.afterAll [Action.tick Keys.released]
    let pointed := stored.afterAll [Action.tick Keys.released]
    stored.cpu.memory.cells.get 0 ≠ glyphs.getD 0 0 ∧
    Instruction.decode stored.cpu.word = .loadGlyph 0 ∧
    (stored.cpu.register 0).toNat ≤ 15 ∧
    pointed.cpu.index = 0 ∧
    pointed.cpu.sprite 5 = [0, 0, 0, 0x90, 0xF0] ∧
    glyphs.take 5 = [0xF0, 0x90, 0x90, 0x90, 0xF0] := by
  decide +kernel

end Machine
end ChipEight
