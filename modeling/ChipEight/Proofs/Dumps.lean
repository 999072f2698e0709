import ChipEight.Proofs.Stretches
import ChipEight.Random.ChaCha

namespace ChipEight

/-!
Registers that are stored one set behind the other, and loaded again.

`FX55` moves the index past what it stored, and `FX65` past what it loaded.  A program can therefore
store several sets of registers without a look at the index, put the index back once, and load all
of them in the same order.  Their stretches lie end to end.  As long as they are not longer than
memory together, no set is written over by a later one, wherever the first begins and wherever the
end of memory falls.

The index goes on beyond the end of memory, up to sixteen times around it.  Only its place in memory
counts, so it may be put back to any address that names the cell where the first set begins.
-/

/-- The word of the last family with a register and a low byte. -/
def Word.onRegister (number : Fin 16) (low : UInt8) : UInt16 :=
  Word.ofBytes (0xF0 + UInt8.ofNat number.val) low

namespace Instruction

theorem decode_store (last : Fin 16) :
    decode (Word.onRegister last 0x55) = .storeRegisters (UInt8.ofNat last.val) := by
  revert last
  decide

theorem decode_load (last : Fin 16) :
    decode (Word.onRegister last 0x65) = .loadRegisters (UInt8.ofNat last.val) := by
  revert last
  decide

end Instruction

/-- A set of registers that is stored and loaded again. -/
structure Dump where
  /-- The last of the registers that are stored. -/
  last : Fin 16
  /-- The registers when they are stored. -/
  stored : Vector UInt8 16
  /-- The registers when they are about to be loaded, whatever they hold by then. -/
  found : Vector UInt8 16

namespace Dump

def size (dump : Dump) : Nat :=
  dump.last.val + 1

/-- The length of the stretches of all dumps together. -/
def total (dumps : List Dump) : Nat :=
  (dumps.map size).sum

def bytes (dump : Dump) : List UInt8 :=
  dump.stored.toList.take dump.size

/-- The registers after they were loaded: up to the last one as they were stored, and the others as
they were found. -/
def restored (dump : Dump) : Vector UInt8 16 :=
  Vector.ofFn fun number =>
    if number.val ≤ dump.last.val then dump.stored.get number else dump.found.get number

theorem length_bytes (dump : Dump) : dump.bytes.length = dump.size := by
  rw [bytes, size, List.length_take, Vector.length_toList]
  omega

theorem length_flatMap_bytes (dumps : List Dump) :
    (dumps.flatMap bytes).length = total dumps := by
  simp only [List.length_flatMap, length_bytes]
  rfl

theorem total_cons (dump : Dump) (dumps : List Dump) :
    total (dump :: dumps) = dump.size + total dumps :=
  rfl

end Dump

namespace Machine

variable {G : Type}

def withRegisters (machine : Machine G) (registers : Vector UInt8 16) : Machine G :=
  { machine with cpu := { machine.cpu with registers } }

def withIndex (machine : Machine G) (index : UInt16) : Machine G :=
  { machine with cpu := { machine.cpu with index } }

theorem toNat_ofNat_digit (digit : Fin 16) : (UInt8.ofNat digit.val).toNat = digit.val :=
  UInt8.toNat_ofNat_of_lt' (Nat.lt_trans digit.isLt (by decide))

/-- Bytes were put into memory, one after another from the index on, and the index was moved past
them. -/
structure Filled (before after : Machine G) (bytes : List UInt8) : Prop where
  index : after.cpu.index.toNat = (before.cpu.index.toNat + bytes.length) % 65536
  there : after.cpu.memory.bytes before.cpu.index.toNat bytes.length = bytes
  kept : forall cell, cell ∉ Memory.stretch before.cpu.index.toNat bytes.length ->
    after.cpu.memory.cells.get cell = before.cpu.memory.cells.get cell

theorem Filled.nothing (machine : Machine G) : Filled machine machine [] where
  index := (Nat.mod_eq_of_lt machine.cpu.index.toNat_lt).symm
  there := rfl
  kept _ _ := rfl

/-- The stretch behind the index of a machine that was filled, counted from where it began. -/
theorem Filled.stretch_behind {before after : Machine G} {bytes : List UInt8}
    (filled : Filled before after bytes) (length : Nat) :
    Memory.stretch after.cpu.index.toNat length =
      Memory.stretch (before.cpu.index.toNat + bytes.length) length := by
  apply Memory.stretch_congr
  rw [filled.index]
  omega

/-- What is put behind other bytes leaves them alone, if there is room for both. -/
theorem Filled.append {before middle after : Machine G} {bytes more : List UInt8}
    (first : Filled before middle bytes) (second : Filled middle after more)
    (fits : bytes.length + more.length ≤ 4096) : Filled before after (bytes ++ more) := by
  have behind := first.stretch_behind more.length
  have whole := Memory.stretch_append before.cpu.index.toNat bytes.length more.length
  have distinct := Memory.stretch_nodup before.cpu.index.toNat fits
  rw [whole, List.nodup_append] at distinct
  constructor
  case index =>
    rw [second.index, first.index, List.length_append]
    omega
  case there =>
    have firstKept : after.cpu.memory.bytes before.cpu.index.toNat bytes.length =
        middle.cpu.memory.bytes before.cpu.index.toNat bytes.length := by
      apply Memory.bytes_congr
      intro cell member
      apply second.kept
      rw [behind]
      exact fun again => distinct.2.2 cell member cell again rfl
    have secondThere : after.cpu.memory.bytes (before.cpu.index.toNat + bytes.length) more.length =
        more := by
      have there := second.there
      rwa [Memory.bytes, behind] at there
    rw [List.length_append, Memory.bytes_append, firstKept, first.there, secondThere]
  case kept =>
    intro cell outside
    rw [List.length_append, whole, List.mem_append, not_or] at outside
    have keptSecond := second.kept cell (behind ▸ outside.2)
    rw [keptSecond, first.kept cell outside.1]

/-- A dump that stands behind the index is loaded: the registers that it holds are as they were
stored, the others as they were found, and the index has moved past it. -/
structure Restored (before after : Machine G) (dump : Dump) : Prop where
  registers : after.cpu.registers = dump.restored
  index : after.cpu.index.toNat = (before.cpu.index.toNat + dump.size) % 65536
  memory : after.cpu.memory = before.cpu.memory

variable {K : Type} [Generator G] [KeySource K]

/-- Put the registers of a dump in place and store them. -/
def store (machine : Machine G) (keys : K) (dump : Dump) : Machine G :=
  ((machine.withRegisters dump.stored).obey keys (Word.onRegister dump.last 0x55)).machine

/-- Load the registers of a dump over those that are found. -/
def restore (machine : Machine G) (keys : K) (dump : Dump) : Machine G :=
  ((machine.withRegisters dump.found).obey keys (Word.onRegister dump.last 0x65)).machine

/-- Store dumps one behind the other. -/
def storeAll (machine : Machine G) (keys : K) (dumps : List Dump) : Machine G :=
  dumps.foldl (fun machine dump => machine.store keys dump) machine

/-- Load dumps in their order, with the registers after each. -/
def restoreAll (machine : Machine G) (keys : K) : List Dump -> List (Vector UInt8 16) × Machine G
  | [] => ([], machine)
  | dump :: dumps =>
      let loaded := machine.restore keys dump
      let (files, last) := loaded.restoreAll keys dumps
      (loaded.cpu.registers :: files, last)

/-- `FX55` puts the registers up to VX behind the index. -/
theorem filled_obey (machine : Machine G) (keys : K) (last : Fin 16) :
    Filled machine (machine.obey keys (Word.onRegister last 0x55)).machine
      (machine.cpu.registers.toList.take (last.val + 1)) := by
  have digit := toNat_ofNat_digit last
  have length : (machine.cpu.registers.toList.take (last.val + 1)).length = last.val + 1 := by
    rw [List.length_take, Vector.length_toList]
    omega
  have stored : (machine.obey keys (Word.onRegister last 0x55)).machine.cpu =
      machine.passed.cpu.storeRegisters (UInt8.ofNat last.val) := by
    rw [obey, Instruction.decode_store]
    rfl
  have there := machine.passed.cpu.bytes_storeRegisters (digit ▸ last.isLt)
  have kept := machine.passed.cpu.get_storeRegisters_of_notMem (UInt8.ofNat last.val)
  have index := Cpu.toNat_moved machine.cpu.index (UInt8.ofNat last.val)
  rw [digit] at there kept index
  constructor
  case index =>
    rw [stored, Cpu.storeRegisters_eq, length]
    exact index
  case there =>
    rw [stored, length]
    exact there
  case kept =>
    intro cell outside
    rw [length] at outside
    rw [stored]
    exact kept cell outside

theorem filled_store (machine : Machine G) (keys : K) (dump : Dump) :
    Filled machine (machine.store keys dump) dump.bytes := by
  have filled := (machine.withRegisters dump.stored).filled_obey keys dump.last
  exact ⟨filled.index, filled.there, filled.kept⟩

theorem filled_storeAll (machine : Machine G) (keys : K) {dumps : List Dump}
    (fits : Dump.total dumps ≤ 4096) :
    Filled machine (machine.storeAll keys dumps) (dumps.flatMap Dump.bytes) := by
  induction dumps generalizing machine with
  | nil => exact Filled.nothing machine
  | cons dump dumps inductionHypothesis =>
      rw [Dump.total_cons] at fits
      have first := machine.filled_store keys dump
      have rest := inductionHypothesis (machine.store keys dump) (by omega)
      rw [List.flatMap_cons]
      apply first.append rest
      rw [dump.length_bytes, Dump.length_flatMap_bytes]
      exact fits

/-- `FX65` takes the registers up to VX from behind the index. -/
theorem cpu_obey_load (machine : Machine G) (keys : K) (last : Fin 16) :
    (machine.obey keys (Word.onRegister last 0x65)).machine.cpu =
      machine.passed.cpu.loadRegisters (UInt8.ofNat last.val) := by
  rw [obey, Instruction.decode_load]
  rfl

theorem restored_restore (machine : Machine G) (keys : K) {dump : Dump}
    (there : machine.cpu.memory.bytes machine.cpu.index.toNat dump.size = dump.bytes) :
    Restored machine (machine.restore keys dump) dump := by
  have digit := toNat_ofNat_digit dump.last
  let ready := machine.withRegisters dump.found
  have loaded : (machine.restore keys dump).cpu =
      ready.passed.cpu.loadRegisters (UInt8.ofNat dump.last.val) :=
    ready.cpu_obey_load keys dump.last
  have index := Cpu.toNat_moved machine.cpu.index (UInt8.ofNat dump.last.val)
  constructor
  case registers =>
    apply Vector.ext
    intro number inside
    have register := ready.passed.cpu.get_loadRegisters (digit ▸ dump.last.isLt) ⟨number, inside⟩
    rw [digit] at register
    rw [loaded, Dump.restored, Vector.getElem_ofFn]
    refine register.trans ?_
    by_cases upTo : number ≤ dump.last.val
    · have short : number < dump.size := Nat.lt_succ_of_le upTo
      have byte := List.getElem_of_eq there (by rw [Memory.length_bytes]; exact short : number < _)
      rw [Memory.getElem_bytes] at byte
      rw [if_pos upTo, if_pos upTo]
      refine byte.trans ?_
      simp only [Dump.bytes, List.getElem_take, Vector.getElem_toList]
      rfl
    · rw [if_neg upTo, if_neg upTo]
      rfl
  case index =>
    rw [digit] at index
    rw [loaded, Cpu.loadRegisters_eq]
    exact index
  case memory =>
    rw [loaded, Cpu.loadRegisters_eq]
    rfl

theorem restored_restoreAll (machine : Machine G) (keys : K) {dumps : List Dump}
    (there : machine.cpu.memory.bytes machine.cpu.index.toNat (Dump.total dumps) =
      dumps.flatMap Dump.bytes) :
    let last := (machine.restoreAll keys dumps).2
    (machine.restoreAll keys dumps).1 = dumps.map Dump.restored ∧
      last.cpu.index.toNat = (machine.cpu.index.toNat + Dump.total dumps) % 65536 ∧
      last.cpu.memory = machine.cpu.memory := by
  induction dumps generalizing machine with
  | nil => exact ⟨rfl, (Nat.mod_eq_of_lt machine.cpu.index.toNat_lt).symm, rfl⟩
  | cons dump dumps inductionHypothesis =>
      rw [Dump.total_cons, Memory.bytes_append, List.flatMap_cons] at there
      have lengths : (machine.cpu.memory.bytes machine.cpu.index.toNat dump.size).length =
          dump.bytes.length := by
        rw [Memory.length_bytes, dump.length_bytes]
      obtain ⟨first, behind⟩ := List.append_inj there lengths
      have loaded := machine.restored_restore keys first
      have thereNext : (machine.restore keys dump).cpu.memory.bytes
            (machine.restore keys dump).cpu.index.toNat (Dump.total dumps) =
          dumps.flatMap Dump.bytes := by
        have same : (machine.restore keys dump).cpu.index.toNat % 4096 =
            (machine.cpu.index.toNat + dump.size) % 4096 := by
          rw [loaded.index]
          omega
        rw [loaded.memory, Memory.bytes, Memory.stretch_congr same]
        exact behind
      obtain ⟨files, index, memory⟩ := inductionHypothesis (machine.restore keys dump) thereNext
      refine ⟨?_, ?_, memory.trans loaded.memory⟩
      · rw [List.map_cons, ← loaded.registers, ← files]
        rfl
      · refine index.trans ?_
        rw [loaded.index, Dump.total_cons]
        omega

/-- Registers that were just loaded are stored where they came from without a change to memory. -/
theorem memory_load_store (machine : Machine G) (keys : K) (last : Fin 16) {start : UInt16}
    (back : start.toNat % 4096 = machine.cpu.index.toNat % 4096) :
    let loaded := (machine.obey keys (Word.onRegister last 0x65)).machine
    ((loaded.withIndex start).obey keys (Word.onRegister last 0x55)).machine.cpu.memory =
      machine.cpu.memory := by
  intro loaded
  have digit := toNat_ofNat_digit last
  have cpu := machine.cpu_obey_load keys last
  have registers := machine.passed.cpu.take_loadRegisters (digit ▸ last.isLt)
  have memory : loaded.cpu.memory = machine.cpu.memory := by
    change (machine.obey keys (Word.onRegister last 0x65)).machine.cpu.memory = _
    rw [cpu, Cpu.loadRegisters_eq]
    rfl
  rw [← cpu, digit] at registers
  have filled := (loaded.withIndex start).filled_obey keys last
  have taken : (loaded.withIndex start).cpu.registers.toList.take (last.val + 1) =
      machine.cpu.memory.bytes start.toNat (last.val + 1) := by
    rw [Memory.bytes, Memory.stretch_congr back]
    exact registers
  rw [taken] at filled
  have there := filled.there
  have kept := filled.kept
  rw [Memory.length_bytes] at there kept
  apply Memory.eq_of_bytes there
  intro cell outside
  exact (kept cell outside).trans (congrArg (fun memory : Memory => memory.cells.get cell) memory)

/-- Sets of registers that were stored one behind the other come back as they were, each over
whatever the registers hold by then, as soon as the index is back at the cell where the first set
begins.  Only their stretches of memory are written, and the index moves on by their length, when
they are stored and when they are loaded.  Registers that were loaded and are stored again where
they came from leave memory as it was. -/
theorem dumps_come_back (machine : Machine G) (keys : K) :
    (forall (dumps : List Dump) (start : UInt16), Dump.total dumps ≤ 4096 ->
      start.toNat % 4096 = machine.cpu.index.toNat % 4096 ->
        let stored := machine.storeAll keys dumps
        let restored := (stored.withIndex start).restoreAll keys dumps
        stored.cpu.index.toNat = (machine.cpu.index.toNat + Dump.total dumps) % 65536 ∧
        (forall cell, cell ∉ Memory.stretch machine.cpu.index.toNat (Dump.total dumps) ->
          stored.cpu.memory.cells.get cell = machine.cpu.memory.cells.get cell) ∧
        restored.1 = dumps.map Dump.restored ∧
        restored.2.cpu.index.toNat = (start.toNat + Dump.total dumps) % 65536 ∧
        restored.2.cpu.memory = stored.cpu.memory) ∧
    forall (last : Fin 16) (start : UInt16),
      start.toNat % 4096 = machine.cpu.index.toNat % 4096 ->
        let loaded := (machine.obey keys (Word.onRegister last 0x65)).machine
        ((loaded.withIndex start).obey keys (Word.onRegister last 0x55)).machine.cpu.memory =
          machine.cpu.memory := by
  constructor
  · intro dumps start fits back stored restored
    have filled := machine.filled_storeAll keys fits
    have index := filled.index
    have there := filled.there
    have kept := filled.kept
    rw [Dump.length_flatMap_bytes] at index there kept
    have behind : (stored.withIndex start).cpu.memory.bytes (stored.withIndex start).cpu.index.toNat
          (Dump.total dumps) = dumps.flatMap Dump.bytes := by
      change stored.cpu.memory.bytes start.toNat (Dump.total dumps) = _
      rw [Memory.bytes, Memory.stretch_congr back]
      exact there
    exact ⟨index, kept, (stored.withIndex start).restored_restoreAll keys behind⟩
  · intro last start back
    exact machine.memory_load_store keys last back

/-- Two dumps across the end of memory, and the index put back to another address of the cell where
the first one begins: each load brings back what was stored, over registers that hold other
values. -/
theorem dumps_around_end :
    let loaded := (boot .standard ChaCha.unkeyed []).machine
    let machine := loaded.withIndex 0x0FFF
    let dumps : List Dump :=
      [⟨1, .replicate 16 7, .replicate 16 0⟩, ⟨0, .replicate 16 9, .replicate 16 1⟩]
    let stored := machine.storeAll Keys.released dumps
    let restored := (stored.withIndex 0x3FFF).restoreAll Keys.released dumps
    Dump.total dumps ≤ 4096 ∧
    (0x3FFF : UInt16).toNat % 4096 = machine.cpu.index.toNat % 4096 ∧
    stored.cpu.index = 0x1002 ∧
    stored.cpu.memory.cells.get 2 = loaded.cpu.memory.cells.get 2 ∧
    restored.1.map Vector.toList =
      [[7, 7, 0, 0, 0, 0, 0, 0, 0, 0, 0, 0, 0, 0, 0, 0],
        [9, 1, 1, 1, 1, 1, 1, 1, 1, 1, 1, 1, 1, 1, 1, 1]] ∧
    restored.2.cpu.index = 0x4002 := by
  intro loaded machine dumps stored restored
  have fits : Dump.total dumps ≤ 4096 := by decide
  have back : (0x3FFF : UInt16).toNat % 4096 = machine.cpu.index.toNat % 4096 := by decide
  obtain ⟨index, kept, files, moved, -⟩ :=
    (machine.dumps_come_back Keys.released).1 dumps 0x3FFF fits back
  refine ⟨fits, back, UInt16.toNat_inj.mp (index.trans (by decide)), kept 2 (by decide), ?_,
    UInt16.toNat_inj.mp (moved.trans (by decide))⟩
  exact (congrArg (List.map Vector.toList) files).trans (by decide)

end Machine
end ChipEight
