import ChipEight.Machine.Dump
import ChipEight.Proofs.AsListed
import ChipEight.Proofs.Stretches
import ChipEight.Proofs.Words
import ChipEight.Random.ChaCha

namespace ChipEight

/-!
What is shown of program memory.

A dump shows the bytes from the load address on, two on a line behind the address of the first, up
to the end of memory at most.  Its lines are those of a listing of the same bytes without their
instructions, so a program that was just loaded is shown as it is listed.

The end of the range is computed before it is cut to the end of memory.  For a count that takes it
beyond 64 bits the end falls before the start, and there is no dump instead of a full one.
-/

/-- A line of bytes, behind the address of the first. -/
structure ByteLine where
  address : Nat
  bytes : List UInt8
deriving DecidableEq, Repr

namespace ByteLine

/-- The text of a line, without the line end. -/
def text (line : ByteLine) : String :=
  Hex.padded 4 line.address ++ ":" ++ String.join (line.bytes.map fun byte => " " ++ Hex.byte byte)

/-- A line as it is written, with its line end. -/
def written (line : ByteLine) : String :=
  line.text ++ "\n"

theorem newline_not_mem (line : ByteLine) : '\n' ∉ line.text.toList := by
  have colon : ":".toList = [':'] := by decide
  have blank : " ".toList = [' '] := by decide
  have digits : forall width value, '\n' ∉ (Hex.padded width value).toList :=
    fun width value member => IsWord.hexadecimal width value '\n' member (by decide)
  intro member
  simp only [text, String.toList_append, String.toList_join, List.flatMap_map, colon, blank,
    List.mem_append, List.mem_singleton, List.mem_flatMap, Hex.byte, digits, false_or,
    or_false] at member
  rcases member with here | ⟨_, _, here⟩ <;> exact absurd here (by decide)

/-- A text of lines comes apart into their texts at the line ends. -/
theorem splitOn_written (lines : List ByteLine) :
    (String.join (lines.map written)).toList.splitOn '\n' =
      lines.map (fun line => line.text.toList) ++ [[]] := by
  have lineEnd : "\n".toList = ['\n'] := by decide
  have characters : (String.join (lines.map written)).toList =
      (lines.map fun line => line.text.toList).flatMap fun line => line ++ ['\n'] := by
    simp only [String.toList_join, List.flatMap_map, written, String.toList_append, lineEnd]
  rw [characters]
  apply splitOn_lines
  intro text member
  obtain ⟨line, -, rfl⟩ := List.mem_map.mp member
  exact line.newline_not_mem

end ByteLine

/-- A line of a listing without its instruction. -/
def Line.byteLine (line : Line) : ByteLine :=
  ⟨line.address, line.bytes⟩

namespace Memory

variable {start stop : Nat}

/-- The lines of a dump: the bytes from an address on in twos, and a last odd byte alone. -/
def byteLines (memory : Memory) (address count : Nat) : List ByteLine :=
  (List.range ((count + 1) / 2)).map fun line =>
    ⟨address + 2 * line, memory.bytes (address + 2 * line) (min 2 (count - 2 * line))⟩

theorem byteLines_add_two (memory : Memory) (address count : Nat) :
    memory.byteLines address (count + 2) =
      ⟨address, memory.bytes address 2⟩ :: memory.byteLines (address + 2) count := by
  have lines : (count + 2 + 1) / 2 = (count + 1) / 2 + 1 := by omega
  rw [byteLines, lines, List.range_succ_eq_map, List.map_cons, List.map_map]
  refine congrArg (List.cons _) (List.map_congr_left fun line _ => ?_)
  have place : address + 2 * (line + 1) = address + 2 + 2 * line := by omega
  have left : count + 2 - 2 * (line + 1) = count - 2 * line := by omega
  simp only [Function.comp_apply, Nat.succ_eq_add_one, place, left]

theorem bytes_add_two (memory : Memory) (start length : Nat) :
    memory.bytes start (length + 2) =
      memory.cells.get (Fin.ofNat 4096 start) :: memory.cells.get (Fin.ofNat 4096 (start + 1)) ::
        memory.bytes (start + 2) length := by
  rw [Nat.add_comm, bytes_append]
  rfl

/-- The lines of a listing of what stands in memory show the lines of the dump. -/
theorem byteLine_linesFrom (memory : Memory) (address count : Nat) :
    (Listing.linesFrom address (memory.bytes address count)).map Line.byteLine =
      memory.byteLines address count := by
  match count with
  | 0 => rfl
  | 1 => rfl
  | count + 2 =>
      have first : forall high low : UInt8,
          (Line.code address (Word.ofBytes high low)).byteLine = ⟨address, [high, low]⟩ := by
        intro high low
        rw [Line.byteLine, Line.address, Line.bytes, Word.bytes_ofBytes]
      rw [bytes_add_two, byteLines_add_two, Listing.linesFrom, List.map_cons, first,
        memory.byteLine_linesFrom (address + 2) count]
      rfl

/-- The lines show every byte of the stretch once, in order. -/
theorem bytes_byteLines (memory : Memory) (address count : Nat) :
    (memory.byteLines address count).flatMap ByteLine.bytes = memory.bytes address count := by
  rw [← byteLine_linesFrom, List.flatMap_map]
  exact Listing.bytes_linesFrom address (memory.bytes address count)

theorem length_byteLines (memory : Memory) (address count : Nat) :
    (memory.byteLines address count).length = (count + 1) / 2 := by
  rw [byteLines, List.length_map, List.length_range]

theorem eq_of_getElem?_byteLines {memory : Memory} {address count number : Nat} {line : ByteLine}
    (there : (memory.byteLines address count)[number]? = some line) :
    2 * number < count ∧
      line = ⟨address + 2 * number, memory.bytes (address + 2 * number)
        (min 2 (count - 2 * number))⟩ := by
  obtain ⟨inside, rfl⟩ := List.getElem?_eq_some_iff.mp there
  rw [length_byteLines] at inside
  refine ⟨by omega, ?_⟩
  simp only [byteLines, List.getElem_map, List.getElem_range]

/-- The lines of whole pairs begin the lines of any longer stretch. -/
theorem byteLines_prefix (memory : Memory) (address pairs more : Nat) :
    memory.byteLines address (2 * pairs) <+: memory.byteLines address (2 * pairs + more) := by
  induction pairs generalizing address with
  | zero => exact List.nil_prefix
  | succ pairs inductionHypothesis =>
      have longer : 2 * (pairs + 1) + more = 2 * pairs + more + 2 := by omega
      rw [longer, Nat.mul_succ, byteLines_add_two, byteLines_add_two, List.prefix_cons_inj]
      exact inductionHypothesis (address + 2)

theorem slice_eq_bytes (memory : Memory) (inside : stop ≤ 4096) :
    memory.slice start stop = memory.bytes start (stop - start) := by
  have size : (memory.slice start stop).length = stop - start := by
    rw [slice, List.length_drop, List.length_take, Vector.length_toList, Nat.min_eq_left inside]
  apply List.ext_getElem
  · rw [size, length_bytes]
  · intro distance early late
    have short : start + distance < 4096 := by omega
    rw [getElem_bytes]
    simp only [slice, List.getElem_drop, List.getElem_take, Vector.getElem_toList]
    have cell : Fin.ofNat 4096 (start + distance) = ⟨start + distance, short⟩ :=
      Fin.ext (Nat.mod_eq_of_lt short)
    rw [cell]
    rfl

end Memory

/-- A program that fits stands behind the load address once it is loaded. -/
theorem Cpu.bytes_load (cpu : Cpu) {program : List UInt8} (fits : program.length ≤ 3584) :
    (cpu.load program).2.memory.bytes 0x200 program.length = program := by
  apply List.ext_getElem
  · rw [Memory.length_bytes]
  · intro place early inside
    have cell : (Fin.ofNat 4096 (0x200 + place)).val = 0x200 + place :=
      Nat.mod_eq_of_lt (by omega)
    rw [Memory.getElem_bytes]
    calc (cpu.load program).2.memory.cells.get (Fin.ofNat 4096 (0x200 + place))
        = Memory.image program (Fin.ofNat 4096 (0x200 + place)).val :=
          cpu.cells_load program (Fin.ofNat 4096 (0x200 + place))
      _ = Memory.image program (0x200 + place) := by rw [cell]
      _ = program[place] := Memory.image_of_inside (by omega)

namespace Machine

variable {G : Type}

/-- The lines that a dump of a number of bytes has, as far as memory goes. -/
def byteLines (machine : Machine G) (count : Nat) : List ByteLine :=
  machine.cpu.memory.byteLines loadAddress (min count 3584)

/-- The lines for an even number of bytes begin those for any greater number. -/
theorem byteLines_prefix (machine : Machine G) {less count : Nat} (even : less % 2 = 0)
    (order : less ≤ count) : machine.byteLines less <+: machine.byteLines count := by
  have even : 2 ∣ min less 3584 := by omega
  have order : min less 3584 ≤ min count 3584 := by omega
  obtain ⟨pairs, whole⟩ := even
  obtain ⟨more, longer⟩ := Nat.exists_eq_add_of_le order
  rw [byteLines, byteLines, longer, whole]
  exact machine.cpu.memory.byteLines_prefix loadAddress pairs more

/-- A program that was just loaded is shown in the lines of its listing. -/
theorem byteLines_load (machine : Machine G) {program : List UInt8} (fits : program.length ≤ 3584) :
    (machine.load program).machine.byteLines program.length =
      (Listing.ofProgram program).lines.map Line.byteLine := by
  rw [byteLines, Nat.min_eq_left fits, ← Memory.byteLine_linesFrom]
  exact congrArg (fun bytes => (Listing.linesFrom loadAddress bytes).map Line.byteLine)
    (machine.cpu.bytes_load fits)

/-- What a dump writes is the lines of the listing of its bytes, without their instructions. -/
theorem dumpFrom_eq_join (address : Nat) (bytes : List UInt8) :
    dumpFrom address bytes =
      String.join ((Listing.linesFrom address bytes).map fun line => line.byteLine.written) := by
  have colon : ": " = ":" ++ " " := by decide
  match bytes with
  | [] => rfl
  | [byte] =>
      simp only [dumpFrom, Listing.linesFrom, Line.byteLine, Line.address, Line.bytes,
        ByteLine.written, ByteLine.text, List.map_cons, List.map_nil, String.join_cons,
        String.join_nil, String.append_empty, String.append_assoc, colon]
  | first :: second :: rest =>
      have later := dumpFrom_eq_join (address + 2) rest
      simp only [dumpFrom, Listing.linesFrom, Line.byteLine, Line.address, Line.bytes,
        Word.bytes_ofBytes, ByteLine.written, ByteLine.text, List.map_cons, List.map_nil,
        String.join_cons, String.join_nil, String.append_empty, String.append_assoc, colon, later]

theorem dumpFrom_bytes (memory : Memory) (address count : Nat) :
    dumpFrom address (memory.bytes address count) =
      String.join ((memory.byteLines address count).map ByteLine.written) := by
  rw [dumpFrom_eq_join, ← Memory.byteLine_linesFrom, List.map_map]
  rfl

theorem toNat_dumpEnd (count : UInt64) :
    (UInt64.ofNat loadAddress + count).toNat = (0x200 + count.toNat) % 2 ^ 64 :=
  UInt64.toNat_add (UInt64.ofNat loadAddress) count

/-- Where the dump of a number of bytes ends, as long as that is not beyond 64 bits. -/
theorem dumpEnd_of_fits {count : UInt64} (fits : count.toNat < 2 ^ 64 - 0x200) :
    min (UInt64.ofNat loadAddress + count).toNat Memory.size =
      loadAddress + min count.toNat 3584 := by
  rw [toNat_dumpEnd]
  change min _ 4096 = 0x200 + _
  omega

/-- Beyond 64 bits the end comes round to an address before the start. -/
theorem dumpEnd_of_wraps {count : UInt64} (wraps : 2 ^ 64 - 0x200 ≤ count.toNat) :
    min (UInt64.ofNat loadAddress + count).toNat Memory.size < loadAddress := by
  have inside := count.toNat_lt
  rw [toNat_dumpEnd]
  change min _ 4096 < 0x200
  omega

theorem dumpMemory?_of_fits (machine : Machine G) {count : UInt64}
    (fits : count.toNat < 2 ^ 64 - 0x200) :
    machine.dumpMemory? count =
      some (String.join ((machine.byteLines count.toNat).map ByteLine.written)) := by
  have stop : loadAddress + min count.toNat 3584 ≤ 4096 := by
    change 0x200 + _ ≤ 4096
    omega
  unfold dumpMemory?
  simp only [dumpEnd_of_fits fits]
  rw [if_pos (Nat.le_add_right ..), Memory.slice_eq_bytes _ stop, Nat.add_sub_cancel_left,
    dumpFrom_bytes]
  rfl

theorem dumpMemory?_of_wraps (machine : Machine G) {count : UInt64}
    (wraps : 2 ^ 64 - 0x200 ≤ count.toNat) : machine.dumpMemory? count = none :=
  if_neg (Nat.not_le_of_lt (dumpEnd_of_wraps wraps))

theorem dumpMemory?_eq_some_iff {machine : Machine G} {count : UInt64} {text : String} :
    machine.dumpMemory? count = some text ↔ count.toNat < 2 ^ 64 - 0x200 ∧
      text = String.join ((machine.byteLines count.toNat).map ByteLine.written) := by
  by_cases fits : count.toNat < 2 ^ 64 - 0x200
  · rw [machine.dumpMemory?_of_fits fits, Option.some_inj, and_iff_right fits, eq_comm]
  · rw [machine.dumpMemory?_of_wraps (Nat.le_of_not_lt fits)]
    exact iff_of_false nofun fun shown => fits shown.1

/-- There is a dump exactly where the end of its range is not beyond 64 bits.  It shows the bytes of
program memory up to the count, and those of all of it for any greater count, in lines of two behind
the addresses of their first bytes.  The lines for an even count begin those for any greater one,
and a program that was just loaded is shown in the lines of its listing. -/
theorem dump_shows_memory (machine : Machine G) (count : UInt64) :
    let shown := min count.toNat 3584
    let lines := machine.byteLines count.toNat
    ((machine.dumpMemory? count).isSome = true ↔ count.toNat < 2 ^ 64 - 0x200) ∧
    (forall text, machine.dumpMemory? count = some text ->
      text = String.join (lines.map ByteLine.written) ∧
        text.toList.splitOn '\n' = lines.map (fun line => line.text.toList) ++ [[]]) ∧
    lines.length = (shown + 1) / 2 ∧
    lines.flatMap ByteLine.bytes = machine.cpu.memory.bytes 0x200 shown ∧
    (forall number line, lines[number]? = some line ->
      line.address = 0x200 + 2 * number ∧ (Hex.padded 4 line.address).toList.length = 4 ∧
        line.bytes = machine.cpu.memory.bytes line.address (min 2 (shown - 2 * number))) ∧
    (3584 ≤ count.toNat -> count.toNat < 2 ^ 64 - 0x200 ->
      machine.dumpMemory? count = machine.dumpMemory? 3584) ∧
    (forall less : UInt64, less.toNat % 2 = 0 -> less ≤ count ->
      machine.byteLines less.toNat <+: lines) ∧
    forall program : List UInt8, program.length ≤ 3584 ->
      (machine.load program).machine.dumpMemory? (UInt64.ofNat program.length) =
        some (String.join ((Listing.ofProgram program).lines.map fun line =>
          line.byteLine.written)) := by
  intro shown lines
  refine ⟨?dumped, ?text, Memory.length_byteLines _ _ _, Memory.bytes_byteLines _ _ _, ?line,
    ?full, fun less even order => machine.byteLines_prefix even order, ?loaded⟩
  case dumped =>
    rw [Option.isSome_iff_exists]
    constructor
    · rintro ⟨text, written⟩
      exact (dumpMemory?_eq_some_iff.mp written).1
    · intro fits
      exact ⟨_, machine.dumpMemory?_of_fits fits⟩
  case text =>
    intro text written
    obtain ⟨-, rfl⟩ := dumpMemory?_eq_some_iff.mp written
    exact ⟨rfl, ByteLine.splitOn_written lines⟩
  case line =>
    intro number line there
    obtain ⟨inside, rfl⟩ := Memory.eq_of_getElem?_byteLines there
    refine ⟨rfl, Hex.length_padded (by decide) ?_, rfl⟩
    change 0x200 + 2 * number < 65536
    omega
  case full =>
    intro all fits
    rw [machine.dumpMemory?_of_fits fits, machine.dumpMemory?_of_fits (by decide), byteLines,
      byteLines, Nat.min_eq_right all]
    rfl
  case loaded =>
    intro program fits
    have size : (UInt64.ofNat program.length).toNat = program.length :=
      UInt64.toNat_ofNat_of_lt' (Nat.lt_of_le_of_lt fits (by decide))
    rw [dumpMemory?_of_fits _ (by omega), size, machine.byteLines_load fits, List.map_map]
    rfl

/-- A program of three bytes is shown in two lines, the first of which is all of a dump of two
bytes; whatever is asked for behind the end of memory changes nothing. -/
theorem dump_of_three_bytes :
    let machine := ((boot .standard ChaCha.unkeyed []).machine.load [0x00, 0xE0, 0x12]).machine
    machine.dumpMemory? 3 = some "0200: 00 E0\n0202: 12\n" ∧
      machine.byteLines 2 <+: machine.byteLines 3 ∧
      machine.dumpMemory? 5000 = machine.dumpMemory? 3584 := by
  intro machine
  obtain ⟨-, -, -, -, -, -, -, loaded⟩ :=
    dump_shows_memory (boot .standard ChaCha.unkeyed []).machine 3
  obtain ⟨-, -, -, -, -, -, begins, -⟩ := dump_shows_memory machine 3
  obtain ⟨-, -, -, -, -, full, -, -⟩ := dump_shows_memory machine 5000
  have text := loaded [0x00, 0xE0, 0x12] (by decide)
  refine ⟨text.trans (by decide +kernel), begins 2 (by decide) (by decide),
    full (by decide) (by decide)⟩

/-- The greatest count there is asks for all of memory and gets nothing. -/
theorem no_dump_for_greatest_count :
    let machine := (boot .standard ChaCha.unkeyed [0x00, 0xE0, 0x12]).machine
    machine.dumpMemory? 18446744073709551615 = none ∧ machine.dumpMemory? 3584 ≠ none := by
  intro machine
  constructor
  · exact machine.dumpMemory?_of_wraps (by decide)
  · rw [machine.dumpMemory?_of_fits (by decide)]
    exact Option.some_ne_none _

end Machine
end ChipEight
