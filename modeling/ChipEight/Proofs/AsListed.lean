import ChipEight.Proofs.CompleteListing
import ChipEight.Proofs.Reset
import ChipEight.Random.ChaCha

namespace ChipEight

/-!
The listing is what executes.

A program is read twice: from its bytes, for a listing, and from the memory it was loaded into, for
execution.  The listing knows nothing of the size of memory, of addresses that wrap, or of what
programs do to themselves.  Where the cells of a line have been reached by the program and still
hold what was loaded, the two agree all the same: the step takes the word of the line, executes the
instruction of the line, and its announcement, which has a wording of its own, reads like the line.
-/

namespace Memory

/-- What fits of a program stands behind the load address. -/
theorem image_of_inside {program : List UInt8} {place : Nat}
    (inside : place < min program.length 3584) :
    image program (0x200 + place) = program[place] := by
  rw [image, if_neg (by omega), if_neg (by omega), if_pos (by omega), Nat.add_sub_cancel_left,
    List.getD_eq_getElem?_getD, List.getElem?_eq_getElem, Option.getD_some]

end Memory

/-- What a step writes to the log at the lowest level. -/
def Step.traces {G : Type} (step : Step G) : List String :=
  (step.events.filter fun event => event.severity = .trace).map Event.text

namespace Machine

variable {G : Type}

/-- The line of a listing that would stand for the next instruction of a machine. -/
def nextLine (machine : Machine G) : Line :=
  .code (machine.cpu.pc &&& 0xFFF).toNat machine.cpu.word

/-- An instruction is announced in the words of its line. -/
theorem text_announcement (machine : Machine G) :
    machine.announcement.text = machine.nextLine.text :=
  rfl

/-- The next line of a machine whose program counter stands at cells as they were loaded. -/
theorem nextLine_of_loaded {machine : Machine G} {program : List UInt8} {line : Nat}
    (here : machine.cpu.pc.toNat % 4096 = 0x200 + 2 * line)
    (inside : 2 * line + 1 < min program.length 3584)
    (loaded : forall cell : Fin 4096, cell.val = 0x200 + 2 * line ∨ cell.val = 0x200 + 2 * line + 1 ->
      machine.cpu.memory.cells.get cell = Memory.image program cell.val) :
    (Listing.ofProgram program).lines[line]? = some machine.nextLine := by
  have short : 2 * line + 1 < program.length := by omega
  have first : (Memory.cell machine.cpu.pc).val = 0x200 + 2 * line := by
    rw [Memory.val_cell, here]
  have second : (Memory.cell (machine.cpu.pc + 1)).val = 0x200 + 2 * line + 1 := by
    rw [Memory.val_cell, UInt16.toNat_add]
    change (machine.cpu.pc.toNat + 1) % 65536 % 4096 = _
    omega
  have high : machine.cpu.read machine.cpu.pc = program[2 * line] := by
    have cell := loaded _ (Or.inl first)
    rw [first, Memory.image_of_inside (by omega)] at cell
    exact cell
  have low : machine.cpu.read (machine.cpu.pc + 1) = program[2 * line + 1] := by
    have cell := loaded _ (Or.inr second)
    rw [second, Nat.add_assoc, Memory.image_of_inside inside] at cell
    exact cell
  have shown := Listing.linesFrom_word loadAddress program line short
  have address : (machine.cpu.pc &&& 0xFFF).toNat = loadAddress + 2 * line := first
  rw [Listing.lines, Listing.ofProgram, nextLine, Cpu.word, high, low, address]
  exact shown

variable {K : Type} [Generator G] [KeySource K]

/-- What an instruction has to tell is told above the lowest level. -/
theorem traces_execute (machine : Machine G) (keys : K) (instruction : Instruction) :
    (machine.execute keys instruction).traces = [] := by
  have untraced : (machine.execute keys instruction).events.filter
      (fun event => event.severity = .trace) = [] := by
    apply List.filter_eq_nil_iff.mpr
    intro event member
    have told := machine.ofInstruction_execute keys instruction event member
    cases event with
    | executing | buzzed => cases told
    | _ => exact Bool.false_ne_true
  rw [Step.traces, untraced, List.map_nil]

/-- The only trace of a step reads like the line of its instruction. -/
theorem traces_tick (machine : Machine G) (keys : K) :
    (machine.tick keys).traces = [machine.nextLine.text] := by
  rw [machine.tick_eq keys rfl, ← machine.text_announcement]
  exact congrArg (List.cons machine.announcement.text)
    (machine.passed.traces_execute keys (Instruction.decode machine.cpu.word))

/-- Where the program counter of a machine, by its low twelve bits, is at a line of the program that
was loaded last, and the cells of that line hold what was loaded, the next step fetches the word of
the line, executes its instruction, and has the text of the line as its only trace. -/
theorem executes_as_listed (earlier : Machine G) (program : List UInt8) (history : List (Action K))
    (keys : K) (line : Nat) :
    let loaded := (earlier.load program).machine
    let machine := loaded.afterAll history
    machine.cpu.pc.toNat % 4096 = 0x200 + 2 * line ->
    2 * line + 1 < min program.length 3584 ->
    (forall cell : Fin 4096, cell.val = 0x200 + 2 * line ∨ cell.val = 0x200 + 2 * line + 1 ->
      machine.cpu.memory.cells.get cell = loaded.cpu.memory.cells.get cell) ->
    Exists fun listed : Line => Exists fun instruction =>
      ((Listing.ofProgram program).advance line).next.1 = some listed ∧
        listed = .code (0x200 + 2 * line) machine.cpu.fetch.1 ∧
        listed.instruction? = some instruction ∧
        (machine.tick keys).machine = (machine.passed.execute keys instruction).machine ∧
        (machine.tick keys).flow = (machine.passed.execute keys instruction).flow ∧
        (machine.tick keys).traces = [listed.text] := by
  intro loaded machine here inside kept
  have held : forall cell : Fin 4096, cell.val = 0x200 + 2 * line ∨ cell.val = 0x200 + 2 * line + 1 ->
      machine.cpu.memory.cells.get cell = Memory.image program cell.val := by
    intro cell ofLine
    rw [kept cell ofLine]
    exact earlier.cpu.cells_load program cell
  have address : (machine.cpu.pc &&& 0xFFF).toNat = 0x200 + 2 * line :=
    (Memory.val_cell machine.cpu.pc).trans here
  refine ⟨machine.nextLine, Instruction.decode machine.cpu.word, ?_, ?_, rfl, rfl, rfl,
    machine.traces_tick keys⟩
  · rw [Listing.next_advance]
    exact nextLine_of_loaded here inside held
  · rw [nextLine, address]
    rfl

/-- Behind a step that cleared the screen, the jump of the second line is taken and announced. -/
theorem second_line_as_listed :
    let loaded := ((boot .standard ChaCha.unkeyed []).machine.load [0x00, 0xE0, 0x12, 0x00]).machine
    let machine := loaded.afterAll [.tick Keys.released]
    machine.cpu.pc = 0x202 ∧ (machine.tick Keys.released).flow = .jump ∧
      (machine.tick Keys.released).traces = ["0202: 1200  JP 0x200"] := by
  intro loaded machine
  have first : Instruction.decode loaded.cpu.word = .clearScreen := by decide +kernel
  have cleared : machine = { loaded.passed with screen := .blank } :=
    congrArg Step.machine (loaded.tick_eq Keys.released first)
  have counter : machine.cpu.pc = 0x202 := congrArg (fun machine => machine.cpu.pc) cleared
  have memory : machine.cpu.memory = loaded.cpu.memory :=
    congrArg (fun machine => machine.cpu.memory) cleared
  obtain ⟨listed, instruction, answer, -, shown, -, flow, traces⟩ :=
    executes_as_listed (boot .standard ChaCha.unkeyed []).machine [0x00, 0xE0, 0x12, 0x00]
      [.tick Keys.released] Keys.released 1 (by rw [counter]; rfl) (by decide)
      (fun cell _ => by rw [memory])
  have line : listed = .code 0x202 0x1200 := (Option.some.inj answer).symm
  rw [line] at shown traces
  have jump : instruction = .jump 0x200 := (Option.some.inj shown).symm
  rw [jump] at flow
  have text : (Line.code 0x202 0x1200).text = "0202: 1200  JP 0x200" := by decide +kernel
  rw [text] at traces
  exact ⟨counter, flow, traces⟩

end Machine
end ChipEight
