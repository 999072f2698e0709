import ChipEight.Proofs.Encoding
import ChipEight.Proofs.Independence
import ChipEight.Random.ChaCha

namespace ChipEight

/-!
Loading a program forgets everything else.

Whatever a machine has been through, once it is loaded with a program its processor and its screen
are those of a machine that was switched on with that program, down to the last cell of memory and
the last entry of the stack.  The random numbers go on, and the configuration stays.

The configuration only says how a machine is driven.  Two machines that agree in all the rest, the
generator included, therefore go through the same states from then on.
-/

namespace Memory

/-- Bytes that fit behind an address stand there in their order, and no other cell is changed. -/
theorem cells_place (memory : Memory) {address : UInt16} {values : List UInt8}
    (fits : address.toNat + values.length ≤ 4096) (cell : Fin 4096) :
    (memory.place address values).cells[cell] =
      if address.toNat ≤ cell.val ∧ cell.val < address.toNat + values.length then
        values.getD (cell.val - address.toNat) 0
      else memory.cells[cell] := by
  induction values generalizing memory address with
  | nil =>
      rw [if_neg (by simp only [List.length_nil]; omega)]
      rfl
  | cons value values inductionHypothesis =>
      rw [List.length_cons] at fits
      have next : (address + 1).toNat = address.toNat + 1 := by
        simp only [UInt16.toNat_add, UInt16.reduceToNat]
        omega
      have first : (Memory.cell address).val = address.toNat := by
        rw [val_cell]
        omega
      rw [place, inductionHypothesis (memory.write address value) (by omega), next]
      simp only [write, Fin.getElem_fin, Vector.getElem_set, first, List.length_cons]
      by_cases here : address.toNat = cell.val
      · rw [if_neg (by omega), if_pos here, if_pos (by omega), here, Nat.sub_self,
          List.getD_cons_zero]
      · rw [if_neg here]
        by_cases behind : address.toNat + 1 ≤ cell.val ∧
            cell.val < address.toNat + 1 + values.length
        · have distance : cell.val - address.toNat = cell.val - (address.toNat + 1) + 1 := by omega
          rw [if_pos behind, if_pos (by omega), distance, List.getD_cons_succ]
        · rw [if_neg behind, if_neg (by omega)]

/-- What memory holds right after a program was loaded: the glyphs, and the program from the load
address on as far as it fits, with zeros between and behind. -/
def image (program : List UInt8) (cell : Nat) : UInt8 :=
  if cell < 80 then glyphs.getD cell 0
  else if cell < 0x200 then 0
  else if cell < 0x200 + min program.length 3584 then program.getD (cell - 0x200) 0
  else 0

end Memory

namespace Cpu

theorem cells_load (cpu : Cpu) (program : List UInt8) (cell : Fin 4096) :
    (cpu.load program).2.memory.cells[cell] = Memory.image program cell.val := by
  have size : (program.take 3584).length = min program.length 3584 := by
    rw [List.length_take, Nat.min_comm]
  change ((Memory.zero.place 0 glyphs).place 0x200 (program.take 3584)).cells[cell] = _
  have behind : (0x200 : UInt16).toNat + (program.take 3584).length ≤ 4096 := by
    change 512 + (program.take 3584).length ≤ 4096
    omega
  have zero : Memory.zero.cells[cell] = 0 := by
    simp only [Memory.zero, Fin.getElem_fin, Vector.getElem_replicate]
  have glyphCount : glyphs.length = 80 := rfl
  rw [Memory.cells_place _ behind, Memory.cells_place _ (by decide), zero, size, Memory.image]
  simp only [UInt16.reduceToNat, Nat.zero_le, Nat.zero_add, Nat.sub_zero, true_and, glyphCount]
  by_cases glyph : cell.val < 80
  · rw [if_neg (by omega), if_pos glyph, if_pos glyph]
  · rw [if_neg glyph, if_neg glyph]
    by_cases low : cell.val < 512
    · rw [if_neg (by omega), if_pos low]
    · rw [if_neg low]
      refine if_congr ⟨And.right, fun inside => ⟨Nat.le_of_not_lt low, inside⟩⟩ ?_ rfl
      rw [List.getD_eq_getElem?_getD, List.getD_eq_getElem?_getD,
        List.getElem?_take_of_lt (by omega)]

end Cpu

namespace Machine

variable {G : Type}

/-- All of a machine but its configuration. -/
def state (machine : Machine G) : Cpu × Screen × G :=
  (machine.cpu, machine.screen, machine.random)

variable {left right : Machine G}

theorem alike_of_state (same : left.state = right.state) :
    Machine.Alike (.outside fun _ => False) left right := by
  have cpu : left.cpu = right.cpu := congrArg Prod.fst same
  have screen : left.screen = right.screen := congrArg (fun state => state.2.1) same
  have random : left.random = right.random := congrArg (fun state => state.2.2) same
  refine ⟨?_, screen, fun _ => random⟩
  rw [cpu]
  exact Cpu.Alike.refl _ right.cpu

theorem state_of_alike (alike : Machine.Alike (.outside fun _ => False) left right) :
    left.state = right.state := by
  have equal := alike.equalBut
  have cpu : left.cpu = right.cpu := by
    rcases left with ⟨⟨⟩, screen, random, config⟩
    rcases right with ⟨⟨⟩, otherScreen, otherRandom, otherConfig⟩
    simp only [Cpu.mk.injEq]
    exact ⟨equal.pc, equal.sp, equal.registers, equal.index, equal.delay id,
      equal.sound id id, equal.keyWait, equal.memory, equal.stack⟩
  rw [state, state, cpu, equal.screen, equal.generator id]

variable {K : Type} [Generator G] [KeySource K]

/-- Whatever is done to two machines in the same state, they go through the same states with the
same outcomes. -/
theorem states_agree (same : left.state = right.state) (history : List (Action K)) :
    (left.afterAll history).state = (right.afterAll history).state ∧
      (left.steps history).map (fun step => (step.flow, step.machine.state)) =
        (right.steps history).map (fun step => (step.flow, step.machine.state)) := by
  have whole : forall part, part ≠ .unused -> (View.outside fun _ => False).Compares part := by
    intro part _
    cases part with
    | sound => exact ⟨id, id⟩
    | unused => exact trivial
    | delay | generator => exact id
  induction history generalizing left right with
  | nil => exact ⟨same, rfl⟩
  | cons action history inductionHypothesis =>
      have alike := alike_of_state same
      have next := inductionHypothesis (state_of_alike (alike.after whole action))
      refine ⟨next.1, ?_⟩
      cases action with
      | tick keys =>
          have informed : (View.outside fun _ => False).Informed keys keys
              (Instruction.decode left.cpu.word) :=
            ⟨fun _ => id, fun _ => rfl, fun _ => id⟩
          have step := alike.tick informed
          simp only [steps, List.map_cons, step.flow, state_of_alike step.machine]
          exact congrArg (List.cons _) next.2
      | frame | load | setPixel => exact next.2

/-- Loading a program puts the processor and the screen of any machine into the state in which they
are switched on with that program, and touches nothing else.  From there the machine cannot be told
from a new one with the same generator, whether that was given the whole program or only what
fits. -/
theorem load_resets (machine : Machine G) (program : List UInt8) :
    let loading := machine.load program
    loading.size = min program.length 3584 ∧
    (forall config (unforeseen : G),
      loading.machine.cpu = (boot config unforeseen program).machine.cpu ∧
        loading.machine.screen = (boot config unforeseen program).machine.screen) ∧
    (forall cell : Fin 4096,
      loading.machine.cpu.memory.cells[cell] = Memory.image program cell.val) ∧
    (forall event, event ∈ loading.events ∧ event.severity = .warn ↔
      event = .truncated program.length 3584 ∧ 3584 < program.length) ∧
    loading.machine.random = machine.random ∧ loading.machine.config = machine.config ∧
    forall other, other = program ∨ other = program.take 3584 ->
      forall config (unforeseen : G) (history : List (Action K)),
        let twin := { (boot config unforeseen other).machine with random := machine.random }
        (loading.machine.afterAll history).state = (twin.afterAll history).state ∧
          (loading.machine.steps history).map (fun step => (step.flow, step.machine.state)) =
            (twin.steps history).map (fun step => (step.flow, step.machine.state)) := by
  intro loading
  have size : loading.size = min program.length 3584 :=
    (List.length_take ..).trans (Nat.min_comm ..)
  refine ⟨size, fun config unforeseen => ⟨rfl, rfl⟩, machine.cpu.cells_load program,
    fun event => ?_, rfl, rfl, ?_⟩
  · change event ∈ (if loading.size < program.length then
      [.truncated program.length loading.size, .loaded loading.size]
        else [.loaded loading.size]) ∧ _ ↔ _
    rw [size]
    by_cases long : 3584 < program.length
    · rw [if_pos (by omega), Nat.min_eq_right (Nat.le_of_lt long)]
      constructor
      · rintro ⟨member, warn⟩
        simp only [List.mem_cons, List.not_mem_nil, or_false] at member
        rcases member with rfl | rfl
        · exact ⟨rfl, long⟩
        · cases warn
      · rintro ⟨rfl, _⟩
        exact ⟨List.mem_cons_self, rfl⟩
    · rw [if_neg (by omega)]
      refine iff_of_false ?_ (fun truncated => long truncated.2)
      rintro ⟨member, warn⟩
      rw [List.mem_singleton.mp member] at warn
      cases warn
  · intro other cut config unforeseen history twin
    have kept : other.take maxProgramSize = program.take maxProgramSize := by
      rcases cut with rfl | rfl
      · rfl
      · exact List.take_take.trans (congrArg (fun size => program.take size) (Nat.min_self 3584))
    have same : loading.machine.state = twin.state := by
      simp only [loading, twin, state, boot, load, Cpu.load, kept]
      rfl
    exact states_agree same history

/-- A machine that waits for a key to be let go, loaded with another program, no longer waits: it
does what a new machine does. -/
theorem reload_ends_wait :
    let waiting := (boot .standard ChaCha.unkeyed [0xF1, 0x0A]).machine.afterAll
      [.tick (.replicate 16 true : Keys)]
    let program : List UInt8 := [0x60, 0x07]
    let reloaded := (waiting.load program).machine
    let fresh := (boot .standard ChaCha.unkeyed program).machine
    waiting.cpu.keyWait = .waiting 1 15 ∧ reloaded.cpu = fresh.cpu ∧
      (waiting.load program).size = 2 ∧
      (reloaded.steps [.tick Keys.released]).map Step.flow = [.ok] := by
  intro waiting program reloaded fresh
  have remembered : waiting.cpu.keyWait = .waiting 1 15 := by decide +kernel
  rcases load_resets (K := Keys) waiting program with ⟨size, new, -, -, -, -, future⟩
  have same := new .standard .unkeyed
  have steps := (future program (Or.inl rfl) .standard .unkeyed [.tick .released]).2
  have flows := congrArg (List.map Prod.fst) steps
  rw [List.map_map, List.map_map] at flows
  exact ⟨remembered, same.1, size, flows.trans (by decide +kernel)⟩

end Machine
end ChipEight
