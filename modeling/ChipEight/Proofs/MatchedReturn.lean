import ChipEight.Proofs.Encoding
import ChipEight.Proofs.History
import ChipEight.Proofs.Nesting
import ChipEight.Random.ChaCha
import Mathlib.Data.List.Infix

namespace ChipEight

/-!
Calls and the returns that match them.

A call leaves its return address in the entry that the stack pointer named before.  For as long as
the pointer stays above that entry, the entry and all below it are out of reach: calls write above
them, and a return only takes the pointer down.  The one exception is the last entry of a full
stack, which a further call replaces.

So the step that first brings the pointer back to where it was before the call is a return, and it
goes on behind the call, whatever happened in between: calls within calls, waits, frames, writes
to memory, and overflows of the stack, if they did not reach the entry itself.
-/

namespace Machine

variable {G : Type}

/-- The announcement of a step is no warning, so a step warns if what comes behind it does. -/
theorem warned_cons {machine : Machine G} {told : List Event} :
    (Exists fun event => event ∈ machine.announcement :: told ∧ event.severity = .warn) ↔
      Exists fun event => event ∈ told ∧ event.severity = .warn := by
  constructor
  · rintro ⟨event, member, warn⟩
    rcases List.mem_cons.mp member with announced | behind
    · rw [announced] at warn
      cases warn
    · exact ⟨event, behind, warn⟩
  · rintro ⟨event, behind, warn⟩
    exact ⟨event, List.mem_cons_of_mem _ behind, warn⟩

theorem not_warned_nil : ¬ Exists fun event : Event => event ∈ [] ∧ event.severity = .warn := by
  rintro ⟨event, member, warn⟩
  cases member

variable {K : Type} [Generator G] [KeySource K]

/-- The next instruction is a call, and there is no room for its return address. -/
def CallsWhenFull (machine : Machine G) : Prop :=
  machine.cpu.sp = stackSize ∧
    Exists fun target => Instruction.decode machine.cpu.word = .call target

/-- Along a history that loads no program, the stack pointer stays above a depth. -/
structure StaysAbove (depth : Nat) (machine : Machine G) (history : List (Action K)) : Prop where
  unloaded : forall program, Action.load program ∉ history
  above : forall earlier, earlier <+: history -> depth < (machine.afterAll earlier).cpu.sp

/-- No call of a history finds the stack full. -/
def NeverOverflows (machine : Machine G) (history : List (Action K)) : Prop :=
  forall (earlier : List (Action K)) (keys : K), earlier ++ [.tick keys] <+: history ->
    ¬ (machine.afterAll earlier).CallsWhenFull

theorem StaysAbove.tail {depth : Nat} {machine : Machine G} {action : Action K}
    {history : List (Action K)} (stays : StaysAbove depth machine (action :: history)) :
    StaysAbove depth (machine.after action) history where
  unloaded := fun program member => stays.unloaded program (List.mem_cons_of_mem action member)
  above := fun earlier leading =>
    stays.above (action :: earlier) ((List.prefix_cons_inj action).mpr leading)

theorem NeverOverflows.tail {machine : Machine G} {action : Action K} {history : List (Action K)}
    (never : NeverOverflows machine (action :: history)) :
    NeverOverflows (machine.after action) history :=
  fun earlier keys leading =>
    never (action :: earlier) keys ((List.prefix_cons_inj action).mpr leading)

/-- A step keeps the entries below the stack pointer, but for the last one of a full stack. -/
theorem entry_tick {machine : Machine G} (keys : K) {entry : Nat} (inside : entry < 16)
    (live : entry < machine.cpu.sp) (bounded : machine.cpu.sp ≤ stackSize)
    (spared : entry = 15 -> ¬ machine.CallsWhenFull) :
    (machine.tick keys).machine.cpu.stack[entry] = machine.cpu.stack[entry] := by
  cases machine.stackTurn keys with
  | push target called room =>
      simp only [tick_call_of_room keys called room]
      exact Vector.getElem_set_ne room inside (Nat.ne_of_gt live)
  | replace target called noRoom =>
      simp only [tick_call_of_full keys called noRoom]
      have full : machine.cpu.sp = stackSize := Nat.le_antisymm bounded (Nat.le_of_not_lt noRoom)
      have other : 15 ≠ entry := fun last => spared last.symm ⟨full, target, called⟩
      exact Vector.getElem_set_ne (by decide) inside other
  | pop sp left pointer => simp only [tick_leave_of_succ keys left pointer]
  | stay left empty =>
      simp only [tick_leave_of_empty keys left empty]
      rfl
  | level noCall noReturn kept => simp only [kept.stack]

/-- A step that brings the stack pointer back to a depth is a return from just above it. -/
theorem return_of_tick {machine : Machine G} (keys : K) {depth : Nat} (inside : depth < 16)
    (above : depth < machine.cpu.sp) (back : (machine.tick keys).machine.cpu.sp ≤ depth) :
    machine.cpu.word = 0x00EE ∧ (machine.tick keys).flow = .jump ∧
      (machine.tick keys).machine.cpu.sp = depth ∧
      (machine.tick keys).machine.cpu.pc = machine.cpu.stack[depth] := by
  cases machine.stackTurn keys with
  | push target called room =>
      rw [tick_call_of_room keys called room] at back
      exact absurd (Nat.le_of_succ_le back) (Nat.not_le_of_lt above)
  | replace target called full =>
      rw [tick_call_of_full keys called full] at back
      exact absurd back (Nat.not_le_of_lt above)
  | pop sp left pointer =>
      rw [tick_leave_of_succ keys left pointer] at back ⊢
      change sp ≤ depth at back
      have same : sp = depth := by omega
      subst same
      refine ⟨Instruction.decode_eq_leave_iff.mp left, rfl, rfl, ?_⟩
      change machine.cpu.stack[sp]?.getD 0 = machine.cpu.stack[sp]
      rw [Vector.getElem?_eq_getElem inside, Option.getD_some]
  | stay left empty => exact absurd (empty ▸ above) (Nat.not_lt_zero depth)
  | level noCall noReturn kept =>
      rw [kept.sp] at back
      exact absurd back (Nat.not_le_of_lt above)

/-- For as long as the stack pointer stays above a depth, the entries up to that depth are kept,
but for the last one when the stack overflows. -/
theorem entry_afterAll {machine : Machine G} {depth entry : Nat} (inside : entry < 16)
    (upTo : entry ≤ depth) (bounded : machine.cpu.sp ≤ stackSize) {history : List (Action K)}
    (stays : StaysAbove depth machine history)
    (spared : entry = 15 -> machine.NeverOverflows history) :
    (machine.afterAll history).cpu.stack[entry] = machine.cpu.stack[entry] := by
  -- Both conditions on the history pass to its tail, from the machine after its first action.
  induction history generalizing machine with
  | nil => rfl
  | cons action history inductionHypothesis =>
      have kept : (machine.after action).cpu.stack[entry] = machine.cpu.stack[entry] := by
        cases action with
        | tick keys =>
            have live := Nat.lt_of_le_of_lt upTo (stays.above [] List.nil_prefix)
            refine entry_tick keys inside live bounded (fun last => ?_)
            exact spared last [] keys ⟨history, rfl⟩
        | frame replies => simp only [after_frame]; rfl
        | load program => exact absurd List.mem_cons_self (stays.unloaded program)
        | setPixel x y on => rfl
      rw [afterAll_cons, ← kept]
      exact inductionHypothesis (sp_after_le action bounded) stays.tail
        (fun last => (spared last).tail)

/-- A step at an edge of the stack, where a call finds no room or a return no caller, is spelled
out in full, and no other step has a warning to give. -/
structure Edges (machine : Machine G) (step : Step G) : Prop where
  overflow : machine.cpu.sp = 16 -> forall target,
    Instruction.decode machine.cpu.word = .call target ->
      step =
        ⟨{ machine with
            cpu := { machine.cpu with
              pc := target
              stack := machine.cpu.stack.set 15 (machine.cpu.pc + 2) } },
          .jump, [machine.announcement, .overflow machine.cpu.pc]⟩
  underflow : machine.cpu.sp = 0 -> machine.cpu.word = 0x00EE ->
    step =
      ⟨{ machine with cpu := { machine.cpu with pc := machine.cpu.pc + 2 } },
        .ok, [machine.announcement, .underflow machine.cpu.pc]⟩
  warned : (Exists fun event => event ∈ step.events ∧ event.severity = .warn) ↔
    machine.CallsWhenFull ∨ machine.cpu.sp = 0 ∧ machine.cpu.word = 0x00EE

theorem edges_tick {machine : Machine G} (keys : K) (bounded : machine.cpu.sp ≤ stackSize) :
    Edges machine (machine.tick keys) where
  overflow := fun full target called =>
    tick_call_of_full keys called (full ▸ Nat.lt_irrefl stackSize)
  underflow := fun empty word =>
    tick_leave_of_empty keys (Instruction.decode_eq_leave_iff.mpr word) empty
  warned := by
    cases machine.stackTurn keys with
    | push target called room =>
        rw [tick_call_of_room keys called room, warned_cons]
        refine iff_of_false not_warned_nil ?_
        rintro (full | empty)
        · exact Nat.ne_of_lt room full.1
        · rw [Instruction.decode_eq_leave_iff.mpr empty.2] at called
          cases called
    | replace target called noRoom =>
        rw [tick_call_of_full keys called noRoom, warned_cons]
        have full : machine.cpu.sp = stackSize := Nat.le_antisymm bounded (Nat.le_of_not_lt noRoom)
        exact iff_of_true ⟨_, List.mem_singleton_self _, rfl⟩ (Or.inl ⟨full, target, called⟩)
    | pop sp left pointer =>
        rw [tick_leave_of_succ keys left pointer, warned_cons]
        refine iff_of_false not_warned_nil ?_
        rintro (full | empty)
        · rcases full.2 with ⟨target, called⟩
          rw [left] at called
          cases called
        · exact absurd (pointer.symm.trans empty.1) (Nat.succ_ne_zero sp)
    | stay left empty =>
        rw [tick_leave_of_empty keys left empty, warned_cons]
        have word := Instruction.decode_eq_leave_iff.mp left
        exact iff_of_true ⟨_, List.mem_singleton_self _, rfl⟩ (Or.inr ⟨empty, word⟩)
    | level noCall noReturn kept =>
        refine iff_of_false ?_ ?_
        · rintro ⟨event, member, warn⟩
          exact kept.calm event member warn
        · rintro (full | empty)
          · rcases full.2 with ⟨target, called⟩
            exact noCall target called
          · exact noReturn (Instruction.decode_eq_leave_iff.mpr empty.2)

/-- For as long as the stack pointer stays above the depth that a call found, the return addresses
that were there are kept, and so is the one that the call left, unless it is the last entry and the
stack overflows.  The step that first brings the pointer back is a return, and goes on behind the
call.  The edges of the stack stop nothing on the way. -/
theorem return_matches_call {machine : Machine G} {target : UInt16}
    (called : Instruction.decode machine.cpu.word = .call target) (room : machine.cpu.sp < 16)
    (keys : K) {history : List (Action K)}
    (stays : StaysAbove machine.cpu.sp (machine.tick keys).machine history) :
    let entered := (machine.tick keys).machine
    let reached := entered.afterAll history
    let spared := machine.cpu.sp ≤ 14 ∨ entered.NeverOverflows history
    (forall entry (_ : entry < machine.cpu.sp),
      reached.cpu.stack[entry] = machine.cpu.stack[entry]) ∧
    (spared -> reached.cpu.stack[machine.cpu.sp] = machine.cpu.pc + 2) ∧
    (forall later : K, (reached.tick later).machine.cpu.sp ≤ machine.cpu.sp ->
      reached.cpu.word = 0x00EE ∧ (reached.tick later).flow = .jump ∧
        (reached.tick later).machine.cpu.sp = machine.cpu.sp ∧
        (spared -> (reached.tick later).machine.cpu.pc = machine.cpu.pc + 2)) ∧
    forall (other : Machine G) (later : K), other.cpu.sp ≤ 16 ->
      Edges other (other.tick later) := by
  intro entered reached spared
  have bounded : entered.cpu.sp ≤ stackSize := sp_tick_le keys (Nat.le_of_lt room)
  have above : machine.cpu.sp < reached.cpu.sp := stays.above history (List.prefix_refl history)
  have pushed : forall entry (inside : entry < 16), entered.cpu.stack[entry] =
      (machine.cpu.stack.set machine.cpu.sp (machine.cpu.pc + 2) room)[entry] := by
    intro entry inside
    simp only [entered, tick_call_of_room keys called room]
  have own : spared -> reached.cpu.stack[machine.cpu.sp] = machine.cpu.pc + 2 := by
    intro spared
    have kept := entry_afterAll room (Nat.le_refl _) bounded stays (fun last =>
      spared.resolve_left (by omega))
    rw [kept, pushed, Vector.getElem_set_self]
  refine ⟨fun entry below => ?_, own, fun later back => ?_, fun other later small =>
    edges_tick later small⟩
  · have kept := entry_afterAll (Nat.lt_trans below room) (Nat.le_of_lt below) bounded stays
      (fun last => absurd below (by omega))
    rw [kept, pushed, Vector.getElem_set_ne room _ (Nat.ne_of_gt below)]
  · rcases return_of_tick later room above back with ⟨word, flow, depth, address⟩
    exact ⟨word, flow, depth, fun spared => address.trans (own spared)⟩

/-- A call within a call: the inner one returns while the outer one goes on, and the return of the
outer one leads behind its call. -/
theorem nested_call_returns :
    let machine := (boot .standard ChaCha.unkeyed
      [0x22, 0x04, 0x12, 0x02, 0x22, 0x08, 0x00, 0xEE, 0x00, 0xEE]).machine
    let history : List (Action Keys) := [.tick .released, .tick .released]
    Instruction.decode machine.cpu.word = .call 0x204 ∧ machine.cpu.sp < 16 ∧
      StaysAbove machine.cpu.sp (machine.tick Keys.released).machine history ∧
      (((machine.tick Keys.released).machine.afterAll history).tick Keys.released).machine.cpu.pc =
        machine.cpu.pc + 2 := by
  intro machine history
  have called : Instruction.decode machine.cpu.word = .call 0x204 := by decide +kernel
  have room : machine.cpu.sp < 16 := by decide +kernel
  have stays : StaysAbove machine.cpu.sp (machine.tick Keys.released).machine history := by
    constructor
    · intro program member
      simp only [history, List.mem_cons, List.not_mem_nil, reduceCtorEq, or_false] at member
    · intro earlier leading
      simp only [history, List.prefix_cons_iff, List.prefix_nil] at leading
      rcases leading with rfl | ⟨_, rfl, rfl | ⟨_, rfl, rfl⟩⟩ <;> decide +kernel
  refine ⟨called, room, stays, ?_⟩
  rcases return_matches_call called room Keys.released stays with ⟨-, -, returned, -⟩
  exact (returned Keys.released (by decide +kernel)).2.2.2 (Or.inl (by decide +kernel))

end Machine
end ChipEight
