import ChipEight.Proofs.Effects
import ChipEight.Proofs.Encoding
import ChipEight.Proofs.LitCells
import ChipEight.Random.ChaCha
import Mathlib.Data.List.Perm.Basic

namespace ChipEight

/-!
Draws as a group.

What a draw turns over depends on memory, the index register and the two coordinates, and a draw
changes none of them: the flag is the only register it writes, and as a coordinate the flag counts
as zero.  So each draw of a list forms the symmetric difference of the screen with a set of its own,
whatever was drawn before it.  These commute and undo themselves, and only the parity with which a
draw occurs in the list is left to count.

A sprite names each of its pixels once.  Of its set bits, those over lit pixels erase and the others
light, which gives the number of lit pixels and the flag.
-/

/-- Steps that commute and undo themselves come to nothing if each is taken an even number of
times. -/
theorem foldl_of_even {A B : Type} [DecidableEq A] {step : B -> A -> B}
    (commutes : forall state first second,
      step (step state first) second = step (step state second) first)
    (cancels : forall state action, step (step state action) action = state) :
    forall (actions : List A), (forall action, actions.count action % 2 = 0) ->
      forall state, actions.foldl step state = state
  | [], _, _ => rfl
  | action :: actions, even, state => by
      have odd : actions.count action % 2 = 1 := by
        have count := even action
        rw [List.count_cons_self] at count
        omega
      have again : action ∈ actions := List.count_pos_iff.mp (by omega)
      have evenBelow : forall other, (actions.erase action).count other % 2 = 0 := by
        intro other
        have count := even other
        by_cases same : other = action
        · subst same
          rw [List.count_erase_self]
          omega
        · rw [List.count_cons_of_ne (Ne.symm same)] at count
          rw [List.count_erase_of_ne same, count]
      have shorter : (actions.erase action).length < (action :: actions).length :=
        Nat.lt_succ_of_le (List.length_erase_le)
      calc
        (action :: actions).foldl step state
            = (action :: actions.erase action).foldl step (step state action) :=
          (List.perm_cons_erase again).foldl_eq'
            (fun first _ second _ state => commutes state first second) (step state action)
        _ = (actions.erase action).foldl step state := by
          rw [List.foldl_cons, cancels]
        _ = state := foldl_of_even commutes cancels (actions.erase action) evenBelow state
  termination_by actions => actions.length
  decreasing_by exact shorter

/-- Of steps that commute and undo themselves, only the parities matter. -/
theorem foldl_of_parity {A B : Type} [DecidableEq A] {step : B -> A -> B}
    (commutes : forall state first second,
      step (step state first) second = step (step state second) first)
    (cancels : forall state action, step (step state action) action = state)
    {actions others : List A}
    (parity : forall action, actions.count action % 2 = others.count action % 2) (state : B) :
    actions.foldl step state = others.foldl step state := by
  have back : others.foldl step (actions.foldl step state) = state := by
    rw [← List.foldl_append]
    apply foldl_of_even commutes cancels
    intro action
    rw [List.count_append]
    have same := parity action
    omega
  have twice : others.foldl step (others.foldl step (actions.foldl step state)) =
      actions.foldl step state := by
    rw [← List.foldl_append]
    apply foldl_of_even commutes cancels
    intro action
    rw [List.count_append]
    omega
  rw [← twice, back]

namespace Cpu

/-- What draws leave alone in a processor. -/
structure KeptByDrawing (before after : Cpu) : Prop where
  memory : after.memory = before.memory
  index : after.index = before.index
  registers : forall number, number &&& 0xF ≠ 0xF -> after.register number = before.register number

/-- The cells under the sprite of a word that draws; as a coordinate the flag is zero. -/
def drawnCells (cpu : Cpu) (word : UInt16) : List (Nat × Nat) :=
  (cpu.sprite (Word.n word)).cells ((cpu.setFlag false).register (Word.x word)).toNat
    ((cpu.setFlag false).register (Word.y word)).toNat

theorem KeptByDrawing.trans {before middle after : Cpu} (first : KeptByDrawing before middle)
    (second : KeptByDrawing middle after) : KeptByDrawing before after where
  memory := second.memory.trans first.memory
  index := second.index.trans first.index
  registers := fun number other =>
    (second.registers number other).trans (first.registers number other)

theorem place_eq_flag_iff {number : UInt8} : place 0xF = place number ↔ number &&& 0xF = 0xF := by
  rw [← Fin.val_inj, ← UInt8.toNat_inj]
  exact eq_comm

/-- Where the flag is cleared first, a register is read as if nothing had been drawn. -/
theorem KeptByDrawing.cleared {before after : Cpu} (kept : KeptByDrawing before after)
    (number : UInt8) :
    (after.setFlag false).register number = (before.setFlag false).register number := by
  rw [setFlag, setFlag, register_setRegister, register_setRegister]
  by_cases flag : place 0xF = place number
  · rw [if_pos flag, if_pos flag]
  · rw [if_neg flag, if_neg flag]
    exact kept.registers number (fun same => flag (place_eq_flag_iff.mpr same))

theorem KeptByDrawing.drawnCells_eq {before after : Cpu} (kept : KeptByDrawing before after)
    (word : UInt16) : after.drawnCells word = before.drawnCells word := by
  have sprite : after.sprite (Word.n word) = before.sprite (Word.n word) := by
    simp only [Cpu.sprite, Cpu.read, kept.memory, kept.index]
  rw [drawnCells, drawnCells, sprite, kept.cleared, kept.cleared]

end Cpu

namespace Machine

variable {G : Type}

/-- The machine after a list of cells was turned over, with the flag telling of it. -/
def drawn (machine : Machine G) (cells : List (Nat × Nat)) : Machine G :=
  { machine with
    cpu := { (machine.cpu.setFlag false).setFlag (machine.screen.flip cells).1 with
      pc := machine.cpu.pc + 2 }
    screen := (machine.screen.flip cells).2 }

theorem kept_drawn (machine : Machine G) (cells : List (Nat × Nat)) :
    Cpu.KeptByDrawing machine.cpu (machine.drawn cells).cpu where
  memory := rfl
  index := rfl
  registers := fun number other => by
    have apart : ¬ Cpu.place 0xF = Cpu.place number :=
      fun same => other (Cpu.place_eq_flag_iff.mp same)
    change ((machine.cpu.setFlag false).setFlag _).register number = _
    rw [Cpu.setFlag, Cpu.register_setRegister, if_neg apart, Cpu.setFlag,
      Cpu.register_setRegister, if_neg apart]

theorem flag_drawn (machine : Machine G) (cells : List (Nat × Nat)) :
    (machine.drawn cells).cpu.register 0xF = if (machine.screen.flip cells).1 then 1 else 0 := by
  change ((machine.cpu.setFlag false).setFlag _).register 0xF = _
  rw [Cpu.setFlag, Cpu.register_setRegister, if_pos rfl]

variable {K : Type} [Generator G] [KeySource K]

theorem obey_draw (machine : Machine G) (keys : K) {word : UInt16}
    (draws : Word.family word = 0xD) :
    (machine.obey keys word).machine = machine.drawn (machine.cpu.drawnCells word) := by
  rw [obey, Instruction.decode_of_draw draws]
  rfl

/-- A list of draws forms one symmetric difference after another, each with the cells that its word
covers before all of them, and leaves alone what these depend on. -/
theorem obeyAll_draws (machine : Machine G) (keys : K) {words : List UInt16}
    (draws : forall word, word ∈ words -> Word.family word = 0xD) :
    Cpu.KeptByDrawing machine.cpu (machine.obeyAll keys words).cpu ∧
      (machine.obeyAll keys words).screen.lit =
        words.foldl (fun lit word => symmDiff lit (Screen.turned (machine.cpu.drawnCells word)))
          machine.screen.lit := by
  induction words generalizing machine with
  | nil => exact ⟨⟨rfl, rfl, fun _ _ => rfl⟩, rfl⟩
  | cons word words inductionHypothesis =>
      have first := machine.obey_draw keys (draws word List.mem_cons_self)
      have kept := machine.kept_drawn (machine.cpu.drawnCells word)
      have rest := inductionHypothesis (machine.obey keys word).machine
        (fun other member => draws other (List.mem_cons_of_mem word member))
      rw [first] at rest
      change Cpu.KeptByDrawing _ ((machine.obey keys word).machine.obeyAll keys words).cpu ∧
        ((machine.obey keys word).machine.obeyAll keys words).screen.lit = _
      rw [first]
      refine ⟨kept.trans rest.1, rest.2.trans ?_⟩
      simp only [kept.drawnCells_eq, List.foldl_cons]
      rw [← Screen.lit_flip]
      rfl

/-- The cells of a word that draws name each of their pixels once. -/
theorem drawnCells_distinct (cpu : Cpu) (word : UInt16) :
    ((cpu.drawnCells word).map Screen.pixelOf).Nodup := by
  apply Sprite.cells_distinct
  rw [Cpu.sprite, List.length_map, List.length_range, Word.toNat_n]
  omega

/-- Two lists in which every draw occurs with the same parity lead to the same screen, and leave
alone all registers but the flag.  A draw of `k` set bits that erases `e` pixels adds `k - 2 * e` to
the number of lit pixels, and raises the flag if `e` is not zero.  Drawn again, it restores the
screen, and raises the flag unless it erased with all its bits. -/
theorem draws_commute_and_cancel (machine : Machine G) (keys : K) :
    (forall words others : List UInt16,
      (forall word, word ∈ words -> Word.family word = 0xD) ->
      (forall word, word ∈ others -> Word.family word = 0xD) ->
      (forall word, words.count word % 2 = others.count word % 2) ->
        (machine.obeyAll keys words).screen = (machine.obeyAll keys others).screen ∧
          Cpu.KeptByDrawing machine.cpu (machine.obeyAll keys words).cpu ∧
          Cpu.KeptByDrawing machine.cpu (machine.obeyAll keys others).cpu) ∧
    forall word, Word.family word = 0xD ->
      let first := (machine.obey keys word).machine
      let second := (first.obey keys word).machine
      let k := (machine.cpu.sprite (Word.n word)).weight
      let e := machine.screen.erased first.screen
      (first.screen.litCount : Int) = machine.screen.litCount + k - 2 * e ∧
        first.cpu.register 0xF = (if 0 < e then 1 else 0) ∧
        second.screen = machine.screen ∧
        second.cpu.register 0xF = (if e < k then 1 else 0) := by
  constructor
  · intro words others draws otherDraws parity
    have one := machine.obeyAll_draws keys draws
    have other := machine.obeyAll_draws keys otherDraws
    refine ⟨Screen.lit_injective ?_, one.1, other.1⟩
    rw [one.2, other.2]
    apply foldl_of_parity _ _ parity
    · intro lit first second
      exact symmDiff_right_comm lit _ _
    · intro lit word
      exact symmDiff_symmDiff_cancel_right _ lit
  · intro word draws first second k e
    have distinct := drawnCells_distinct machine.cpu word
    have size : (machine.cpu.drawnCells word).length = k := Sprite.length_cells _ _ _
    have drawnFirst : first = machine.drawn (machine.cpu.drawnCells word) :=
      machine.obey_draw keys draws
    have sameCells : first.cpu.drawnCells word = machine.cpu.drawnCells word := by
      rw [drawnFirst]
      exact (machine.kept_drawn _).drawnCells_eq word
    have drawnSecond : second = first.drawn (machine.cpu.drawnCells word) := by
      rw [← sameCells]
      exact first.obey_draw keys draws
    have firstScreen : first.screen = (machine.screen.flip (machine.cpu.drawnCells word)).2 :=
      congrArg Machine.screen drawnFirst
    have back : (first.screen.flip (machine.cpu.drawnCells word)).2 = machine.screen := by
      rw [firstScreen, Screen.flip_flip]
    have total : e + first.screen.erased machine.screen = k := by
      have again := machine.screen.erased_again distinct
      rwa [← firstScreen, size] at again
    refine ⟨?_, ?_, (congrArg Machine.screen drawnSecond).trans back, ?_⟩
    · have count := machine.screen.litCount_flip distinct
      rwa [← firstScreen, size] at count
    · rw [drawnFirst, flag_drawn, machine.screen.flip_erases_eq distinct, ← firstScreen]
      exact if_congr decide_eq_true_iff rfl rfl
    · rw [drawnSecond, flag_drawn, first.screen.flip_erases_eq distinct, back]
      refine if_congr (decide_eq_true_iff.trans ?_) rfl rfl
      omega

/-- Over a single lit pixel the glyph of zero lights thirteen pixels and erases one.  Between two
other draws that cancel, one of them at the flag as a coordinate, it leaves the same picture. -/
theorem glyph_over_pixel :
    let machine := (boot .standard ChaCha.unkeyed []).machine.setPixel 0 0 true
    let words : List UInt16 := [0xDF32, 0xD005, 0xDF32]
    let first := (machine.obey Keys.released 0xD005).machine
    let second := (first.obey Keys.released 0xD005).machine
    (forall word, words.count word % 2 = [0xD005].count word % 2) ∧
      (machine.obeyAll Keys.released words).screen = first.screen ∧
      machine.screen.erased first.screen = 1 ∧ first.screen.litCount = 13 ∧
      first.cpu.register 0xF = 1 ∧ second.screen = machine.screen ∧
      second.cpu.register 0xF = 1 := by
  intro machine words first second
  have group := machine.draws_commute_and_cancel Keys.released
  have parity : forall word, words.count word % 2 = [0xD005].count word % 2 := by
    intro word
    simp only [words, List.count_cons, List.count_nil]
    omega
  have draws : forall word, word ∈ words -> Word.family word = 0xD := by
    intro word member
    simp only [words, List.mem_cons, List.not_mem_nil, or_false] at member
    rcases member with rfl | rfl | rfl <;> rfl
  have draw : forall word, word ∈ [0xD005] -> Word.family word = 0xD := by
    intro word member
    rw [List.mem_singleton.mp member]
    rfl
  have sameScreen := group.1 words [0xD005] draws draw parity
  have single := group.2 0xD005 (by decide)
  have weight : (machine.cpu.sprite (Word.n 0xD005)).weight = 14 := by decide +kernel
  have lit : machine.screen.litCount = 1 := by decide +kernel
  have litAfter : first.screen.litCount = 13 := by decide +kernel
  simp only [weight, lit] at single
  have count : (first.screen.litCount : Int) =
      1 + 14 - 2 * (machine.screen.erased first.screen : Nat) := single.1
  have erased : machine.screen.erased first.screen = 1 := by omega
  have flag : first.cpu.register 0xF = if 0 < machine.screen.erased first.screen then 1 else 0 :=
    single.2.1
  have flagAgain : second.cpu.register 0xF =
      if machine.screen.erased first.screen < 14 then 1 else 0 := single.2.2.2
  rw [erased] at flag flagAgain
  exact ⟨parity, sameScreen.1, erased, litAfter, flag, single.2.2.1, flagAgain⟩

end Machine
end ChipEight
