import ChipEight.Proofs.LitCells
import ChipEight.Proofs.Words
import Mathlib.Data.Fintype.Prod

namespace ChipEight

/-!
The screen as a set of cells on a torus.

A screen keeps one row behind the other, and shows itself in five ways: pixel by pixel at any
coordinates, as the pixels in their order, as rows, as a number, and as a text.  All five are views
of one thing, the set of the lit cells of a torus of 64 columns and 32 rows.  Whatever is set,
toggled and cleared, at whatever coordinates, the screen follows the same operations on that set,
down to the answers of the toggles.

This rests on the pixels and the cells being in one-to-one correspondence: coordinates name the same
pixel exactly if they name the same cell, and every pixel has a cell.
-/

/-- A cell of the torus, by its column and its row. -/
abbrev Cell := Fin 64 × Fin 32

/-- Something that is done to a screen. -/
inductive Stroke where
  | set (x y : Nat) (on : Bool)
  | toggle (x y : Nat)
  | clear
deriving DecidableEq, Repr

namespace Cell

/-- The cell that coordinates name, after they went around the torus. -/
def named (x y : Nat) : Cell :=
  (Fin.ofNat 64 x, Fin.ofNat 32 y)

theorem named_eq_iff {x y p q : Nat} :
    named x y = named p q ↔ x % 64 = p % 64 ∧ y % 32 = q % 32 := by
  rw [named, named, Prod.ext_iff, Fin.ext_iff, Fin.ext_iff]
  rfl

theorem named_self (cell : Cell) : named cell.1 cell.2 = cell :=
  Prod.ext (Fin.ext (Nat.mod_eq_of_lt cell.1.isLt)) (Fin.ext (Nat.mod_eq_of_lt cell.2.isLt))

end Cell

namespace Stroke

/-- The only cell that a stroke is about, if there is one. -/
def cell? : Stroke -> Option Cell
  | set x y _ | toggle x y => some (.named x y)
  | clear => none

/-- A stroke on a set of cells, and what a toggle answers. -/
def onCells (lit : Finset Cell) : Stroke -> Option Bool × Finset Cell
  | set x y true => (none, insert (.named x y) lit)
  | set x y false => (none, lit.erase (.named x y))
  | toggle x y => (some (decide (.named x y ∈ lit)), symmDiff lit {.named x y})
  | clear => (none, ∅)

/-- A stroke on a screen, and what a toggle answers. -/
def onScreen (screen : Screen) : Stroke -> Option Bool × Screen
  | set x y on => (none, screen.set x y on)
  | toggle x y => (some (screen.toggle x y).1, (screen.toggle x y).2)
  | clear => (none, screen.clear)

/-- One stroke after another, with all their answers. -/
def inTurn {S : Type} (stroke : S -> Stroke -> Option Bool × S) (start : S) :
    List Stroke -> List (Option Bool) × S
  | [] => ([], start)
  | first :: strokes =>
      let (answer, next) := stroke start first
      let (answers, last) := inTurn stroke next strokes
      (answer :: answers, last)

end Stroke

namespace Screen

/-- The lit cells. -/
def cells (screen : Screen) : Finset Cell :=
  Finset.univ.filter fun cell => screen.get cell.1 cell.2 = true

theorem place_eq_iff {x y p q : Nat} :
    place x y = place p q ↔ Cell.named x y = Cell.named p q := by
  have pixels : pixelOf (x, y) = pixelOf (p, q) ↔ x % 64 = p % 64 ∧ y % 32 = q % 32 :=
    pixelOf_eq_iff
  rw [Cell.named_eq_iff, ← pixels, pixelOf, pixelOf]

theorem get_congr (screen : Screen) {x y p q : Nat} (same : Cell.named x y = Cell.named p q) :
    screen.get x y = screen.get p q :=
  congrArg screen.pixels.get (place_eq_iff.mpr same)

theorem mem_cells {screen : Screen} {cell : Cell} :
    cell ∈ screen.cells ↔ screen.get cell.1 cell.2 = true := by
  rw [cells, Finset.mem_filter, and_iff_right (Finset.mem_univ cell)]

theorem named_mem_cells {screen : Screen} {x y : Nat} :
    Cell.named x y ∈ screen.cells ↔ screen.get x y = true := by
  rw [mem_cells, screen.get_congr (Cell.named_self (Cell.named x y))]

theorem place_of_pixel (pixel : Fin 2048) : place (pixel.val % 64) (pixel.val / 64) = pixel := by
  apply Fin.ext
  change pixel.val % 64 % 64 + pixel.val / 64 % 32 * 64 = pixel.val
  omega

theorem get_pixels (screen : Screen) (pixel : Fin 2048) :
    screen.pixels.get pixel = screen.get (pixel.val % 64) (pixel.val / 64) :=
  congrArg screen.pixels.get (place_of_pixel pixel).symm

theorem mem_lit_iff_get {screen : Screen} {pixel : Fin 2048} :
    pixel ∈ screen.lit ↔ screen.get (pixel.val % 64) (pixel.val / 64) = true := by
  rw [mem_lit, ← get_pixels]
  rfl

theorem cells_injective {screen other : Screen} (same : screen.cells = other.cells) :
    screen = other := by
  apply lit_injective
  ext pixel
  rw [mem_lit_iff_get, mem_lit_iff_get, ← named_mem_cells, ← named_mem_cells, same]

/-- Different cells are kept in different places. -/
theorem place_injective : Function.Injective fun cell : Cell => place cell.1 cell.2 := by
  intro cell other same
  have named : Cell.named cell.1 cell.2 = Cell.named other.1 other.2 := place_eq_iff.mp same
  rwa [Cell.named_self, Cell.named_self] at named

theorem card_cells (screen : Screen) : screen.cells.card = screen.litCount := by
  have places : screen.cells.image (fun cell => place cell.1 cell.2) = screen.lit := by
    ext pixel
    simp only [Finset.mem_image, mem_cells, mem_lit_iff_get]
    constructor
    · rintro ⟨cell, on, rfl⟩
      rw [← get_pixels]
      exact on
    · intro on
      refine ⟨Cell.named (pixel.val % 64) (pixel.val / 64), ?_, ?_⟩
      · rw [screen.get_congr (Cell.named_self _)]
        exact on
      · exact (place_eq_iff.mpr (Cell.named_self _)).trans (place_of_pixel pixel)
  rw [litCount_eq_card, ← places, Finset.card_image_of_injective _ place_injective]

theorem mem_cells_set {screen : Screen} {x y : Nat} {on : Bool} {cell : Cell} :
    cell ∈ (screen.set x y on).cells ↔
      if cell = Cell.named x y then on = true else cell ∈ screen.cells := by
  have same : place x y = place cell.1 cell.2 ↔ cell = Cell.named x y := by
    rw [place_eq_iff, Cell.named_self, eq_comm]
  rw [mem_cells, mem_cells, get_set]
  by_cases here : cell = Cell.named x y
  · rw [if_pos (same.mpr here), if_pos here]
  · rw [if_neg (fun place => here (same.mp place)), if_neg here]

theorem cells_blank : blank.cells = ∅ := by
  ext cell
  rw [mem_cells, get_blank]
  exact iff_of_false Bool.false_ne_true (Finset.notMem_empty cell)

/-- A stroke does to a screen what it does to the set of the lit cells. -/
theorem cells_onScreen (screen : Screen) (stroke : Stroke) :
    (stroke.onScreen screen).1 = (stroke.onCells screen.cells).1 ∧
      (stroke.onScreen screen).2.cells = (stroke.onCells screen.cells).2 := by
  cases stroke with
  | set x y on =>
      cases on with
      | true =>
          refine ⟨rfl, ?_⟩
          ext cell
          change cell ∈ (screen.set x y true).cells ↔ cell ∈ insert (Cell.named x y) screen.cells
          rw [mem_cells_set, Finset.mem_insert]
          by_cases here : cell = Cell.named x y <;> simp [here]
      | false =>
          refine ⟨rfl, ?_⟩
          ext cell
          change cell ∈ (screen.set x y false).cells ↔ cell ∈ screen.cells.erase (Cell.named x y)
          rw [mem_cells_set, Finset.mem_erase]
          by_cases here : cell = Cell.named x y <;> simp [here]
  | toggle x y =>
      constructor
      · change some (screen.get x y) = some (decide (Cell.named x y ∈ screen.cells))
        rw [Option.some_inj, Bool.eq_iff_iff, decide_eq_true_iff, named_mem_cells]
      · ext cell
        change cell ∈ (screen.set x y (!screen.get x y)).cells ↔
          cell ∈ symmDiff screen.cells {Cell.named x y}
        rw [mem_cells_set, Finset.mem_symmDiff, Finset.mem_singleton]
        by_cases here : cell = Cell.named x y <;> simp [here, named_mem_cells]
  | clear => exact ⟨rfl, cells_blank⟩

/-- Strokes do to a screen, one after another, what they do to the set of the lit cells. -/
theorem cells_inTurn (screen : Screen) (strokes : List Stroke) :
    (Stroke.inTurn Stroke.onScreen screen strokes).1 =
        (Stroke.inTurn Stroke.onCells screen.cells strokes).1 ∧
      (Stroke.inTurn Stroke.onScreen screen strokes).2.cells =
        (Stroke.inTurn Stroke.onCells screen.cells strokes).2 := by
  induction strokes generalizing screen with
  | nil => exact ⟨rfl, rfl⟩
  | cons stroke strokes inductionHypothesis =>
      have first := screen.cells_onScreen stroke
      have rest := inductionHypothesis (stroke.onScreen screen).2
      rw [first.2] at rest
      simp only [Stroke.inTurn]
      exact ⟨congrArg₂ List.cons first.1 rest.1, rest.2⟩

/-- A row is what stands in its stretch of the pixels. -/
theorem row_eq_slice (screen : Screen) {y : Nat} (inside : y < 32) :
    screen.row y = (screen.pixels.toList.drop (64 * y)).take 64 := by
  apply List.ext_getElem
  · simp only [row, List.length_map, List.length_range, List.length_take, List.length_drop,
      Vector.length_toList, width]
    omega
  · intro x inRow inSlice
    have column : x < 64 := by
      rwa [row, List.length_map, List.length_range] at inRow
    have pixel : 64 * y + x < 2048 := by omega
    have kept := screen.get_pixels ⟨64 * y + x, pixel⟩
    have across : (64 * y + x) % 64 = x := by omega
    have down : (64 * y + x) / 64 = y := by omega
    simp only [across, down] at kept
    simp only [row, List.getElem_map, List.getElem_range, List.getElem_take, List.getElem_drop,
      Vector.getElem_toList]
    exact kept.symm

theorem newline_not_mem (row : List Bool) : '\n' ∉ row.map mark := by
  intro member
  obtain ⟨on, -, same⟩ := List.mem_map.mp member
  cases on <;> cases same

theorem lines_dump (screen : Screen) :
    screen.dump.toList.splitOn '\n' = screen.rows.map (fun row => row.map mark) ++ [[]] := by
  have text : screen.dump.toList =
      (screen.rows.map fun row => row.map mark).flatMap fun line => line ++ ['\n'] := by
    rw [dump, String.toList_ofList, List.flatMap_map]
  rw [text, splitOn_lines]
  intro line member
  obtain ⟨row, -, rfl⟩ := List.mem_map.mp member
  exact newline_not_mem row

theorem rows_injective {screen other : Screen} (same : screen.rows = other.rows) :
    screen = other := by
  apply cells_injective
  ext cell
  have row := List.map_inj_left.mp same cell.2.val (List.mem_range.mpr cell.2.isLt)
  have pixel := List.map_inj_left.mp row cell.1.val (List.mem_range.mpr cell.1.isLt)
  rw [mem_cells, mem_cells, pixel]

theorem dump_injective {screen other : Screen} (same : screen.dump = other.dump) :
    screen = other := by
  have marks : Function.Injective mark := by
    intro on off shown
    cases on <;> cases off <;> first | rfl | cases shown
  have lines := congrArg (fun text : String => text.toList.splitOn '\n') same
  simp only [lines_dump, List.append_cancel_right_eq] at lines
  exact rows_injective (List.map_injective_iff.mpr (List.map_injective_iff.mpr marks) lines)

end Screen

namespace Stroke

variable {stroke : Stroke} {cell : Cell}

/-- A stroke on one cell leaves all others alone. -/
theorem mem_onCells_of_ne (about : stroke.cell? = some cell) {other : Cell} (apart : other ≠ cell)
    (lit : Finset Cell) : other ∈ (stroke.onCells lit).2 ↔ other ∈ lit := by
  cases stroke with
  | set x y on =>
      cases about
      cases on <;> simp [onCells, apart]
  | toggle x y =>
      cases about
      simp [onCells, Finset.mem_symmDiff, apart]
  | clear => cases about

/-- What a stroke on one cell answers and makes of it depends on that cell only. -/
theorem onCells_congr (about : stroke.cell? = some cell) {lit others : Finset Cell}
    (agree : cell ∈ lit ↔ cell ∈ others) :
    (stroke.onCells lit).1 = (stroke.onCells others).1 ∧
      (cell ∈ (stroke.onCells lit).2 ↔ cell ∈ (stroke.onCells others).2) := by
  cases stroke with
  | set x y on =>
      cases about
      cases on <;> simp [onCells]
  | toggle x y =>
      cases about
      simp [onCells, Finset.mem_symmDiff, agree]
  | clear => cases about

/-- Strokes on different cells do not get into each other's way. -/
theorem onCells_comm {first second : Stroke} {here there : Cell}
    (about : first.cell? = some here) (other : second.cell? = some there) (apart : here ≠ there)
    (lit : Finset Cell) :
    (second.onCells (first.onCells lit).2).1 = (second.onCells lit).1 ∧
      (second.onCells (first.onCells lit).2).2 = (first.onCells (second.onCells lit).2).2 := by
  have firstFar := mem_onCells_of_ne about (Ne.symm apart)
  have secondFar := mem_onCells_of_ne other apart
  refine ⟨(onCells_congr other (firstFar lit)).1, ?_⟩
  ext cell
  by_cases atHere : cell = here
  · subst atHere
    rw [secondFar, (onCells_congr about (secondFar lit)).2]
  · rw [mem_onCells_of_ne about atHere]
    by_cases atThere : cell = there
    · subst atThere
      exact (onCells_congr other (firstFar lit)).2
    · rw [mem_onCells_of_ne other atThere, mem_onCells_of_ne other atThere,
        mem_onCells_of_ne about atHere]

end Stroke

namespace Screen

/-- Strokes on different cells of a screen can be made in either order. -/
theorem onScreen_comm {first second : Stroke} {here there : Cell}
    (about : first.cell? = some here) (other : second.cell? = some there) (apart : here ≠ there)
    (screen : Screen) :
    (second.onScreen (first.onScreen screen).2).1 = (second.onScreen screen).1 ∧
      (second.onScreen (first.onScreen screen).2).2 =
        (first.onScreen (second.onScreen screen).2).2 := by
  have forth := (first.onScreen screen).2.cells_onScreen second
  have back := (second.onScreen screen).2.cells_onScreen first
  rw [(screen.cells_onScreen first).2] at forth
  rw [(screen.cells_onScreen second).2] at back
  have marked := Stroke.onCells_comm about other apart screen.cells
  constructor
  · rw [forth.1, marked.1, (screen.cells_onScreen second).1]
  · apply cells_injective
    rw [forth.2, back.2, marked.2]

/-- The line of a text that shows a row of the torus. -/
def picture (lit : Finset Cell) (y : Nat) : List Char :=
  (List.range 64).map fun x => if Cell.named x y ∈ lit then '#' else '.'

theorem map_mark_row (screen : Screen) (y : Nat) :
    (screen.row y).map mark = picture screen.cells y := by
  rw [row, List.map_map]
  apply List.map_congr_left
  intro x _
  exact if_congr named_mem_cells.symm rfl rfl

/-- Whatever is done to a blank screen is done to a set of cells on the torus, with the same answers.
The lit cells can be read off the screen pixel by pixel, in the order of the pixels, by rows, by
their number, and from the text, which no two screens share.  What is done to different cells can be
done in either order. -/
theorem follows_torus :
    (forall strokes : List Stroke,
      let drawn := Stroke.inTurn Stroke.onScreen blank strokes
      let marked := Stroke.inTurn Stroke.onCells ∅ strokes
      let screen := drawn.2
      let lit := marked.2
      (forall x y, screen.get x y = true ↔ Cell.named x y ∈ lit) ∧
      drawn.1 = marked.1 ∧
      screen.litCount = lit.card ∧
      (forall pixel : Fin 2048,
        screen.pixels.get pixel = screen.get (pixel.val % 64) (pixel.val / 64)) ∧
      screen.rows.length = 32 ∧
      (forall y, y < 32 ->
        screen.rows[y]? = some ((screen.pixels.toList.drop (64 * y)).take 64) ∧
          screen.rows[y]? = some ((List.range 64).map fun x => screen.get x y)) ∧
      screen.dump.toList.splitOn '\n' = (List.range 32).map (picture lit) ++ [[]]) ∧
    (forall screen other : Screen, screen = other ↔ screen.dump = other.dump) ∧
    forall (screen : Screen) (first second : Stroke) (here there : Cell),
      first.cell? = some here -> second.cell? = some there -> here ≠ there ->
        Exists fun answer => Exists fun reply => Exists fun last =>
          Stroke.inTurn Stroke.onScreen screen [first, second] = ([answer, reply], last) ∧
            Stroke.inTurn Stroke.onScreen screen [second, first] = ([reply, answer], last) := by
  refine ⟨fun strokes => ?_, fun screen other => ?_, ?_⟩
  · intro drawn marked screen lit
    have together := blank.cells_inTurn strokes
    rw [cells_blank] at together
    have cells : screen.cells = lit := together.2
    refine ⟨fun x y => ?_, together.1, ?_, screen.get_pixels, ?_, fun y inside => ?_, ?_⟩
    · rw [← cells, named_mem_cells]
    · rw [← cells, card_cells]
    · rw [rows, List.length_map, List.length_range, height]
    · have shown : screen.rows[y]? = some (screen.row y) := by
        rw [rows, height, List.getElem?_map, List.getElem?_range inside, Option.map_some]
      exact ⟨shown.trans (congrArg some (screen.row_eq_slice inside)), shown⟩
    · rw [lines_dump, rows, List.map_map, ← cells]
      exact congrArg (· ++ [[]]) (List.map_congr_left fun y _ => screen.map_mark_row y)
  · exact ⟨congrArg dump, dump_injective⟩
  · intro screen first second here there about other apart
    have later := onScreen_comm about other apart screen
    have earlier := onScreen_comm other about (Ne.symm apart) screen
    refine ⟨(first.onScreen screen).1, (second.onScreen screen).1,
      (second.onScreen (first.onScreen screen).2).2, ?_, ?_⟩
    · rw [← later.1]
      rfl
    · rw [← earlier.1, later.2]
      rfl

/-- Once around the torus and back again: a toggle far outside lights the cell that it wraps to, a
toggle at the cell itself erases it, and its neighbour can be lit before or after. -/
theorem far_toggle_wraps :
    let strokes := [Stroke.toggle 65 34, .set 128 2 true, .toggle 1 2]
    let drawn := Stroke.inTurn Stroke.onScreen blank strokes
    drawn.1 = [some false, none, some true] ∧
    drawn.2.litCount = 1 ∧
    drawn.2.get 64 34 = true ∧
    drawn.2.rows[2]? = some ((List.range 64).map fun x => drawn.2.get x 2) ∧
    (Stroke.toggle 65 34).cell? = some (1, 2) ∧
    (Stroke.set 128 2 true).cell? = some (0, 2) ∧
    Exists fun answer => Exists fun reply => Exists fun last =>
      Stroke.inTurn Stroke.onScreen blank [.toggle 65 34, .set 128 2 true] =
          ([answer, reply], last) ∧
        Stroke.inTurn Stroke.onScreen blank [.set 128 2 true, .toggle 65 34] =
          ([reply, answer], last) := by
  intro strokes drawn
  obtain ⟨onTorus, -, commute⟩ := follows_torus
  obtain ⟨pixels, answers, count, -, -, rows, -⟩ := onTorus strokes
  refine ⟨answers.trans (by decide), count.trans (by decide), (pixels 64 34).mpr (by decide),
    (rows 2 (by decide)).2, by decide, by decide, ?_⟩
  exact commute blank (.toggle 65 34) (.set 128 2 true) (1, 2) (0, 2) (by decide) (by decide)
    (by decide)

end Screen
end ChipEight
