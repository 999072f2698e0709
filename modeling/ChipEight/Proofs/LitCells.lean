import ChipEight.Sprite
import Mathlib.Data.Finset.SymmDiff
import Mathlib.Data.Fintype.Fin
import Mathlib.Data.Nat.Bitwise

namespace ChipEight

/-!
The screen as the set of its lit pixels.

A screen is known by the set of the pixels that are on.  To turn a pixel over is to form the
symmetric difference with that pixel alone, and a list of cells turned over one after another is a
symmetric difference with one set, which depends on the list and not on the screen.  As long as no
two cells of the list name the same pixel, that set has as many pixels as the list has cells, and a
pixel is erased exactly if one of them was lit before.

The cells of a sprite are such a list: a sprite is narrower than the screen, and not higher.
-/

namespace Screen

/-- The pixels that are on. -/
def lit (screen : Screen) : Finset (Fin 2048) :=
  Finset.univ.filter fun pixel => screen.pixels[pixel] = true

theorem mem_lit {screen : Screen} {pixel : Fin 2048} :
    pixel ∈ screen.lit ↔ screen.pixels[pixel] = true := by
  simp only [lit, Finset.mem_filter, Finset.mem_univ, true_and]

theorem lit_injective {screen other : Screen} (same : screen.lit = other.lit) : screen = other := by
  have pixels : screen.pixels = other.pixels := by
    apply Vector.ext
    intro place inside
    apply Bool.eq_iff_iff.mpr
    have member := Finset.ext_iff.mp same ⟨place, inside⟩
    rwa [mem_lit, mem_lit] at member
  cases screen
  cases other
  exact congrArg Screen.mk pixels

theorem litCount_eq_card (screen : Screen) : screen.litCount = screen.lit.card := by
  have count := Fin.card_filter_univ_eq_vector_get_eq_count true
    (⟨screen.pixels.toList, Vector.length_toList⟩ : List.Vector Bool 2048)
  rw [litCount, lit]
  exact count.symm

/-- To turn a pixel over is to form the symmetric difference with it. -/
theorem lit_toggle (screen : Screen) (x y : Nat) :
    (screen.toggle x y).2.lit = symmDiff screen.lit {place x y} := by
  ext pixel
  simp only [toggle, set, mem_lit, Finset.mem_symmDiff, Finset.mem_singleton, Fin.getElem_fin,
    Vector.getElem_set, Fin.val_inj, get]
  by_cases same : place x y = pixel
  · subst same
    simp
  · simp [same, Ne.symm same]

/-- The pixel that a cell names, after its coordinates went around the torus. -/
def pixelOf (cell : Nat × Nat) : Fin 2048 :=
  place cell.1 cell.2

/-- The pixels that a list of cells names an odd number of times. -/
def turned : List (Nat × Nat) -> Finset (Fin 2048)
  | [] => ∅
  | cell :: cells => symmDiff {pixelOf cell} (turned cells)

/-- What a list of cells does to a screen does not depend on the screen. -/
theorem lit_flip (screen : Screen) (cells : List (Nat × Nat)) :
    (screen.flip cells).2.lit = symmDiff screen.lit (turned cells) := by
  induction cells generalizing screen with
  | nil => exact (symmDiff_bot screen.lit).symm
  | cons cell cells inductionHypothesis =>
      change ((screen.toggle cell.1 cell.2).2.flip cells).2.lit = _
      rw [inductionHypothesis, lit_toggle, symmDiff_assoc]
      rfl

/-- Cells that name different pixels turn over all that they name. -/
theorem turned_eq_toFinset {cells : List (Nat × Nat)} (distinct : (cells.map pixelOf).Nodup) :
    turned cells = (cells.map pixelOf).toFinset := by
  induction cells with
  | nil => rfl
  | cons cell cells inductionHypothesis =>
      rw [List.map_cons, List.nodup_cons] at distinct
      have apart : Disjoint {pixelOf cell} (cells.map pixelOf).toFinset :=
        Finset.disjoint_singleton_left.mpr (fun member => distinct.1 (List.mem_toFinset.mp member))
      rw [turned, inductionHypothesis distinct.2, Finset.symmDiff_eq_union apart, List.map_cons,
        List.toFinset_cons, Finset.insert_eq]

theorem card_turned {cells : List (Nat × Nat)} (distinct : (cells.map pixelOf).Nodup) :
    (turned cells).card = cells.length := by
  rw [turned_eq_toFinset distinct, List.toFinset_card_of_nodup distinct, List.length_map]

/-- Where no pixel is named twice, one is erased exactly if it is named and was lit before. -/
theorem flip_erases_iff (screen : Screen) {cells : List (Nat × Nat)}
    (distinct : (cells.map pixelOf).Nodup) :
    (screen.flip cells).1 = true ↔ Exists fun pixel => pixel ∈ screen.lit ∩ turned cells := by
  rw [turned_eq_toFinset distinct]
  induction cells generalizing screen with
  | nil => simp [flip]
  | cons cell cells inductionHypothesis =>
      rw [List.map_cons, List.nodup_cons] at distinct
      have rest := inductionHypothesis (screen.toggle cell.1 cell.2).2 distinct.2
      change (screen.get cell.1 cell.2 || ((screen.toggle cell.1 cell.2).2.flip cells).1) = true ↔ _
      rw [Bool.or_eq_true, rest, lit_toggle]
      -- The pixels of the other cells are as they were before the first cell was turned over.
      simp only [Finset.mem_inter, Finset.mem_symmDiff, Finset.mem_singleton, List.mem_toFinset,
        List.map_cons, List.mem_cons]
      constructor
      · rintro (lit | ⟨pixel, was, named⟩)
        · exact ⟨pixelOf cell, mem_lit.mpr lit, Or.inl rfl⟩
        · have other : pixel ≠ pixelOf cell := fun same => distinct.1 (same ▸ named)
          rcases was with was | was
          · exact ⟨pixel, was.1, Or.inr named⟩
          · exact absurd was.1 other
      · rintro ⟨pixel, was, rfl | named⟩
        · exact Or.inl (mem_lit.mp was)
        · have other : pixel ≠ pixelOf cell := fun same => distinct.1 (same ▸ named)
          exact Or.inr ⟨pixel, Or.inl ⟨was, other⟩, named⟩

/-- How many pixels are on in one screen and off in a later one. -/
def erased (before after : Screen) : Nat :=
  (before.lit \ after.lit).card

theorem erased_flip (screen : Screen) (cells : List (Nat × Nat)) :
    screen.erased (screen.flip cells).2 = (screen.lit ∩ turned cells).card := by
  rw [erased, lit_flip, sdiff_symmDiff_left]
  rfl

/-- A list of cells turned over twice leaves the screen as it was. -/
theorem flip_flip (screen : Screen) (cells : List (Nat × Nat)) :
    ((screen.flip cells).2.flip cells).2 = screen := by
  apply lit_injective
  rw [lit_flip, lit_flip, symmDiff_symmDiff_cancel_right]

section Distinct

variable (screen : Screen) {cells : List (Nat × Nat)} (distinct : (cells.map pixelOf).Nodup)

include distinct

theorem flip_erases_eq :
    (screen.flip cells).1 = decide (0 < screen.erased (screen.flip cells).2) := by
  rw [Bool.eq_iff_iff, decide_eq_true_iff, flip_erases_iff screen distinct, erased_flip,
    Finset.card_pos]
  rfl

/-- Turned over again, the cells erase those pixels that they lit before. -/
theorem erased_again :
    screen.erased (screen.flip cells).2 + (screen.flip cells).2.erased screen = cells.length := by
  have lit : (screen.flip cells).2.erased screen = (turned cells \ screen.lit).card := by
    rw [erased, lit_flip, symmDiff_sdiff_left]
  rw [erased_flip, lit, Finset.inter_comm, Finset.card_inter_add_card_sdiff, card_turned distinct]

/-- Every cell lights its pixel or erases it. -/
theorem litCount_flip :
    ((screen.flip cells).2.litCount : Int) =
      screen.litCount + cells.length - 2 * screen.erased (screen.flip cells).2 := by
  have apart : Disjoint (screen.lit \ turned cells) (turned cells \ screen.lit) :=
    disjoint_sdiff_sdiff
  have parts : (screen.flip cells).2.lit.card =
      (screen.lit \ turned cells).card + (turned cells \ screen.lit).card := by
    rw [lit_flip, Finset.symmDiff_def, Finset.card_union_of_disjoint apart]
  have before := Finset.card_inter_add_card_sdiff screen.lit (turned cells)
  have named := Finset.card_inter_add_card_sdiff (turned cells) screen.lit
  rw [Finset.inter_comm, card_turned distinct] at named
  rw [litCount_eq_card, litCount_eq_card, erased_flip]
  omega

end Distinct

theorem pixelOf_eq_iff {cell other : Nat × Nat} :
    pixelOf cell = pixelOf other ↔ cell.1 % 64 = other.1 % 64 ∧ cell.2 % 32 = other.2 % 32 := by
  rw [pixelOf, pixelOf, ← Fin.val_inj]
  change cell.1 % 64 + cell.2 % 32 * 64 = other.1 % 64 + other.2 % 32 * 64 ↔ _
  omega

end Screen

/-- How many bits of a byte are set. -/
def setBits (byte : UInt8) : Nat :=
  (List.range 8).countP byte.toNat.testBit

namespace Sprite

/-- How many bits of all rows are set. -/
def weight (sprite : Sprite) : Nat :=
  (sprite.map setBits).sum

theorem covers_eq_testBit (row : UInt8) {column : Nat} (inside : column < 8) :
    covers row column = row.toNat.testBit (7 - column) := by
  have mask : forall column, column < 8 ->
      ((0x80 : UInt8) >>> UInt8.ofNat column).toNat = 2 ^ (7 - column) := by
    decide
  rw [covers, Bool.eq_iff_iff, bne_iff_ne, ne_eq, ← UInt8.toNat_inj, UInt8.toNat_and,
    mask column inside, Nat.and_two_pow]
  cases row.toNat.testBit (7 - column) <;> simp

theorem length_rowCells (x y : Nat) (row : UInt8) : (rowCells x y row).length = setBits row := by
  rw [rowCells, List.length_map, ← List.countP_eq_length_filter]
  have reversed : (List.range 8).countP (covers row) =
      ((List.range 8).map (fun column => 7 - column)).countP row.toNat.testBit := by
    rw [List.countP_map]
    apply List.countP_congr
    intro column member
    rw [covers_eq_testBit row (List.mem_range.mp member)]
    rfl
  exact reversed.trans (List.Perm.countP_eq _ (by decide))

theorem length_cells (x y : Nat) (sprite : Sprite) : (sprite.cells x y).length = sprite.weight := by
  induction sprite generalizing y with
  | nil => rfl
  | cons row rows inductionHypothesis =>
      rw [cells, List.length_append, length_rowCells, inductionHypothesis]
      rfl

theorem mem_rowCells {x y : Nat} {row : UInt8} {cell : Nat × Nat}
    (member : cell ∈ rowCells x y row) :
    Exists fun column => column < 8 ∧ cell = (x + column, y) := by
  rcases List.mem_map.mp member with ⟨column, kept, rfl⟩
  exact ⟨column, List.mem_range.mp (List.mem_filter.mp kept).1, rfl⟩

/-- The cells of a sprite lie in its rows. -/
theorem mem_cells {x y : Nat} {sprite : Sprite} {cell : Nat × Nat}
    (member : cell ∈ sprite.cells x y) :
    Exists fun row => row < sprite.length ∧ cell.2 = y + row := by
  induction sprite generalizing y with
  | nil => cases member
  | cons row rows inductionHypothesis =>
      rcases List.mem_append.mp member with first | later
      · rcases mem_rowCells first with ⟨column, inside, rfl⟩
        exact ⟨0, Nat.succ_pos rows.length, rfl⟩
      · rcases inductionHypothesis later with ⟨below, inside, height⟩
        exact ⟨below + 1, Nat.succ_lt_succ inside, by omega⟩

theorem rowCells_distinct (x y : Nat) (row : UInt8) :
    ((rowCells x y row).map Screen.pixelOf).Nodup := by
  rw [rowCells, List.map_map]
  refine List.Nodup.map_on ?_ (List.nodup_range.filter _)
  intro column member other otherMember same
  have inside := List.mem_range.mp (List.mem_filter.mp member).1
  have otherInside := List.mem_range.mp (List.mem_filter.mp otherMember).1
  have columns := (Screen.pixelOf_eq_iff.mp same).1
  simp only [width] at inside otherInside columns
  omega

/-- No two cells of a sprite name the same pixel, unless the sprite is higher than the screen. -/
theorem cells_distinct (x y : Nat) {sprite : Sprite} (fits : sprite.length ≤ 32) :
    ((sprite.cells x y).map Screen.pixelOf).Nodup := by
  induction sprite generalizing y with
  | nil => exact List.nodup_nil
  | cons row rows inductionHypothesis =>
      have lower : rows.length < 32 := fits
      rw [cells, List.map_append, List.nodup_append]
      refine ⟨rowCells_distinct x y row, inductionHypothesis (y + 1) (Nat.le_of_lt lower), ?_⟩
      intro pixel first other later same
      rcases List.mem_map.mp first with ⟨cell, inRow, rfl⟩
      rcases List.mem_map.mp later with ⟨below, inRows, rfl⟩
      rcases mem_rowCells inRow with ⟨column, _, rfl⟩
      rcases mem_cells inRows with ⟨distance, inside, height⟩
      have rowsAgree := (Screen.pixelOf_eq_iff.mp same).2
      simp only [height] at rowsAgree
      omega

end Sprite
end ChipEight
