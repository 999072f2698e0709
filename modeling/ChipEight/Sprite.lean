import ChipEight.Screen

namespace ChipEight

/-!
Sprites and how they are drawn.

A sprite is eight columns wide and has one byte for each row, the leftmost column in the highest
bit.  Drawing it turns over the pixels under its set bits and leaves all others as they are, so
drawing twice at one place undoes itself.
-/

abbrev Sprite := List UInt8

namespace Sprite

def width : Nat := 8

/-- Whether a row has its bit set in a column, counted from the left. -/
def covers (row : UInt8) (column : Nat) : Bool :=
  row &&& (0x80 >>> UInt8.ofNat column) != 0

/-- The set columns of a row that lies at a place on the screen. -/
def rowCells (x y : Nat) (row : UInt8) : List (Nat × Nat) :=
  ((List.range width).filter (covers row)).map (fun column => (x + column, y))

/-- The cells under the set bits of a sprite whose upper left corner is at a place. -/
def cells (x y : Nat) : Sprite -> List (Nat × Nat)
  | [] => []
  | row :: rows => rowCells x y row ++ cells x (y + 1) rows

end Sprite

namespace Screen

/-- Turn a list of cells over one after another, and tell whether any of them was erased. -/
def flip (screen : Screen) : List (Nat × Nat) -> Bool × Screen
  | [] => (false, screen)
  | (x, y) :: cells =>
      let (erased, screen) := screen.toggle x y
      let (more, screen) := screen.flip cells
      (erased || more, screen)

def draw (screen : Screen) (x y : Nat) (sprite : Sprite) : Bool × Screen :=
  screen.flip (sprite.cells x y)

end Screen
end ChipEight
