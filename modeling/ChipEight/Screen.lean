namespace ChipEight

/-!
The monochrome screen: 64 columns and 32 rows of pixels that are on or off.

The screen is a torus.  A coordinate beyond an edge comes in again at the opposite one, so any
pair of numbers names a pixel and nothing is ever cut off.  Pixels are kept row by row.
-/

/-- The pixels of a screen, row by row from the top, each row from the left. -/
structure Screen where
  pixels : Vector Bool 2048
deriving DecidableEq, Repr

namespace Screen

def width : Nat := 64

def height : Nat := 32

/-- The place of a pixel among all pixels, after its coordinates went around the torus. -/
def place (x y : Nat) : Fin 2048 :=
  ⟨x % width + y % height * width, by unfold width height; omega⟩

def blank : Screen :=
  ⟨Vector.replicate 2048 false⟩

def get (screen : Screen) (x y : Nat) : Bool :=
  screen.pixels[place x y]

def set (screen : Screen) (x y : Nat) (on : Bool) : Screen :=
  ⟨screen.pixels.set (place x y).val on (place x y).isLt⟩

theorem get_blank (x y : Nat) : blank.get x y = false := by
  simp only [get, blank, Fin.getElem_fin, Vector.getElem_replicate]

/-- A change shows at the coordinates that name its pixel, and nowhere else. -/
theorem get_set (screen : Screen) (x y p q : Nat) (on : Bool) :
    (screen.set x y on).get p q = if place x y = place p q then on else screen.get p q := by
  simp only [get, set, Fin.getElem_fin, Vector.getElem_set, Fin.val_inj]

/-- Turn a pixel over, and tell whether that erased it. -/
def toggle (screen : Screen) (x y : Nat) : Bool × Screen :=
  let lit := screen.get x y
  (lit, screen.set x y (!lit))

def clear (_ : Screen) : Screen :=
  blank

def litCount (screen : Screen) : Nat :=
  screen.pixels.toList.count true

def row (screen : Screen) (y : Nat) : List Bool :=
  (List.range width).map (fun x => screen.get x y)

def rows (screen : Screen) : List (List Bool) :=
  (List.range height).map screen.row

def mark (on : Bool) : Char :=
  if on then '#' else '.'

/-- The picture as text, one line for each row. -/
def dump (screen : Screen) : String :=
  String.ofList (screen.rows.flatMap (fun row => row.map mark ++ ['\n']))

/-- A one-line summary: the size of the screen and how many pixels are on. -/
def summary (screen : Screen) : String :=
  "DisplayBuffer \x7b size: [" ++ toString width ++ ", " ++ toString height ++ "], lit: "
    ++ toString screen.litCount ++ " \x7d"

end Screen
end ChipEight
