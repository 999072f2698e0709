namespace ChipEight
namespace Decimal

/-!
The shortest decimal of a floating point number.

A finite number is a whole multiple of a power of two.  Every real number nearer to it than to its
neighbours reads back as this number, and so do those half way if the multiple is even.  Among
them the decimal with the fewest digits is chosen, of several the nearest, and of two equally near
the even one.  It is written with a power of ten if it is very large or very small.
-/

/-- The magnitude of a finite number: a multiple of a power of two. -/
structure Magnitude where
  multiple : Nat
  exponent : Int
  /-- Whether the number below is only half as far away as the number above. -/
  isNarrow : Bool
deriving DecidableEq, Repr

/-- The magnitude of a finite number, by its bits. -/
def magnitude (value : Float) : Magnitude :=
  let bits := value.toBits.toNat
  let fraction := bits % Nat.pow 2 52
  let binade := bits / Nat.pow 2 52 % Nat.pow 2 11
  if binade = 0 then ⟨fraction, -1074, false⟩
  else ⟨Nat.pow 2 52 + fraction, Int.ofNat binade - 1075, fraction = 0 && 1 < binade⟩

/-- A decimal: a multiple of a power of ten. -/
structure Multiple where
  digits : Nat
  exponent : Int
deriving DecidableEq, Repr

def Multiple.compareWith (decimal : Multiple) (multiple : Nat) (exponent : Int) : Ordering :=
  compare
    (decimal.digits * Nat.pow 10 decimal.exponent.toNat * Nat.pow 2 (-exponent).toNat)
    (multiple * Nat.pow 2 exponent.toNat * Nat.pow 10 (-decimal.exponent).toNat)

namespace Magnitude

/-- Whether a decimal reads back as the number; the bounds are counted in quarters. -/
def admits (size : Magnitude) (decimal : Multiple) : Bool :=
  let below := decimal.compareWith (4 * size.multiple - if size.isNarrow then 1 else 2)
    (size.exponent - 2)
  let above := decimal.compareWith (4 * size.multiple + 2) (size.exponent - 2)
  let closed := size.multiple % 2 = 0
  (below == .gt || (closed && below == .eq)) && (above == .lt || (closed && above == .eq))

/-- The decimal on the grid of a power of ten that is nearest among those that read back. -/
def onGrid? (size : Magnitude) (exponent : Int) : Option Multiple :=
  let lower : Multiple :=
    ⟨size.multiple * Nat.pow 2 size.exponent.toNat * Nat.pow 10 (-exponent).toNat
      / (Nat.pow 2 (-size.exponent).toNat * Nat.pow 10 exponent.toNat), exponent⟩
  let upper : Multiple := ⟨lower.digits + 1, exponent⟩
  match size.admits lower, size.admits upper with
  | false, false => none
  | true, false => some lower
  | false, true => some upper
  | true, true =>
      -- Twice the number is compared with the sum of both decimals, in the middle of which it lies
      -- if they are equally near.
      match Multiple.compareWith ⟨lower.digits + upper.digits, exponent⟩ (2 * size.multiple)
          size.exponent with
      | .gt => some lower
      | .lt => some upper
      | .eq => some (if lower.digits % 2 = 0 then lower else upper)

/-- The powers of ten on whose grids a shortest decimal may lie, the coarsest first. -/
def grids : List Int :=
  (List.range 655).map (fun step => 309 - Int.ofNat step)

/-- The shortest decimal; were no grid fine enough, the exact value would be written. -/
def shortest (size : Magnitude) : Multiple :=
  if size.multiple = 0 then ⟨0, 0⟩
  else (grids.findSome? size.onGrid?).getD
    ⟨size.multiple * Nat.pow 2 size.exponent.toNat * Nat.pow 5 (-size.exponent).toNat,
      min size.exponent 0⟩

end Magnitude

namespace Multiple

/-- A decimal with a point and at least one digit on each side of it. -/
def positional (decimal : Multiple) : String :=
  let digits := Nat.toDigits 10 decimal.digits
  let places := (-decimal.exponent).toNat
  if places = 0 then String.ofList (digits ++ List.replicate decimal.exponent.toNat '0') ++ ".0"
  else
    let digits := List.replicate (places + 1 - digits.length) '0' ++ digits
    let whole := digits.length - places
    String.ofList (digits.take whole) ++ "." ++ String.ofList (digits.drop whole)

def order (decimal : Multiple) : Int :=
  decimal.exponent + (Nat.toDigits 10 decimal.digits).length - 1

/-- A decimal with one digit in front of the point, if there are several, and a power of ten. -/
def scientific (decimal : Multiple) : String :=
  let digits := Nat.toDigits 10 decimal.digits
  let fraction := if digits.length ≤ 1 then "" else "." ++ String.ofList digits.tail
  let sign := if decimal.order < 0 then "-" else "+"
  String.ofList (digits.take 1) ++ fraction ++ "e" ++ sign ++ toString decimal.order.natAbs

/-- The text of a decimal: positional from a hundred thousandth to sixteen digits. -/
def text (decimal : Multiple) : String :=
  if -5 ≤ decimal.order ∧ decimal.order ≤ 15 then decimal.positional else decimal.scientific

end Multiple

def text (value : Float) : String :=
  if value.isNaN then "NaN"
  else
    let sign := if value.toBits.toNat < Nat.pow 2 63 then "" else "-"
    if value.isInf then sign ++ "inf" else sign ++ (magnitude value).shortest.text

end Decimal
end ChipEight
