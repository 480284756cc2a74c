/-
The shortest decimal text of a double.

The doubles stand apart, so around each there is an interval of reals that are read back
as that double; its ends belong to it exactly if the significand is even.  Of the decimal
grids (the multiples of a power of ten) the coarsest one that has a point in the interval
is the one to print from, and of its points in the interval the one nearest to the
double.  If any point of a grid lies in the interval then one of the two around the
double does, so only those two have to be tried for each grid.  The coarsest grid worth
trying is the one whose first positive point lies above the double: a double just below a
power of ten may be written as that power.  Seventeen digits always suffice.

The text is positional at every size: an exponent never appears, so the largest doubles
have more than three hundred digits.
-/
import Listeners.Number.Double
namespace Listeners.Double

/-- A positive rational number. -/
structure Ratio where
  numerator : Nat
  denominator : Nat

/-- `r * 10 ^ exponent`. -/
def Ratio.scale (r : Ratio) (exponent : Int) : Ratio :=
  if 0 ≤ exponent then ⟨r.numerator * Nat.pow 10 exponent.toNat, r.denominator⟩
  else ⟨r.numerator, r.denominator * Nat.pow 10 (-exponent).toNat⟩

/-- `significand * 2 ^ exponent`. -/
def Ratio.ofBinary (significand : Nat) (exponent : Int) : Ratio :=
  if 0 ≤ exponent then ⟨significand * Nat.pow 2 exponent.toNat, 1⟩
  else ⟨significand, Nat.pow 2 (-exponent).toNat⟩

def Ratio.lt (r s : Ratio) : Bool := r.numerator * s.denominator < s.numerator * r.denominator

def Ratio.floor (r : Ratio) : Nat := r.numerator / r.denominator

/-- The number of digits before the point; for a number below one, minus the number of
zeros that follow the point. -/
def Ratio.pointPosition (r : Ratio) : Int :=
  if r.denominator ≤ r.numerator then (Nat.toDigits 10 r.floor).length
  else
    let fills (k : Nat) : Bool := r.denominator ≤ r.numerator * Nat.pow 10 (k + 1)
    let zeros := ((List.range 330).find? fills).getD 330
    Int.negOfNat zeros

/-- The reals that are read back as a given double. -/
structure Neighbourhood where
  low : Ratio
  high : Ratio
  closed : Bool

def Neighbourhood.contains (n : Neighbourhood) (r : Ratio) : Bool :=
  if n.closed then !r.lt n.low && !n.high.lt r else n.low.lt r && r.lt n.high

/-- The reals that are read back as a positive finite double.  Below a power of two the
neighbours are half as far away as above it. -/
def neighbourhood (d : Double) : Neighbourhood :=
  let (significand, exponent) := d.significand
  let below := if d.fractionField = 0 && 1 < d.exponentField then 1 else 2
  { low := .ofBinary (4 * significand - below) (exponent - 2)
    high := .ofBinary (4 * significand + 2) (exponent - 2)
    closed := significand % 2 == 0 }

/-- Of the two points around `value` on the grid of the multiples of `10 ^ grid`, in units
of the grid, the nearest that is read back as the same double; the greater if both are
equally near. -/
def nearestOnGrid? (value : Ratio) (around : Neighbourhood) (grid : Int) : Option Nat :=
  let below := (value.scale (-grid)).floor
  let point (n : Nat) : Ratio := (Ratio.mk n 1).scale grid
  let belowFits := around.contains (point below)
  let aboveFits := around.contains (point (below + 1))
  let isNearerBelow := Ratio.lt ⟨2 * value.numerator, value.denominator⟩ (point (2 * below + 1))
  if belowFits && (isNearerBelow || !aboveFits) then some below
  else if aboveFits then some (below + 1)
  else none

/-- The decimal with the fewest digits that is read back as this positive finite double:
its digits and the power of ten to multiply them by. -/
def shortest (d : Double) : Nat × Int :=
  let (significand, exponent) := d.significand
  let value := Ratio.ofBinary significand exponent
  let position := value.pointPosition
  let attempt (k : Nat) : Option (Nat × Int) :=
    let grid := position - (k : Int)
    (nearestOnGrid? value d.neighbourhood grid).map (·, grid)
  ((List.range 18).findSome? attempt).getD (0, 0)

/-- A decimal without an exponent. -/
def positionalText (digits : Nat) (exponent : Int) : String :=
  let text := Nat.toDigits 10 digits
  if 0 ≤ exponent then
    if digits = 0 then "0" else String.ofList (text ++ List.replicate exponent.toNat '0')
  else
    let places := (-exponent).toNat
    let padded := List.replicate (places + 1 - text.length) '0' ++ text
    let whole := padded.take (padded.length - places)
    String.ofList (whole ++ '.' :: padded.drop (padded.length - places))

/-- The shortest text that is read back as the double. -/
def toText (d : Double) : String :=
  let sign := if d.isNegative then "-" else ""
  if !d.isFinite then
    if d.fractionField = 0 then sign ++ "inf" else "NaN"
  else if d.significand.1 = 0 then sign ++ "0"
  else
    let (digits, exponent) := d.shortest
    sign ++ positionalText digits exponent

end Listeners.Double
