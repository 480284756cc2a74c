/-
Double-precision numbers as their 64 bits.

A number literal of a listener annotation is a double, and all the library does with it is
to read it from decimal text, turn its sign, ask whether it is finite and pass it on
unchanged.  So a double is kept as its IEEE 754 word: two are equal exactly if their bits
are, a negative zero keeps its sign, and every operation is arithmetic on natural numbers.

Reading rounds correctly.  `ofRatio` takes the exact quotient of two natural numbers to
the nearest double, a tie to the one with the even fraction, and too large a quotient to
infinity.  Words of finite doubles are consecutive in the order of their values, so the
rounded significand is simply added to the exponent field, and a carry out of it lands
where it belongs.
-/
namespace Listeners

/-- A double, given by its bits. -/
structure Double where
  bits : UInt64
  deriving DecidableEq, Repr

namespace Double

/-- How many fractions there are to one exponent: two to the power of fifty-two. -/
def fractionCount : Nat := 0x10000000000000

/-- The biased exponent. -/
def exponentField (d : Double) : Nat := d.bits.toNat / fractionCount % 2048

/-- The fraction bits. -/
def fractionField (d : Double) : Nat := d.bits.toNat % fractionCount

/-- Whether the sign bit is set. -/
def isNegative (d : Double) : Bool := 0x8000000000000000 ≤ d.bits.toNat

/-- Neither infinite nor a NaN. -/
def isFinite (d : Double) : Bool := d.exponentField != 2047

/-- The double with the other sign. -/
def neg (d : Double) : Double := ⟨d.bits ^^^ 0x8000000000000000⟩

def infinity : Double := ⟨0x7FF0000000000000⟩

/-- The significand and the power of two whose product is the magnitude of a finite
double. -/
def significand (d : Double) : Nat × Int :=
  if d.exponentField = 0 then (d.fractionField, -1074)
  else (fractionCount + d.fractionField, (d.exponentField : Int) - 1075)

/-- The quotient rounded to the nearest natural number, a tie to the even one. -/
def roundDiv (numerator denominator : Nat) : Nat :=
  let quotient := numerator / denominator
  let twice := 2 * (numerator % denominator)
  if denominator < twice || (twice == denominator && quotient % 2 == 1) then quotient + 1
  else quotient

/-- The least power of two, from -1074 on, in units of which the quotient rounds to at
most 2 ^ 53. -/
def unitExponent (numerator denominator : Nat) : Int :=
  let estimate : Int := (numerator.log2 : Int) - (denominator.log2 : Int) - 52
  -- The quotient lies between 2 ^ (estimate + 51) and 2 ^ (estimate + 53).
  let isBelow : Bool :=
    if 0 ≤ estimate + 52 then numerator < denominator * Nat.pow 2 (estimate + 52).toNat
    else numerator * Nat.pow 2 (-(estimate + 52)).toNat < denominator
  max (-1074) (if isBelow then estimate - 1 else estimate)

/-- The double nearest to a quotient of natural numbers. -/
def ofRatio (numerator denominator : Nat) : Double :=
  if numerator = 0 || denominator = 0 then ⟨0⟩
  else
    let unit := unitExponent numerator denominator
    let significand :=
      if 0 ≤ unit then roundDiv numerator (denominator * Nat.pow 2 unit.toNat)
      else roundDiv (numerator * Nat.pow 2 (-unit).toNat) denominator
    let word := (unit + 1074).toNat * fractionCount + significand
    if word < 0x7FF0000000000000 then ⟨UInt64.ofNat word⟩ else infinity

/-- The double nearest to a natural number. -/
def ofNat (n : Nat) : Double := ofRatio n 1

/-- The magnitude of a finite double as a quotient. -/
def ratio (d : Double) : Nat × Nat :=
  let (significand, exponent) := d.significand
  if 0 ≤ exponent then (significand * Nat.pow 2 exponent.toNat, 1)
  else (significand, Nat.pow 2 (-exponent).toNat)

/-- The product of the magnitudes of two finite doubles. -/
def mul (d e : Double) : Double := ofRatio (d.ratio.1 * e.ratio.1) (d.ratio.2 * e.ratio.2)

/-- The quotient of the magnitudes of two finite doubles. -/
def div (d e : Double) : Double := ofRatio (d.ratio.1 * e.ratio.2) (d.ratio.2 * e.ratio.1)

/-- The double nearest to `digits * 10 ^ exponent`.  Exponents far outside the range of
doubles are settled without computing the power. -/
def ofDecimal (digits : Nat) (exponent : Int) : Double :=
  let size : Int := (Nat.toDigits 10 digits).length
  if digits = 0 then ⟨0⟩
  else if 310 < size + exponent then infinity
  else if size + exponent < -330 then ⟨0⟩
  else if 0 ≤ exponent then ofRatio (digits * Nat.pow 10 exponent.toNat) 1
  else ofRatio digits (Nat.pow 10 (-exponent).toNat)

/-- The bits in hexadecimal, sixteen digits. -/
def hex (d : Double) : String :=
  let digits := Nat.toDigits 16 d.bits.toNat
  String.ofList (List.replicate (16 - digits.length) '0' ++ digits)

example : (ofDecimal 1 0).bits = 0x3FF0000000000000 := by decide +kernel
example : (ofDecimal 1 (-1)).bits = 0x3FB999999999999A := by decide +kernel
example : (ofDecimal 5 (-324)).bits = 1 := by decide +kernel
example : (ofDecimal 9007199254740993 0).bits = 0x4340000000000000 := by decide +kernel
example : ofDecimal 1 400 = infinity := by decide +kernel

end Double

end Listeners
