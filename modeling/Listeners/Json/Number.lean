/-
The text of a JSON number.

A number has a whole part without needless zeros, and may have a fraction and an exponent.
Without either it is an integer if sixty-four bits can hold it.

Any other number is a double.  Its digits are gathered into a word of sixty-four bits for
as long as they fit, and digits of the whole part that no longer fit only count as powers
of ten.  The word is rounded to a double, and that is multiplied or divided by a power of
ten, with a rounding of its own.  So a number with few digits and a small exponent is read
exactly as it should be, and one with many may be off by a bit.
-/
import Listeners.Json.Basic
import Listeners.Json.Fault
namespace Listeners.Json

/-- The parts of a number. -/
structure Numeral where
  isNegative : Bool
  whole : List Char
  fraction : List Char
  exponent : Int
  /-- Without a point and an exponent. -/
  isInteger : Bool

/-! ### Reading -/

/-- A run of digits that must not be empty.  `atEnd` is what is wrong if the text ends
instead. -/
def someDigits (atEnd : Fault) (cs : List Char) : Except Fault (List Char × List Char) :=
  match cs.takeWhile Char.isDigit, cs with
  | [], [] => .error atEnd
  | [], _ => .error .invalidNumber
  | digits, _ => .ok (digits, cs.dropWhile Char.isDigit)

/-- The digits before the point.  A zero stands alone. -/
def wholePart (atEnd : Fault) (cs : List Char) : Except Fault (List Char × List Char) :=
  match cs with
  | '0' :: rest => if rest.head?.any Char.isDigit then .error .invalidNumber else .ok (['0'], rest)
  | _ => someDigits atEnd cs

/-- The point and the digits behind it, if there is a point. -/
def fractionPart (atEnd : Fault) : List Char → Except Fault (Option (List Char) × List Char)
  | '.' :: cs => do
    let (digits, rest) ← someDigits atEnd cs
    .ok (some digits, rest)
  | cs => .ok (none, cs)

/-- The number that a run of digits writes. -/
def digitsValue (digits : List Char) : Nat :=
  digits.foldl (fun n d => 10 * n + (d.toNat - '0'.toNat)) 0

/-- The exponent, if there is one. -/
def exponentPart (atEnd : Fault) : List Char → Except Fault (Option Int × List Char)
  | [] => .ok (none, [])
  | e :: cs =>
    if e = 'e' || e = 'E' then do
      let (isNegative, unsigned) := match cs with
        | '-' :: rest => (true, rest)
        | '+' :: rest => (false, rest)
        | _ => (false, cs)
      let (digits, rest) ← someDigits atEnd unsigned
      let size : Int := digitsValue digits
      .ok (some (if isNegative then -size else size), rest)
    else .ok (none, e :: cs)

/-- The number at the front of a text. -/
def numeral (atEnd : Fault) (cs : List Char) : Except Fault (Numeral × List Char) := do
  let (isNegative, unsigned) := match cs with
    | '-' :: rest => (true, rest)
    | _ => (false, cs)
  let (whole, rest) ← wholePart atEnd unsigned
  let (fraction, rest) ← fractionPart atEnd rest
  let (exponent, rest) ← exponentPart atEnd rest
  .ok ({ isNegative, whole, fraction := fraction.getD [], exponent := exponent.getD 0
         isInteger := fraction.isNone && exponent.isNone }, rest)

/-! ### The value -/

/-- The first number that sixty-four bits do not hold. -/
def wordEnd : Nat := 0x10000000000000000

/-- As many of the digits as fit into sixty-four bits behind those of `n`, and how many are
left over. -/
def gather (n : Nat) : List Char → Nat × Nat
  | [] => (n, 0)
  | d :: digits =>
    let next := 10 * n + (d.toNat - '0'.toNat)
    if next < wordEnd then gather next digits else (n, (d :: digits).length)

/-- The word that holds the digits of a number, and the power of ten to multiply it by. -/
def Numeral.scaled (n : Numeral) : Nat × Int :=
  let (whole, surplus) := gather 0 n.whole
  let (word, dropped) := gather whole n.fraction
  (word, n.exponent + surplus - (n.fraction.length - dropped : Nat))

def powerOfTen (k : Nat) : Double := .ofNat (Nat.pow 10 k)

/-- A double divided by a power of ten, in steps if there is no such double. -/
def scaleDown (d : Double) (exponent : Nat) : Double :=
  if exponent ≤ 308 then d.div (powerOfTen exponent)
  else if d.bits = 0 then d
  else scaleDown (d.div (powerOfTen 308)) (exponent - 308)
termination_by exponent

/-- A double multiplied by a power of ten, unless that is too large. -/
def scaleUp? (d : Double) (exponent : Nat) : Option Double :=
  if d.bits = 0 then some d
  else if 308 < exponent then none
  else some (d.mul (powerOfTen exponent)) |>.filter (·.isFinite)

/-- The magnitude of a number as a double. -/
def Numeral.magnitude? (n : Numeral) : Option Double :=
  let (word, exponent) := n.scaled
  if 0 ≤ exponent then scaleUp? (.ofNat word) exponent.toNat
  else some (scaleDown (.ofNat word) (-exponent).toNat)

/-- The value of a number.  A negative zero is no integer. -/
def Numeral.value (n : Numeral) : Except Fault Json :=
  let size := digitsValue n.whole
  let isSmall := if n.isNegative then 0 < size && 2 * size ≤ wordEnd else size < wordEnd
  if n.isInteger && isSmall then .ok (integer (if n.isNegative then -(size : Int) else size))
  else match n.magnitude? with
    | some magnitude => .ok (double (if n.isNegative then magnitude.neg else magnitude))
    | none => .error .numberOutOfRange

/-- Reads a number. -/
def number (cs : List Char) : Except Fault (Json × List Char) := do
  let (n, rest) ← numeral .endOfValue cs
  let value ← n.value
  .ok (value, rest)

/-- Past a number, however large. -/
def skipNumber (cs : List Char) : Except Fault (List Char) :=
  (numeral .invalidNumber cs).map (·.2)

def beginsNumber (c : Char) : Bool := c = '-' || c.isDigit

/-! ### Writing -/

/-- A number with a point: positional between a hundred thousandth and ten to the power of
sixteen, otherwise with one digit before the point, if there are more, and an exponent. -/
def pointText (d : Double) : String :=
  let sign := if d.isNegative then "-" else ""
  if d.significand.1 = 0 then sign ++ "0.0"
  else
    let (digits, exponent) := d.shortest
    let text := (Nat.toDigits 10 digits).reverse.dropWhile (· = '0') |>.reverse
    let position : Int := (Nat.toDigits 10 digits).length + exponent
    if -5 < position && position ≤ 16 then
      let plain := Double.positionalText digits exponent
      sign ++ if 0 ≤ exponent then plain ++ ".0" else plain
    else
      let power := position - 1
      let mark := if power < 0 then "e-" else "e+"
      let head := String.ofList (text.take 1)
      let tail := text.drop 1
      sign ++ (if tail.isEmpty then head else head ++ "." ++ String.ofList tail) ++ mark ++
        toString power.natAbs

end Listeners.Json
