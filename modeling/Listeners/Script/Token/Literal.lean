/-
The values of string and number literals.

A string literal denotes a sequence of UTF-16 code units, and its escapes can write half
of a surrogate pair without the other half.  Such a value is no text.  It is turned into
one by writing each stray half as U+FFFD followed by its four hexadecimal digits; in a
string that needs this, U+FFFD itself is written the same way, so that different values
stay different.
-/
import Listeners.Number.Double
namespace Listeners.Script

def isLineBreak (c : Char) : Bool :=
  c = '\n' || c = '\r' || c = '\u2028' || c = '\u2029'

/-- The value of a digit in the bases up to sixteen. -/
def digitValue? (c : Char) : Option Nat :=
  if '0' ≤ c && c ≤ '9' then some (c.toNat - '0'.toNat)
  else if 'a' ≤ c && c ≤ 'f' then some (c.toNat - 'a'.toNat + 10)
  else if 'A' ≤ c && c ≤ 'F' then some (c.toNat - 'A'.toNat + 10)
  else none

def isDigitOf (base : Nat) (c : Char) : Bool := (digitValue? c).any (· < base)

/-- The number that digits write in a base; characters that are not digits are passed
over. -/
def digitsValue (base : Nat) (digits : List Char) : Nat :=
  (digits.filterMap digitValue?).foldl (fun n d => base * n + d) 0

/-! ### Escapes -/

/-- A code point written with exactly `count` hexadecimal digits. -/
def fixedHex? (count : Nat) (cs : List Char) : Option (Nat × List Char) :=
  let digits := cs.take count
  if digits.length = count && digits.all (isDigitOf 16) then
    some (digitsValue 16 digits, cs.drop count)
  else none

/-- What may follow `\u`: four digits, or any number of digits in braces. -/
def unicodeEscape? : List Char → Option (Nat × List Char)
  | '{' :: cs =>
    let digits := cs.takeWhile (isDigitOf 16)
    match cs.drop digits.length with
    | '}' :: rest =>
      let n := digitsValue 16 digits
      if digits.isEmpty || 0x10FFFF < n then none else some (n, rest)
    | _ => none
  | cs => fixedHex? 4 cs

def isHighSurrogate (n : Nat) : Bool := 0xD800 ≤ n && n ≤ 0xDBFF

def isLowSurrogate (n : Nat) : Bool := 0xDC00 ≤ n && n ≤ 0xDFFF

/-- After a high half, the low half that completes it. -/
def lowHalf? : List Char → Option (Nat × List Char)
  | '\\' :: 'u' :: cs => (fixedHex? 4 cs).filter (isLowSurrogate ·.1)
  | _ => none

/-- The code points that an escape stands for, none for a line that goes on, given what
follows the backslash. -/
def escape? : List Char → Option (List Nat × List Char)
  | [] => none
  | 'n' :: cs => some ([0x0A], cs)
  | 't' :: cs => some ([0x09], cs)
  | 'r' :: cs => some ([0x0D], cs)
  | 'b' :: cs => some ([0x08], cs)
  | 'f' :: cs => some ([0x0C], cs)
  | 'v' :: cs => some ([0x0B], cs)
  | 'x' :: cs => (fixedHex? 2 cs).map fun (n, rest) => ([n], rest)
  | 'u' :: cs => do
    let (n, rest) ← unicodeEscape? cs
    match cs, isHighSurrogate n, lowHalf? rest with
    | '{' :: _, _, _ => some ([n], rest)
    | _, true, some (low, rest) =>
      some ([0x10000 + (n - 0xD800) * 0x400 + (low - 0xDC00)], rest)
    | _, _, _ => some ([n], rest)
  | '\r' :: '\n' :: cs => some ([], cs)
  | c :: cs =>
    if isLineBreak c then some ([], cs)
    else if isDigitOf 8 c then
      let limit := if c ≤ '3' then 2 else 1
      let more := (cs.take limit).takeWhile (isDigitOf 8)
      some ([digitsValue 8 (c :: more)], cs.drop more.length)
    else some ([c.toNat], cs)

/-- The code points of a string literal, given what stands between its quotes. -/
def codePoints? (fuel : Nat) (cs : List Char) : Option (List Nat) :=
  match fuel, cs with
  | _, [] => some []
  | 0, _ => none
  | fuel + 1, '\\' :: cs => do
    let (points, rest) ← escape? cs
    return points ++ (← codePoints? fuel rest)
  | fuel + 1, c :: cs => do return c.toNat :: (← codePoints? fuel cs)

def isSurrogate (n : Nat) : Bool := 0xD800 ≤ n && n ≤ 0xDFFF

/-- Code points as a text, in which a stray half of a surrogate pair is spelled out. -/
def spellCodePoints (points : List Nat) : List Char :=
  if points.any isSurrogate then
    points.flatMap fun n =>
      if isSurrogate n || n = 0xFFFD then '\uFFFD' :: Nat.toDigits 16 n else [Char.ofNat n]
  else points.map Char.ofNat

/-- The value of a string literal, given what stands between its quotes. -/
def stringValue? (raw : List Char) : Option String :=
  (codePoints? raw.length raw).map fun points => String.ofList (spellCodePoints points)

/-! ### Numbers -/

/-- The value of a decimal literal from its three runs of digits. -/
def decimalValue (whole fraction : List Char) (exponent : Int) : Double :=
  let places := (fraction.filter Char.isDigit).length
  Double.ofDecimal (digitsValue 10 (whole ++ fraction)) (exponent - places)

end Listeners.Script
