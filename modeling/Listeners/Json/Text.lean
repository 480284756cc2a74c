/-
The words and strings in the text of a JSON value.

A string is made of the characters between its quotes, with escapes for some.  An escape
that writes the first half of a surrogate pair has to be followed by one that writes the
second.  Control characters have to be escaped.
-/
import Listeners.Json.Number
namespace Listeners.Json

/-! ### Blanks and words -/

def isBlank (c : Char) : Bool := c = ' ' || c = '\n' || c = '\t' || c = '\r'

def skipBlank (cs : List Char) : List Char := cs.dropWhile isBlank

/-- Past the remaining letters of `null`, `true` or `false`. -/
def skipLetters : List Char → List Char → Except Fault (List Char)
  | [], cs => .ok cs
  | _ :: _, [] => .error .endOfValue
  | letter :: letters, c :: cs =>
    if c = letter then skipLetters letters cs else .error .expectedLiteral

/-! ### Strings -/

def hexDigit? (c : Char) : Option Nat :=
  if '0' ≤ c && c ≤ '9' then some (c.toNat - '0'.toNat)
  else if 'a' ≤ c && c ≤ 'f' then some (c.toNat - 'a'.toNat + 10)
  else if 'A' ≤ c && c ≤ 'F' then some (c.toNat - 'A'.toNat + 10)
  else none

/-- The number that four hexadecimal digits write.  A text with fewer than four bytes left
has ended. -/
def fourDigits (cs : List Char) : Except Fault (Nat × List Char) :=
  match (cs.take 4).mapM hexDigit? with
  | some [a, b, c, d] => .ok (((a * 16 + b) * 16 + c) * 16 + d, cs.drop 4)
  | _ =>
    if (cs.take 4).foldr (fun c size => c.utf8Size + size) 0 < 4 then .error .endOfString
    else .error .invalidEscape

/-- The character whose escape begins with the number `n`, which must not be half of a
surrogate pair unless the other half follows. -/
def surrogatePair (n : Nat) (cs : List Char) : Except Fault (Char × List Char) :=
  if 0xDC00 ≤ n && n ≤ 0xDFFF then .error .loneSurrogate
  else if n < 0xD800 || 0xDBFF < n then .ok (Char.ofNat n, cs)
  else match cs with
    | [] | ['\\'] => .error .endOfString
    | '\\' :: 'u' :: cs => do
      let (low, rest) ← fourDigits cs
      if low < 0xDC00 || 0xDFFF < low then .error .loneSurrogate
      else .ok (Char.ofNat (0x10000 + (n - 0xD800) * 0x400 + (low - 0xDC00)), rest)
    | _ => .error .unfinishedSurrogate

/-- The character that an escape stands for, behind the backslash. -/
def escape : List Char → Except Fault (Char × List Char)
  | [] => .error .endOfString
  | '"' :: cs => .ok ('"', cs)
  | '\\' :: cs => .ok ('\\', cs)
  | '/' :: cs => .ok ('/', cs)
  | 'b' :: cs => .ok ('\x08', cs)
  | 'f' :: cs => .ok ('\x0C', cs)
  | 'n' :: cs => .ok ('\n', cs)
  | 'r' :: cs => .ok ('\r', cs)
  | 't' :: cs => .ok ('\t', cs)
  | 'u' :: cs => do
    let (n, rest) ← fourDigits cs
    surrogatePair n rest
  | _ => .error .invalidEscape

/-- The characters of a string, behind its first quote. -/
def stringChars (fuel : Nat) (cs : List Char) : Except Fault (List Char × List Char) :=
  match fuel, cs with
  | _, [] | 0, _ => .error .endOfString
  | fuel + 1, '\\' :: cs => do
    let (c, rest) ← escape cs
    let (more, rest) ← stringChars fuel rest
    .ok (c :: more, rest)
  | fuel + 1, c :: cs =>
    if c = '"' then .ok ([], cs)
    else if c.toNat < 0x20 then .error .controlCharacter
    else do
      let (more, rest) ← stringChars fuel cs
      .ok (c :: more, rest)

/-- A string, behind its first quote. -/
def stringBody (cs : List Char) : Except Fault (String × List Char) := do
  let (chars, rest) ← stringChars (cs.length + 1) cs
  .ok (String.ofList chars, rest)

end Listeners.Json
