/-
Texts between quotes, as messages show them.

A quote and a backslash are preceded by a backslash, and characters that cannot be seen
are shown by a short escape or by their number in hexadecimal.
-/
import Listeners.Text.Quoted.Table
namespace Listeners.Text

/-- Whether a character is shown by its number. -/
def isInvisible (c : Char) : Bool :=
  c != ' ' && invisibleIntervals.any fun (first, last) => first ≤ c.toNat && c.toNat ≤ last

/-- A character between quotes. -/
def quotedChar (c : Char) : List Char :=
  if c = '"' || c = '\\' then ['\\', c]
  else if c = '\x00' then ['\\', '0']
  else if c = '\t' then ['\\', 't']
  else if c = '\r' then ['\\', 'r']
  else if c = '\n' then ['\\', 'n']
  else if isInvisible c then ['\\', 'u', '\x7b'] ++ Nat.toDigits 16 c.toNat ++ ['\x7d']
  else [c]

/-- A text between quotes. -/
def quoted (s : String) : String := String.ofList ('"' :: s.toList.flatMap quotedChar ++ ['"'])

end Listeners.Text
