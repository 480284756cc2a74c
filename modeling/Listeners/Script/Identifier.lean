/-
Which characters make up identifiers, and which words are reserved.
-/
import Listeners.Script.Identifier.Table
namespace Listeners.Script

/-- Whether a code point lies in one of the ascending intervals. -/
def inAscending (n : Nat) : List (Nat × Nat) → Bool
  | [] => false
  | (first, last) :: rest => first ≤ n && (n ≤ last || inAscending n rest)

/-- A letter in the widest sense, the dollar sign or the underscore. -/
def isIdentifierStart (c : Char) : Bool :=
  if c.toNat < 0x80 then c.isAlpha || c = '$' || c = '_'
  else inAscending c.toNat identifierStartIntervals

/-- What may follow the first character of an identifier: also digits, marks, connectors
and the two joiners. -/
def isIdentifierPart (c : Char) : Bool :=
  if c.toNat < 0x80 then c.isAlphanum || c = '$' || c = '_'
  else c.toNat = 0x200C || c.toNat = 0x200D ||
    inAscending c.toNat identifierStartIntervals || inAscending c.toNat identifierPartIntervals

/-- The words that no variable can have for a name. -/
def reservedWords : List String := [
  "break", "case", "catch", "class", "const", "continue", "debugger", "default", "delete",
  "do", "else", "enum", "export", "extends", "false", "finally", "for", "function", "if",
  "import", "in", "instanceof", "new", "null", "return", "super", "switch", "this", "throw",
  "true", "try", "typeof", "var", "void", "while", "with"]

def isReserved (word : String) : Bool := reservedWords.contains word

end Listeners.Script
