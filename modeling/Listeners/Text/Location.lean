/-
Lines and columns.

Positions in a source are counted in bytes of its UTF-8 form; people are told lines and
columns.  A line ends at a line feed and nowhere else, and a column counts characters
from the start of the line, both from one.  An offset past the end stands for the end.
An offset inside a character has no column of its own, and is given the distance in bytes
from the start of the line.
-/
namespace Listeners

/-- A line and a column, counted from one where they come from a source. -/
structure Location where
  line : UInt32
  column : UInt32
  deriving DecidableEq, Repr

namespace Location

/-- The location of a view that does not say where it stands. -/
instance : Inhabited Location := ⟨⟨0, 0⟩⟩

/-- The beginning of every source. -/
def start : Location := ⟨1, 1⟩

/-- The line and the column of `offset` in a text that begins at byte `here`, which is
column `column` of the line that began at byte `lineStart`. -/
def find (offset line column lineStart here : Nat) : List Char → Nat × Nat
  | [] => (line, column)
  | c :: cs =>
    if offset ≤ here then (line, column)
    else if offset < here + c.utf8Size then (line, offset - lineStart + 1)
    else if c = '\n' then find offset (line + 1) 1 (here + c.utf8Size) (here + c.utf8Size) cs
    else find offset line (column + 1) lineStart (here + c.utf8Size) cs

/-- Where a source has a byte offset. -/
def ofOffset (source : List Char) (offset : Nat) : Location :=
  let (line, column) := find offset 1 1 0 0 source
  ⟨UInt32.ofNat line, UInt32.ofNat column⟩

example : ofOffset "ab\ncd\n\nef".toList 4 = ⟨2, 2⟩ := by decide
example : ofOffset "ab\ncd\n\nef".toList 6 = ⟨3, 1⟩ := by decide
example : ofOffset "ab\ncd\n\nef".toList 100 = ⟨4, 3⟩ := by decide

end Location

end Listeners
