/-
Lines and columns from a table.

Where many offsets of one source are asked for, the offsets at which its lines begin are found
once and kept in a table.  The line of an offset is then found by halving the table, and its
column by counting the characters from the start of this line on.

Here every step says so if it cannot be taken: a place of the table that does not exist, a
difference below zero, a number that thirty-two bits do not hold.  That this never happens, and
that the location is the one that `Location.ofOffset` comes to by going through the text, is
shown in `Proofs/Lines.lean`.
-/
import Listeners.Text.Location
namespace Listeners

/-- The number of bytes of a text. -/
def Text.byteSize : List Char → Nat
  | [] => 0
  | c :: cs => c.utf8Size + byteSize cs

/-! ### Slices of a text -/

/-- A text cut at a byte offset, if a character begins or the text ends there. -/
def Text.cutAt? : Nat → List Char → Option (List Char × List Char)
  | 0, cs => some ([], cs)
  | _ + 1, [] => none
  | offset + 1, c :: cs =>
    if c.utf8Size ≤ offset + 1 then
      (cutAt? (offset + 1 - c.utf8Size) cs).map fun (before, after) => (c :: before, after)
    else none

/-- The text between two byte offsets, if it can be cut at both. -/
def Text.slice? (cs : List Char) (first last : Nat) : Option (List Char) :=
  if first ≤ last then do
    let (_, rest) ← cutAt? first cs
    let (slice, _) ← cutAt? (last - first) rest
    some slice
  else none

/-! ### Searching a table -/

/-- Where a number stands in an ascending table, or where it would have to be put in. -/
inductive Sought where
  | found (place : Nat)
  | missing (place : Nat)
  deriving DecidableEq, Repr

/-- The last place of the table whose number is not beyond the one that is sought, if there is
one among the `size` places from `first` on. -/
def Sought.narrow (table : Array Nat) (sought first size : Nat) : Option Nat :=
  if size ≤ 1 then some first
  else
    let half := size / 2
    (table[first + half]?).bind fun middle =>
      narrow table sought (if sought < middle then first else first + half) (size - half)
termination_by size

/-- Searches a table by halving it. -/
def Sought.search (table : Array Nat) (sought : Nat) : Option Sought :=
  if table.size = 0 then some (.missing 0)
  else do
    let place ← narrow table sought 0 table.size
    let value ← table[place]?
    some (if value = sought then .found place
      else .missing (if value < sought then place + 1 else place))

/-! ### The table of a source -/

/-- A source and the byte offsets at which its lines begin. -/
structure LineIndex where
  source : List Char
  starts : Array Nat

namespace LineIndex

/-- The offsets behind the line feeds of a text that begins at byte `here`. -/
def startsFrom (here : Nat) : List Char → List Nat
  | [] => []
  | c :: cs =>
    if c = '\n' then (here + c.utf8Size) :: startsFrom (here + c.utf8Size) cs
    else startsFrom (here + c.utf8Size) cs

def ofSource (source : List Char) : LineIndex := ⟨source, (0 :: startsFrom 0 source).toArray⟩

/-- The line of an offset that has been sought among the starts of lines: the one that starts
there, or the one in front of the place where it is missing. -/
def line? : Sought → Option Nat
  | .found place => some place
  | .missing 0 => none
  | .missing (place + 1) => some place

/-- The columns of a line in front of an offset: characters, or bytes if the offset is inside a
character. -/
def columns? (source : List Char) (start offset : Nat) : Option Nat :=
  match Text.slice? source start offset with
  | some characters => some characters.length
  | none => if start ≤ offset then some (offset - start) else none

/-- A number of thirty-two bits, counted from one. -/
def fromOne? (n : Nat) : Option UInt32 :=
  if (UInt32.ofNat n).toNat + 1 < UInt32.size then some (UInt32.ofNat n + 1) else none

/-- Where a byte offset is, if nothing goes wrong on the way. -/
def location? (index : LineIndex) (offset : UInt32) : Option Location := do
  let offset := min offset.toNat (Text.byteSize index.source)
  let sought ← Sought.search index.starts offset
  let line ← line? sought
  let start ← index.starts[line]?
  let columns ← columns? index.source start offset
  let line ← fromOne? line
  let column ← fromOne? columns
  some ⟨line, column⟩

example : (ofSource "ab\ncd\n\nef".toList).location? 4 = some ⟨2, 2⟩ := by decide +kernel

end LineIndex

end Listeners
