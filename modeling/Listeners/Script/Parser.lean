/-
What a parser makes of a source.

The rest of the library takes any parser: it needs the program, and of the first fault, if
there are some, the message and the first place that it points to.
-/
import Listeners.Script.Node
namespace Listeners.Script

/-- Something that is wrong in a source, with the byte offsets that it points to. -/
structure Fault where
  message : String
  offsets : List Nat
  deriving DecidableEq, Repr

structure Parsed where
  program : Program
  faults : List Fault

/-- A parser is given the path of the file, because its extension tells which language the
source is written in, and the source. -/
abbrev Parser := String → List Char → Parsed

end Listeners.Script
