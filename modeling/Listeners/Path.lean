/-
Paths: their parts, the name of a file and its extension.

A path is made of bytes, and its parts are separated by slashes.  Empty parts and single
dots say nothing, and a path that ends by going up names no file.  The extension of a name
follows its last dot, provided that something precedes the dot: a name that only begins
with a dot has none.
-/
import Listeners.Text.Blank
import Listeners.Text.Bytes
namespace Listeners.Path

def slash : UInt8 := 0x2F

def dot : UInt8 := 0x2E

/-- The part that goes up. -/
def up : Bytes := [dot, dot]

/-- The parts of a path that say something. -/
def parts (path : Bytes) : List Bytes :=
  (Text.fields slash path).filter fun part => part != [] && part != [dot]

/-- The last part of a path, if it is a name. -/
def fileName? (path : Bytes) : Option Bytes := (parts path).getLast?.filter (· != up)

/-- What follows the last dot of a file name. -/
def extension? (name : Bytes) : Option Bytes :=
  let reversed := name.reverse
  let ending := reversed.takeWhile (· != dot)
  let stem := reversed.drop (ending.length + 1)
  if stem.isEmpty then none else some ending.reverse

/-- The extension of the file that a path names, if it is a text. -/
def extensionText? (path : Bytes) : Option String :=
  ((fileName? path).bind extension?).bind Bytes.text?

example : extensionText? (Text.bytes "x/a.b.tsx") = some "tsx" := by decide
example : extensionText? (Text.bytes ".ts") = none := by decide
example : extensionText? (Text.bytes "..ts") = some "ts" := by decide
example : extensionText? (Text.bytes "a.ts/..") = none := by decide

end Listeners.Path
