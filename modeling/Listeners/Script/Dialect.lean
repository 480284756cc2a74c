/-
Which language a script is written in.

The extension of its file tells whether types may be written in it and whether markup may.
The two share the less-than sign: where there is no markup, a type between angles before
an operand is a cast.  A file with an unknown extension may hold both.
-/
import Listeners.Path
namespace Listeners.Script

structure Dialect where
  hasTypes : Bool
  hasMarkup : Bool
  deriving DecidableEq, Repr

/-- The dialect of the file at a path. -/
def Dialect.ofPath (path : String) : Dialect :=
  match Path.extensionText? (Text.bytes path) with
  | some "ts" | some "mts" | some "cts" => ⟨true, false⟩
  | some "js" | some "mjs" | some "cjs" | some "jsx" => ⟨false, true⟩
  | _ => ⟨true, true⟩

end Listeners.Script
