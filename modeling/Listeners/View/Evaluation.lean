/-
The value of an object literal, and the options that it writes.

An object literal is read without running anything.  All its properties have to be written
out, and their values have to be null, truth values, finite numbers or strings: the object
is flat.  A key that is repeated has the value that comes last, as it would when the
program runs.  The first property that is not of this kind is to blame if the object is
not readable, even if a later one has the same key.

Of the options only three keys count, and only where their values are truth values.
-/
import Listeners.Flags
import Listeners.Json.Basic
import Listeners.View
namespace Listeners

namespace View

/-- What stands in an object literal in place of a literal. -/
structure Unreadable where
  kind : String
  deriving DecidableEq, Repr

def Unreadable.message (e : Unreadable) : String :=
  "unsupported " ++ e.kind ++ " in listener options"

/-- The value of a property. -/
def Literal.evaluate : Literal → Except Unreadable Json
  | .null => .ok .null
  | .boolean value => .ok (.boolean value)
  | .number value =>
    if value.isFinite then .ok (.double value) else .error ⟨"non-finite number"⟩
  | .string value => .ok (.string value)
  | .object _ => .error ⟨"nested object"⟩
  | .other kind => .error ⟨kind⟩

/-- A property as a field. -/
def Property.evaluate : Property → Except Unreadable (String × Json)
  | .entry key value => (key, ·) <$> value.evaluate
  | .unsupported kind => .error ⟨kind⟩

/-- The fields of an object in which `fields` are written before `properties`. -/
def evaluateOnto (fields : Json.Fields) : List Property → Except Unreadable Json.Fields
  | [] => .ok fields
  | property :: properties => do
    let (key, value) ← property.evaluate
    evaluateOnto (fields.insert key value) properties

/-- The fields of an object literal. -/
def evaluate (properties : List Property) : Except Unreadable Json.Fields :=
  evaluateOnto [] properties

end View

/-- The options that the fields of an object write. -/
def WrittenOptions.ofFields (fields : Json.Fields) : WrittenOptions where
  capture := (fields.find? "capture").bind Json.toBool?
  passive := (fields.find? "passive").bind Json.toBool?
  enabled := (fields.find? "enabled").bind Json.toBool?

end Listeners
