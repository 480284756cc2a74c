/-
What the library sees of a class.

A class is seen as its name and its members, a member as its name and its annotations, and
an annotation as its name and its arguments.  Of an argument only string literals and
object literals are seen through; of everything else there is a description.  Names are
missing where they are not known without running the program.

Views can be made from a source (`Script/View.lean`) or be given as JSON
(`View/Json.lean`); what is done with them does not depend on where they come from.
-/
import Listeners.Number.Double
import Listeners.Text.Location
namespace Listeners.View

mutual

/-- The value of a property in an object literal. -/
inductive Literal where
  | null
  | boolean (value : Bool)
  | number (value : Double)
  | string (value : String)
  | object (properties : List Property)
  /-- Anything that is no literal, described. -/
  | other (kind : String)

/-- A property of an object literal. -/
inductive Property where
  | entry (key : String) (value : Literal)
  /-- A property without a written key or value, described. -/
  | unsupported (kind : String)

end

/-- An argument of an annotation. -/
inductive Argument where
  | string (value : String) (location : Location)
  | object (properties : List Property) (location : Location)
  /-- Anything else, described. -/
  | other (kind : String) (location : Location)

def Argument.location : Argument → Location
  | .string _ location | .object _ location | .other _ location => location

/-- An annotation of a member, as it is written. -/
structure Annotation where
  name : String
  location : Location
  arguments : List Argument

/-- A member of a class. -/
structure Member where
  name : Option String
  location : Location
  annotations : List Annotation

end Listeners.View

namespace Listeners

/-- A class. -/
structure View where
  name : Option String
  location : Location
  members : List View.Member

end Listeners
