/-
What an annotation asks for.

The names of the listeners stand in the first argument that is a string, and their options
in the first object after it.  All other arguments are passed over.  An annotation without
a string, or of a member without a name, asks for nothing, and that is no mistake: the
author may not have finished it.  If the options are not readable that is recorded, and
the request is made without options.
-/
import Listeners.Collector
import Listeners.Text.Blank
import Listeners.View.Evaluation
namespace Listeners

/-- A request to register listeners for a method. -/
structure Request where
  /-- The names of the listeners, separated by commas, without blanks and quotes. -/
  names : String
  method : String
  options : WrittenOptions
  deriving DecidableEq, Repr

namespace View

def isQuote (c : Char) : Bool := c = '\'' || c = '"' || c = '\x60'

/-- A text without its blanks and quotes. -/
def bare (text : String) : String :=
  String.ofList (text.toList.filter fun c => !Text.isBlank c && !isQuote c)

/-- The first object among some arguments. -/
def firstObject? : List Argument → Option (List Property)
  | [] => none
  | .object properties _ :: _ => some properties
  | _ :: arguments => firstObject? arguments

/-- The first string among some arguments and the first object after it. -/
def selection? : List Argument → Option (String × Option (List Property))
  | [] => none
  | .string value _ :: arguments => some (value, firstObject? arguments)
  | _ :: arguments => selection? arguments

/-- The name of a member without blanks around it, if anything is left. -/
def Member.method? (member : Member) : Option String :=
  (member.name.map Text.trim).filter (· != "")

/-- The options that an annotation of a method writes; that they are not readable is
recorded. -/
def options (method : String) (location : Location) (properties : Option (List Property))
    (collector : Collector) : WrittenOptions × Collector :=
  match properties with
  | none => (.none, collector)
  | some properties =>
    match evaluate properties with
    | .ok fields => (.ofFields fields, collector)
    | .error e =>
      let message :=
        "unable to parse listener options for \"" ++ method ++ "\": " ++ e.message
      (.none, collector.recoverable Rule.options.code message location)

/-- What an annotation of a member asks for. -/
def Annotation.request (member : Member) (note : Annotation) (collector : Collector) :
    Option Request × Collector :=
  match member.method?, selection? note.arguments with
  | some method, some (text, properties) =>
    let (options, collector) := options method note.location properties collector
    (some ⟨bare text, method, options⟩, collector)
  | _, _ => (none, collector)

end View

end Listeners
