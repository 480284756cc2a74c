/-
Diagnostics: what is wrong, where, and which rule it breaks.

A problem is recoverable if the options that are not readable can be left out of account,
and fatal if a listener is lost.  The first hint of a diagnostic is the text of the rule,
whatever other hints there are.
-/
import Listeners.Rule
import Listeners.Text.Location
namespace Listeners

inductive Severity where
  | recoverable
  | fatal
  deriving DecidableEq, Repr

structure Diagnostic where
  code : String
  severity : Severity
  message : String
  file : String
  location : Location
  /-- The method whose listener is lost. -/
  context : Option String
  hints : List String
  deriving DecidableEq, Repr

namespace Diagnostic

/-- A diagnostic with a context and with hints besides the rule. -/
def detailed (code : String) (severity : Severity) (message file : String)
    (location : Location) (context : Option String) (hints : List String) : Diagnostic :=
  ⟨code, severity, message, file, location, context, Rule.hint code :: hints⟩

/-- A diagnostic that hints at the rule only. -/
def plain (code : String) (severity : Severity) (message file : String)
    (location : Location) : Diagnostic :=
  detailed code severity message file location none []

def isFatal (diagnostic : Diagnostic) : Bool := diagnostic.severity == .fatal

/-- A file that cannot be parsed. -/
def unparsable (file reason : String) (location : Location) : Diagnostic :=
  plain Rule.parsable.code .fatal ("failed to parse " ++ file ++ ": " ++ reason) file location

/-- A file that cannot be read. -/
def unreadable (file reason : String) : Diagnostic :=
  plain Rule.readable.code .fatal ("failed to read " ++ file ++ ": " ++ reason) file .start

end Diagnostic

end Listeners
