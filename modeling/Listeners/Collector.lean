/-
Collecting the diagnostics of a file.

A collector belongs to a file.  Diagnostics are recorded in the order in which they come,
and nothing that is recorded is ever changed or dropped.
-/
import Listeners.Diagnostic
namespace Listeners

structure Collector where
  file : String
  items : List Diagnostic
  deriving DecidableEq, Repr

namespace Collector

/-- A collector that has recorded nothing. -/
def empty (file : String) : Collector := ⟨file, []⟩

def push (collector : Collector) (diagnostic : Diagnostic) : Collector :=
  { collector with items := collector.items ++ [diagnostic] }

/-- Records a problem that can be left out of account. -/
def recoverable (collector : Collector) (code message : String) (location : Location) :
    Collector :=
  collector.push (.plain code .recoverable message collector.file location)

/-- Records a problem that a listener is lost to. -/
def fatal (collector : Collector) (code message : String) (location : Location)
    (context : Option String) : Collector :=
  collector.push (.detailed code .fatal message collector.file location context [])

def hasFatal (collector : Collector) : Bool := collector.items.any (·.isFatal)

@[simp] theorem items_empty (file : String) : (empty file).items = [] := rfl

@[simp] theorem file_empty (file : String) : (empty file).file = file := rfl

@[simp] theorem items_push (collector : Collector) (diagnostic : Diagnostic) :
    (collector.push diagnostic).items = collector.items ++ [diagnostic] := rfl

@[simp] theorem file_push (collector : Collector) (diagnostic : Diagnostic) :
    (collector.push diagnostic).file = collector.file := rfl

end Collector

end Listeners
