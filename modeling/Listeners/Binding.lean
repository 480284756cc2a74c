/-
Bindings: what is registered when the program runs.

Bindings are listed by the name of the event and then by the name of the method, without
regard to case.  Names are compared character by character in their lowercase form, and
bindings that do not differ in this stay in the order in which they were found.
-/
import Listeners.Flags
import Listeners.Text.Order
namespace Listeners

structure Binding where
  /-- The listener name as it is written, with target and key. -/
  eventName : String
  methodName : String
  capture : Bool
  passive : Bool
  disabled : Bool
  deriving DecidableEq, Repr

namespace Binding

/-- What a binding is listed by. -/
def key (binding : Binding) : List Char × List Char :=
  (Text.lowerChars binding.eventName.toList, Text.lowerChars binding.methodName.toList)

/-- The order of characters by their code points. -/
def charPrecedes (a b : Char) : Bool := decide (a < b)

/-- Whether a binding may be listed before another. -/
def precedes (a b : Binding) : Bool :=
  if a.key.1 = b.key.1 then Text.upTo charPrecedes a.key.2 b.key.2
  else Text.upTo charPrecedes a.key.1 b.key.1

/-- The bindings in the order in which they are listed. -/
def sort (bindings : List Binding) : List Binding := bindings.mergeSort precedes

end Binding

end Listeners
