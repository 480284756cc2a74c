/-
What is said of a listener name on its own.

A name can be asked about before it stands in any class.  The answer is the name taken apart,
or the code of the rule that it breaks and the message that would be recorded for it.  The
name is looked at as it is given: nothing is taken out of it, and commas do not cut it.
-/
import Listeners.Specifier
namespace Listeners

inductive Verdict where
  | accepted (specifier : Specifier)
  | rejected (code message : String)
  deriving DecidableEq, Repr

/-- The verdict on a name. -/
def Verdict.ofName (name : String) : Verdict :=
  match Specifier.parse name with
  | .ok specifier => .accepted specifier
  | .error rejection => .rejected rejection.rule.code rejection.message

end Listeners
