/-
Analysing a source.

The classes of a source are analysed together.  A source that cannot be parsed has no
classes, and its only diagnostic says where it stops making sense.  Sources have nothing to
do with each other.
-/
import Listeners.Analysis
import Listeners.Script.Parser
import Listeners.Script.View
namespace Listeners

/-- A file and what stands in it. -/
structure Source where
  path : String
  text : String
  deriving DecidableEq, Repr

namespace Source

variable (parse : Script.Parser)

/-- The classes of a source, or what is wrong first.  A fault that points nowhere is located
at the beginning. -/
def views (source : Source) : Except Diagnostic (List View) :=
  let text := source.text.toList
  let parsed := parse source.path text
  match parsed.faults with
  | [] => .ok (parsed.program.views text)
  | fault :: _ =>
    .error (.unparsable source.path fault.message (.ofOffset text (fault.offsets.headD 0)))

def analyze (settings : Settings) (source : Source) : Analysis :=
  match source.views parse with
  | .ok views => .ofViews settings source.path views
  | .error diagnostic => .failed source.path diagnostic

/-- The analyses of several sources, in their order. -/
def analyzeAll (settings : Settings) (sources : List Source) : List Analysis :=
  sources.map (analyze parse settings)

end Source

end Listeners
