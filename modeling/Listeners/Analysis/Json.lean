/-
The result of an analysis as JSON.
-/
import Listeners.Analysis
import Listeners.Binding.Json
import Listeners.Diagnostic.Json
import Listeners.View.Json
namespace Listeners

def Consumed.encode (c : Consumed) : Json :=
  .object [("memberName", .string c.memberName), ("location", c.location.encode)]

def ClassListeners.encode (c : ClassListeners) : Json :=
  .object [
    ("className", .ofOption .string c.className),
    ("location", c.location.encode),
    ("bindings", .array (c.bindings.map Binding.encode)),
    ("consumed", .array (c.consumed.map Consumed.encode))]

def Analysis.encode (a : Analysis) : Json :=
  .object [
    ("filePath", .string a.file),
    ("classes", .array (a.classes.map ClassListeners.encode)),
    ("diagnostics", .array (a.diagnostics.map Diagnostic.encode))]

end Listeners
