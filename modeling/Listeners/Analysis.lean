/-
The analysis: from classes to bindings.

Every annotation of the right name, and of it every listener name between commas, is
looked at on its own.  A name that is rejected costs that name only: the names beside it
are still bound.  An annotation at least one of whose names is bound is consumed, and may
be dropped from the code that is emitted.

A file is analysed class by class with one collector.  If fatal diagnostics reach as far
as the file, one of them takes the bindings of all its classes away.
-/
import Listeners.Binding
import Listeners.Request
import Listeners.Settings
import Listeners.Specifier
namespace Listeners

/-- An annotation that is dropped from the code that is emitted. -/
structure Consumed where
  memberName : String
  location : Location
  deriving DecidableEq, Repr

/-- What the pass over a class has found so far. -/
structure Findings where
  bindings : List Binding
  consumed : List Consumed
  collector : Collector

/-- What the listeners of a class are. -/
structure ClassListeners where
  className : Option String
  location : Location
  bindings : List Binding
  consumed : List Consumed
  deriving DecidableEq, Repr

/-- What the listeners of a file are. -/
structure Analysis where
  file : String
  classes : List ClassListeners
  diagnostics : List Diagnostic
  deriving DecidableEq, Repr

/-- What a listener name asks to be registered for a method. -/
def Specifier.bind (specifier : Specifier) (method : String) (options : WrittenOptions) :
    Binding :=
  let flags := options.resolve specifier.coreName
  ⟨specifier.eventName, method, flags.capture, flags.passive, flags.disabled⟩

/-- The listener names of a request.  Nothing stands between two commas in a row. -/
def Request.segments (request : Request) : List String :=
  (Text.split ',' request.names).filter fun segment => !Text.isBlankText segment

namespace Findings

/-- Binds a listener name, or records why it is rejected. -/
def addSegment (request : Request) (location : Location) (findings : Findings)
    (segment : String) : Findings :=
  match Specifier.parse segment with
  | .ok specifier =>
    { findings with
      bindings := findings.bindings ++ [specifier.bind request.method request.options] }
  | .error rejection =>
    { findings with
      collector := findings.collector.fatal rejection.rule.code rejection.message location
        (some (request.method ++ "()")) }

/-- Binds the listener names of a request. -/
def addRequest (request : Request) (location : Location) (findings : Findings) : Findings :=
  let found := request.segments.foldl (addSegment request location) findings
  if findings.bindings.length < found.bindings.length then
    { found with consumed := found.consumed ++ [⟨request.method, location⟩] }
  else found

/-- Does what an annotation of a member asks for. -/
def addAnnotation (findings : Findings) :
    View.Member × View.Annotation → Findings
  | (member, note) =>
    let (request, collector) := note.request member findings.collector
    let findings := { findings with collector }
    match request with
    | some request => findings.addRequest request note.location
    | none => findings

end Findings

namespace View

/-- The annotations of a name, each with its member, in the order in which they are
written. -/
def annotationsNamed (name : String) (view : View) : List (Member × Annotation) :=
  view.members.flatMap fun member =>
    (member.annotations.filter (·.name == name)).map (member, ·)

/-- The listeners of a class; what is wrong with them is recorded. -/
def analyze (settings : Settings) (view : View) (collector : Collector) :
    ClassListeners × Collector :=
  let found :=
    (view.annotationsNamed settings.annotationName).foldl Findings.addAnnotation
      ⟨[], [], collector⟩
  (⟨view.name, view.location, Binding.sort found.bindings, found.consumed⟩, found.collector)

/-- The listeners of several classes, one after the other. -/
def analyzeAll (settings : Settings) :
    List View → Collector → List ClassListeners × Collector
  | [], collector => ([], collector)
  | view :: views, collector =>
    let (listeners, collector) := view.analyze settings collector
    let (rest, collector) := analyzeAll settings views collector
    (listeners :: rest, collector)

end View

/-- A class that has lost its listeners. -/
def ClassListeners.cleared (listeners : ClassListeners) : ClassListeners :=
  { listeners with bindings := [], consumed := [] }

namespace Analysis

/-- The analysis of the classes of a file. -/
def ofViews (settings : Settings) (file : String) (views : List View) : Analysis :=
  let (classes, collector) := View.analyzeAll settings views (.empty file)
  let isLost := settings.fatalScope == .file && collector.hasFatal
  ⟨file, if isLost then classes.map (·.cleared) else classes, collector.items⟩

/-- The analysis of a file that could not be looked into. -/
def failed (file : String) (diagnostic : Diagnostic) : Analysis := ⟨file, [], [diagnostic]⟩

def hasFatal (analysis : Analysis) : Bool := analysis.diagnostics.any (·.isFatal)

/-- All bindings of a file, class by class. -/
def bindings (analysis : Analysis) : List Binding := analysis.classes.flatMap (·.bindings)

end Analysis

end Listeners
