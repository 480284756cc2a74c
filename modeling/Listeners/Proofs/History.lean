/-
What a collector has recorded, whatever was done with it.

A collector may be handed from one pass to the next, and others may write to it between two
passes.  So nothing can be said of it at a given time but what every history of it has in
common.  An operation only writes behind what is there, and of the collector it looks at no
more than the file (`after_eq`), so a history is written one operation after the other
(`run_eq`), and a fatal diagnostic is never lost again.

Others may record what they like.  The diagnostics that an annotation gives, in a pass over
its class or by itself, are of two kinds only, and which of the two a diagnostic is of can be
told by its severity, by its code and by its context alike (`Diagnostic.IsReport`).
-/
import Listeners.Proofs.Bindings
import Listeners.Proofs.FatalScope

namespace Listeners

/-! ### Reports on annotations -/

/-- A diagnostic as an annotation of a member gives it: the rule is its only hint, and it is
recoverable and about the options, or fatal and about a name that is lost to the method. -/
structure Diagnostic.IsReport (file : String) (member : View.Member) (note : View.Annotation)
    (d : Diagnostic) : Prop where
  file : d.file = file
  location : d.location = note.location
  hints : d.hints = [Rule.hint d.code]
  kind :
    (d.severity = .recoverable ∧ d.code = "L-ERR-OPTIONS" ∧ d.context = none) ∨
      (d.severity = .fatal ∧
        d.code ∈ ["L-ERR-COLON", "L-ERR-PERIOD", "L-ERR-PREFIX", "L-ERR-SUFFIX"] ∧
        ∃ name, member.name = some name ∧ d.context = some (Text.trim name ++ "()"))

namespace View

variable {member : Member} {note : Annotation} {d : Declaration}

theorem isReport_of_optionsFault? (h : note.declaration? member = some d) {file : String}
    {diagnostic : Diagnostic} (hfault : d.optionsFault? file = some diagnostic) :
    diagnostic.IsReport file member note := by
  unfold Declaration.optionsFault? at hfault
  split at hfault
  · cases hfault
    exact ⟨rfl, location_of_declaration? h, rfl, Or.inl ⟨rfl, rfl, rfl⟩⟩
  · cases hfault

theorem isReport_of_nameFault? (h : note.declaration? member = some d) {file listed : String}
    {diagnostic : Diagnostic} (hfault : d.nameFault? file listed = some diagnostic) :
    diagnostic.IsReport file member note := by
  obtain ⟨name, text, hname, -, -, rfl⟩ := declaration?_eq_some_iff.mp h
  obtain ⟨rejection, -, rfl⟩ := Declaration.nameFault?_eq_some_iff.mp hfault
  have hcode : rejection.rule.code ∈
      ["L-ERR-COLON", "L-ERR-PERIOD", "L-ERR-PREFIX", "L-ERR-SUFFIX"] := by
    cases rejection <;> simp [Rejection.rule, Rule.code]
  exact ⟨rfl, rfl, by rw [Rule.hint_code], Or.inr ⟨rfl, hcode, name, hname, rfl⟩⟩

/-- Whatever is wrong with a declaration is reported on its annotation. -/
theorem isReport_of_mem_faults (h : note.declaration? member = some d) {file : String}
    {diagnostic : Diagnostic} (hmem : diagnostic ∈ d.faults file) :
    diagnostic.IsReport file member note := by
  rcases List.mem_append.mp hmem with hoptions | hnames
  · exact isReport_of_optionsFault? h (Option.mem_toList.mp hoptions)
  · obtain ⟨listed, -, hfault⟩ := List.mem_filterMap.mp hnames
    exact isReport_of_nameFault? h hfault

/-- Whatever is wrong with a class is reported on one of its annotations. -/
theorem exists_isReport_of_mem_declaredFaults {name file : String} {view : View}
    {diagnostic : Diagnostic} (hmem : diagnostic ∈ view.declaredFaults name file) :
    ∃ member ∈ view.members, ∃ note ∈ member.annotations, note.name = name ∧
      diagnostic.IsReport file member note := by
  obtain ⟨d, hd, hfault⟩ := List.mem_flatMap.mp hmem
  obtain ⟨member, hmember, note, hnote, hnamed, hdeclared⟩ := mem_declarations_iff.mp hd
  exact ⟨member, hmember, note, hnote, hnamed, isReport_of_mem_faults hdeclared hfault⟩

/-- What is recorded when an annotation is read by itself. -/
def Annotation.reports (file : String) (member : Member) (note : Annotation) : List Diagnostic :=
  ((note.declaration? member).bind (·.optionsFault? file)).toList

/-- An annotation that is read by itself asks for something exactly if it declares something,
and its names are not looked at. -/
theorem request_eq (member : Member) (note : Annotation) (collector : Collector) :
    ((note.request member collector).1 = none ↔ note.declaration? member = none) ∧
      (note.request member collector).2 =
        collector.record (note.reports collector.file member) := by
  unfold Annotation.reports
  cases h : note.declaration? member with
  | none =>
      rw [request_of_declaration?_eq_none h]
      simp
  | some d =>
      obtain ⟨request, hrequest, -⟩ := request_of_declaration?_eq_some h collector
      rw [hrequest]
      simp

/-- Read by itself, an annotation is reported at most once, for its options. -/
theorem isReport_of_mem_reports {file : String} {diagnostic : Diagnostic}
    (hmem : diagnostic ∈ note.reports file member) :
    diagnostic.IsReport file member note ∧ diagnostic.isFatal = false := by
  obtain ⟨d, hdeclared, hfault⟩ := Option.bind_eq_some_iff.mp (Option.mem_toList.mp hmem)
  exact ⟨isReport_of_optionsFault? hdeclared hfault,
    Declaration.isFatal_of_optionsFault? hfault⟩

end View

/-! ### Operations on a collector -/

/-- What can be done with a collector. -/
inductive Operation where
  | recoverable (code message : String) (location : Location)
  | fatal (code message : String) (location : Location) (context : Option String)
  | push (diagnostic : Diagnostic)
  /-- The pass over a class. -/
  | analyze (settings : Settings) (view : View)
  /-- Reading one annotation of a member. -/
  | request (member : View.Member) (note : View.Annotation)

/-- What an operation records, said without a collector. -/
def Operation.recorded (file : String) : Operation → List Diagnostic
  | recoverable code message location => [.plain code .recoverable message file location]
  | fatal code message location context =>
    [.detailed code .fatal message file location context []]
  | push diagnostic => [diagnostic]
  | analyze settings view => view.declaredFaults settings.annotationName file
  | request member note => note.reports file member

namespace Collector

/-- The collector after an operation. -/
def after (collector : Collector) : Operation → Collector
  | .recoverable code message location => collector.recoverable code message location
  | .fatal code message location context => collector.fatal code message location context
  | .push diagnostic => collector.push diagnostic
  | .analyze settings view => (view.analyze settings collector).2
  | .request member note => (note.request member collector).2

/-- The collector after some operations, one after the other. -/
def run (collector : Collector) (operations : List Operation) : Collector :=
  operations.foldl after collector

/-- **One operation** writes behind what is there. -/
theorem after_eq (collector : Collector) (operation : Operation) :
    collector.after operation = collector.record (operation.recorded collector.file) := by
  cases operation with
  | recoverable code message location => rfl
  | fatal code message location context => rfl
  | push diagnostic => rfl
  | analyze settings view =>
      rw [after, View.analyze_eq]
      rfl
  | request member note => exact (View.request_eq member note collector).2

/-- Operations one after the other write behind each other. -/
theorem run_eq (collector : Collector) (operations : List Operation) :
    collector.run operations =
      collector.record (operations.flatMap (·.recorded collector.file)) := by
  unfold run
  induction operations generalizing collector with
  | nil => rw [List.foldl_nil, List.flatMap_nil, record_nil]
  | cons operation operations ih =>
      rw [List.foldl_cons, ih, after_eq, file_record, record_record, List.flatMap_cons]

theorem file_run (collector : Collector) (operations : List Operation) :
    (collector.run operations).file = collector.file := by
  rw [run_eq, file_record]

/-- What has been recorded stands in front of what is recorded later. -/
theorem items_run_append (collector : Collector) (operations more : List Operation) :
    (collector.run (operations ++ more)).items =
      (collector.run operations).items ++ more.flatMap (·.recorded collector.file) := by
  rw [run_eq, run_eq, items_record, items_record, List.flatMap_append, List.append_assoc]

theorem hasFatal_iff {collector : Collector} :
    collector.hasFatal = true ↔ ∃ d ∈ collector.items, d.severity = .fatal := by
  unfold hasFatal
  simp only [List.any_eq_true, Diagnostic.isFatal, beq_iff_eq]

/-- A fatal diagnostic is not lost again. -/
theorem hasFatal_run_append {collector : Collector} {operations : List Operation}
    (h : (collector.run operations).hasFatal = true) (more : List Operation) :
    (collector.run (operations ++ more)).hasFatal = true := by
  obtain ⟨d, hd, hfatal⟩ := hasFatal_iff.mp h
  refine hasFatal_iff.mpr ⟨d, ?_, hfatal⟩
  rw [items_run_append]
  exact List.mem_append_left _ hd

/-- **What every history of a collector has in common.**  The collector still belongs to its
file, and it has something fatal exactly if a fatal diagnostic is recorded.  Whatever is done
later, what is recorded stays where it is, and something fatal stays fatal.  A pass over a class
and the reading of an annotation add reports on annotations of this file, and nothing else; and
an annotation that is read by itself is reported at most once, never with something fatal, and
not at all if it asks for nothing. -/
theorem run_appends (file : String) (operations : List Operation) :
    let collector := (Collector.empty file).run operations
    collector.file = file ∧
      (collector.hasFatal = true ↔ ∃ d ∈ collector.items, d.severity = .fatal) ∧
      (∀ more, collector.items <+: ((Collector.empty file).run (operations ++ more)).items ∧
        (collector.hasFatal = true →
          ((Collector.empty file).run (operations ++ more)).hasFatal = true)) ∧
      (∀ (settings : Settings) (view : View), ∃ recorded,
        (view.analyze settings collector).2 = ⟨file, collector.items ++ recorded⟩ ∧
          ∀ d ∈ recorded, ∃ member ∈ view.members, ∃ note ∈ member.annotations,
            note.name = settings.annotationName ∧ d.IsReport file member note) ∧
      ∀ (member : View.Member) (note : View.Annotation), ∃ recorded,
        (note.request member collector).2 = ⟨file, collector.items ++ recorded⟩ ∧
          recorded.length ≤ 1 ∧
          (∀ d ∈ recorded, d.IsReport file member note ∧ d.severity ≠ .fatal) ∧
          ((note.request member collector).1 = none → recorded = []) := by
  intro collector
  have hfile : collector.file = file := file_run (.empty file) operations
  refine ⟨hfile, hasFatal_iff, fun more => ⟨?_, fun h => hasFatal_run_append h more⟩,
    fun settings view => ?_, fun member note => ?_⟩
  · rw [items_run_append]
    exact List.prefix_append _ _
  · refine ⟨view.declaredFaults settings.annotationName file, ?_,
      fun d hd => View.exists_isReport_of_mem_declaredFaults hd⟩
    rw [View.analyze_eq, hfile]
    unfold record
    rw [hfile]
  · obtain ⟨hnone, hrecorded⟩ := View.request_eq member note collector
    refine ⟨note.reports file member, ?_, ?_, fun d hd => ?_, fun h => ?_⟩
    · rw [hrecorded, hfile]
      unfold record
      rw [hfile]
    · exact Option.length_toList_le
    · obtain ⟨hreport, hrecoverable⟩ := View.isReport_of_mem_reports hd
      refine ⟨hreport, fun hfatal => ?_⟩
      rw [Diagnostic.isFatal, hfatal] at hrecoverable
      cases hrecoverable
    · unfold View.Annotation.reports
      rw [hnone.mp h]
      rfl

/-- A rejected name is still known after an annotation was read that asks for nothing. -/
theorem run_appends_rejected_name :
    let rejected := (Collector.empty "a.ts").run [.analyze .usual (.listeningTo "a:b:c")]
    let member : View.Member := ⟨some "onClick", ⟨2, 3⟩, []⟩
    let note : View.Annotation := ⟨"Listen", ⟨4, 3⟩, []⟩
    rejected.hasFatal = true ∧ (note.request member rejected).1 = none ∧
      (note.request member rejected).2 = rejected ∧
      ((Collector.empty "a.ts").run
        ([.analyze .usual (.listeningTo "a:b:c")] ++ [.request member note])).hasFatal = true := by
  intro rejected member note
  have hfatal : rejected.hasFatal = true := by decide
  have hnone : (note.request member rejected).1 = none := rfl
  obtain ⟨hfile, -, hlater, -, hread⟩ := run_appends "a.ts" [.analyze .usual (.listeningTo "a:b:c")]
  obtain ⟨recorded, hrecorded, -, -, hsilent⟩ := hread member note
  refine ⟨hfatal, hnone, ?_, (hlater [.request member note]).2 hfatal⟩
  rw [hsilent hnone, List.append_nil] at hrecorded
  exact hrecorded.trans (congrArg (Collector.mk · rejected.items) hfile.symm)

end Collector

end Listeners
