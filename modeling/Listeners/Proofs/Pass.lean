/-
What the pass over a class does, step by step.

The pass is a fold over the annotations of a class, and each of its steps is a fold over
names.  The invariant is as strong as can be: what a step adds to the findings is said by
the declaration alone, so the findings after any number of steps are the findings before
with what the declarations give written behind them.  All that a step looks at in the
collector is the file that it belongs to, which no step changes.

`analyze_eq` is what the rest of the theory rests on: nothing after it opens the fold again.
-/
import Listeners.Proofs.Declared
import Listeners.Proofs.Specifier

namespace Listeners

/-! ### Collectors only grow -/

/-- A collector that has recorded more. -/
def Collector.record (collector : Collector) (diagnostics : List Diagnostic) : Collector :=
  { collector with items := collector.items ++ diagnostics }

namespace Collector

@[simp] theorem file_record (collector : Collector) (diagnostics : List Diagnostic) :
    (collector.record diagnostics).file = collector.file := rfl

@[simp] theorem items_record (collector : Collector) (diagnostics : List Diagnostic) :
    (collector.record diagnostics).items = collector.items ++ diagnostics := rfl

@[simp] theorem record_nil (collector : Collector) : collector.record [] = collector := by
  unfold record
  rw [List.append_nil]

@[simp] theorem record_record (collector : Collector) (first second : List Diagnostic) :
    (collector.record first).record second = collector.record (first ++ second) := by
  unfold record
  rw [List.append_assoc]

theorem push_eq_record (collector : Collector) (diagnostic : Diagnostic) :
    collector.push diagnostic = collector.record [diagnostic] := rfl

end Collector

/-! ### Reading one annotation -/

namespace View

theorem firstObject?_eq (arguments : List Argument) :
    firstObject? arguments = arguments.findSome? (·.properties?) := by
  induction arguments with
  | nil => rfl
  | cons argument arguments ih =>
      cases argument with
      | string value location => exact ih
      | object properties location => rfl
      | other kind location => exact ih

/-- What is selected is the first string and the first object from there on. -/
theorem selection?_eq (arguments : List Argument) :
    selection? arguments = (arguments.findSome? (·.text?)).map fun text =>
      (text, (arguments.dropWhile (·.text?.isNone)).findSome? (·.properties?)) := by
  induction arguments with
  | nil => rfl
  | cons argument arguments ih =>
      cases argument with
      | string value location =>
          show some (value, firstObject? arguments) = _
          rw [firstObject?_eq]
          rfl
      | object properties location => exact ih
      | other kind location => exact ih

/-- Nothing but blanks is taken out of the segments of a request, and no blanks are left in
its names, so the segments are the names that are listed. -/
theorem segments_eq (text method : String) (options : WrittenOptions) :
    Request.segments ⟨bare text, method, options⟩ = listedNames text := by
  unfold Request.segments listedNames
  refine List.filter_congr fun name hname => ?_
  have hbare : IsBare name := (isBare_bare text).of_mem_split hname
  by_cases hempty : name = ""
  · rw [hbare.isBlankText_iff.mpr hempty]
    simp [hempty]
  · have hblank : Text.isBlankText name = false := by
      rw [Bool.eq_false_iff]
      exact fun hb => hempty (hbare.isBlankText_iff.mp hb)
    rw [hblank]
    simp [hempty]

/-- Reading the options records what is wrong with them and nothing else. -/
theorem options_eq (d : Declaration) (collector : Collector) :
    options d.method d.location d.options collector =
      (d.written, collector.record (d.optionsFault? collector.file).toList) := by
  unfold options Declaration.written Declaration.optionsFault?
  cases d.options with
  | none => simp
  | some properties =>
      cases h : evaluate properties with
      | ok fields => simp [h]
      | error e =>
          simp only [h, Option.map_some, Option.toList_some]
          rfl

theorem method?_eq_some_iff {member : Member} {method : String} :
    member.method? = some method ↔
      ∃ name, member.name = some name ∧ Text.trim name ≠ "" ∧ method = Text.trim name := by
  unfold Member.method?
  rw [Option.filter_eq_some_iff, Option.map_eq_some_iff]
  constructor
  · rintro ⟨⟨name, hname, rfl⟩, hblank⟩
    exact ⟨name, hname, by simpa using hblank, rfl⟩
  · rintro ⟨name, hname, hblank, rfl⟩
    exact ⟨⟨name, hname, rfl⟩, by simpa using hblank⟩

/-- An annotation that declares nothing asks for nothing, and nothing is recorded. -/
theorem request_of_declaration?_eq_none {member : Member} {note : Annotation}
    (h : note.declaration? member = none) (collector : Collector) :
    note.request member collector = (none, collector) := by
  unfold Annotation.request
  split
  · rename_i method text properties hmethod hselection
    obtain ⟨name, hname, hblank, -⟩ := method?_eq_some_iff.mp hmethod
    rw [selection?_eq, Option.map_eq_some_iff] at hselection
    obtain ⟨text, htext, -⟩ := hselection
    have hsome := declaration?_eq_some_iff.mpr ⟨name, text, hname, hblank, htext, rfl⟩
    rw [h] at hsome
    cases hsome
  · rfl

/-- What an annotation of a method with a string asks for, and what is recorded about it. -/
theorem request_of_text?_eq_some {member : Member} {note : Annotation} {name text : String}
    (hname : member.name = some name) (hblank : Text.trim name ≠ "")
    (htext : note.text? = some text) (collector : Collector) :
    let d : Declaration := ⟨Text.trim name, note.location, listedNames text, note.object?⟩
    note.request member collector =
      (some ⟨bare text, d.method, d.written⟩,
        collector.record (d.optionsFault? collector.file).toList) := by
  intro d
  have hmethod : member.method? = some d.method :=
    method?_eq_some_iff.mpr ⟨name, hname, hblank, rfl⟩
  have hselection : selection? note.arguments = some (text, d.options) := by
    rw [selection?_eq, show note.arguments.findSome? (·.text?) = some text from htext]
    rfl
  have hoptions : options d.method note.location d.options collector =
      (d.written, collector.record (d.optionsFault? collector.file).toList) :=
    options_eq d collector
  unfold Annotation.request
  simp only [hmethod, hselection, hoptions]

/-- An annotation that declares listeners asks for them, and what is wrong with its options
is recorded. -/
theorem request_of_declaration?_eq_some {member : Member} {note : Annotation}
    {d : Declaration} (h : note.declaration? member = some d) (collector : Collector) :
    ∃ request,
      note.request member collector =
        (some request, collector.record (d.optionsFault? collector.file).toList) ∧
      request.method = d.method ∧ request.options = d.written ∧
      request.segments = d.names := by
  obtain ⟨name, text, hname, hblank, htext, rfl⟩ := declaration?_eq_some_iff.mp h
  exact ⟨_, request_of_text?_eq_some hname hblank htext collector, rfl, rfl, segments_eq ..⟩

end View

/-! ### One step, and all of them -/

/-- The findings to which a declaration has been added. -/
def Findings.add (findings : Findings) (d : Declaration) : Findings where
  bindings := findings.bindings ++ d.bindings
  consumed := findings.consumed ++ d.consumed
  collector := findings.collector.record (d.faults findings.collector.file)

namespace Findings

variable {d : Declaration} {request : Request}

/-- Looking at one name adds its binding, or records why it has none. -/
theorem addSegment_eq (hmethod : request.method = d.method)
    (hoptions : request.options = d.written) {name : String} (hname : View.IsListable name)
    (findings : Findings) :
    findings.addSegment request d.location name =
      { findings with
        bindings := findings.bindings ++ (d.binding? name).toList
        collector :=
          findings.collector.record (d.nameFault? findings.collector.file name).toList } := by
  unfold addSegment Declaration.binding? Declaration.nameFault?
  cases hparse : Specifier.parse name with
  | ok specifier =>
      -- A listable name has no blanks around it, so it is registered as it stands.
      have hevent : specifier.eventName = name := by
        rw [Specifier.eventName_of_parse hparse, hname.bare.trim_eq]
      simp only [Specifier.bind, hevent, hmethod, hoptions, Option.toList_some,
        Option.toList_none, Collector.record_nil]
  | error rejection =>
      simp only [Collector.fatal, Collector.push_eq_record, Diagnostic.detailed, hmethod,
        Rule.hint_code, Option.toList_some, Option.toList_none, List.append_nil]

/-- The names of a declaration one after the other. -/
theorem foldl_addSegment (hmethod : request.method = d.method)
    (hoptions : request.options = d.written) {names : List String}
    (hnames : ∀ name ∈ names, View.IsListable name) (findings : Findings) :
    names.foldl (addSegment request d.location) findings =
      { findings with
        bindings := findings.bindings ++ names.filterMap d.binding?
        collector :=
          findings.collector.record (names.filterMap (d.nameFault? findings.collector.file)) } := by
  induction names generalizing findings with
  | nil => simp
  | cons name names ih =>
      have hname : View.IsListable name := hnames name (by simp)
      have hrest : ∀ n ∈ names, View.IsListable n := fun n hn => hnames n (by simp [hn])
      rw [List.foldl_cons, addSegment_eq hmethod hoptions hname, ih hrest]
      simp only [Collector.file_record, Collector.record_record, List.append_assoc,
        List.filterMap_cons]
      cases d.binding? name <;> cases d.nameFault? findings.collector.file name <;> rfl

/-- A request adds what its declaration says.  Whether the annotation is consumed is read off
the number of bindings, which has grown exactly if the declaration has any. -/
theorem addRequest_eq (hmethod : request.method = d.method)
    (hoptions : request.options = d.written) (hsegments : request.segments = d.names)
    (hnames : ∀ name ∈ d.names, View.IsListable name) (findings : Findings) :
    findings.addRequest request d.location =
      { bindings := findings.bindings ++ d.bindings
        consumed := findings.consumed ++ d.consumed
        collector :=
          findings.collector.record
            (d.names.filterMap (d.nameFault? findings.collector.file)) } := by
  unfold addRequest Declaration.consumed
  rw [hsegments, foldl_addSegment hmethod hoptions hnames]
  simp only [List.length_append, hmethod]
  by_cases hnone : d.bindings = []
  · rw [if_pos hnone, if_neg (by rw [← Declaration.bindings, hnone]; simp), List.append_nil]
    rfl
  · have hpos : 0 < d.bindings.length := List.length_pos_iff.mpr hnone
    rw [if_neg hnone, if_pos (by rw [← Declaration.bindings]; omega)]
    rfl

/-- **One step of the pass.**  An annotation that cannot be used changes nothing, and one
that can adds its declaration. -/
theorem addAnnotation_eq (findings : Findings) (member : View.Member)
    (note : View.Annotation) :
    findings.addAnnotation (member, note) =
      (note.declaration? member).elim findings findings.add := by
  unfold addAnnotation
  cases h : note.declaration? member with
  | none =>
      simp only [View.request_of_declaration?_eq_none h, Option.elim_none]
  | some d =>
      obtain ⟨request, hrequest, hmethod, hoptions, hsegments⟩ :=
        View.request_of_declaration?_eq_some h findings.collector
      simp only [hrequest, Option.elim_some]
      rw [show note.location = d.location from (View.location_of_declaration? h).symm,
        addRequest_eq hmethod hoptions hsegments (View.isListable_of_declaration? h)]
      simp only [add, Declaration.faults, Collector.file_record, Collector.record_record]

/-- Declarations one after the other are written behind each other. -/
theorem foldl_add (ds : List Declaration) (findings : Findings) :
    ds.foldl add findings =
      { bindings := findings.bindings ++ ds.flatMap Declaration.bindings
        consumed := findings.consumed ++ ds.flatMap Declaration.consumed
        collector :=
          findings.collector.record (ds.flatMap (Declaration.faults findings.collector.file)) } := by
  induction ds generalizing findings with
  | nil => simp
  | cons d ds ih =>
      rw [List.foldl_cons, ih]
      simp only [add, Collector.file_record, Collector.record_record, List.flatMap_cons,
        List.append_assoc]

theorem foldl_addAnnotation (member : View.Member) (notes : List View.Annotation)
    (findings : Findings) :
    (notes.map (member, ·)).foldl addAnnotation findings =
      (notes.filterMap (·.declaration? member)).foldl add findings := by
  induction notes generalizing findings with
  | nil => rfl
  | cons note notes ih =>
      rw [List.map_cons, List.foldl_cons, addAnnotation_eq, ih, List.filterMap_cons]
      cases note.declaration? member <;> rfl

end Findings

/-! ### The whole pass -/

namespace View

/-- The annotations of a name, one after the other, add the declarations of the class. -/
theorem foldl_annotationsNamed (name : String) (view : View) (findings : Findings) :
    (view.annotationsNamed name).foldl Findings.addAnnotation findings =
      (view.declarations name).foldl Findings.add findings := by
  unfold annotationsNamed declarations
  induction view.members generalizing findings with
  | nil => rfl
  | cons member members ih =>
      rw [List.flatMap_cons, List.flatMap_cons, List.foldl_append, List.foldl_append,
        Findings.foldl_addAnnotation, ih]
      rfl

/-- **What the pass over a class finds.**  The listeners are those that the class declares,
and behind what the collector has recorded already it records what is wrong with the
declarations. -/
theorem analyze_eq (settings : Settings) (view : View) (collector : Collector) :
    view.analyze settings collector =
      (view.declaredListeners settings.annotationName,
        collector.record (view.declaredFaults settings.annotationName collector.file)) := by
  unfold analyze
  rw [foldl_annotationsNamed, Findings.foldl_add]
  rfl

/-- Several classes with one collector: the listeners of each are its own, and what is wrong
with them is recorded class by class. -/
theorem analyzeAll_eq (settings : Settings) (views : List View) (collector : Collector) :
    analyzeAll settings views collector =
      (views.map (declaredListeners settings.annotationName),
        collector.record
          (views.flatMap (declaredFaults settings.annotationName collector.file))) := by
  induction views generalizing collector with
  | nil =>
      rw [List.flatMap_nil, Collector.record_nil]
      rfl
  | cons view views ih =>
      unfold analyzeAll
      simp only [analyze_eq, ih, Collector.file_record, Collector.record_record,
        List.map_cons, List.flatMap_cons]

end View

end Listeners
