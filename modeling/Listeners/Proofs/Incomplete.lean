/-
Annotations that are not complete.

While a class is being written an annotation may stand there without a method to register or
without a listener name.  That is no mistake, and such an annotation should leave no trace.
Of what the pass returns it leaves none: nothing is bound by it and nothing of it is consumed.

It may leave one in the collector.  The options of an annotation are read as soon as there is a
method and a string, and only then are the names between the commas looked at.  So a string
that lists no name is passed over in silence together with its options, but not if these
cannot be read: then they are reported, though there is nothing that they could be the options
of.  That is the only trace (`analyze_incomplete`).
-/
import Listeners.Proofs.Consumption
import Listeners.Proofs.Evaluation

namespace Listeners

namespace Occurrence

/-- An annotation without a method or without a listener name: its member has no name other than
blanks, or it has no string, or the string lists nothing. -/
def IsIncomplete (o : Occurrence) : Prop :=
  (∀ written, o.member.name = some written → Text.trim written = "") ∨
    ∀ text, o.note.text? = some text → View.listedNames text = []

variable {name : String} {o : Occurrence}

theorem IsIncomplete.names_eq_nil (h : o.IsIncomplete) {d : Declaration}
    (hd : o.declaration? name = some d) : d.names = [] := by
  obtain ⟨-, hdeclared⟩ := declaration?_eq_some_iff.mp hd
  obtain ⟨written, text, hname, hblank, htext, rfl⟩ := View.declaration?_eq_some_iff.mp hdeclared
  rcases h with hmethod | hnames
  · exact absurd (hmethod written hname) hblank
  · dsimp only
    exact hnames text htext

theorem IsIncomplete.bindings_eq_nil (h : o.IsIncomplete) : o.bindings name = [] := by
  refine List.flatMap_eq_nil_iff.mpr fun d hd => ?_
  rw [Declaration.bindings, h.names_eq_nil (Option.mem_toList.mp hd)]
  rfl

theorem IsIncomplete.consumed_eq_nil (h : o.IsIncomplete) : o.consumed name = [] :=
  consumed_of_binds_eq_false (binds_eq_false_iff.mpr h.bindings_eq_nil)

/-- Nothing is wrong with an incomplete annotation but its options. -/
theorem IsIncomplete.faults_eq (h : o.IsIncomplete) (file : String) :
    o.faults name file = (o.declaration? name).toList.flatMap fun d =>
      (d.optionsFault? file).toList := by
  refine List.flatMap_congr fun d hd => ?_
  rw [Declaration.faults, h.names_eq_nil (Option.mem_toList.mp hd)]
  exact List.append_nil _

/-- An incomplete annotation is reported at most once, for its options. -/
theorem IsIncomplete.reported (h : o.IsIncomplete) (file : String) :
    (o.faults name file).length ≤ 1 ∧
      ∀ diagnostic ∈ o.faults name file, diagnostic.code = Rule.options.code ∧
        diagnostic.severity = .recoverable ∧ diagnostic.location = o.note.location := by
  rw [h.faults_eq]
  cases hd : o.declaration? name with
  | none => simp
  | some d =>
      obtain ⟨-, hdeclared⟩ := declaration?_eq_some_iff.mp hd
      rw [Option.toList_some, List.flatMap_singleton]
      unfold Declaration.optionsFault?
      split
      · simp [View.location_of_declaration? hdeclared, Rule.code]
      · simp

/-- It is not reported exactly if its options are not read or can be read. -/
theorem IsIncomplete.faults_eq_nil_iff (h : o.IsIncomplete) (hnamed : o.note.name = name)
    (file : String) :
    o.faults name file = [] ↔
      ¬(o.note.isUsable o.member = true ∧ ∃ properties, o.note.object? = some properties ∧
        View.isReadable properties = false) := by
  rw [h.faults_eq, View.isUsable_iff]
  unfold declaration?
  rw [if_pos hnamed]
  cases hd : o.note.declaration? o.member with
  | none => simp
  | some d =>
      have hoptions : d.options = o.note.object? :=
        options_of_declaration? (declaration?_eq_some_iff.mpr ⟨hnamed, hd⟩)
      rw [Option.toList_some, List.flatMap_singleton, Option.toList_eq_nil_iff,
        Declaration.optionsFault?_eq_none_iff, hoptions]
      simp

end Occurrence

namespace View

/-- Some annotations of a member stand between the annotations that are written earlier and those
that are written later, in its own member and in the others. -/
theorem exists_declarations_between (name : String) (view : View) (front back : List Member)
    (member : Member) (before after : List Annotation) :
    ∃ earlier later : List Occurrence, ∀ notes : List Annotation,
      { view with
        members := front ++ { member with annotations := before ++ (notes ++ after) } :: back
        }.declarations name =
      (earlier ++ (notes.map (Occurrence.mk member) ++ later)).filterMap
        (Occurrence.declaration? name) := by
  refine ⟨{ view with members := front }.occurrences ++ before.map (Occurrence.mk member),
    after.map (Occurrence.mk member) ++ { view with members := back }.occurrences,
    fun notes => ?_⟩
  set all := before ++ (notes ++ after) with hall
  have hmember : (all.map (Occurrence.mk { member with annotations := all })).filterMap
      (Occurrence.declaration? name) =
      (all.map (Occurrence.mk member)).filterMap (Occurrence.declaration? name) := by
    rw [List.filterMap_map, List.filterMap_map]
    exact List.filterMap_congr fun note _ => Occurrence.declaration?_congr name rfl note
  rw [declarations_eq_filterMap]
  unfold occurrences
  rw [List.flatMap_append, List.flatMap_cons, List.filterMap_append, List.filterMap_append, hmember,
    hall]
  simp only [List.map_append, List.filterMap_append, List.append_assoc]

/-- **An incomplete annotation leaves no trace but one.**  Whether it is there or not, the class has
the same listeners.  If it is there it is reported at most once, for its options, at the place
where it stands among what else is recorded; and this happens exactly if it can be used, that is,
if there is a method and a string, and the object of its options is not readable. -/
theorem analyze_incomplete (settings : Settings) (view : View) (collector : Collector)
    (front back : List Member) (member : Member) (before after : List Annotation)
    (note : Annotation) (hnamed : note.name = settings.annotationName)
    (h : (Occurrence.mk member note).IsIncomplete) :
    let pass := fun notes : List Annotation =>
      { view with
        members := front ++ { member with annotations := before ++ (notes ++ after) } :: back
        }.analyze settings collector
    let whole := pass [note]
    let rest := pass []
    whole.1 = rest.1 ∧
      (∃ first reported second, rest.2 = collector.record (first ++ second) ∧
        whole.2 = collector.record (first ++ (reported ++ second)) ∧ reported.length ≤ 1 ∧
        ∀ diagnostic ∈ reported, diagnostic.code = Rule.options.code ∧
          diagnostic.severity = .recoverable ∧ diagnostic.location = note.location) ∧
      (whole.2 = rest.2 ↔ ¬(note.isUsable member = true ∧
        ∃ properties, note.object? = some properties ∧ isReadable properties = false)) := by
  intro pass whole rest
  obtain ⟨earlier, later, hbetween⟩ := exists_declarations_between settings.annotationName view
    front back member before after
  have hwhole : whole = _ := analyze_of_declarations (hbetween [note]) collector
  have hrest : rest = _ := analyze_of_declarations (hbetween []) collector
  rw [List.map_singleton] at hwhole
  rw [List.map_nil] at hrest
  set o := Occurrence.mk member note
  set reported := o.faults settings.annotationName collector.file with hreported
  set first := earlier.flatMap (·.faults settings.annotationName collector.file) with hfirst
  set second := later.flatMap (·.faults settings.annotationName collector.file) with hsecond
  have hwhole₂ : whole.2 = collector.record (first ++ (reported ++ second)) := by
    rw [hwhole]
    simp only [List.flatMap_append, List.flatMap_singleton, hfirst, hreported, hsecond]
  have hrest₂ : rest.2 = collector.record (first ++ second) := by
    rw [hrest]
    simp only [List.flatMap_append, List.nil_append, hfirst, hsecond]
  refine ⟨?_, ⟨first, reported, second, hrest₂, hwhole₂, h.reported collector.file⟩, ?_⟩
  · rw [hwhole, hrest]
    simp only [List.flatMap_append, List.flatMap_singleton, List.flatMap_nil, h.bindings_eq_nil,
      h.consumed_eq_nil]
  · have hsame : whole.2 = rest.2 ↔ reported = [] := by
      rw [hwhole₂, hrest₂]
      simp [Collector.record]
    rw [hsame]
    exact h.faults_eq_nil_iff hnamed collector.file

/-- A string that lists nothing but commas, with options that can be read, between two annotations
of its member. -/
theorem analyze_incomplete_commas :
    let note := fun arguments => (⟨"Listen", ⟨2, 3⟩, arguments⟩ : Annotation)
    let click := note [.string "click" ⟨2, 11⟩]
    let blur := note [.string "a:b:c" ⟨2, 11⟩]
    let commas := note [.string " , '' " ⟨2, 11⟩, .object [.entry "capture" .null] ⟨2, 19⟩]
    let pass := fun notes : List Annotation =>
      (⟨some "Tabs", ⟨1, 1⟩, [⟨some "onClick", ⟨2, 3⟩, [click] ++ (notes ++ [blur])⟩]⟩ :
        View).analyze .usual (.empty "a.ts")
    (Occurrence.mk ⟨some "onClick", ⟨2, 3⟩, []⟩ commas).IsIncomplete ∧
      (pass [commas]).1 = (pass []).1 ∧ (pass [commas]).2 = (pass []).2 := by
  intro note click blur commas pass
  have hlists : listedNames " , '' " = [] := by decide
  have hincomplete : (Occurrence.mk ⟨some "onClick", ⟨2, 3⟩, []⟩ commas).IsIncomplete := by
    refine Or.inr fun text htext => ?_
    obtain rfl : " , '' " = text := Option.some.inj htext
    exact hlists
  obtain ⟨hlisteners, -, hrecorded⟩ := analyze_incomplete .usual ⟨some "Tabs", ⟨1, 1⟩, []⟩
    (.empty "a.ts") [] [] ⟨some "onClick", ⟨2, 3⟩, []⟩ [click] [blur] commas rfl hincomplete
  refine ⟨hincomplete, hlisteners, hrecorded.mpr ?_⟩
  rintro ⟨-, properties, hobject, hunreadable⟩
  rw [← Option.some.inj hobject] at hunreadable
  cases hunreadable

/-- **Not every incomplete annotation is passed over in silence.**  With an empty string for its
name, an annotation is still reported if its options cannot be read. -/
theorem incomplete_with_unreadable_options :
    let note : Annotation := ⟨"Listen", ⟨2, 3⟩,
      [.string "" ⟨2, 11⟩, .object [.entry "capture" (.other "call expression")] ⟨2, 15⟩]⟩
    let pass := fun notes : List Annotation =>
      (⟨some "Tabs", ⟨1, 1⟩, [⟨some "onClick", ⟨2, 3⟩, notes⟩]⟩ : View).analyze .usual
        (.empty "a.ts")
    (Occurrence.mk ⟨some "onClick", ⟨2, 3⟩, [note]⟩ note).IsIncomplete ∧
      (pass [note]).2.items.map (·.code) = ["L-ERR-OPTIONS"] ∧ (pass []).2.items = [] := by
  intro note pass
  have hlists : listedNames "" = [] := by decide
  refine ⟨Or.inr fun text htext => ?_, ?_, ?_⟩
  · obtain rfl : "" = text := Option.some.inj htext
    exact hlists
  · show (analyze .usual _ _).2.items.map (·.code) = _
    rw [analyze_eq]
    decide
  · show (analyze .usual _ _).2.items = _
    rw [analyze_eq]
    rfl

end View

end Listeners
