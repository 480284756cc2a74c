/-
What each annotation of a class adds to what the pass finds.

The declarations of a class leave out the annotations that declare nothing, and with them
where a declaration comes from.  Here every annotation of a class is kept, with its member:
those of other names too, and those that cannot be used.  The pass visits them in the order in
which they are written, and what it adds at each of them, bindings, consumed annotations
and diagnostics, is said by the annotation and the name of its member alone (`visit_eq`).

So it can be said of an annotation what it contributes to a class, and what becomes of the class
if it is taken out: the other annotations contribute what they contributed before
(`declarations_keeping_eq_filterMap`).
-/
import Listeners.Proofs.Diagnostics

namespace Listeners

/-- An annotation where it stands, with its member. -/
structure Occurrence where
  member : View.Member
  note : View.Annotation

/-- The annotations of a class, of whatever name, in the order in which they are written. -/
def View.occurrences (view : View) : List Occurrence :=
  view.members.flatMap fun member => member.annotations.map (Occurrence.mk member)

namespace Occurrence

/-- What an annotation declares, where listeners are declared with annotations of a name. -/
def declaration? (name : String) (o : Occurrence) : Option Declaration :=
  if o.note.name = name then o.note.declaration? o.member else none

/-- The bindings that an annotation contributes. -/
def bindings (name : String) (o : Occurrence) : List Binding :=
  (o.declaration? name).toList.flatMap Declaration.bindings

/-- What is consumed of an annotation. -/
def consumed (name : String) (o : Occurrence) : List Consumed :=
  (o.declaration? name).toList.flatMap Declaration.consumed

/-- What is wrong with an annotation. -/
def faults (name file : String) (o : Occurrence) : List Diagnostic :=
  (o.declaration? name).toList.flatMap (Declaration.faults file)

/-- Whether an annotation contributes a binding. -/
def binds (name : String) (o : Occurrence) : Bool := !(o.bindings name).isEmpty

theorem binds_eq_false_iff {name : String} {o : Occurrence} :
    o.binds name = false ↔ o.bindings name = [] := by
  unfold binds
  rw [Bool.not_eq_false', List.isEmpty_iff]

theorem declaration?_eq_some_iff {name : String} {o : Occurrence} {d : Declaration} :
    o.declaration? name = some d ↔ o.note.name = name ∧ o.note.declaration? o.member = some d := by
  unfold declaration?
  by_cases hnamed : o.note.name = name
  · rw [if_pos hnamed]
    exact ⟨fun h => ⟨hnamed, h⟩, fun h => h.2⟩
  · rw [if_neg hnamed]
    constructor
    · intro h
      cases h
    · intro h
      exact absurd h.1 hnamed

theorem options_of_declaration? {name : String} {o : Occurrence} {d : Declaration}
    (h : o.declaration? name = some d) : d.options = o.note.object? := by
  obtain ⟨-, hdeclared⟩ := declaration?_eq_some_iff.mp h
  obtain ⟨written, text, -, -, -, rfl⟩ := View.declaration?_eq_some_iff.mp hdeclared
  rfl

/-- Of its member an annotation needs no more than the name. -/
theorem declaration?_congr (name : String) {member other : View.Member}
    (h : member.name = other.name) (note : View.Annotation) :
    (mk member note).declaration? name = (mk other note).declaration? name := by
  unfold declaration?
  rw [View.declaration?_congr h]

end Occurrence

/-! ### The pass visits every annotation -/

/-- One step of the pass.  Annotations of other names are passed over. -/
def Findings.visit (name : String) (findings : Findings) (o : Occurrence) : Findings :=
  if o.note.name == name then findings.addAnnotation (o.member, o.note) else findings

/-- **What is found at an annotation** does not depend on what was found before. -/
theorem Findings.visit_eq (name : String) (findings : Findings) (o : Occurrence) :
    findings.visit name o =
      { bindings := findings.bindings ++ o.bindings name
        consumed := findings.consumed ++ o.consumed name
        collector := findings.collector.record (o.faults name findings.collector.file) } := by
  unfold visit Occurrence.bindings Occurrence.consumed Occurrence.faults Occurrence.declaration?
  by_cases hnamed : o.note.name = name
  · rw [if_pos (beq_iff_eq.mpr hnamed), if_pos hnamed, addAnnotation_eq]
    cases o.note.declaration? o.member with
    | none => simp
    | some d => simp [add]
  · rw [if_neg (fun h => hnamed (beq_iff_eq.mp h)), if_neg hnamed]
    simp

namespace View

theorem annotationsNamed_eq (name : String) (view : View) :
    view.annotationsNamed name =
      (view.occurrences.filter (·.note.name == name)).map fun o => (o.member, o.note) := by
  unfold annotationsNamed occurrences
  rw [List.filter_flatMap, List.map_flatMap]
  refine List.flatMap_congr fun member _ => ?_
  rw [List.filter_map, List.map_map]
  rfl

/-- The pass over a class visits its annotations one after the other. -/
theorem analyze_eq_foldl_visit (settings : Settings) (view : View) (collector : Collector) :
    view.analyze settings collector =
      let found := view.occurrences.foldl (Findings.visit settings.annotationName)
        ⟨[], [], collector⟩
      (⟨view.name, view.location, Binding.sort found.bindings, found.consumed⟩,
        found.collector) := by
  unfold analyze
  rw [annotationsNamed_eq, List.foldl_map, List.foldl_filter]
  rfl

/-! ### The declarations of a class, annotation by annotation -/

theorem declarations_eq_filterMap (name : String) (view : View) :
    view.declarations name = view.occurrences.filterMap (Occurrence.declaration? name) := by
  unfold declarations occurrences
  rw [List.filterMap_flatMap]
  refine List.flatMap_congr fun member _ => ?_
  rw [List.filterMap_filter, List.filterMap_map]
  refine List.filterMap_congr fun note _ => ?_
  simp only [Function.comp_apply, Occurrence.declaration?, decide_eq_true_eq]

/-- What all declarations give is what all annotations contribute. -/
theorem flatMap_declarations {α : Type} (f : Declaration → List α) (name : String)
    (occurrences : List Occurrence) :
    (occurrences.filterMap (Occurrence.declaration? name)).flatMap f =
      occurrences.flatMap fun o => (o.declaration? name).toList.flatMap f := by
  rw [List.filterMap_eq_flatMap_toList, List.flatMap_assoc]

/-- In a class with only some of its annotations, these declare what they declared before. -/
theorem declarations_keeping_eq_filterMap (name : String) (view : View)
    (keep : Member → Annotation → Bool) :
    (view.keeping keep).declarations name =
      (view.occurrences.filter fun o => keep o.member o.note).filterMap
        (Occurrence.declaration? name) := by
  rw [declarations_eq_filterMap]
  unfold occurrences keeping
  rw [List.flatMap_map, List.filter_flatMap, List.filterMap_flatMap, List.filterMap_flatMap]
  refine List.flatMap_congr fun member _ => ?_
  rw [List.filter_map, List.filterMap_map, List.filterMap_map]
  exact List.filterMap_congr fun note _ => Occurrence.declaration?_congr name rfl note

/-- A class that declares what some annotations declare is analysed to what these contribute. -/
theorem analyze_of_declarations {settings : Settings} {view : View}
    {occurrences : List Occurrence}
    (h : view.declarations settings.annotationName =
      occurrences.filterMap (Occurrence.declaration? settings.annotationName))
    (collector : Collector) :
    let name := settings.annotationName
    view.analyze settings collector =
      (⟨view.name, view.location, Binding.sort (occurrences.flatMap (·.bindings name)),
          occurrences.flatMap (·.consumed name)⟩,
        collector.record (occurrences.flatMap (·.faults name collector.file))) := by
  intro name
  rw [analyze_eq]
  unfold declaredListeners declaredBindings declaredFaults
  rw [h, flatMap_declarations, flatMap_declarations, flatMap_declarations]
  rfl

end View

end Listeners
