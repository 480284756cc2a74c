/-
The bindings of a class.

The pass binds what the class declares, in the order in which bindings are listed, and
whether a name is bound does not depend on the other names, annotations and members.  What
every binding that is ever emitted has in common is collected in `Binding.Emitted`.
-/
import Listeners.Proofs.Order
import Listeners.Proofs.Pass

namespace Listeners

namespace View

end View

/-! ### What all emitted bindings have in common -/

/-- What is known of a binding that the pass emits: its event is a listener name in the form
in which it stands between commas, and its method is a name without blanks around it. -/
structure Binding.Emitted (binding : Binding) : Prop where
  event : View.IsListable binding.eventName
  accepted : ∃ specifier, Specifier.parse binding.eventName = .ok specifier
  trimmed : Text.trim binding.methodName = binding.methodName
  named : binding.methodName ≠ ""

theorem Declaration.mem_bindings_iff {d : Declaration} {binding : Binding} :
    binding ∈ d.bindings ↔ ∃ name ∈ d.names, d.binding? name = some binding := by
  unfold Declaration.bindings
  exact List.mem_filterMap

namespace View

theorem emitted_of_declaration? {member : Member} {note : Annotation} {d : Declaration}
    (h : note.declaration? member = some d) {binding : Binding} (hb : binding ∈ d.bindings) :
    binding.Emitted := by
  obtain ⟨name, hname, hbinding⟩ := Declaration.mem_bindings_iff.mp hb
  have hlistable : IsListable name := isListable_of_declaration? h name hname
  obtain ⟨written, text, -, hblank, -, rfl⟩ := declaration?_eq_some_iff.mp h
  obtain ⟨specifier, hparse, rfl⟩ := Declaration.binding?_eq_some_iff.mp hbinding
  exact ⟨hlistable, ⟨specifier, hparse⟩, Text.trim_trim written, hblank⟩

theorem mem_declarations_iff {name : String} {view : View} {d : Declaration} :
    d ∈ view.declarations name ↔
      ∃ member ∈ view.members, ∃ note ∈ member.annotations,
        note.name = name ∧ note.declaration? member = some d := by
  unfold declarations
  rw [List.mem_flatMap]
  constructor
  · rintro ⟨member, hmember, hd⟩
    obtain ⟨note, hnote, hdeclared⟩ := List.mem_filterMap.mp hd
    obtain ⟨hmem, hnamed⟩ := List.mem_filter.mp hnote
    exact ⟨member, hmember, note, hmem, by simpa using hnamed, hdeclared⟩
  · rintro ⟨member, hmember, note, hmem, hnamed, hdeclared⟩
    refine ⟨member, hmember, List.mem_filterMap.mpr ⟨note, ?_, hdeclared⟩⟩
    exact List.mem_filter.mpr ⟨hmem, by simpa using hnamed⟩

theorem emitted_of_mem_bindings {settings : Settings} {view : View} {collector : Collector}
    {binding : Binding} (h : binding ∈ (view.analyze settings collector).1.bindings) :
    binding.Emitted := by
  rw [analyze_eq] at h
  have hdeclared := (Binding.sort_perm _).mem_iff.mp h
  obtain ⟨d, hd, hb⟩ := List.mem_flatMap.mp hdeclared
  obtain ⟨member, -, note, -, -, hnote⟩ := mem_declarations_iff.mp hd
  exact emitted_of_declaration? hnote hb

end View

end Listeners
