/-
What is emitted is a fixed point of the pass.

Bindings can be written back as a class: a member for each of them, in the order in which
they are listed, with one annotation that says its event name and all three of its flags.
Analysing that class must give the same bindings again, or a tool that reads what it has
emitted would drift.

Three things have to come together.  An emitted name lists itself and is accepted again,
and an emitted method is trimmed already (`Binding.Emitted`); flags that are all written
leave nothing to be resolved, so a name that is passive by default keeps its flag; and
bindings that are sorted stay as they are, those with the same names included.
-/
import Listeners.Proofs.Bindings

namespace Listeners

/-- Where the parts of a member that is written back stand. -/
structure Places where
  member : Location
  note : Location
  name : Location
  options : Location

namespace Binding

/-- The flags of a binding as the properties of an object. -/
def properties (binding : Binding) : List View.Property :=
  [.entry "capture" (.boolean binding.capture), .entry "passive" (.boolean binding.passive),
    .entry "enabled" (.boolean !binding.disabled)]

/-- The annotation that asks for a binding. -/
def note (name : String) (places : Places) (binding : Binding) : View.Annotation :=
  ⟨name, places.note,
    [.string binding.eventName places.name, .object binding.properties places.options]⟩

/-- The member that asks for a binding and for nothing else. -/
def member (name : String) (places : Places) (binding : Binding) : View.Member :=
  ⟨some binding.methodName, places.member, [binding.note name places]⟩

end Binding

/-- A class that asks for some bindings, one member after the other. -/
def View.ofBindings (name : String) (className : Option String) (location : Location)
    (places : Nat → Places) (bindings : List Binding) : View :=
  ⟨className, location, bindings.zipIdx.map fun (binding, i) => binding.member name (places i)⟩

namespace Binding

/-! ### A binding asks for itself -/

/-- The declaration that a binding is written back as. -/
def declaration (places : Places) (binding : Binding) : Declaration :=
  ⟨binding.methodName, places.note, [binding.eventName], some binding.properties⟩

theorem names_declaration (places : Places) (binding : Binding) :
    (binding.declaration places).names = [binding.eventName] := rfl

/-- All flags are written, so none is left to be resolved. -/
theorem written_declaration (places : Places) (binding : Binding) :
    (binding.declaration places).written =
      ⟨some binding.capture, some binding.passive, some !binding.disabled⟩ := rfl

theorem optionsFault?_declaration (file : String) (places : Places) (binding : Binding) :
    (binding.declaration places).optionsFault? file = none := rfl

variable {binding : Binding}

theorem Emitted.declaration?_note (h : binding.Emitted) (name : String) (places : Places) :
    (binding.note name places).declaration? (binding.member name places) =
      some (binding.declaration places) := by
  refine View.declaration?_eq_some_iff.mpr
    ⟨binding.methodName, binding.eventName, rfl, ?_, rfl, ?_⟩
  · rw [h.trimmed]
    exact h.named
  · rw [h.trimmed, h.event.listedNames_eq]
    rfl

theorem Emitted.binding?_declaration (h : binding.Emitted) (places : Places) :
    (binding.declaration places).binding? binding.eventName = some binding := by
  obtain ⟨specifier, hparse⟩ := h.accepted
  unfold Declaration.binding?
  rw [hparse, written_declaration]
  cases binding with
  | mk eventName methodName capture passive disabled => cases disabled <;> rfl

theorem Emitted.bindings_declaration (h : binding.Emitted) (places : Places) :
    (binding.declaration places).bindings = [binding] := by
  unfold Declaration.bindings
  rw [names_declaration, List.filterMap_cons, h.binding?_declaration places]
  rfl

theorem Emitted.consumed_declaration (h : binding.Emitted) (places : Places) :
    (binding.declaration places).consumed = [⟨binding.methodName, places.note⟩] := by
  unfold Declaration.consumed
  rw [h.bindings_declaration places, if_neg (List.cons_ne_nil binding [])]
  rfl

theorem Emitted.faults_declaration (h : binding.Emitted) (file : String) (places : Places) :
    (binding.declaration places).faults file = [] := by
  obtain ⟨specifier, hparse⟩ := h.accepted
  have hname : (binding.declaration places).nameFault? file binding.eventName = none := by
    unfold Declaration.nameFault?
    rw [hparse]
  unfold Declaration.faults
  rw [optionsFault?_declaration, names_declaration, List.filterMap_cons, hname]
  rfl

end Binding

namespace View

/-! ### A class that is written back -/

theorem declarations_ofBindings {bindings : List Binding} (h : ∀ b ∈ bindings, b.Emitted)
    (name : String) (className : Option String) (location : Location) (places : Nat → Places) :
    (ofBindings name className location places bindings).declarations name =
      bindings.zipIdx.map fun (binding, i) => binding.declaration (places i) := by
  unfold ofBindings declarations
  rw [List.flatMap_map, List.map_eq_flatMap]
  refine List.flatMap_congr fun (binding, i) hmem => ?_
  have hemitted : binding.Emitted := h binding (List.fst_mem_of_mem_zipIdx hmem)
  have hnamed : [binding.note name (places i)].filter (·.name = name) =
      [binding.note name (places i)] := by
    rw [List.filter_cons_of_pos (by simp [Binding.note])]
    rfl
  show ([binding.note name (places i)].filter _).filterMap _ = _
  rw [hnamed, List.filterMap_cons, hemitted.declaration?_note]
  rfl

/-- Bindings that could be emitted and are listed in their order are found in the class that
they are written back as. -/
theorem analyze_ofBindings_of_emitted {bindings : List Binding} (h : ∀ b ∈ bindings, b.Emitted)
    (hsorted : Binding.sort bindings = bindings) (settings : Settings) (collector : Collector)
    (className : Option String) (location : Location) (places : Nat → Places) :
    (ofBindings settings.annotationName className location places bindings).analyze settings
        collector =
      (⟨className, location, bindings,
          bindings.zipIdx.map fun (binding, i) => ⟨binding.methodName, (places i).note⟩⟩,
        collector) := by
  have hemitted : ∀ p ∈ bindings.zipIdx, p.1.Emitted :=
    fun p hp => h p.1 (List.fst_mem_of_mem_zipIdx hp)
  have hbindings :
      bindings.zipIdx.flatMap (fun p => (p.1.declaration (places p.2)).bindings) = bindings := by
    calc bindings.zipIdx.flatMap (fun p => (p.1.declaration (places p.2)).bindings)
        = bindings.zipIdx.flatMap fun p => [p.1] :=
          List.flatMap_congr fun p hp => (hemitted p hp).bindings_declaration (places p.2)
      _ = bindings := by rw [← List.map_eq_flatMap, List.zipIdx_map_fst]
  have hconsumed :
      bindings.zipIdx.flatMap (fun p => (p.1.declaration (places p.2)).consumed) =
        bindings.zipIdx.map fun p => ⟨p.1.methodName, (places p.2).note⟩ := by
    rw [List.map_eq_flatMap]
    exact List.flatMap_congr fun p hp => (hemitted p hp).consumed_declaration (places p.2)
  have hfaults :
      bindings.zipIdx.flatMap (fun p => (p.1.declaration (places p.2)).faults collector.file) =
        [] :=
    List.flatMap_eq_nil_iff.mpr fun p hp =>
      (hemitted p hp).faults_declaration collector.file (places p.2)
  rw [analyze_eq]
  unfold declaredListeners declaredBindings declaredFaults
  rw [declarations_ofBindings h, List.flatMap_map, List.flatMap_map, List.flatMap_map,
    hbindings, hconsumed, hfaults, hsorted, Collector.record_nil]
  rfl

/-- **The pass reproduces what it has emitted.**  The bindings of any class, written back as
a class, are found again, all of them and in the same order; nothing is recorded, and each
of the annotations that are written back is consumed. -/
theorem analyze_ofBindings_analyze (settings : Settings) (view : View)
    (collector again : Collector) (className : Option String) (location : Location)
    (places : Nat → Places) :
    let bindings := (view.analyze settings collector).1.bindings
    (ofBindings settings.annotationName className location places bindings).analyze settings
        again =
      (⟨className, location, bindings,
          bindings.zipIdx.map fun (binding, i) => ⟨binding.methodName, (places i).note⟩⟩,
        again) := by
  refine analyze_ofBindings_of_emitted (fun b hb => emitted_of_mem_bindings hb) ?_ settings again
    className location places
  rw [analyze_eq]
  exact Binding.sort_sort _

end View

end Listeners
