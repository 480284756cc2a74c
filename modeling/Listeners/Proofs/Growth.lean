/-
A class that grows.

Members are looked at one after the other, so what a class declares is what its first
members declare, followed by what the others declare.  Annotations are consumed and
diagnostics are recorded in this order, too.  The bindings are sorted, and sorting is stable:
the bindings of the two parts are merged, those of the first part before those of the second
where they are listed under the same names.

Whoever compares what is emitted before and after a change wants to see the change and
nothing else.  Members that are added, wherever, only add to the list of bindings: the old
bindings are still there, in the same order.
-/
import Listeners.Proofs.FatalScope
import Listeners.Proofs.Stability
import Mathlib.Data.List.Flatten

namespace Listeners.View

/-! ### Declarations and members -/

theorem declarations_append (name : String) (view : View) (first second : List Member) :
    { view with members := first ++ second }.declarations name =
      { view with members := first }.declarations name ++
        { view with members := second }.declarations name := by
  unfold declarations
  exact List.flatMap_append

theorem declaredBindings_append (name : String) (view : View) (first second : List Member) :
    { view with members := first ++ second }.declaredBindings name =
      { view with members := first }.declaredBindings name ++
        { view with members := second }.declaredBindings name := by
  unfold declaredBindings
  rw [declarations_append, List.flatMap_append]

theorem consumed_declaredListeners_append (name : String) (view : View)
    (first second : List Member) :
    ({ view with members := first ++ second }.declaredListeners name).consumed =
      ({ view with members := first }.declaredListeners name).consumed ++
        ({ view with members := second }.declaredListeners name).consumed := by
  unfold declaredListeners
  rw [declarations_append, List.flatMap_append]

theorem declaredFaults_append (name file : String) (view : View) (first second : List Member) :
    { view with members := first ++ second }.declaredFaults name file =
      { view with members := first }.declaredFaults name file ++
        { view with members := second }.declaredFaults name file := by
  unfold declaredFaults
  rw [declarations_append, List.flatMap_append]

/-- Members that are added leave the bindings that are declared already in their order. -/
theorem declaredBindings_sublist (name : String) (view : View) {members more : List Member}
    (h : members.Sublist more) :
    ({ view with members := members }.declaredBindings name).Sublist
      ({ view with members := more }.declaredBindings name) := by
  unfold declaredBindings declarations
  exact (h.flatMap _).flatMap _

/-! ### The pass over a class in two parts -/

/-- **The pass over a class is made of the passes over its parts.**  What is consumed and what is
recorded is written behind each other, and the bindings are merged, those of the first part
before those of the second under the same names.  Members that are added anywhere keep the
bindings that are emitted already, and their order. -/
theorem analyze_append (settings : Settings) (view : View) (collector : Collector)
    (first second : List Member) :
    let pass := fun members : List Member =>
      { view with members := members }.analyze settings (.empty collector.file)
    let whole := { view with members := first ++ second }.analyze settings collector
    whole.1.consumed = (pass first).1.consumed ++ (pass second).1.consumed ∧
      whole.2 = ⟨collector.file,
        collector.items ++ ((pass first).2.items ++ (pass second).2.items)⟩ ∧
      whole.1.bindings =
        (pass first).1.bindings.merge (pass second).1.bindings Binding.precedes ∧
      ∀ members more : List Member, members.Sublist more →
        (pass members).1.bindings.Sublist (pass more).1.bindings := by
  intro pass whole
  have hpass : ∀ members, pass members =
      ({ view with members := members }.declaredListeners settings.annotationName,
        ⟨collector.file,
          { view with members := members }.declaredFaults settings.annotationName
            collector.file⟩) :=
    fun members => analyze_eq settings { view with members := members } (.empty collector.file)
  have hwhole : whole = _ := analyze_eq settings { view with members := first ++ second } collector
  have hbindings : ∀ members, (pass members).1.bindings =
      Binding.sort ({ view with members := members }.declaredBindings settings.annotationName) :=
    fun members => by rw [hpass]; rfl
  refine ⟨?_, ?_, ?_, fun members more h => ?_⟩
  · rw [hwhole, hpass, hpass, consumed_declaredListeners_append]
  · rw [hwhole, hpass, hpass, declaredFaults_append]
    rfl
  · rw [hwhole, hbindings, hbindings, ← Binding.sort_append, ← declaredBindings_append]
    rfl
  · rw [hbindings, hbindings]
    exact Binding.sort_sublist (declaredBindings_sublist settings.annotationName view h)

/-- A member that is put in front of another one. -/
theorem analyze_append_in_front :
    let blur := (View.listeningTo "blur, Click").members
    let click := (View.listeningTo "click").members
    let pass := fun members : List Member =>
      (⟨some "Tabs", ⟨1, 1⟩, members⟩ : View).analyze .usual (.empty "a.ts")
    click.Sublist (blur ++ click) ∧
      (pass (blur ++ click)).1.bindings =
        (pass blur).1.bindings.merge (pass click).1.bindings Binding.precedes ∧
      (pass click).1.bindings.Sublist (pass (blur ++ click)).1.bindings := by
  intro blur click pass
  have hadded : click.Sublist (blur ++ click) := List.sublist_append_right blur click
  obtain ⟨-, -, hmerged, hkept⟩ :=
    analyze_append .usual ⟨some "Tabs", ⟨1, 1⟩, []⟩ (.empty "a.ts") blur click
  exact ⟨hadded, hmerged, hkept click (blur ++ click) hadded⟩

end Listeners.View
