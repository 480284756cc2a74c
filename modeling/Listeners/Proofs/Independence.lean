/-
Classes of a file have nothing to do with each other.

All classes of a file are analysed with one collector, so each of them begins with what the
classes before it have recorded.  Nothing comes of it: of a collector the pass looks at no
more than the file, and it only writes behind what is there.  So it is enough to know what a
class gives on a collector of its own, and a file is the list of its classes, each
analysed by itself.
-/
import Listeners.Proofs.FatalScope

namespace Listeners

namespace View

/-- On any collector a class gives what it gives on an empty one, and records the same behind
what has been recorded already. -/
theorem analyze_eq_empty (settings : Settings) (view : View) (collector : Collector) :
    view.analyze settings collector =
      ((view.analyze settings (.empty collector.file)).1,
        collector.record (view.analyze settings (.empty collector.file)).2.items) := by
  rw [analyze_eq, analyze_eq, Collector.file_empty, Collector.items_record,
    Collector.items_empty, List.nil_append]

end View

namespace Analysis

/-- **Classes do not influence each other.**  On two collectors of a file a class gives the same
listeners and records the same, behind whatever has been recorded before, of which nothing
is lost.  So a file in which only rejected listeners are lost has the listeners that its
classes have by themselves, and their diagnostics one class after the other. -/
theorem ofViews_separate (name file : String) (views : List View) :
    (∀ (settings : Settings) (view : View) (earlier others : List Diagnostic),
      let one := view.analyze settings ⟨file, earlier⟩
      let two := view.analyze settings ⟨file, others⟩
      one.1 = two.1 ∧ earlier.length ≤ one.2.items.length ∧
        ∃ recorded, one.2 = ⟨file, earlier ++ recorded⟩ ∧ two.2 = ⟨file, others ++ recorded⟩) ∧
      let whole := ofViews ⟨name, .specifier⟩ file views
      let alone := fun view : View => view.analyze ⟨name, .specifier⟩ (.empty file)
      (whole.classes = views.map fun view => (alone view).1) ∧
        whole.diagnostics = views.flatMap fun view => (alone view).2.items := by
  constructor
  · intro settings view earlier others one two
    have hone : one = _ := View.analyze_eq_empty settings view ⟨file, earlier⟩
    have htwo : two = _ := View.analyze_eq_empty settings view ⟨file, others⟩
    have hgrown : earlier.length ≤ one.2.items.length := by
      rw [hone, Collector.items_record, List.length_append]
      exact Nat.le_add_right ..
    refine ⟨by rw [hone, htwo], hgrown, (view.analyze settings (.empty file)).2.items, ?_, ?_⟩
    · rw [hone]
      rfl
    · rw [htwo]
      rfl
  · intro whole alone
    have hwhole : whole = _ := ofViews_specifier name file views
    have halone : ∀ view, alone view =
        (view.declaredListeners name, ⟨file, view.declaredFaults name file⟩) :=
      fun view => View.analyze_eq ⟨name, .specifier⟩ view (.empty file)
    rw [hwhole]
    simp only [halone, and_self]

end Analysis

end Listeners
