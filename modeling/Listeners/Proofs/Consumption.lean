/-
Which annotations may be dropped from the code.

An annotation is consumed if it binds something.  The pass reads this off the length of the
list of bindings, which all annotations of a class share, before and after it has dealt with
the annotation.  This file says what it comes to: the consumed annotations are those that
contribute a binding, one entry for each place where one is written, in the order in which
they are written, however many of the names beside the bound ones are rejected.

What is consumed then divides a class in two.  The annotations that bind something give all the
bindings by themselves, so the others may be left out; and once they have been taken away
nothing is left to bind, and what is wrong with the other annotations is reported as before.
-/
import Listeners.Proofs.Occurrences

namespace Listeners

namespace Occurrence

variable {name : String} {o : Occurrence}

/-- Of an annotation that binds nothing nothing is consumed. -/
theorem consumed_of_binds_eq_false (h : o.binds name = false) : o.consumed name = [] := by
  have hnone : o.bindings name = [] := binds_eq_false_iff.mp h
  unfold bindings at hnone
  unfold consumed
  cases hd : o.declaration? name with
  | none => rfl
  | some d =>
      rw [hd, Option.toList_some, List.flatMap_singleton] at hnone
      rw [Option.toList_some, List.flatMap_singleton, Declaration.consumed, if_pos hnone]

/-- An annotation that binds something is consumed once, and its member has a name. -/
theorem consumed_of_binds (h : o.binds name = true) :
    ∃ written, o.member.name = some written ∧
      o.consumed name = [⟨Text.trim written, o.note.location⟩] := by
  cases hd : o.declaration? name with
  | none =>
      unfold binds bindings at h
      rw [hd] at h
      cases h
  | some d =>
      obtain ⟨-, hdeclared⟩ := declaration?_eq_some_iff.mp hd
      obtain ⟨written, text, hname, -, -, rfl⟩ := View.declaration?_eq_some_iff.mp hdeclared
      have hsome : ¬o.bindings name = [] := by
        intro hnone
        rw [binds_eq_false_iff.mpr hnone] at h
        cases h
      unfold bindings at hsome
      unfold consumed
      rw [hd, Option.toList_some, List.flatMap_singleton] at hsome ⊢
      exact ⟨written, hname, by rw [Declaration.consumed, if_neg hsome]⟩

/-- What only annotations give that bind something is not lost with the others. -/
theorem flatMap_filter_binds {α : Type} {f : Occurrence → List α} {name : String}
    (hf : ∀ o : Occurrence, o.binds name = false → f o = []) (occurrences : List Occurrence) :
    (occurrences.filter (·.binds name)).flatMap f = occurrences.flatMap f := by
  induction occurrences with
  | nil => rfl
  | cons o occurrences ih =>
      rw [List.flatMap_cons]
      cases h : o.binds name with
      | true => rw [List.filter_cons_of_pos h, List.flatMap_cons, ih]
      | false =>
          rw [List.filter_cons_of_neg (Bool.not_eq_true _ ▸ h), hf o h, List.nil_append, ih]

/-- What only annotations give that bind something is lost with them. -/
theorem flatMap_filter_not_binds {α : Type} {f : Occurrence → List α} {name : String}
    (hf : ∀ o : Occurrence, o.binds name = false → f o = []) (occurrences : List Occurrence) :
    (occurrences.filter fun o => !o.binds name).flatMap f = [] := by
  refine List.flatMap_eq_nil_iff.mpr fun o ho => hf o ?_
  simpa using (List.mem_filter.mp ho).2

/-- The consumed annotations of a class are those that bind something, one by one. -/
theorem forall₂_consumed (name : String) (occurrences : List Occurrence) :
    List.Forall₂
      (fun (entry : Consumed) (o : Occurrence) => ∃ written, o.member.name = some written ∧
        entry = ⟨Text.trim written, o.note.location⟩)
      (occurrences.flatMap (·.consumed name)) (occurrences.filter (·.binds name)) := by
  induction occurrences with
  | nil => exact .nil
  | cons o occurrences ih =>
      rw [List.flatMap_cons]
      cases h : o.binds name with
      | true =>
          obtain ⟨written, hname, hconsumed⟩ := consumed_of_binds h
          rw [List.filter_cons_of_pos h, hconsumed]
          exact .cons ⟨written, hname, rfl⟩ ih
      | false =>
          rw [List.filter_cons_of_neg (Bool.not_eq_true _ ▸ h), consumed_of_binds_eq_false h]
          exact ih

end Occurrence

namespace View

/-- The class with only those of its annotations that bind something. -/
def bindingOnly (name : String) (view : View) : View :=
  view.keeping fun member note => (Occurrence.mk member note).binds name

/-- The class without those of its annotations that bind something. -/
def stripped (name : String) (view : View) : View :=
  view.keeping fun member note => !(Occurrence.mk member note).binds name

/-- **What is consumed is what may be dropped.**  The pass visits the annotations of a class one
after the other, and at each of them it adds the bindings that this annotation contributes and
records what is wrong with it.  There is one consumed entry for each annotation that
contributes a binding, and no other, in the order in which they are written.  The annotations
that contribute none may be left out without a change to the bindings and to what is
consumed; without those that contribute one, nothing is bound or consumed, and what is recorded
is what is wrong with the others, in the same order. -/
theorem consumed_analyze (settings : Settings) (view : View) (collector : Collector) :
    let name := settings.annotationName
    let found := view.analyze settings collector
    let kept := (view.bindingOnly name).analyze settings collector
    let left := (view.stripped name).analyze settings collector
    (found = let pass := view.occurrences.foldl (Findings.visit name) ⟨[], [], collector⟩
      (⟨view.name, view.location, Binding.sort pass.bindings, pass.consumed⟩, pass.collector)) ∧
    (∀ (findings : Findings) (o : Occurrence),
      (findings.visit name o).bindings = findings.bindings ++ o.bindings name ∧
      (findings.visit name o).collector =
        findings.collector.record (o.faults name findings.collector.file)) ∧
    List.Forall₂
      (fun (entry : Consumed) (o : Occurrence) => ∃ written, o.member.name = some written ∧
        entry = ⟨Text.trim written, o.note.location⟩)
      found.1.consumed (view.occurrences.filter (·.binds name)) ∧
    (kept.1.bindings = found.1.bindings ∧ kept.1.consumed = found.1.consumed) ∧
    left.1.bindings = [] ∧ left.1.consumed = [] ∧
      left.2 = collector.record ((view.occurrences.filter fun o => !o.binds name).flatMap
        (·.faults name collector.file)) := by
  intro name found kept left
  have hfound : found = _ :=
    analyze_of_declarations (declarations_eq_filterMap name view) collector
  have hkept : kept = _ :=
    analyze_of_declarations (declarations_keeping_eq_filterMap name view _) collector
  have hleft : left = _ :=
    analyze_of_declarations (declarations_keeping_eq_filterMap name view _) collector
  have hbindings : ∀ o : Occurrence, o.binds name = false → o.bindings name = [] :=
    fun o h => Occurrence.binds_eq_false_iff.mp h
  have hconsumed : ∀ o : Occurrence, o.binds name = false → o.consumed name = [] :=
    fun o h => Occurrence.consumed_of_binds_eq_false h
  refine ⟨analyze_eq_foldl_visit settings view collector, ?_, ?_, ⟨?_, ?_⟩, ?_, ?_, ?_⟩
  · intro findings o
    rw [Findings.visit_eq]
    exact ⟨rfl, rfl⟩
  · rw [hfound]
    exact Occurrence.forall₂_consumed name view.occurrences
  · rw [hkept, hfound]
    exact congrArg Binding.sort (Occurrence.flatMap_filter_binds hbindings view.occurrences)
  · rw [hkept, hfound]
    exact Occurrence.flatMap_filter_binds hconsumed view.occurrences
  · rw [hleft]
    show Binding.sort ((view.occurrences.filter fun o => !o.binds name).flatMap _) = []
    rw [Occurrence.flatMap_filter_not_binds hbindings]
    exact List.mergeSort_nil
  · rw [hleft]
    exact Occurrence.flatMap_filter_not_binds hconsumed view.occurrences
  · rw [hleft]

end View

end Listeners
