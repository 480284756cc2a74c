/-
The order in which a class is written.

Members of a class, and annotations of a member, may be written in any order.  What is
found is the same whatever the order is; only where it stands in the lists changes with it.
As bindings are sorted, little of the order is left in them: the names that bindings are
listed under stand in the same places, and only different bindings of the same names may
have changed places, for these stay in the order in which they were found.  An example is one
event that is bound to one method twice, once capturing and once not.
-/
import Listeners.Proofs.Pass
import Listeners.Proofs.Stability
import Mathlib.Data.List.Perm.Basic

namespace Listeners

namespace View

/-- The member has the same annotations as another, perhaps in another order. -/
structure Member.Rearranged (member other : Member) : Prop where
  name : member.name = other.name
  location : member.location = other.location
  annotations : member.annotations.Perm other.annotations

end View

/-- The class has the same members as another, perhaps in another order, and these have the
same annotations, perhaps in another order. -/
structure View.Rearranged (view other : View) : Prop where
  name : view.name = other.name
  location : view.location = other.location
  members : ∃ between, List.Forall₂ Member.Rearranged view.members between ∧
    between.Perm other.members

namespace View

/-! ### Declarations -/

/-- The declarations of a member in another order of its annotations. -/
theorem Member.Rearranged.declarations_perm {member other : Member} (h : member.Rearranged other)
    (name : String) :
    ((member.annotations.filter (·.name = name)).filterMap (·.declaration? member)).Perm
      ((other.annotations.filter (·.name = name)).filterMap (·.declaration? other)) := by
  have hdeclared : (fun note : Annotation => note.declaration? member) =
      fun note => note.declaration? other :=
    funext (declaration?_congr h.name)
  rw [hdeclared]
  exact (h.annotations.filter _).filterMap _

/-- A class declares the same in any order. -/
theorem Rearranged.declarations_perm {view other : View} (h : view.Rearranged other)
    (name : String) : (view.declarations name).Perm (other.declarations name) := by
  obtain ⟨between, hannotations, hmembers⟩ := h.members
  unfold declarations
  refine List.Perm.trans ?_ (hmembers.flatMap_right _)
  refine List.Perm.flatten_congr ?_
  rw [List.forall₂_map_left_iff, List.forall₂_map_right_iff]
  exact hannotations.imp fun _ _ hmember => hmember.declarations_perm name

/-! ### The pass -/

/-- **The order in which a class is written does not matter.**  In another order the bindings,
the consumed annotations and the diagnostics are the same, each perhaps in another order.
Bindings are listed under the same names in the same places, and they are in the same order
themselves if none of them differ under the same names. -/
theorem Rearranged.analyze_perm {view other : View} (h : view.Rearranged other)
    (settings : Settings) (file : String) :
    let one := view.analyze settings (.empty file)
    let two := other.analyze settings (.empty file)
    one.1.bindings.Perm two.1.bindings ∧ one.1.consumed.Perm two.1.consumed ∧
      one.2.items.Perm two.2.items ∧
      one.1.bindings.map Binding.key = two.1.bindings.map Binding.key ∧
      ((∀ a ∈ one.1.bindings, ∀ b ∈ one.1.bindings, a.key = b.key → a = b) →
        one.1.bindings = two.1.bindings) := by
  intro one two
  have hone : one = _ := analyze_eq settings view (.empty file)
  have htwo : two = _ := analyze_eq settings other (.empty file)
  have hdeclared := h.declarations_perm settings.annotationName
  have hbindings : (view.declaredBindings settings.annotationName).Perm
      (other.declaredBindings settings.annotationName) :=
    hdeclared.flatMap_right Declaration.bindings
  rw [hone, htwo]
  refine ⟨Binding.sort_perm_sort hbindings, hdeclared.flatMap_right _,
    hdeclared.flatMap_right _, Binding.map_key_sort_of_perm hbindings, fun hkeys => ?_⟩
  refine Binding.sort_eq_of_perm hbindings fun a ha b hb => hkeys a ?_ b ?_
  · exact (Binding.sort_perm _).mem_iff.mpr ha
  · exact (Binding.sort_perm _).mem_iff.mpr hb

/-- Two members that are written the other way round, one of them with its annotations. -/
theorem Rearranged.analyze_perm_two_members :
    let note := fun (text : String) (line : UInt32) =>
      (⟨"Listen", ⟨line, 3⟩, [.string text ⟨line, 11⟩]⟩ : Annotation)
    let view : View := ⟨some "Tabs", ⟨1, 1⟩,
      [⟨some "open", ⟨2, 3⟩, [note "click" 2, note "a:b:c, Body:Click" 3]⟩,
        ⟨some "close", ⟨4, 3⟩, [note "blur" 4]⟩]⟩
    let other : View := ⟨some "Tabs", ⟨1, 1⟩,
      [⟨some "close", ⟨4, 3⟩, [note "blur" 4]⟩,
        ⟨some "open", ⟨2, 3⟩, [note "a:b:c, Body:Click" 3, note "click" 2]⟩]⟩
    let one := view.analyze .usual (.empty "a.ts")
    let two := other.analyze .usual (.empty "a.ts")
    view.Rearranged other ∧
      (∀ a ∈ one.1.bindings, ∀ b ∈ one.1.bindings, a.key = b.key → a = b) ∧
      one.1.bindings = two.1.bindings ∧ one.1.consumed.Perm two.1.consumed := by
  intro note view other one two
  have hrearranged : view.Rearranged other := by
    refine ⟨rfl, rfl, [⟨some "open", ⟨2, 3⟩, [note "a:b:c, Body:Click" 3, note "click" 2]⟩,
      ⟨some "close", ⟨4, 3⟩, [note "blur" 4]⟩], ?_, List.Perm.swap _ _ _⟩
    exact .cons ⟨rfl, rfl, List.Perm.swap _ _ _⟩ (.cons ⟨rfl, rfl, List.Perm.refl _⟩ .nil)
  have hkeys : ∀ a ∈ one.1.bindings, ∀ b ∈ one.1.bindings, a.key = b.key → a = b := by
    have hone : one = _ := analyze_eq .usual view (.empty "a.ts")
    have hdeclared : ∀ a ∈ view.declaredBindings "Listen", ∀ b ∈ view.declaredBindings "Listen",
        a.key = b.key → a = b := by decide
    rw [hone]
    intro a ha b hb
    exact hdeclared a ((Binding.sort_perm _).mem_iff.mp ha) b ((Binding.sort_perm _).mem_iff.mp hb)
  obtain ⟨-, hconsumed, -, -, hbindings⟩ := hrearranged.analyze_perm .usual "a.ts"
  exact ⟨hrearranged, hkeys, hbindings hkeys, hconsumed⟩

end View

end Listeners
