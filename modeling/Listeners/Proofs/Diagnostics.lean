/-
The diagnostics of a class.

What the pass records is said declaration by declaration: what is wrong with the options
comes first, then what is wrong with the names.  Only a rejected name is fatal, and a name
is either bound or rejected, so bindings and fatal diagnostics together are as many as the
names that are listed.  An annotation that cannot be used leaves no trace: the class without
it is analysed in the same way.
-/
import Listeners.Proofs.Order
import Listeners.Proofs.Pass

namespace Listeners

namespace Declaration

/-! ### One diagnostic or one binding for each name -/

theorem isFatal_of_optionsFault? {file : String} {d : Declaration} {diagnostic : Diagnostic}
    (h : d.optionsFault? file = some diagnostic) : diagnostic.isFatal = false := by
  unfold optionsFault? at h
  split at h
  · cases h
    rfl
  · cases h

theorem isFatal_of_nameFault? {file name : String} {d : Declaration} {diagnostic : Diagnostic}
    (h : d.nameFault? file name = some diagnostic) : diagnostic.isFatal = true := by
  obtain ⟨rejection, -, rfl⟩ := nameFault?_eq_some_iff.mp h
  rfl

/-- The fatal diagnostics of a declaration are those of its names. -/
theorem filter_isFatal_faults (file : String) (d : Declaration) :
    (d.faults file).filter (·.isFatal) = d.names.filterMap (d.nameFault? file) := by
  unfold faults
  have hoptions : (d.optionsFault? file).toList.filter (·.isFatal) = [] := by
    cases h : d.optionsFault? file with
    | none => rfl
    | some diagnostic => simp [isFatal_of_optionsFault? h]
  have hnames : ∀ diagnostic ∈ d.names.filterMap (d.nameFault? file),
      diagnostic.isFatal = true := by
    intro diagnostic hmem
    obtain ⟨name, -, hname⟩ := List.mem_filterMap.mp hmem
    exact isFatal_of_nameFault? hname
  rw [List.filter_append, hoptions, List.nil_append, List.filter_eq_self.mpr hnames]

/-- Each name is bound or rejected, and not both. -/
theorem length_bindings_add_fatal (file : String) (d : Declaration) :
    d.bindings.length + ((d.faults file).filter (·.isFatal)).length = d.names.length := by
  rw [filter_isFatal_faults]
  unfold bindings
  induction d.names with
  | nil => rfl
  | cons name names ih =>
      have hone : (d.binding? name).toList.length + (d.nameFault? file name).toList.length = 1 := by
        unfold binding? nameFault?
        cases Specifier.parse name <;> rfl
      rw [List.filterMap_cons, List.filterMap_cons, List.length_cons]
      cases hb : d.binding? name <;> cases hf : d.nameFault? file name <;>
        simp only [hb, hf, Option.toList_none, Option.toList_some, List.length_cons,
          List.length_nil] at hone ⊢ <;> omega

end Declaration

namespace View

/-! ### Classes without some of their annotations -/

/-- Whether an annotation of a member can be used: the member has a name other than blanks,
and an argument is a string. -/
def Annotation.isUsable (member : Member) (note : Annotation) : Bool :=
  member.name.any (Text.trim · ≠ "") && note.arguments.any (·.text?.isSome)

/-- A class with only some of its annotations. -/
def keeping (keep : Member → Annotation → Bool) (view : View) : View :=
  { view with members := view.members.map fun member =>
      { member with annotations := member.annotations.filter (keep member) } }

/-- The annotations that can be used are those that declare something. -/
theorem isUsable_iff {member : Member} {note : Annotation} :
    note.isUsable member = true ↔ ∃ d, note.declaration? member = some d := by
  unfold Annotation.isUsable
  rw [Bool.and_eq_true, Option.any_eq_true, List.any_eq_true]
  constructor
  · rintro ⟨⟨name, hname, hblank⟩, argument, hmem, hargument⟩
    have htext : note.text?.isSome = true :=
      List.findSome?_isSome_iff.mpr ⟨argument, hmem, hargument⟩
    obtain ⟨text, htext⟩ := Option.isSome_iff_exists.mp htext
    exact ⟨_, declaration?_eq_some_iff.mpr
      ⟨name, text, hname, by simpa using hblank, htext, rfl⟩⟩
  · rintro ⟨d, hd⟩
    obtain ⟨name, text, hname, hblank, htext, -⟩ := declaration?_eq_some_iff.mp hd
    obtain ⟨argument, hmem, hargument⟩ := List.exists_of_findSome?_eq_some htext
    exact ⟨⟨name, hname, by simpa using hblank⟩, argument, hmem, by rw [hargument]; rfl⟩

/-- What an annotation declares does not depend on the annotations beside it. -/
@[simp] theorem declaration?_beside (member : Member) (notes : List Annotation)
    (note : Annotation) :
    note.declaration? { member with annotations := notes } = note.declaration? member :=
  declaration?_congr rfl note

/-- A class declares the same if it loses annotations that declare nothing. -/
theorem declarations_keeping {name : String} {view : View}
    {keep : Member → Annotation → Bool}
    (hkeep : ∀ member note, note.name = name → (note.declaration? member).isSome = true →
      keep member note = true) :
    (view.keeping keep).declarations name = view.declarations name := by
  unfold keeping declarations
  rw [List.flatMap_map]
  refine List.flatMap_congr fun member _ => ?_
  rw [List.filterMap_filter, List.filterMap_filter, List.filterMap_filter]
  refine List.filterMap_congr fun note _ => ?_
  by_cases hnamed : note.name = name
  · cases hdeclared : note.declaration? member with
    | none => simp [hnamed, hdeclared]
    | some d =>
        have hkept : keep member note = true := hkeep member note hnamed (by rw [hdeclared]; rfl)
        simp [hnamed, hdeclared, hkept]
  · simp [hnamed]

/-- The class without the annotations of a name that cannot be used. -/
def withoutUnusable (name : String) (view : View) : View :=
  view.keeping fun member note => note.name ≠ name || note.isUsable member

theorem declarations_withoutUnusable (name : String) (view : View) :
    (view.withoutUnusable name).declarations name = view.declarations name := by
  refine declarations_keeping fun member note hnamed hdeclared => ?_
  rw [isUsable_iff.mpr (Option.isSome_iff_exists.mp hdeclared), Bool.or_true]

/-- The names that a class lists are as many as the bindings and the fatal diagnostics that
they give. -/
theorem length_declaredBindings_add_fatal (name file : String) (view : View) :
    (view.declaredBindings name).length +
        ((view.declaredFaults name file).filter (·.isFatal)).length =
      ((view.declarations name).flatMap (·.names)).length := by
  unfold declaredBindings declaredFaults
  induction view.declarations name with
  | nil => rfl
  | cons d ds ih =>
      have hd := d.length_bindings_add_fatal file
      simp only [List.flatMap_cons, List.filter_append, List.length_append]
      omega

end View

end Listeners
