/-
An object literal and the object that it evaluates to.

What the evaluation makes of single properties is known (`Proofs/Evaluation.lean`); here it is
said of the object as a whole.  The fields that come out are a map: every key that is written has
one field, and this holds the value that is written last.  Two things make that true.  Giving
a key a value replaces the field that the key has and touches no other, so the keys never
repeat.  And the evaluation of a literal in two parts is the evaluation of the second part onto
the fields of the first, so that what is written last is what is inserted last.

A literal that cannot be evaluated has a first property that is to blame, and this is reported
whatever else is written, also if a later property would have replaced it.
-/
import Listeners.Proofs.Evaluation
import Mathlib.Data.List.Nodup

namespace Listeners

namespace Json.Fields

/-! ### The keys of an object -/

/-- The keys of an object, in their order. -/
def keys (fields : Fields) : List String := fields.map (·.1)

/-- A key that is there already keeps its place, and a new one comes last. -/
theorem keys_insert (fields : Fields) (key : String) (value : Json) :
    (fields.insert key value).keys =
      if key ∈ fields.keys then fields.keys else fields.keys ++ [key] := by
  induction fields with
  | nil => rfl
  | cons field fields ih =>
      obtain ⟨k, v⟩ := field
      by_cases hk : k = key
      · subst hk
        simp [insert, keys]
      · have hne : ¬key = k := fun e => hk e.symm
        unfold keys at ih ⊢
        by_cases hmem : key ∈ fields.map (·.1)
        · rw [if_pos hmem] at ih
          simp [insert, hk, ih, hmem]
        · rw [if_neg hmem] at ih
          simp [insert, hk, ih, hmem, hne]

theorem nodup_keys_insert {fields : Fields} (h : fields.keys.Nodup) (key : String) (value : Json) :
    (fields.insert key value).keys.Nodup := by
  rw [keys_insert]
  by_cases hmem : key ∈ fields.keys
  · rw [if_pos hmem]
    exact h
  · rw [if_neg hmem]
    refine List.nodup_append.mpr ⟨h, List.nodup_singleton key, ?_⟩
    intro k hk other hother e
    rw [List.mem_singleton] at hother
    rw [e, hother] at hk
    exact hmem hk

theorem mem_keys_iff {fields : Fields} {key : String} :
    key ∈ fields.keys ↔ ∃ value, fields.find? key = some value := by
  unfold keys find?
  rw [List.mem_map]
  constructor
  · rintro ⟨field, hfield, rfl⟩
    have hfound : (List.find? (·.1 == field.1) fields).isSome = true := by
      rw [List.find?_isSome]
      exact ⟨field, hfield, beq_self_eq_true field.1⟩
    obtain ⟨found, hfound⟩ := Option.isSome_iff_exists.mp hfound
    exact ⟨found.2, by rw [hfound]; rfl⟩
  · rintro ⟨value, hvalue⟩
    obtain ⟨found, hfound, -⟩ := Option.map_eq_some_iff.mp hvalue
    exact ⟨found, List.mem_of_find?_eq_some hfound, by simpa using List.find?_some hfound⟩

end Json.Fields

namespace View

/-! ### The keys of a literal -/

theorem Property.value?_eq_some_iff {property : Property} {key : String} {value : Literal} :
    property.value? key = some value ↔ property = .entry key value := by
  cases property with
  | unsupported kind => simp [value?]
  | entry written literal => simp [value?]

/-- A key has a value exactly if it is written. -/
theorem exists_lastValue?_iff {key : String} {properties : List Property} :
    (∃ value, lastValue? key properties = some value) ↔
      ∃ value, Property.entry key value ∈ properties := by
  unfold lastValue?
  rw [← Option.isSome_iff_exists, List.findSome?_isSome_iff]
  constructor
  · rintro ⟨property, hproperty, hvalue⟩
    obtain ⟨value, hvalue⟩ := Option.isSome_iff_exists.mp hvalue
    rw [Property.value?_eq_some_iff] at hvalue
    exact ⟨value, by rw [← hvalue]; exact List.mem_reverse.mp hproperty⟩
  · rintro ⟨value, hmem⟩
    refine ⟨.entry key value, List.mem_reverse.mpr hmem, ?_⟩
    rw [Property.value?_eq_some_iff.mpr rfl]
    rfl

/-! ### A literal in two parts -/

/-- The evaluation of a literal in two parts. -/
theorem evaluateOnto_bind (first second : List Property) (fields : Json.Fields) :
    evaluateOnto fields (first ++ second) =
      (evaluateOnto fields first).bind fun found => evaluateOnto found second := by
  induction first generalizing fields with
  | nil => rfl
  | cons property rest ih =>
      rw [List.cons_append, evaluateOnto, evaluateOnto]
      cases property.evaluate with
      | error e => rfl
      | ok field => exact ih (fields.insert field.1 field.2)

/-- A property that is added at the end is inserted into the fields. -/
theorem evaluate_concat {properties : List Property} {fields : Json.Fields}
    (h : evaluate properties = .ok fields) {value : Literal} (hvalue : value.isScalar = true)
    (key : String) :
    evaluate (properties ++ [.entry key value]) = .ok (fields.insert key value.json) := by
  unfold evaluate at h ⊢
  rw [evaluateOnto_bind, h]
  show evaluateOnto fields [.entry key value] = _
  rw [evaluateOnto, Property.evaluate, Literal.evaluate_of_isScalar hvalue]
  rfl

/-- What comes out has no key twice. -/
theorem nodup_keys_of_evaluateOnto {properties : List Property} {fields found : Json.Fields}
    (hfields : fields.keys.Nodup) (h : evaluateOnto fields properties = .ok found) :
    found.keys.Nodup := by
  induction properties generalizing fields with
  | nil =>
      cases h
      exact hfields
  | cons property rest ih =>
      rw [evaluateOnto] at h
      cases hproperty : property.evaluate with
      | error e =>
          rw [hproperty] at h
          cases h
      | ok field =>
          rw [hproperty] at h
          exact ih (Json.Fields.nodup_keys_insert hfields field.1 field.2) h

/-! ### The whole literal -/

theorem isReadable_iff {properties : List Property} :
    isReadable properties = true ↔
      ∀ property ∈ properties, ∃ key value,
        property = .entry key value ∧ value.isScalar = true := by
  rw [isReadable, List.all_eq_true]
  refine forall₂_congr fun property _ => ?_
  cases property with
  | unsupported kind => simp [Property.isReadable]
  | entry key value => simp [Property.isReadable]

theorem isReadable_of_evaluate {properties : List Property} {fields : Json.Fields}
    (h : evaluate properties = .ok fields) : isReadable properties = true := by
  by_contra hreadable
  obtain ⟨e, he⟩ := evaluate_of_not_isReadable (Bool.eq_false_iff.mpr hreadable)
  rw [he] at h
  cases h

/-- **An object literal evaluates to the map of its last values**, and it does so exactly if all
its properties are written out with scalars.  A property that is added at the end gives its key
another value and leaves the other keys alone.  Otherwise the first property that is no such
thing is to blame, whatever stands around it. -/
theorem evaluate_object (properties : List Property) :
    ((∃ fields, evaluate properties = .ok fields) ↔
        ∀ property ∈ properties, ∃ key value,
          property = .entry key value ∧ value.isScalar = true) ∧
      (∀ fields, evaluate properties = .ok fields →
        fields.keys.Nodup ∧
          (∀ key, key ∈ fields.keys ↔ ∃ value, .entry key value ∈ properties) ∧
          (∀ before key value after, properties = before ++ .entry key value :: after →
            (∀ later, .entry key later ∉ after) → fields.find? key = some value.json) ∧
          ∀ key value, value.isScalar = true →
            ∃ more, evaluate (properties ++ [.entry key value]) = .ok more ∧
              more.find? key = some value.json ∧
                ∀ other, other ≠ key → more.find? other = fields.find? other) ∧
      ∀ e, evaluate properties = .error e ↔
        ∃ before property after, properties = before ++ property :: after ∧
          isReadable before = true ∧ property.isReadable = false ∧ e.kind = property.obstacle := by
  refine ⟨?_, ?_, fun e => evaluate_eq_error_iff⟩
  · rw [← isReadable_iff]
    constructor
    · rintro ⟨fields, hfields⟩
      exact isReadable_of_evaluate hfields
    · intro hreadable
      obtain ⟨fields, hfields, -⟩ := exists_evaluate hreadable
      exact ⟨fields, hfields⟩
  · intro fields hfields
    have hlast : ∀ key, fields.find? key = (lastValue? key properties).map Literal.json := by
      obtain ⟨found, hfound, hlast⟩ := exists_evaluate (isReadable_of_evaluate hfields)
      rw [hfields] at hfound
      cases hfound
      exact hlast
    have hnodup : (Json.Fields.keys []).Nodup := List.nodup_nil
    refine ⟨nodup_keys_of_evaluateOnto hnodup hfields, ?_, ?_, ?_⟩
    · intro key
      rw [Json.Fields.mem_keys_iff, hlast, ← exists_lastValue?_iff]
      cases lastValue? key properties with
      | none => simp
      | some value => simp
    · intro before key value after hsplit hafter
      have hvalue : lastValue? key properties = some value := by
        refine lastValue?_eq_some_iff.mpr ⟨before, .entry key value, after, hsplit,
          Property.value?_eq_some_iff.mpr rfl, ?_⟩
        intro later hlater
        refine Option.eq_none_iff_forall_ne_some.mpr fun literal hliteral => ?_
        rw [Property.value?_eq_some_iff] at hliteral
        exact hafter literal (hliteral ▸ hlater)
      rw [hlast, hvalue]
      rfl
    · intro key value hvalue
      refine ⟨fields.insert key value.json, evaluate_concat hfields hvalue key, ?_, ?_⟩
      · rw [Json.Fields.find?_insert, if_pos rfl]
      · intro other hother
        rw [Json.Fields.find?_insert, if_neg hother]

/-- A key that is written twice, in a literal that is readable and in one that is not. -/
theorem evaluate_object_written_twice :
    (∃ fields, evaluate [.entry "passive" (.boolean true), .entry "label" (.string "x"),
        .entry "passive" .null] = .ok fields ∧
      fields.keys.Nodup ∧ fields.find? "passive" = some .null) ∧
    evaluate [.entry "passive" (.object []), .entry "passive" (.boolean true)] =
      .error ⟨"nested object"⟩ := by
  obtain ⟨hreadable, hmap, -⟩ := evaluate_object [.entry "passive" (.boolean true),
    .entry "label" (.string "x"), .entry "passive" .null]
  obtain ⟨-, -, hblame⟩ :=
    evaluate_object [.entry "passive" (.object []), .entry "passive" (.boolean true)]
  obtain ⟨fields, hfields⟩ := hreadable.mpr (isReadable_iff.mp rfl)
  obtain ⟨hkeys, -, hlast, -⟩ := hmap fields hfields
  refine ⟨⟨fields, hfields, hkeys, ?_⟩, ?_⟩
  · exact hlast [.entry "passive" (.boolean true), .entry "label" (.string "x")] "passive" .null []
      rfl fun later => List.not_mem_nil
  · exact (hblame ⟨"nested object"⟩).mpr
      ⟨[], .entry "passive" (.object []), [.entry "passive" (.boolean true)], rfl, rfl, rfl, rfl⟩

end View

end Listeners
