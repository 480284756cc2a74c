/-
Which objects can be evaluated, and to what.

An object literal is evaluated from its first property to its last, and each of them may stop
the evaluation or replace what an earlier one has written.  Of the whole object two things
can be said that mention no order of evaluation: it can be evaluated exactly if it is readable,
that is, if all its properties are written out with scalars for values; and then a key has
the value of the last property that is written with it.  If it cannot be evaluated, the first
property that is not readable is to blame, whatever stands behind it.
-/
import Listeners.Proofs.Declared

namespace Listeners

namespace View

/-- Whether a value is null, a truth value, a finite number or a text. -/
def Literal.isScalar : Literal → Bool
  | .null | .boolean _ | .string _ => true
  | .number value => value.isFinite
  | .object _ | .other _ => false

/-- Whether a property is written out with a scalar for its value. -/
def Property.isReadable : Property → Bool
  | .entry _ value => value.isScalar
  | .unsupported _ => false

/-- Whether all properties of an object are readable. -/
def isReadable (properties : List Property) : Bool := properties.all (·.isReadable)

/-- The value that a property gives to a key. -/
def Property.value? (key : String) : Property → Option Literal
  | .entry written value => if written = key then some value else none
  | .unsupported _ => none

/-- The value of the last property with a key. -/
def lastValue? (key : String) (properties : List Property) : Option Literal :=
  properties.reverse.findSome? (·.value? key)

/-- A scalar as a JSON value. -/
def Literal.json : Literal → Json
  | .boolean value => .boolean value
  | .number value => .double value
  | .string value => .string value
  | .null | .object _ | .other _ => .null

/-- What is to blame in a property that is not readable. -/
def Property.obstacle : Property → String
  | .unsupported kind => kind
  | .entry _ (.object _) => "nested object"
  | .entry _ (.other kind) => kind
  | .entry _ _ => "non-finite number"

/-! ### One property -/

theorem Literal.evaluate_of_isScalar {value : Literal} (h : value.isScalar = true) :
    value.evaluate = .ok value.json := by
  cases value with
  | null => rfl
  | boolean value => rfl
  | number value => exact if_pos h
  | string value => rfl
  | object properties => cases h
  | other kind => cases h

theorem Property.evaluate_of_not_isReadable {property : Property}
    (h : property.isReadable = false) : property.evaluate = .error ⟨property.obstacle⟩ := by
  cases property with
  | unsupported kind => rfl
  | entry key value =>
      cases value with
      | null => cases h
      | boolean value => cases h
      | number value =>
          have hfinite : value.isFinite = false := h
          simp [evaluate, Literal.evaluate, hfinite, obstacle]
      | string value => cases h
      | object properties => rfl
      | other kind => rfl

/-- The value of a key is written by a property behind which the key is not written again. -/
theorem lastValue?_eq_some_iff {key : String} {properties : List Property} {value : Literal} :
    lastValue? key properties = some value ↔
      ∃ before property after, properties = before ++ property :: after ∧
        property.value? key = some value ∧ ∀ later ∈ after, later.value? key = none := by
  unfold lastValue?
  rw [List.findSome?_eq_some_iff]
  constructor
  · rintro ⟨after, property, before, hsplit, hvalue, hafter⟩
    refine ⟨before.reverse, property, after.reverse, ?_, hvalue, ?_⟩
    · rw [← List.reverse_reverse properties, hsplit]
      simp
    · intro later hlater
      exact hafter later (List.mem_reverse.mp hlater)
  · rintro ⟨before, property, after, rfl, hvalue, hafter⟩
    refine ⟨after.reverse, property, before.reverse, by simp, hvalue, ?_⟩
    intro later hlater
    exact hafter later (List.mem_reverse.mp hlater)

theorem lastValue?_cons (key : String) (property : Property) (properties : List Property) :
    lastValue? key (property :: properties) =
      (lastValue? key properties).or (property.value? key) := by
  unfold lastValue?
  rw [List.reverse_cons, List.findSome?_append, List.findSome?_singleton]

/-- Properties with other keys have no part in the value of a key. -/
theorem lastValue?_filter {key : String} {keep : Property → Bool}
    (hkeep : ∀ property value, property.value? key = some value → keep property = true)
    (properties : List Property) :
    lastValue? key (properties.filter keep) = lastValue? key properties := by
  induction properties with
  | nil => rfl
  | cons property properties ih =>
      rw [lastValue?_cons]
      cases hkept : keep property with
      | true => rw [List.filter_cons_of_pos hkept, lastValue?_cons, ih]
      | false =>
          have hnone : property.value? key = none := by
            refine Option.eq_none_iff_forall_ne_some.mpr fun value hvalue => ?_
            rw [hkeep property value hvalue] at hkept
            cases hkept
          rw [List.filter_cons_of_neg (by simp [hkept]), hnone, Option.or_none, ih]

/-! ### All properties -/

/-- A readable object is evaluated, and what is written before it is replaced key by key. -/
theorem exists_evaluateOnto {properties : List Property} (h : isReadable properties = true)
    (fields : Json.Fields) :
    ∃ out, evaluateOnto fields properties = .ok out ∧
      ∀ key, out.find? key =
        ((lastValue? key properties).map Literal.json).or (fields.find? key) := by
  induction properties generalizing fields with
  | nil => exact ⟨fields, rfl, fun key => rfl⟩
  | cons property properties ih =>
      rw [isReadable, List.all_cons, Bool.and_eq_true] at h
      obtain ⟨hproperty, hrest⟩ := h
      cases property with
      | unsupported kind => cases hproperty
      | entry written value =>
          obtain ⟨out, hout, hfind⟩ := ih hrest (fields.insert written value.json)
          refine ⟨out, ?_, fun key => ?_⟩
          · rw [evaluateOnto, Property.evaluate, Literal.evaluate_of_isScalar hproperty]
            exact hout
          · rw [hfind, Json.Fields.find?_insert, lastValue?_cons, Option.map_or, Option.or_assoc]
            by_cases hkey : key = written
            · subst hkey
              simp [Property.value?]
            · simp [Property.value?, hkey, show ¬written = key from fun e => hkey e.symm]

/-- An object that is not readable has a first property that is not. -/
theorem exists_first_unreadable {properties : List Property}
    (h : isReadable properties = false) :
    ∃ before property after, properties = before ++ property :: after ∧
      isReadable before = true ∧ property.isReadable = false := by
  induction properties with
  | nil => cases h
  | cons property properties ih =>
      cases hproperty : property.isReadable with
      | false => exact ⟨[], property, properties, rfl, rfl, hproperty⟩
      | true =>
          have hrest : isReadable properties = false := by
            rw [isReadable, List.all_cons, hproperty, Bool.true_and] at h
            exact h
          obtain ⟨before, first, after, hsplit, hbefore, hfirst⟩ := ih hrest
          refine ⟨property :: before, first, after, by rw [hsplit, List.cons_append], ?_, hfirst⟩
          rw [isReadable, List.all_cons, hproperty, Bool.true_and]
          exact hbefore

/-- The evaluation stops at the first property that is not readable. -/
theorem evaluateOnto_append {before : List Property} (hbefore : isReadable before = true)
    {property : Property} (hproperty : property.isReadable = false) (after : List Property)
    (fields : Json.Fields) :
    evaluateOnto fields (before ++ property :: after) = .error ⟨property.obstacle⟩ := by
  induction before generalizing fields with
  | nil =>
      rw [List.nil_append, evaluateOnto, Property.evaluate_of_not_isReadable hproperty]
      rfl
  | cons first rest ih =>
      rw [isReadable, List.all_cons, Bool.and_eq_true] at hbefore
      obtain ⟨hfirst, hrest⟩ := hbefore
      cases first with
      | unsupported kind => cases hfirst
      | entry key value =>
          rw [List.cons_append, evaluateOnto, Property.evaluate,
            Literal.evaluate_of_isScalar hfirst]
          exact ih hrest (fields.insert key value.json)

/-- **A readable object is evaluated**, and each key has the value of the last property that is
written with it. -/
theorem exists_evaluate {properties : List Property} (h : isReadable properties = true) :
    ∃ fields, evaluate properties = .ok fields ∧
      ∀ key, fields.find? key = (lastValue? key properties).map Literal.json := by
  obtain ⟨fields, hfields, hfind⟩ := exists_evaluateOnto h []
  exact ⟨fields, hfields, fun key => by rw [hfind]; exact Option.or_none⟩

/-- An object that is not readable is not evaluated. -/
theorem evaluate_of_not_isReadable {properties : List Property}
    (h : isReadable properties = false) : ∃ e, evaluate properties = .error e := by
  obtain ⟨before, property, after, rfl, hbefore, hproperty⟩ := exists_first_unreadable h
  exact ⟨_, evaluateOnto_append hbefore hproperty after []⟩

/-- **An object that is not evaluated** has a first property that is not readable, and this
is the one to blame. -/
theorem evaluate_eq_error_iff {properties : List Property} {e : Unreadable} :
    evaluate properties = .error e ↔
      ∃ before property after, properties = before ++ property :: after ∧
        isReadable before = true ∧ property.isReadable = false ∧ e.kind = property.obstacle := by
  constructor
  · intro h
    cases hreadable : isReadable properties with
    | true =>
        obtain ⟨fields, hfields, -⟩ := exists_evaluate hreadable
        rw [hfields] at h
        cases h
    | false =>
        obtain ⟨before, property, after, hsplit, hbefore, hproperty⟩ :=
          exists_first_unreadable hreadable
        refine ⟨before, property, after, hsplit, hbefore, hproperty, ?_⟩
        rw [hsplit, evaluate, evaluateOnto_append hbefore hproperty] at h
        cases h
        rfl
  · rintro ⟨before, property, after, rfl, hbefore, hproperty, hkind⟩
    rw [evaluate, evaluateOnto_append hbefore hproperty, ← hkind]

end View

/-- Something is wrong with the options exactly if they stand in an object that is not readable. -/
theorem Declaration.optionsFault?_eq_none_iff {file : String} {d : Declaration} :
    d.optionsFault? file = none ↔
      ∀ properties, d.options = some properties → View.isReadable properties = true := by
  unfold optionsFault?
  cases d.options with
  | none => simp
  | some properties =>
      cases h : View.isReadable properties with
      | true =>
          obtain ⟨fields, hfields, -⟩ := View.exists_evaluate h
          simp [hfields, h]
      | false =>
          obtain ⟨e, he⟩ := View.evaluate_of_not_isReadable h
          simp [he, h]

end Listeners
