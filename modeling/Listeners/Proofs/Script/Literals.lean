/-
Which object literals of a source can be evaluated.

Nothing of a source is ever run.  The properties of an object literal are first made into
properties of a view, and these are evaluated: two recursions, and between them all that is not
a literal is turned into a word that describes it.  Here the outcome is said of the tree of the
source alone.  A property counts if it is written out as a key and a value, and the value, without
the parentheses around it, is one of five things: null, a truth value, a text, a finite number, or
a minus sign with a finite number directly behind it.

Parentheses are looked through however many there are, but only around the whole value.  Those
between a minus sign and its number are not, nor is a second minus sign: what stands behind
the first has to be a number as it is.
-/
import Listeners.Proofs.Evaluation
import Listeners.Proofs.Finite
import Listeners.Script.View

namespace Listeners.Script

/-- What an expression is without the parentheses around it. -/
def Node.unwrapped : Node → Node
  | .parenthesized inner => inner.unwrapped
  | node => node

/-- An expression without parentheses around it is a scalar that is written out, with a value. -/
inductive Node.Spells : Node → Json → Prop
  | null : Spells .null .null
  | boolean (value : Bool) : Spells (.boolean value) (.boolean value)
  | string (value : String) : Spells (.string value) (.string value)
  | number {value : Double} (finite : value.isFinite = true) :
      Spells (.number value) (.double value)
  | negative {value : Double} (finite : value.isFinite = true) :
      Spells (.negation (.number value)) (.double value.neg)

/-- Whether an expression without parentheses around it is anything but a literal or the negative
of a number: a name, a call, an object, an operation, ... -/
def Node.isComputed : Node → Bool
  | .null | .boolean _ | .number _ | .string _ | .negation (.number _) => false
  | _ => true

/-- A property is written out as a key and a value. -/
def Property.Writes (property : Property) (key : String) (json : Json) : Prop :=
  ∃ written value, property = .entry written value ∧ written.text? = some key ∧
    value.unwrapped.Spells json

/-- A property counts: it is written out with some key and some value. -/
def Property.IsPlain (property : Property) : Prop := ∃ key json, property.Writes key json

/-- What is to blame in a value that is no scalar. -/
def Node.obstacle : Node → String
  | .object _ => "nested object"
  | .number _ | .negation (.number _) => "non-finite number"
  | node => node.kind

/-- What is to blame in a property that does not count. -/
def Property.obstacle : Property → String
  | .spread _ => "spread property"
  | .accessor .. => "accessor"
  | .method .. => "method"
  | .entry key value => if key.text?.isNone then "computed key" else value.unwrapped.obstacle

/-! ### One value -/

theorem Node.literal_unwrapped (node : Node) : node.unwrapped.literal = node.literal := by
  fun_induction Node.unwrapped node with
  | case1 inner ih => rw [ih, Node.literal]
  | case2 node h => rfl

theorem Node.unwrapped_ne_parenthesized (node inner : Node) :
    node.unwrapped ≠ .parenthesized inner := by
  fun_induction Node.unwrapped node with
  | case1 inner ih => exact ih
  | case2 node h => exact h inner

/-- What spells a scalar is seen as that scalar. -/
theorem Node.Spells.literal_eq {value : Node} {json : Json} (h : value.Spells json) :
    value.literal.isScalar = true ∧ value.literal.json = json := by
  cases h with
  | null => exact ⟨rfl, rfl⟩
  | boolean value => exact ⟨rfl, rfl⟩
  | string value => exact ⟨rfl, rfl⟩
  | number finite => exact ⟨finite, rfl⟩
  | negative finite => exact ⟨(Double.isFinite_neg _).trans finite, rfl⟩

/-- What does not is seen as something that is no scalar, and is to blame as itself. -/
theorem Node.literal_of_not_spells {value : Node} (hbare : ∀ inner, value ≠ .parenthesized inner)
    (h : ∀ json, ¬value.Spells json) (key : String) :
    value.literal.isScalar = false ∧
      (View.Property.entry key value.literal).obstacle = value.obstacle := by
  cases value with
  | null => exact absurd .null (h _)
  | boolean value => exact absurd (.boolean value) (h _)
  | string value => exact absurd (.string value) (h _)
  | number value =>
      have hfinite : value.isFinite = false := by
        by_contra hfinite
        exact h _ (.number (by simpa using hfinite))
      exact ⟨hfinite, rfl⟩
  | parenthesized inner => exact absurd rfl (hbare inner)
  | negation operand =>
      cases operand with
      | number value =>
          have hfinite : value.isFinite = false := by
            by_contra hfinite
            exact h _ (.negative (by simpa using hfinite))
          exact ⟨(Double.isFinite_neg _).trans hfinite, rfl⟩
      | _ => exact ⟨rfl, rfl⟩
  | _ => exact ⟨rfl, rfl⟩

/-! ### One property -/

namespace Property

/-- A property that is written out is seen with its key and its value. -/
theorem Writes.view_eq {property : Property} {key : String} {json : Json}
    (h : property.Writes key json) :
    ∃ literal, property.view = .entry key literal ∧ literal.isScalar = true ∧
      literal.json = json := by
  obtain ⟨written, value, rfl, htext, hspells⟩ := h
  obtain ⟨hscalar, hjson⟩ := hspells.literal_eq
  rw [value.literal_unwrapped] at hscalar hjson
  refine ⟨value.literal, ?_, hscalar, hjson⟩
  rw [view, htext]

/-- A property that does not count is seen as one that is not readable, and for the same
reason. -/
theorem view_of_not_isPlain {property : Property} (h : ¬property.IsPlain) :
    property.view.isReadable = false ∧ property.view.obstacle = property.obstacle := by
  cases property with
  | spread value => exact ⟨rfl, rfl⟩
  | accessor key parts => exact ⟨rfl, rfl⟩
  | method key parts => exact ⟨rfl, rfl⟩
  | entry key value =>
      cases htext : key.text? with
      | none =>
          have hview : (entry key value).view = .unsupported "computed key" := by
            rw [view, htext]
          rw [hview]
          refine ⟨rfl, ?_⟩
          rw [obstacle, htext]
          rfl
      | some text =>
          have hview : (entry key value).view = .entry text value.unwrapped.literal := by
            rw [view, htext, value.literal_unwrapped]
          have hspells : ∀ json, ¬value.unwrapped.Spells json := by
            intro json hspells
            exact h ⟨text, json, key, value, rfl, htext, hspells⟩
          obtain ⟨hscalar, hobstacle⟩ :=
            Node.literal_of_not_spells value.unwrapped_ne_parenthesized hspells text
          rw [hview]
          refine ⟨hscalar, ?_⟩
          rw [hobstacle, obstacle, htext]
          rfl

theorem isReadable_view_iff {property : Property} :
    property.view.isReadable = true ↔ property.IsPlain := by
  constructor
  · intro hreadable
    by_contra hplain
    rw [(view_of_not_isPlain hplain).1] at hreadable
    cases hreadable
  · rintro ⟨key, json, hwrites⟩
    obtain ⟨literal, hview, hscalar, -⟩ := hwrites.view_eq
    rw [hview]
    exact hscalar

/-- Of a property that counts, the value is read where it is written. -/
theorem IsPlain.writes_iff {property : Property} (h : property.IsPlain) {key : String}
    {json : Json} :
    property.Writes key json ↔
      ∃ literal, property.view.value? key = some literal ∧ literal.json = json := by
  constructor
  · intro hwrites
    obtain ⟨literal, hview, -, hjson⟩ := hwrites.view_eq
    refine ⟨literal, ?_, hjson⟩
    rw [hview, View.Property.value?, if_pos rfl]
  · rintro ⟨literal, hvalue, rfl⟩
    obtain ⟨text, json, hwrites⟩ := h
    obtain ⟨written, hview, -, rfl⟩ := hwrites.view_eq
    rw [hview, View.Property.value?, Option.ite_none_right_eq_some] at hvalue
    obtain ⟨rfl, hliteral⟩ := hvalue
    rw [← Option.some.inj hliteral]
    exact hwrites

theorem IsPlain.value?_eq_none_iff {property : Property} (h : property.IsPlain) {key : String} :
    property.view.value? key = none ↔ ∀ json, ¬property.Writes key json := by
  rw [Option.eq_none_iff_forall_ne_some]
  constructor
  · intro hnone json hwrites
    obtain ⟨literal, hvalue, -⟩ := h.writes_iff.mp hwrites
    exact hnone literal hvalue
  · intro hnone literal hvalue
    exact hnone literal.json (h.writes_iff.mpr ⟨literal, hvalue, rfl⟩)

end Property

/-! ### All properties -/

theorem viewProperties_eq_map (properties : List Property) :
    viewProperties properties = properties.map Property.view := by
  induction properties with
  | nil => rfl
  | cons property properties ih => rw [viewProperties, ih, List.map_cons]

theorem isReadable_viewProperties_iff {properties : List Property} :
    View.isReadable (viewProperties properties) = true ↔
      ∀ property ∈ properties, property.IsPlain := by
  rw [View.isReadable, viewProperties_eq_map, List.all_map, List.all_eq_true]
  constructor
  · intro h property hproperty
    exact Property.isReadable_view_iff.mp (h property hproperty)
  · intro h property hproperty
    exact Property.isReadable_view_iff.mpr (h property hproperty)

/-- Nothing that has to be computed counts. -/
theorem not_isPlain_of_isComputed {key : Key} {value : Node}
    (h : value.unwrapped.isComputed = true) : ¬(Property.entry key value).IsPlain := by
  rintro ⟨text, json, _, _, hentry, -, hspells⟩
  cases hentry
  generalize value.unwrapped = bare at h hspells
  cases hspells <;> cases h

/-- A property of the view is seen where it stands in the source. -/
theorem viewProperties_eq_append_iff {properties : List Property}
    {before after : List View.Property} {property : View.Property} :
    viewProperties properties = before ++ property :: after ↔
      ∃ earlier written later, properties = earlier ++ written :: later ∧
        viewProperties earlier = before ∧ written.view = property ∧
        viewProperties later = after := by
  simp only [viewProperties_eq_map]
  rw [List.map_eq_append_iff]
  constructor
  · rintro ⟨earlier, rest, rfl, hearlier, hrest⟩
    obtain ⟨written, later, rfl, hwritten, hlater⟩ := List.map_eq_cons_iff.mp hrest
    exact ⟨earlier, written, later, rfl, hearlier, hwritten, hlater⟩
  · rintro ⟨earlier, written, later, rfl, hearlier, hwritten, hlater⟩
    exact ⟨earlier, written :: later, rfl, hearlier, by rw [List.map_cons, hwritten, hlater]⟩

/-- The value of a key is that of the last property that is written with it. -/
theorem map_lastValue?_viewProperties {properties : List Property}
    (h : ∀ property ∈ properties, property.IsPlain) (key : String) (json : Json) :
    (View.lastValue? key (viewProperties properties)).map View.Literal.json = some json ↔
      ∃ before property after, properties = before ++ property :: after ∧
        property.Writes key json ∧ ∀ later ∈ after, ∀ other, ¬later.Writes key other := by
  rw [Option.map_eq_some_iff]
  constructor
  · rintro ⟨literal, hlast, hjson⟩
    obtain ⟨_, _, _, hsplit, hvalue, hlater⟩ := View.lastValue?_eq_some_iff.mp hlast
    obtain ⟨before, property, after, rfl, -, rfl, rfl⟩ := viewProperties_eq_append_iff.mp hsplit
    have hproperty : property.IsPlain := h property (by simp)
    refine ⟨before, property, after, rfl, hproperty.writes_iff.mpr ⟨literal, hvalue, hjson⟩, ?_⟩
    intro later hmem
    have hplain : later.IsPlain := h later (by simp [hmem])
    refine hplain.value?_eq_none_iff.mp (hlater _ ?_)
    rw [viewProperties_eq_map]
    exact List.mem_map_of_mem hmem
  · rintro ⟨before, property, after, rfl, hwrites, hlater⟩
    have hproperty : property.IsPlain := h property (by simp)
    obtain ⟨literal, hvalue, hjson⟩ := hproperty.writes_iff.mp hwrites
    refine ⟨literal, ?_, hjson⟩
    refine View.lastValue?_eq_some_iff.mpr ⟨viewProperties before, property.view,
      viewProperties after, ?_, hvalue, ?_⟩
    · exact viewProperties_eq_append_iff.mpr ⟨before, property, after, rfl, rfl, rfl, rfl⟩
    · rw [viewProperties_eq_map]
      intro seen hseen
      obtain ⟨later, hmem, rfl⟩ := List.mem_map.mp hseen
      have hplain : later.IsPlain := h later (by simp [hmem])
      exact hplain.value?_eq_none_iff.mpr (hlater later hmem)

/-- An object that is not evaluated has a first property that does not count. -/
theorem evaluate_viewProperties_eq_error_iff {properties : List Property}
    {e : View.Unreadable} :
    View.evaluate (viewProperties properties) = .error e ↔
      ∃ before property after, properties = before ++ property :: after ∧
        (∀ earlier ∈ before, earlier.IsPlain) ∧ ¬property.IsPlain ∧
        e.kind = property.obstacle := by
  rw [View.evaluate_eq_error_iff]
  constructor
  · rintro ⟨_, _, _, hsplit, hbefore, hproperty, hkind⟩
    obtain ⟨before, property, after, rfl, rfl, rfl, -⟩ := viewProperties_eq_append_iff.mp hsplit
    have hplain : ¬property.IsPlain := by
      intro hplain
      rw [Property.isReadable_view_iff.mpr hplain] at hproperty
      cases hproperty
    refine ⟨before, property, after, rfl, isReadable_viewProperties_iff.mp hbefore, hplain, ?_⟩
    rw [hkind, (Property.view_of_not_isPlain hplain).2]
  · rintro ⟨before, property, after, rfl, hbefore, hplain, hkind⟩
    obtain ⟨hproperty, hobstacle⟩ := Property.view_of_not_isPlain hplain
    refine ⟨viewProperties before, property.view, viewProperties after, ?_,
      isReadable_viewProperties_iff.mpr hbefore, hproperty, hkind.trans hobstacle.symm⟩
    exact viewProperties_eq_append_iff.mpr ⟨before, property, after, rfl, rfl, rfl, rfl⟩

/-- **Nothing that is not a literal reaches the options.**  An object literal of a source is
evaluated if and only if each of its properties is written out as a key and a value, where the
value, without the parentheses around it, is null, a truth value, a text, a finite number or a
minus sign directly before a finite number.  Then a key has the value of the last property
that is written with it.  Otherwise the first property that is not of this kind is to blame.
A value that has to be computed (a name, a template, a cast, an operation, a nested object)
stands in no object that is evaluated. -/
theorem evaluate_viewProperties (properties : List Property) :
    ((∃ fields, View.evaluate (viewProperties properties) = .ok fields) ↔
        ∀ property ∈ properties, property.IsPlain) ∧
      (∀ fields, View.evaluate (viewProperties properties) = .ok fields → ∀ key json,
        fields.find? key = some json ↔
          ∃ before property after, properties = before ++ property :: after ∧
            property.Writes key json ∧ ∀ later ∈ after, ∀ other, ¬later.Writes key other) ∧
      (∀ e, View.evaluate (viewProperties properties) = .error e →
        ∃ before property after, properties = before ++ property :: after ∧
          (∀ earlier ∈ before, earlier.IsPlain) ∧ ¬property.IsPlain ∧
          e.kind = property.obstacle) ∧
      ∀ key value, Property.entry key value ∈ properties → value.unwrapped.isComputed = true →
        ∃ e, View.evaluate (viewProperties properties) = .error e := by
  have hplain : (∃ fields, View.evaluate (viewProperties properties) = .ok fields) ↔
      ∀ property ∈ properties, property.IsPlain := by
    rw [← isReadable_viewProperties_iff]
    constructor
    · rintro ⟨fields, hfields⟩
      by_contra hunreadable
      obtain ⟨e, he⟩ := View.evaluate_of_not_isReadable (by simpa using hunreadable)
      rw [hfields] at he
      cases he
    · intro hreadable
      obtain ⟨fields, hfields, -⟩ := View.exists_evaluate hreadable
      exact ⟨fields, hfields⟩
  refine ⟨hplain, ?_, ?_, ?_⟩
  · intro fields hfields key json
    have hall : ∀ property ∈ properties, property.IsPlain := hplain.mp ⟨fields, hfields⟩
    obtain ⟨found, hfound, hfind⟩ :=
      View.exists_evaluate (isReadable_viewProperties_iff.mpr hall)
    have hsame : fields = found := by
      rw [hfields] at hfound
      exact Except.ok.inj hfound
    rw [hsame, hfind, map_lastValue?_viewProperties hall]
  · intro e he
    exact evaluate_viewProperties_eq_error_iff.mp he
  · intro key value hmem hcomputed
    refine View.evaluate_of_not_isReadable ?_
    by_contra hreadable
    have hall := isReadable_viewProperties_iff.mp (by simpa using hreadable)
    exact not_isPlain_of_isComputed hcomputed (hall _ hmem)

/-- A key that is written twice, the second time with a negative number in parentheses; and the
same object with a minus sign before parentheses behind it. -/
theorem evaluate_viewProperties_delay :
    let one : Double := ⟨0x3FF0000000000000⟩
    let plain : List Property :=
      [.entry (.identifier "delay") (.boolean true),
        .entry (.string "delay") (.parenthesized (.negation (.number one)))]
    let computed : List Property :=
      plain ++ [.entry (.identifier "capture") (.negation (.parenthesized (.number one)))]
    (∃ fields, View.evaluate (viewProperties plain) = .ok fields ∧
        fields.find? "delay" = some (.double one.neg)) ∧
      ∃ before property after, computed = before ++ property :: after ∧
        (∀ earlier ∈ before, earlier.IsPlain) ∧ ¬property.IsPlain ∧
        "unary expression" = property.obstacle := by
  intro one plain computed
  have hfinite : one.isFinite = true := by decide
  have htrue : (Property.entry (.identifier "delay") (.boolean true)).Writes "delay"
      (.boolean true) := ⟨_, _, rfl, rfl, .boolean true⟩
  have hminus : (Property.entry (.string "delay") (.parenthesized (.negation (.number one)))).Writes
      "delay" (.double one.neg) := ⟨_, _, rfl, rfl, .negative hfinite⟩
  obtain ⟨hplain, hvalue, -, -⟩ := evaluate_viewProperties plain
  obtain ⟨-, -, hfault, -⟩ := evaluate_viewProperties computed
  have hall : ∀ property ∈ plain, property.IsPlain := by
    intro property hproperty
    rcases List.mem_cons.mp hproperty with rfl | hproperty
    · exact ⟨_, _, htrue⟩
    · rw [List.mem_singleton.mp hproperty]
      exact ⟨_, _, hminus⟩
  obtain ⟨fields, hfields⟩ := hplain.mpr hall
  have hcomputed : View.evaluate (viewProperties computed) = .error ⟨"unary expression"⟩ :=
    evaluate_viewProperties_eq_error_iff.mpr
      ⟨plain, _, [], rfl, hall, not_isPlain_of_isComputed rfl, rfl⟩
  refine ⟨⟨fields, hfields, ?_⟩, hfault _ hcomputed⟩
  exact (hvalue fields hfields "delay" (.double one.neg)).mpr
    ⟨[.entry (.identifier "delay") (.boolean true)], _, [], rfl, hminus, by simp⟩

end Listeners.Script
