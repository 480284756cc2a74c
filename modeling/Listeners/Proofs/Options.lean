/-
How the options of an annotation become the flags of its bindings.

Flags are the end of a long way: an object is chosen among the arguments, it is evaluated, three
of its keys are looked up, and what is not written there is filled in from what is usual for the
event.  The law of the flags mentions none of these stages.  It says, of a binding and
the annotation that contributes it, which value the last property with a key must have in
the object for a flag to be set.

Two consequences are worth their own words.  An object in which one property is not readable
counts for no more than no object at all, and no binding is lost to it.  And in a readable
object only the properties with the three keys matter.
-/
import Listeners.Proofs.Bindings
import Listeners.Proofs.Evaluation
import Listeners.Proofs.Occurrences

namespace Listeners

namespace View

/-- The value of a key in an object that may be missing.  No value is read off an object that is
not readable. -/
def optionValue? (key : String) : Option (List Property) → Option Literal
  | some properties => if isReadable properties then lastValue? key properties else none
  | none => none

/-- The truth value that a value is, if it is one. -/
def Literal.toBool? : Literal → Option Bool
  | .boolean value => some value
  | .null | .number _ | .string _ | .object _ | .other _ => none

/-- The flag that is written for a key. -/
def writtenFlag? (key : String) (object : Option (List Property)) : Option Bool :=
  (optionValue? key object).bind Literal.toBool?

/-- Whether a property has one of the keys that count. -/
def Property.isFlag : Property → Bool
  | .entry key _ => ["capture", "passive", "enabled"].contains key
  | .unsupported _ => false

theorem Literal.toBool?_json (value : Literal) : value.json.toBool? = value.toBool? := by
  cases value <;> rfl

theorem Literal.toBool?_eq_some_iff {value : Literal} {flag : Bool} :
    value.toBool? = some flag ↔ value = .boolean flag := by
  cases value <;> simp [toBool?]

theorem writtenFlag?_eq_some_iff {key : String} {object : Option (List Property)} {flag : Bool} :
    writtenFlag? key object = some flag ↔ optionValue? key object = some (.boolean flag) := by
  unfold writtenFlag?
  rw [Option.bind_eq_some_iff]
  constructor
  · rintro ⟨value, hvalue, hflag⟩
    rw [hvalue, Literal.toBool?_eq_some_iff.mp hflag]
  · intro hvalue
    exact ⟨.boolean flag, hvalue, rfl⟩

/-- An object that is not readable writes as much as no object. -/
theorem writtenFlag?_of_not_isReadable (key : String) {properties : List Property}
    (h : isReadable properties = false) : writtenFlag? key (some properties) = none := by
  show (if isReadable properties = true then _ else none).bind Literal.toBool? = none
  rw [h]
  rfl

theorem writtenFlag?_of_isReadable (key : String) {properties : List Property}
    (h : isReadable properties = true) :
    writtenFlag? key (some properties) = (lastValue? key properties).bind Literal.toBool? := by
  show (if isReadable properties = true then _ else none).bind Literal.toBool? = _
  rw [if_pos h]

/-- Of a readable object only the properties with keys that count are looked at. -/
theorem writtenFlag?_congr {key : String} (hkey : key ∈ ["capture", "passive", "enabled"])
    {one two : List Property} (hone : isReadable one = true) (htwo : isReadable two = true)
    (h : one.filter (·.isFlag) = two.filter (·.isFlag)) :
    writtenFlag? key (some one) = writtenFlag? key (some two) := by
  have hkeep : ∀ (property : Property) (value : Literal), property.value? key = some value →
      property.isFlag = true := by
    intro property value hvalue
    cases property with
    | unsupported kind => cases hvalue
    | entry written literal =>
        rw [Property.value?, Option.ite_none_right_eq_some] at hvalue
        rw [Property.isFlag, hvalue.1]
        exact List.contains_iff_mem.mpr hkey
  rw [writtenFlag?_of_isReadable key hone, writtenFlag?_of_isReadable key htwo,
    ← lastValue?_filter hkeep one, h, lastValue?_filter hkeep two]

end View

namespace Declaration

theorem written_eq (d : Declaration) :
    d.written = ⟨View.writtenFlag? "capture" d.options, View.writtenFlag? "passive" d.options,
      View.writtenFlag? "enabled" d.options⟩ := by
  unfold written
  cases d.options with
  | none => rfl
  | some properties =>
      cases h : View.isReadable properties with
      | true =>
          obtain ⟨fields, hfields, hfind⟩ := View.exists_evaluate h
          have hflag : ∀ key, (fields.find? key).bind Json.toBool? =
              View.writtenFlag? key (some properties) := by
            intro key
            rw [hfind, View.writtenFlag?_of_isReadable key h]
            cases View.lastValue? key properties with
            | none => rfl
            | some value => exact value.toBool?_json
          simp only [Option.map_some, hfields, WrittenOptions.ofFields, hflag]
      | false =>
          obtain ⟨e, he⟩ := View.evaluate_of_not_isReadable h
          simp only [Option.map_some, he, View.writtenFlag?_of_not_isReadable _ h]
          rfl

/-- The names that are bound are those that are listener names, whatever the options are. -/
theorem map_eventName_bindings (d : Declaration) :
    d.bindings.map (fun b => (b.eventName, b.methodName)) =
      (d.names.filter fun name => (Specifier.parse name).isOk).map fun name =>
        (name, d.method) := by
  unfold bindings
  induction d.names with
  | nil => rfl
  | cons name names ih =>
      rw [List.filterMap_cons, List.filter_cons]
      unfold binding? at ih ⊢
      cases hparse : Specifier.parse name with
      | error rejection => exact ih
      | ok specifier => exact congrArg ((name, d.method) :: ·) ih

/-- Flags that are written in the same way are the same. -/
theorem bindings_congr {d e : Declaration} (hmethod : d.method = e.method)
    (hnames : d.names = e.names) (hwritten : d.written = e.written) : d.bindings = e.bindings := by
  unfold bindings binding?
  rw [hmethod, hnames, hwritten]

end Declaration

/-! ### The law -/

/-- The flags of a binding to an event are those that an object writes. -/
structure Binding.Obeys (binding : Binding) (object : Option (List View.Property))
    (event : String) : Prop where
  capture : binding.capture = true ↔ View.optionValue? "capture" object = some (.boolean true)
  disabled : binding.disabled = true ↔ View.optionValue? "enabled" object = some (.boolean false)
  passive : ∀ flag, View.optionValue? "passive" object = some (.boolean flag) →
    binding.passive = flag
  usuallyPassive : (∀ flag, View.optionValue? "passive" object ≠ some (.boolean flag)) →
    (binding.passive = true ↔ Text.lowercase event ∈ passiveEvents)

theorem Declaration.obeys_of_mem_bindings {d : Declaration} {binding : Binding}
    (h : binding ∈ d.bindings) :
    ∃ specifier, Specifier.parse binding.eventName = .ok specifier ∧
      binding.Obeys d.options specifier.coreName := by
  obtain ⟨name, -, hbinding⟩ := mem_bindings_iff.mp h
  obtain ⟨specifier, hparse, rfl⟩ := binding?_eq_some_iff.mp hbinding
  rw [written_eq]
  refine ⟨specifier, hparse, ?_, ?_, ?_, ?_⟩
  · rw [← View.writtenFlag?_eq_some_iff]
    cases View.writtenFlag? "capture" d.options <;> simp [WrittenOptions.resolve]
  · rw [← View.writtenFlag?_eq_some_iff]
    simp [WrittenOptions.resolve]
  · intro flag hflag
    rw [← View.writtenFlag?_eq_some_iff] at hflag
    simp [WrittenOptions.resolve, hflag]
  · intro hnone
    have hunwritten : View.writtenFlag? "passive" d.options = none :=
      Option.eq_none_iff_forall_ne_some.mpr fun flag hflag =>
        hnone flag (View.writtenFlag?_eq_some_iff.mp hflag)
    simp [WrittenOptions.resolve, hunwritten, isPassiveByDefault]

/-! ### Annotations that differ in their options -/

/-- The annotations are of the same name, of methods of the same name, and have the same text.  They
may differ in where they stand and in their options. -/
structure Occurrence.SameNames (one two : Occurrence) : Prop where
  method : one.member.name = two.member.name
  name : one.note.name = two.note.name
  text : one.note.text? = two.note.text?

namespace Occurrence

/-- What is declared differs in the options only. -/
theorem SameNames.declaration?_eq {one two : Occurrence} (h : one.SameNames two) (name : String) :
    two.declaration? name = (one.declaration? name).map fun d =>
      { d with location := two.note.location, options := two.note.object? } := by
  unfold declaration? View.Annotation.declaration?
  rw [h.name, h.method, h.text]
  split
  · split
    · split
      · rfl
      · rw [Option.map_some]
    · rfl
  · rfl

/-- No binding is lost to the options, and none is gained. -/
theorem SameNames.map_eventName_bindings {one two : Occurrence} (h : one.SameNames two)
    (name : String) :
    (one.bindings name).map (fun b => (b.eventName, b.methodName)) =
      (two.bindings name).map fun b => (b.eventName, b.methodName) := by
  unfold bindings
  rw [h.declaration?_eq name]
  cases one.declaration? name with
  | none => rfl
  | some d =>
      simp only [Option.map_some, Option.toList_some, List.flatMap_singleton,
        Declaration.map_eventName_bindings]

/-- Options that write the same flags give the same bindings. -/
theorem SameNames.bindings_eq {one two : Occurrence} (h : one.SameNames two)
    (hflags : ∀ key ∈ ["capture", "passive", "enabled"],
      View.writtenFlag? key one.note.object? = View.writtenFlag? key two.note.object?)
    (name : String) : one.bindings name = two.bindings name := by
  unfold bindings
  rw [h.declaration?_eq name]
  cases hd : one.declaration? name with
  | none => rfl
  | some d =>
      simp only [Option.map_some, Option.toList_some, List.flatMap_singleton]
      refine Declaration.bindings_congr rfl rfl ?_
      rw [Declaration.written_eq, Declaration.written_eq, options_of_declaration? hd,
        hflags "capture" (by simp), hflags "passive" (by simp), hflags "enabled" (by simp)]

end Occurrence

namespace View

/-- **The law of the flags.**  The bindings of a class are those that its annotations contribute.
A binding captures exactly if the last value of `capture` in the object of its annotation is
true, it is disabled exactly if the last value of `enabled` is false, and it is passive as the
last value of `passive` says, or, if that is no truth value, as is usual for its event.  An object
that is not readable has no values, so it gives the same bindings as no object, with nothing
lost; and the properties of a readable object that have other keys make no difference. -/
theorem flags_analyze (settings : Settings) (view : View) (collector : Collector) :
    let name := settings.annotationName
    (view.analyze settings collector).1.bindings.Perm
        (view.occurrences.flatMap (·.bindings name)) ∧
      (∀ o ∈ view.occurrences, ∀ b ∈ o.bindings name, ∃ specifier,
        Specifier.parse b.eventName = .ok specifier ∧
          b.Obeys o.note.object? specifier.coreName) ∧
      ∀ one two : Occurrence, one.SameNames two →
        (one.bindings name).map (fun b => (b.eventName, b.methodName)) =
            (two.bindings name).map (fun b => (b.eventName, b.methodName)) ∧
          (∀ properties, one.note.object? = some properties → isReadable properties = false →
            two.note.object? = none → one.bindings name = two.bindings name) ∧
          ∀ first second, one.note.object? = some first → two.note.object? = some second →
            isReadable first = true → isReadable second = true →
            first.filter (·.isFlag) = second.filter (·.isFlag) →
            one.bindings name = two.bindings name := by
  intro name
  refine ⟨?_, ?_, fun one two hsame => ⟨hsame.map_eventName_bindings name, ?_, ?_⟩⟩
  · rw [analyze_of_declarations (declarations_eq_filterMap name view)]
    exact Binding.sort_perm _
  · intro o _ b hb
    obtain ⟨d, hd, hb⟩ := List.mem_flatMap.mp hb
    rw [← Occurrence.options_of_declaration? (Option.mem_toList.mp hd)]
    exact Declaration.obeys_of_mem_bindings hb
  · intro properties hone hunreadable htwo
    refine hsame.bindings_eq (fun key _ => ?_) name
    rw [hone, htwo, writtenFlag?_of_not_isReadable key hunreadable]
    rfl
  · intro first second hone htwo hfirst hsecond hfilter
    refine hsame.bindings_eq (fun key hkey => ?_) name
    rw [hone, htwo]
    exact writtenFlag?_congr hkey hfirst hsecond hfilter

/-- An annotation whose object repeats a key, with a property that is not readable and with one
that makes no difference. -/
theorem flags_analyze_repeated_key :
    let note := fun arguments =>
      (⟨"Listen", ⟨2, 3⟩, .string "Scroll" ⟨2, 11⟩ :: arguments⟩ : Annotation)
    let here := fun arguments =>
      Occurrence.mk ⟨some "onMove", ⟨2, 3⟩, [note arguments]⟩ (note arguments)
    let object := fun properties => [Argument.object properties ⟨2, 21⟩]
    let repeated := [Property.entry "capture" (.boolean true),
      .entry "passive" (.boolean false), .entry "passive" (.string "no")]
    let unreadable := .unsupported "spread property" :: repeated
    let longer := .entry "delay" .null :: repeated
    let view : View := ⟨some "Tabs", ⟨1, 1⟩, [(here (object repeated)).member]⟩
    let binding : Binding := ⟨"Scroll", "onMove", true, true, false⟩
    here (object repeated) ∈ view.occurrences ∧
      binding ∈ (here (object repeated)).bindings "Listen" ∧
      (∃ specifier, Specifier.parse "Scroll" = .ok specifier ∧
        binding.Obeys (some repeated) specifier.coreName) ∧
      isReadable unreadable = false ∧ isReadable repeated = true ∧ isReadable longer = true ∧
      (here (object unreadable)).bindings "Listen" = (here []).bindings "Listen" ∧
      (here (object longer)).bindings "Listen" = (here (object repeated)).bindings "Listen" := by
  intro note here object repeated unreadable longer view binding
  have hhere : here (object repeated) ∈ view.occurrences := List.mem_singleton.mpr rfl
  have hbinding : binding ∈ (here (object repeated)).bindings "Listen" := by decide
  have hsame : ∀ first second, (here first).SameNames (here second) :=
    fun first second => ⟨rfl, rfl, rfl⟩
  obtain ⟨-, hobeys, hoptions⟩ := flags_analyze .usual view (.empty "a.ts")
  obtain ⟨-, hnone, -⟩ := hoptions _ _ (hsame (object unreadable) [])
  obtain ⟨-, -, hother⟩ := hoptions _ _ (hsame (object longer) (object repeated))
  exact ⟨hhere, hbinding, hobeys _ hhere binding hbinding, rfl, rfl, rfl,
    hnone unreadable rfl rfl rfl, hother longer repeated rfl rfl rfl rfl rfl⟩

end View

end Listeners
