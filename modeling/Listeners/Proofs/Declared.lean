/-
What a class declares, said without running the pass over it.

The pass walks over members, annotations and the names between commas, and three lists
grow on the way.  What it has to find can be said with none of that.  An annotation can be
used if its member has a name and one of its arguments is a string; it is then a
declaration, which says for which method it is made, which names it lists and in which
object its options are written.  Each name of a declaration, looked at alone, gives either
a binding or a diagnostic.

Nothing here knows of a collector or of what was found before, so a binding can depend on
its own declaration only.  `Proofs/Pass.lean` shows that the pass finds just this.
-/
import Listeners.Analysis
import Listeners.Proofs.Text

namespace Listeners

/-- An annotation that can be used. -/
structure Declaration where
  /-- The name of the member, without blanks around it. -/
  method : String
  location : Location
  /-- The listener names, in the order in which they are written. -/
  names : List String
  /-- The object in which the options are written. -/
  options : Option (List View.Property)

namespace Declaration

/-- The options of a declaration.  An object that cannot be evaluated writes none. -/
def written (d : Declaration) : WrittenOptions :=
  match d.options.map View.evaluate with
  | some (.ok fields) => .ofFields fields
  | _ => .none

/-- What is registered under one of the names, if it is a listener name. -/
def binding? (d : Declaration) (name : String) : Option Binding :=
  match Specifier.parse name with
  | .ok specifier =>
    let flags := d.written.resolve specifier.coreName
    some ⟨name, d.method, flags.capture, flags.passive, flags.disabled⟩
  | .error _ => none

/-- A name is bound exactly if it is a listener name, and then it is known as what. -/
theorem binding?_eq_some_iff {d : Declaration} {name : String} {binding : Binding} :
    d.binding? name = some binding ↔
      ∃ specifier, Specifier.parse name = .ok specifier ∧
        binding =
          ⟨name, d.method, (d.written.resolve specifier.coreName).capture,
            (d.written.resolve specifier.coreName).passive,
            (d.written.resolve specifier.coreName).disabled⟩ := by
  unfold binding?
  cases Specifier.parse name <;> simp [eq_comm]

/-- The bindings of a declaration, in the order of its names. -/
def bindings (d : Declaration) : List Binding := d.names.filterMap d.binding?

/-- The annotation to be dropped from the code, if anything is bound by it. -/
def consumed (d : Declaration) : List Consumed :=
  if d.bindings = [] then [] else [⟨d.method, d.location⟩]

/-- What is wrong with the options. -/
def optionsFault? (file : String) (d : Declaration) : Option Diagnostic :=
  match d.options.map View.evaluate with
  | some (.error e) => some {
      code := "L-ERR-OPTIONS"
      severity := .recoverable
      message := "unable to parse listener options for \"" ++ d.method ++ "\": " ++ e.message
      file
      location := d.location
      context := none
      hints := [Rule.options.text] }
  | _ => none

/-- What is wrong with one of the names. -/
def nameFault? (file : String) (d : Declaration) (name : String) : Option Diagnostic :=
  match Specifier.parse name with
  | .ok _ => none
  | .error rejection => some {
      code := rejection.rule.code
      severity := .fatal
      message := rejection.message
      file
      location := d.location
      context := some (d.method ++ "()")
      hints := [rejection.rule.text] }

/-- A name is reported exactly if it is rejected, and then it is known how. -/
theorem nameFault?_eq_some_iff {file : String} {d : Declaration} {name : String}
    {diagnostic : Diagnostic} :
    d.nameFault? file name = some diagnostic ↔
      ∃ rejection, Specifier.parse name = .error rejection ∧
        diagnostic =
          { code := rejection.rule.code
            severity := .fatal
            message := rejection.message
            file
            location := d.location
            context := some (d.method ++ "()")
            hints := [rejection.rule.text] } := by
  unfold nameFault?
  cases Specifier.parse name <;> simp [eq_comm]

/-- What is wrong with a declaration: first the options, then the names in their order. -/
def faults (file : String) (d : Declaration) : List Diagnostic :=
  (d.optionsFault? file).toList ++ d.names.filterMap (d.nameFault? file)

end Declaration

namespace View

/-- The value of an argument that is a string. -/
def Argument.text? : Argument → Option String
  | .string value _ => some value
  | _ => none

/-- The properties of an argument that is an object. -/
def Argument.properties? : Argument → Option (List Property)
  | .object properties _ => some properties
  | _ => none

/-- The value of the first string among the arguments. -/
def Annotation.text? (note : Annotation) : Option String :=
  note.arguments.findSome? (·.text?)

/-- The first object among the arguments from the first string on, which is none itself. -/
def Annotation.object? (note : Annotation) : Option (List Property) :=
  (note.arguments.dropWhile (·.text?.isNone)).findSome? (·.properties?)

/-- The names that a text lists: what stands between its commas, without blanks and quotes,
where anything does. -/
def listedNames (text : String) : List String :=
  (Text.split ',' (bare text)).filter (· ≠ "")

/-- What can stand as a name in a list of names: it is bare, holds no comma and is not
empty. -/
structure IsListable (name : String) : Prop where
  bare : IsBare name
  noComma : ',' ∉ name.toList
  nonempty : name ≠ ""

theorem isListable_of_mem_listedNames {text name : String} (h : name ∈ listedNames text) :
    IsListable name := by
  obtain ⟨hsplit, hne⟩ := List.mem_filter.mp h
  refine ⟨(isBare_bare text).of_mem_split hsplit, ?_, by simpa using hne⟩
  intro hcomma
  exact (Text.forall_mem_of_mem_split hsplit ',' hcomma).1 rfl

/-- A listable name lists itself and nothing else. -/
theorem IsListable.listedNames_eq {name : String} (h : IsListable name) :
    listedNames name = [name] := by
  unfold listedNames
  rw [h.bare.bare_eq, Text.split_of_not_mem h.noComma]
  simp [h.nonempty]

/-- An annotation of a member as a declaration.  It is none if the member has no name other
than blanks, or if no argument is a string. -/
def Annotation.declaration? (member : Member) (note : Annotation) : Option Declaration :=
  match member.name, note.text? with
  | some name, some text =>
    if Text.trim name = "" then none
    else some ⟨Text.trim name, note.location, listedNames text, note.object?⟩
  | _, _ => none

theorem declaration?_eq_some_iff {member : Member} {note : Annotation} {d : Declaration} :
    note.declaration? member = some d ↔
      ∃ name text, member.name = some name ∧ Text.trim name ≠ "" ∧ note.text? = some text ∧
        d = ⟨Text.trim name, note.location, listedNames text, note.object?⟩ := by
  unfold Annotation.declaration?
  constructor
  · intro h
    split at h
    · rename_i name text hname htext
      by_cases hblank : Text.trim name = ""
      · rw [if_pos hblank] at h
        cases h
      · rw [if_neg hblank, Option.some.injEq] at h
        exact ⟨name, text, hname, hblank, htext, h.symm⟩
    · cases h
  · rintro ⟨name, text, hname, hblank, htext, rfl⟩
    simp only [hname, htext, if_neg hblank]

/-- Of its member an annotation needs no more than the name. -/
theorem declaration?_congr {member other : Member} (h : member.name = other.name)
    (note : Annotation) : note.declaration? member = note.declaration? other := by
  unfold Annotation.declaration?
  rw [h]

theorem location_of_declaration? {member : Member} {note : Annotation} {d : Declaration}
    (h : note.declaration? member = some d) : d.location = note.location := by
  obtain ⟨name, text, -, -, -, rfl⟩ := declaration?_eq_some_iff.mp h
  rfl

theorem isListable_of_declaration? {member : Member} {note : Annotation} {d : Declaration}
    (h : note.declaration? member = some d) : ∀ name ∈ d.names, IsListable name := by
  obtain ⟨name, text, -, -, -, rfl⟩ := declaration?_eq_some_iff.mp h
  intro listed hlisted
  simp only at hlisted
  exact isListable_of_mem_listedNames hlisted

/-- The declarations of a class, member by member and annotation by annotation. -/
def declarations (name : String) (view : View) : List Declaration :=
  view.members.flatMap fun member =>
    (member.annotations.filter (·.name = name)).filterMap (·.declaration? member)

/-- The bindings that a class declares, in the order in which they are written. -/
def declaredBindings (name : String) (view : View) : List Binding :=
  (view.declarations name).flatMap Declaration.bindings

/-- What the listeners of a class ought to be. -/
def declaredListeners (name : String) (view : View) : ClassListeners where
  className := view.name
  location := view.location
  bindings := Binding.sort (view.declaredBindings name)
  consumed := (view.declarations name).flatMap Declaration.consumed

/-- What is wrong with the declarations of a class, in the order in which they are
written. -/
def declaredFaults (name file : String) (view : View) : List Diagnostic :=
  (view.declarations name).flatMap (Declaration.faults file)

end View

end Listeners
