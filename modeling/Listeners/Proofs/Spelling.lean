/-
Spelling does not matter.

Two authors may write the same listener name differently: with blanks or without, in
quotes or not, in small letters or in capitals.  Classes that differ in nothing else must have
the same listeners, up to the case of the event names, which are kept as they were written,
and the same things wrong with them, up to the messages, in which names are quoted.

To compare two classes, both are compared with a third one, in which every text is laid bare
and written in small letters (`View.folded`).  What the pass finds there is what it finds in the
class itself with the names written in small letters, stage by stage: the texts are cut
at the same places, names are accepted or rejected for the same reasons, and the bindings are
sorted in the same way, as they keep their keys.
-/
import Listeners.Proofs.LetterCase
import Listeners.Proofs.Pass
import Listeners.Proofs.Stability
import Mathlib.Data.List.Forall2

namespace Listeners

/-! ### Classes in small letters -/

namespace View

/-- An argument whose text is laid bare and written in small letters. -/
def Argument.folded : Argument → Argument
  | .string value location => .string (bare value).toLower location
  | .object properties location => .object properties location
  | .other kind location => .other kind location

def Annotation.folded (note : Annotation) : Annotation :=
  { note with arguments := note.arguments.map Argument.folded }

def Member.folded (member : Member) : Member :=
  { member with annotations := member.annotations.map Annotation.folded }

end View

/-- The class with all its texts laid bare and written in small letters.  Classes for which this
is the same differ at most in the spelling of their texts. -/
def View.folded (view : View) : View :=
  { view with members := view.members.map View.Member.folded }

/-- The declaration with its names in small letters. -/
def Declaration.folded (d : Declaration) : Declaration :=
  { d with names := d.names.map String.toLower }

/-- The binding with its event in small letters. -/
def Binding.folded (binding : Binding) : Binding :=
  { binding with eventName := binding.eventName.toLower }

/-- The diagnostic without its message. -/
def Diagnostic.wordless (diagnostic : Diagnostic) : Diagnostic :=
  { diagnostic with message := "" }

/-- The specifier with its name in small letters. -/
def Specifier.folded (specifier : Specifier) : Specifier :=
  { specifier with eventName := specifier.eventName.toLower }

/-- The rejection of a name in small letters. -/
def Rejection.folded : Rejection → Rejection
  | severalColons token => severalColons token.toLower
  | severalPeriods token => severalPeriods token.toLower
  | unknownTarget target token => unknownTarget target token.toLower
  | unknownKey key token => unknownKey key token.toLower

@[simp] theorem Rejection.rule_folded (rejection : Rejection) :
    rejection.folded.rule = rejection.rule := by
  cases rejection <;> rfl

/-! ### Listener names -/

namespace Specifier

/-- Parts of a name are compared in lowercase anyway. -/
theorem canonical_toLower (part : String) : canonical part.toLower = canonical part := by
  unfold canonical
  rw [Text.trim_toLower, Text.lowercase_toLower]

theorem parseEvent_toLower (token rest : String) (target : Option Target) :
    parseEvent token.toLower target rest.toLower =
      ((parseEvent token target rest).map folded).mapError Rejection.folded := by
  unfold parseEvent
  rw [Text.split_toLower (by decide)]
  rcases Text.split '.' rest with _ | ⟨event, _ | ⟨key, _ | ⟨more, fields⟩⟩⟩
  · rfl
  · simp only [List.map_cons, List.map_nil, canonical_toLower]
    rfl
  · simp only [List.map_cons, List.map_nil, canonical_toLower]
    cases KeyFilter.ofName? (canonical key) <;> rfl
  · rfl

/-- A name in small letters is accepted or rejected as the name is, and taken apart in the
same way. -/
theorem parse_toLower (name : String) :
    parse name.toLower = ((parse name).map folded).mapError Rejection.folded := by
  unfold parse
  simp only [Text.trim_toLower]
  rw [Text.split_toLower (by decide)]
  rcases Text.split ':' (Text.trim name) with _ | ⟨target, _ | ⟨rest, _ | ⟨more, fields⟩⟩⟩
  · rfl
  · exact parseEvent_toLower ..
  · simp only [List.map_cons, List.map_nil, canonical_toLower]
    cases Target.ofName? (canonical target) with
    | none => rfl
    | some target => exact parseEvent_toLower ..
  · rfl

end Specifier

/-! ### Declarations -/

namespace Declaration

theorem names_folded (d : Declaration) : d.folded.names = d.names.map String.toLower := rfl

theorem binding?_folded (d : Declaration) (name : String) :
    d.folded.binding? name.toLower = (d.binding? name).map Binding.folded := by
  unfold binding?
  rw [Specifier.parse_toLower]
  cases Specifier.parse name <;> rfl

theorem nameFault?_folded (file : String) (d : Declaration) (name : String) :
    (d.folded.nameFault? file name.toLower).map Diagnostic.wordless =
      (d.nameFault? file name).map Diagnostic.wordless := by
  unfold nameFault?
  rw [Specifier.parse_toLower]
  cases Specifier.parse name with
  | ok specifier => rfl
  | error rejection =>
      simp only [Except.map, Except.mapError, Rejection.rule_folded]
      rfl

theorem bindings_folded (d : Declaration) :
    d.folded.bindings = d.bindings.map Binding.folded := by
  unfold bindings
  rw [names_folded, List.filterMap_map, List.map_filterMap]
  refine List.filterMap_congr fun name _ => ?_
  rw [Function.comp_apply, binding?_folded]

theorem consumed_folded (d : Declaration) : d.folded.consumed = d.consumed := by
  unfold consumed
  simp only [bindings_folded, List.map_eq_nil_iff]
  rfl

theorem faults_folded (file : String) (d : Declaration) :
    (d.folded.faults file).map Diagnostic.wordless = (d.faults file).map Diagnostic.wordless := by
  unfold faults
  have hnames : (d.folded.names.filterMap (d.folded.nameFault? file)).map Diagnostic.wordless =
      (d.names.filterMap (d.nameFault? file)).map Diagnostic.wordless := by
    rw [names_folded, List.filterMap_map, List.map_filterMap, List.map_filterMap]
    refine List.filterMap_congr fun name _ => ?_
    rw [Function.comp_apply, nameFault?_folded]
  have hoptions : d.folded.optionsFault? file = d.optionsFault? file := rfl
  rw [List.map_append, List.map_append, hnames, hoptions]

end Declaration

namespace View

theorem text?_folded (note : Annotation) :
    note.folded.text? = note.text?.map fun text => (bare text).toLower := by
  unfold Annotation.text?
  show (note.arguments.map Argument.folded).findSome? _ = _
  rw [List.findSome?_map, List.map_findSome?]
  refine congrArg (note.arguments.findSome? ·) (funext fun argument => ?_)
  cases argument <;> rfl

theorem object?_folded (note : Annotation) : note.folded.object? = note.object? := by
  unfold Annotation.object?
  show ((note.arguments.map Argument.folded).dropWhile _).findSome? _ = _
  rw [List.dropWhile_map, List.findSome?_map]
  have htext : (fun argument : Argument => argument.text?.isNone) ∘ Argument.folded =
      fun argument => argument.text?.isNone := by
    funext argument
    cases argument <;> rfl
  have hproperties : (fun argument : Argument => argument.properties?) ∘ Argument.folded =
      fun argument => argument.properties? := by
    funext argument
    cases argument <;> rfl
  rw [htext, hproperties]

theorem declaration?_folded (member : Member) (note : Annotation) :
    note.folded.declaration? member.folded =
      (note.declaration? member).map Declaration.folded := by
  unfold Annotation.declaration?
  have hname : member.folded.name = member.name := rfl
  have hlocation : note.folded.location = note.location := rfl
  rw [text?_folded, object?_folded, hname, hlocation]
  cases member.name with
  | none => rfl
  | some name =>
      cases note.text? with
      | none => rfl
      | some text =>
          simp only [Option.map_some, listedNames_toLower_bare]
          split <;> rfl

/-- A class in small letters declares the same in small letters. -/
theorem declarations_folded (name : String) (view : View) :
    view.folded.declarations name = (view.declarations name).map Declaration.folded := by
  unfold declarations folded
  rw [List.flatMap_map, List.map_flatMap]
  refine List.flatMap_congr fun member _ => ?_
  show ((member.annotations.map Annotation.folded).filter _).filterMap _ = _
  rw [List.filter_map, List.filterMap_map, List.map_filterMap]
  exact List.filterMap_congr fun note _ => declaration?_folded member note

end View

/-! ### The pass -/

namespace Binding

theorem key_folded (binding : Binding) : binding.folded.key = binding.key := by
  have hevent : binding.folded.eventName = binding.eventName.toLower := rfl
  have hmethod : binding.folded.methodName = binding.methodName := rfl
  unfold key
  rw [hevent, hmethod, Text.toList_toLower, Text.lowerChars_map_toLower]

/-- Bindings are listed in the same order in small letters. -/
theorem sort_map_folded (bindings : List Binding) :
    sort (bindings.map folded) = (sort bindings).map folded :=
  (List.map_mergeSort fun a _ b _ =>
    precedes_congr a.key_folded.symm b.key_folded.symm).symm

end Binding

namespace View

variable (name file : String) (view : View)

theorem bindings_declaredListeners_folded :
    (view.folded.declaredListeners name).bindings =
      (view.declaredListeners name).bindings.map Binding.folded := by
  show Binding.sort ((view.folded.declarations name).flatMap _) =
    (Binding.sort ((view.declarations name).flatMap _)).map _
  rw [← Binding.sort_map_folded, declarations_folded, List.flatMap_map, List.map_flatMap]
  exact congrArg Binding.sort (List.flatMap_congr fun d _ => d.bindings_folded)

theorem consumed_declaredListeners_folded :
    (view.folded.declaredListeners name).consumed = (view.declaredListeners name).consumed := by
  show (view.folded.declarations name).flatMap _ = (view.declarations name).flatMap _
  rw [declarations_folded, List.flatMap_map]
  exact List.flatMap_congr fun d _ => d.consumed_folded

theorem declaredFaults_folded :
    (view.folded.declaredFaults name file).map Diagnostic.wordless =
      (view.declaredFaults name file).map Diagnostic.wordless := by
  unfold declaredFaults
  rw [declarations_folded, List.flatMap_map, List.map_flatMap, List.map_flatMap]
  exact List.flatMap_congr fun d _ => d.faults_folded file

end View

/-- The bindings differ at most in the case of letters of the event. -/
structure Binding.Alike (a b : Binding) : Prop where
  eventName : a.eventName.toLower = b.eventName.toLower
  methodName : a.methodName = b.methodName
  capture : a.capture = b.capture
  passive : a.passive = b.passive
  disabled : a.disabled = b.disabled

/-- The diagnostics differ at most in their messages. -/
structure Diagnostic.Alike (a b : Diagnostic) : Prop where
  code : a.code = b.code
  severity : a.severity = b.severity
  file : a.file = b.file
  location : a.location = b.location
  context : a.context = b.context
  hints : a.hints = b.hints

/-- Lists that become the same when their elements are normalised hold, place by place,
elements that do. -/
theorem forall₂_of_map_eq {α β : Type} {f : α → β} {R : α → α → Prop}
    (hR : ∀ a b, f a = f b → R a b) {as bs : List α} (h : as.map f = bs.map f) :
    List.Forall₂ R as bs := by
  rw [← List.forall₂_eq_eq_eq, List.forall₂_map_left_iff, List.forall₂_map_right_iff] at h
  exact h.imp hR

theorem Binding.alike_of_folded {a b : Binding} (h : a.folded = b.folded) : a.Alike b := by
  obtain ⟨hevent, hmethod, hcapture, hpassive, hdisabled⟩ := Binding.mk.inj h
  exact ⟨hevent, hmethod, hcapture, hpassive, hdisabled⟩

theorem Diagnostic.alike_of_wordless {a b : Diagnostic} (h : a.wordless = b.wordless) :
    a.Alike b := by
  obtain ⟨hcode, hseverity, -, hfile, hlocation, hcontext, hhints⟩ := Diagnostic.mk.inj h
  exact ⟨hcode, hseverity, hfile, hlocation, hcontext, hhints⟩

namespace View

/-- **The spelling of a class does not matter.**  Classes that differ at most in the blanks, the
quotes and the case of letters in their texts have the same bindings, place by place, up to
the case of letters of the events; the same annotations of them are consumed; and the same is
wrong with them, place by place, up to the messages. -/
theorem analyze_spelling {view other : View} (h : view.folded = other.folded)
    (settings : Settings) (file : String) :
    let one := view.analyze settings (.empty file)
    let two := other.analyze settings (.empty file)
    List.Forall₂ Binding.Alike one.1.bindings two.1.bindings ∧
      one.1.consumed = two.1.consumed ∧
      List.Forall₂ Diagnostic.Alike one.2.items two.2.items := by
  intro one two
  have hone : one = _ := analyze_eq settings view (.empty file)
  have htwo : two = _ := analyze_eq settings other (.empty file)
  rw [hone, htwo]
  refine ⟨?_, ?_, ?_⟩
  · refine forall₂_of_map_eq (fun a b => Binding.alike_of_folded) ?_
    rw [← bindings_declaredListeners_folded, ← bindings_declaredListeners_folded, h]
  · rw [← consumed_declaredListeners_folded, h, consumed_declaredListeners_folded]
  · refine forall₂_of_map_eq (fun a b => Diagnostic.alike_of_wordless) ?_
    show (view.declaredFaults _ file).map _ = (other.declaredFaults _ file).map _
    rw [← declaredFaults_folded, h, declaredFaults_folded]

/-- One list of names, one of which is rejected, in two spellings. -/
theorem analyze_spelling_capitals :
    let text := " 'Body':\tKeyDown.ENTER, a:b:c"
    let other := "body:keydown.Enter,\"A:B:C\""
    let note := fun text : String =>
      (⟨"Listen", ⟨2, 3⟩, [.string text ⟨2, 11⟩, .object [] ⟨2, 20⟩]⟩ : Annotation)
    let view := fun text : String =>
      (⟨some "Tabs", ⟨1, 1⟩, [⟨some "onKey", ⟨2, 3⟩, [note text]⟩]⟩ : View)
    let pass := fun view : View => view.analyze .usual (.empty "a.ts")
    (view text).folded = (view other).folded ∧
      List.Forall₂ Binding.Alike (pass (view text)).1.bindings (pass (view other)).1.bindings ∧
      List.Forall₂ Diagnostic.Alike (pass (view text)).2.items (pass (view other)).2.items := by
  intro text other note view pass
  have htext : (bare text).toLower = (bare other).toLower := by
    unfold bare
    rw [Text.toLower_ofList, Text.toLower_ofList]
    exact congrArg String.ofList (by decide)
  have hfolded : ∀ text : String, (view text).folded =
      ⟨some "Tabs", ⟨1, 1⟩, [⟨some "onKey", ⟨2, 3⟩, [⟨"Listen", ⟨2, 3⟩,
        [.string (bare text).toLower ⟨2, 11⟩, .object [] ⟨2, 20⟩]⟩]⟩]⟩ := fun _ => rfl
  have hsame : (view text).folded = (view other).folded := by rw [hfolded, hfolded, htext]
  obtain ⟨hbindings, -, hfaults⟩ := analyze_spelling hsame .usual "a.ts"
  exact ⟨hsame, hbindings, hfaults⟩

end View

end Listeners
