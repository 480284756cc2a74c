/-
A name on its own and in a class.

What is said of a name before it stands anywhere has to be what happens to it when it does.  The
ways are not the same: the text of an annotation is laid bare and cut at the commas, and stretches
with nothing in them are skipped, before the parser sees a name; the verdict is on the name as it
is given.  But a name that can be listed at all has nothing to lose by that, so on such names the
two agree, in every declaration that lists them: it is bound if it is accepted, as what it is
accepted as, and reported if it is rejected, as it is rejected.
-/
import Listeners.Proofs.FatalScope
import Listeners.Proofs.Specifier
import Listeners.Verdict

namespace Listeners

namespace Verdict

variable {name : String}

theorem ofName_eq_accepted_iff {specifier : Specifier} :
    ofName name = .accepted specifier ↔ Specifier.parse name = .ok specifier := by
  unfold ofName
  cases Specifier.parse name <;> simp

theorem ofName_eq_rejected_iff {code message : String} :
    ofName name = .rejected code message ↔
      ∃ rejection, Specifier.parse name = .error rejection ∧ rejection.rule.code = code ∧
        rejection.message = message := by
  unfold ofName
  cases Specifier.parse name <;> simp

/-- A name that can be listed is accepted as it is. -/
theorem eventName_of_accepted {specifier : Specifier} (h : ofName name = .accepted specifier)
    (hname : View.IsListable name) : specifier.eventName = name := by
  rw [Specifier.eventName_of_parse (ofName_eq_accepted_iff.mp h), hname.bare.trim_eq]

end Verdict

/-! ### The names of a declaration -/

namespace Declaration

variable {name : String} {specifier : Specifier} {code message : String}

/-- A listed name that is accepted is bound as what it is accepted as. -/
theorem binding?_of_accepted (d : Declaration) (h : Verdict.ofName name = .accepted specifier)
    (hname : View.IsListable name) :
    d.binding? name = some (specifier.bind d.method d.written) := by
  refine binding?_eq_some_iff.mpr ⟨specifier, Verdict.ofName_eq_accepted_iff.mp h, ?_⟩
  rw [Specifier.bind, Verdict.eventName_of_accepted h hname]

theorem nameFault?_of_accepted (d : Declaration) (h : Verdict.ofName name = .accepted specifier)
    (file : String) : d.nameFault? file name = none := by
  rw [nameFault?, Verdict.ofName_eq_accepted_iff.mp h]

theorem binding?_of_rejected (d : Declaration) (h : Verdict.ofName name = .rejected code message) :
    d.binding? name = none := by
  obtain ⟨rejection, hparse, -, -⟩ := Verdict.ofName_eq_rejected_iff.mp h
  rw [binding?, hparse]

/-- A listed name that is rejected is reported with the code and the message of the verdict. -/
theorem nameFault?_of_rejected (d : Declaration) (h : Verdict.ofName name = .rejected code message)
    (file : String) :
    d.nameFault? file name =
      some (.detailed code .fatal message file d.location (some (d.method ++ "()")) []) := by
  obtain ⟨rejection, hparse, rfl, rfl⟩ := Verdict.ofName_eq_rejected_iff.mp h
  refine nameFault?_eq_some_iff.mpr ⟨rejection, hparse, ?_⟩
  rw [Diagnostic.detailed, Rule.hint_code]

end Declaration

/-! ### Classes with one name -/

namespace View

/-- A class with one declaration of one name, without options, has the binding and the diagnostic
of this name. -/
theorem analyze_of_single {settings : Settings} {view : View} {method name : String}
    {location : Location}
    (h : view.declarations settings.annotationName = [⟨method, location, [name], none⟩])
    (collector : Collector) :
    let d : Declaration := ⟨method, location, [name], none⟩
    view.analyze settings collector =
      (⟨view.name, view.location, (d.binding? name).toList,
          (d.binding? name).toList.map fun _ => ⟨method, location⟩⟩,
        collector.record (d.nameFault? collector.file name).toList) := by
  intro d
  rw [analyze_eq]
  unfold declaredListeners declaredBindings declaredFaults
  rw [h, List.flatMap_singleton, List.flatMap_singleton, List.flatMap_singleton]
  have hbindings : d.bindings = (d.binding? name).toList := by
    rw [Declaration.bindings, List.filterMap_eq_flatMap_toList, List.flatMap_singleton]
  have hfaults : d.faults collector.file = (d.nameFault? collector.file name).toList := by
    have hoptions : d.optionsFault? collector.file = none := rfl
    rw [Declaration.faults, hoptions, Option.toList_none, List.nil_append,
      List.filterMap_eq_flatMap_toList, List.flatMap_singleton]
  rw [hfaults, Declaration.consumed, hbindings]
  cases d.binding? name <;> simp [Binding.sort]

/-- **A name means in a class what it means on its own.**  In a class with one annotation, of a
method with a name, that has nothing but a name for its argument, an accepted name is bound once,
as it is and with the flags of its event, and the annotation is consumed in silence; a rejected one
is reported once, with the code and the message with which it is rejected, and nothing is bound or
consumed. -/
theorem analyze_verdict (settings : Settings) (file : String) (className : Option String)
    (classPlace memberPlace notePlace namePlace : Location) {method name : String}
    (hmethod : Text.trim method ≠ "") (hname : IsListable name) :
    let note : Annotation := ⟨settings.annotationName, notePlace, [.string name namePlace]⟩
    let view : View := ⟨className, classPlace, [⟨some method, memberPlace, [note]⟩]⟩
    let analysis := view.analyze settings (.empty file)
    (∀ specifier, Verdict.ofName name = .accepted specifier →
      specifier.eventName = name ∧
        analysis.1.bindings =
          [⟨name, Text.trim method, false, isPassiveByDefault specifier.coreName, false⟩] ∧
        analysis.1.consumed = [⟨Text.trim method, notePlace⟩] ∧ analysis.2.items = []) ∧
      ∀ code message, Verdict.ofName name = .rejected code message →
        analysis.1.bindings = [] ∧ analysis.1.consumed = [] ∧
          ∃ diagnostic, analysis.2.items = [diagnostic] ∧ diagnostic.severity = .fatal ∧
            diagnostic.code = code ∧ diagnostic.message = message := by
  intro note view analysis
  let d : Declaration := ⟨Text.trim method, notePlace, [name], none⟩
  have hdeclared : note.declaration? ⟨some method, memberPlace, [note]⟩ = some d := by
    refine declaration?_eq_some_iff.mpr ⟨method, name, rfl, hmethod, rfl, ?_⟩
    rw [hname.listedNames_eq]
    rfl
  have hdeclarations : view.declarations settings.annotationName = [d] := by
    simp [declarations, view, note, hdeclared]
  have hanalysis : analysis = _ := analyze_of_single hdeclarations (.empty file)
  rw [hanalysis]
  constructor
  · intro specifier haccepted
    have hevent := Verdict.eventName_of_accepted haccepted hname
    rw [d.binding?_of_accepted haccepted hname, d.nameFault?_of_accepted haccepted]
    refine ⟨hevent, ?_, rfl, rfl⟩
    show [specifier.bind (Text.trim method) d.written] = _
    rw [Specifier.bind, hevent]
    rfl
  · intro code message hrejected
    rw [d.binding?_of_rejected hrejected, d.nameFault?_of_rejected hrejected]
    exact ⟨rfl, rfl, _, rfl, rfl, rfl, rfl⟩

/-- A name with a target and a capital letter, and one with two periods. -/
theorem analyze_verdict_two_names :
    let pass := fun name : String => (listeningTo name).analyze .usual (.empty "a.ts")
    Text.trim "onClick" ≠ "" ∧ IsListable "window:Scroll" ∧ IsListable "keydown.a.b" ∧
      (pass "window:Scroll").1.bindings = [⟨"window:Scroll", "onClick", false, true, false⟩] ∧
      (pass "window:Scroll").2.items = [] ∧
      (pass "keydown.a.b").1.bindings = [] ∧
      (pass "keydown.a.b").2.items.map (·.code) = ["L-ERR-PERIOD"] := by
  intro pass
  have hmethod : Text.trim "onClick" ≠ "" := by decide
  have hwindow : IsListable "window:Scroll" := by
    have hlisted : listedNames "window:Scroll" = ["window:Scroll"] := by decide
    exact isListable_of_mem_listedNames (hlisted ▸ List.mem_singleton_self _)
  have hkeydown : IsListable "keydown.a.b" := by
    have hlisted : listedNames "keydown.a.b" = ["keydown.a.b"] := by decide
    exact isListable_of_mem_listedNames (hlisted ▸ List.mem_singleton_self _)
  have haccepted : Verdict.ofName "window:Scroll" =
      .accepted ⟨"window:Scroll", some .window, "scroll", none⟩ := by
    decide
  have hrejected : Verdict.ofName "keydown.a.b" =
      .rejected "L-ERR-PERIOD" (Rejection.severalPeriods "keydown.a.b").message := by
    decide
  obtain ⟨-, hbound, -, hsilent⟩ := (analyze_verdict .usual "a.ts" (some "Tabs") ⟨1, 1⟩ ⟨2, 3⟩
    ⟨2, 3⟩ ⟨2, 11⟩ hmethod hwindow).1 _ haccepted
  obtain ⟨hnothing, -, diagnostic, hitems, -, hcode, -⟩ := (analyze_verdict .usual "a.ts"
    (some "Tabs") ⟨1, 1⟩ ⟨2, 3⟩ ⟨2, 3⟩ ⟨2, 11⟩ hmethod hkeydown).2 _ _ hrejected
  refine ⟨hmethod, hwindow, hkeydown, hbound, hsilent, hnothing, ?_⟩
  rw [show (pass "keydown.a.b").2.items = [diagnostic] from hitems, List.map_singleton, hcode]

end View

end Listeners
