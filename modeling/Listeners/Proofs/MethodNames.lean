/-
Which methods are registered.

A binding names the method that is called when its event comes, and a consumed annotation names
the member from which it is dropped, so what they name has to be there.  The names are not those
of the members, however.  The blanks around the name of a member are taken away to see whether
anything is left of it, and they are not put back: what is registered is the declared name without
them.

For an identifier this makes no difference, for no blank can stand in one.  A name in quotes may
begin or end with a blank; then the method that is registered is not the one that is declared, and
it may even be another one of the class.
-/
import Listeners.Proofs.Consumption
import Listeners.Proofs.Bindings

namespace Listeners

/-- The names of the members that have an annotation of a name, as they are declared. -/
def View.declaredNames (name : String) (view : View) : List String :=
  (view.members.filter fun member => member.annotations.any (·.name == name)).filterMap (·.name)

/-- The methods that are named by the listeners of a class. -/
def ClassListeners.methods (listeners : ClassListeners) : List String :=
  listeners.bindings.map (·.methodName) ++ listeners.consumed.map (·.memberName)

namespace Declaration

variable {d : Declaration}

theorem methodName_of_mem_bindings {binding : Binding} (h : binding ∈ d.bindings) :
    binding.methodName = d.method := by
  obtain ⟨name, -, hbound⟩ := mem_bindings_iff.mp h
  obtain ⟨specifier, -, rfl⟩ := binding?_eq_some_iff.mp hbound
  rfl

theorem memberName_of_mem_consumed {entry : Consumed} (h : entry ∈ d.consumed) :
    entry.memberName = d.method := by
  unfold consumed at h
  split at h
  · simp at h
  · rw [List.mem_singleton.mp h]

end Declaration

namespace Occurrence

/-- The methods that an annotation names, once for each binding and once if it is consumed. -/
def methods (name : String) (o : Occurrence) : List String :=
  (o.bindings name).map (·.methodName) ++ (o.consumed name).map (·.memberName)

variable {name method : String} {o : Occurrence}

theorem exists_declaration_of_mem_methods (h : method ∈ o.methods name) :
    ∃ d, o.declaration? name = some d ∧ method = d.method := by
  rcases List.mem_append.mp h with h | h
  · obtain ⟨binding, hbinding, rfl⟩ := List.mem_map.mp h
    obtain ⟨d, hd, hmem⟩ := List.mem_flatMap.mp hbinding
    exact ⟨d, Option.mem_toList.mp hd, Declaration.methodName_of_mem_bindings hmem⟩
  · obtain ⟨entry, hentry, rfl⟩ := List.mem_map.mp h
    obtain ⟨d, hd, hmem⟩ := List.mem_flatMap.mp hentry
    exact ⟨d, Option.mem_toList.mp hd, Declaration.memberName_of_mem_consumed hmem⟩

/-- Whatever an annotation names is the name of its member without the blanks around it. -/
theorem eq_trim_of_mem_methods (h : method ∈ o.methods name) :
    o.note.name = name ∧
      ∃ declared, o.member.name = some declared ∧ method = Text.trim declared := by
  obtain ⟨d, hd, rfl⟩ := exists_declaration_of_mem_methods h
  obtain ⟨hnamed, hdeclared⟩ := declaration?_eq_some_iff.mp hd
  obtain ⟨declared, text, hname, -, -, rfl⟩ := View.declaration?_eq_some_iff.mp hdeclared
  exact ⟨hnamed, declared, hname, rfl⟩

end Occurrence

namespace View

theorem mem_occurrences_iff {view : View} {o : Occurrence} :
    o ∈ view.occurrences ↔ o.member ∈ view.members ∧ o.note ∈ o.member.annotations := by
  unfold occurrences
  simp only [List.mem_flatMap, List.mem_map]
  constructor
  · rintro ⟨member, hmember, note, hnote, rfl⟩
    exact ⟨hmember, hnote⟩
  · rintro ⟨hmember, hnote⟩
    exact ⟨o.member, hmember, o.note, hnote, rfl⟩

/-- The name of the member of an annotation is among those that are declared. -/
theorem mem_declaredNames {view : View} {o : Occurrence} (ho : o ∈ view.occurrences)
    {declared : String} (h : o.member.name = some declared) :
    declared ∈ view.declaredNames o.note.name := by
  obtain ⟨hmember, hnote⟩ := mem_occurrences_iff.mp ho
  refine List.mem_filterMap.mpr ⟨o.member, List.mem_filter.mpr ⟨hmember, ?_⟩, h⟩
  rw [List.any_eq_true]
  exact ⟨o.note, hnote, beq_self_eq_true _⟩

/-- **The methods that are named are the declared ones without the blanks around them.**  Each
annotation gives its bindings and is consumed for a member of its class that has it, under the name
of that member without the blanks around it.  So two of them name the same method exactly if the
names of their members differ in such blanks only, and if no name has any, every method that is
named is declared, and each by a member of that name alone. -/
theorem methods_analyze (settings : Settings) (view : View) (collector : Collector) :
    let name := settings.annotationName
    let listeners := (view.analyze settings collector).1
    listeners.bindings.Perm (view.occurrences.flatMap (·.bindings name)) ∧
      listeners.consumed = view.occurrences.flatMap (·.consumed name) ∧
      (∀ o ∈ view.occurrences, ∀ method ∈ o.methods name,
        ∃ declared ∈ view.declaredNames name, o.member.name = some declared ∧
          method = Text.trim declared) ∧
      (∀ one ∈ view.occurrences, ∀ two ∈ view.occurrences,
        ∀ first ∈ one.methods name, ∀ second ∈ two.methods name,
          (first = second ↔ one.member.name.map Text.trim = two.member.name.map Text.trim)) ∧
      ((∀ declared ∈ view.declaredNames name, Text.trim declared = declared) →
        (∀ method ∈ listeners.methods, method ∈ view.declaredNames name) ∧
          ∀ one ∈ view.occurrences, ∀ two ∈ view.occurrences, ∀ method,
            method ∈ one.methods name → method ∈ two.methods name →
              one.member.name = two.member.name) := by
  intro name listeners
  have hlisteners : listeners = _ :=
    congrArg Prod.fst (analyze_of_declarations (declarations_eq_filterMap name view) collector)
  have hbindings : listeners.bindings.Perm (view.occurrences.flatMap (·.bindings name)) := by
    rw [hlisteners]
    exact Binding.sort_perm _
  have hconsumed : listeners.consumed = view.occurrences.flatMap (·.consumed name) := by
    rw [hlisteners]
  have htrim : ∀ o ∈ view.occurrences, ∀ method ∈ o.methods name,
      ∃ declared ∈ view.declaredNames name, o.member.name = some declared ∧
        method = Text.trim declared := by
    intro o ho method hmethod
    obtain ⟨hnamed, declared, hname, hmethod⟩ := Occurrence.eq_trim_of_mem_methods hmethod
    exact ⟨declared, hnamed ▸ mem_declaredNames ho hname, hname, hmethod⟩
  have hsource : ∀ method ∈ listeners.methods, ∃ o ∈ view.occurrences, method ∈ o.methods name := by
    intro method hmethod
    rcases List.mem_append.mp hmethod with h | h
    · obtain ⟨binding, hbinding, rfl⟩ := List.mem_map.mp h
      obtain ⟨o, ho, hmem⟩ := List.mem_flatMap.mp (hbindings.mem_iff.mp hbinding)
      exact ⟨o, ho, List.mem_append_left _ (List.mem_map_of_mem hmem)⟩
    · obtain ⟨entry, hentry, rfl⟩ := List.mem_map.mp h
      rw [hconsumed] at hentry
      obtain ⟨o, ho, hmem⟩ := List.mem_flatMap.mp hentry
      exact ⟨o, ho, List.mem_append_right _ (List.mem_map_of_mem hmem)⟩
  refine ⟨hbindings, hconsumed, htrim, ?_, fun htrimmed => ⟨?_, ?_⟩⟩
  · intro one hone two htwo first hfirst second hsecond
    obtain ⟨declared, -, hname, rfl⟩ := htrim one hone first hfirst
    obtain ⟨other, -, hother, rfl⟩ := htrim two htwo second hsecond
    rw [hname, hother, Option.map_some, Option.map_some, Option.some.injEq]
  · intro method hmethod
    obtain ⟨o, ho, hmem⟩ := hsource method hmethod
    obtain ⟨declared, hdeclared, -, rfl⟩ := htrim o ho method hmem
    rw [htrimmed declared hdeclared]
    exact hdeclared
  · intro one hone two htwo method hfirst hsecond
    obtain ⟨declared, hdeclared, hname, rfl⟩ := htrim one hone method hfirst
    obtain ⟨other, hmem, hother, hsame⟩ := htrim two htwo _ hsecond
    rw [htrimmed declared hdeclared, htrimmed other hmem] at hsame
    rw [hname, hother, hsame]

/-- Two members without blanks around their names. -/
theorem methods_analyze_two_members :
    let member := fun method event : String =>
      (⟨some method, ⟨2, 3⟩, [⟨"Listen", ⟨2, 3⟩, [.string event ⟨2, 11⟩]⟩]⟩ : Member)
    let view : View := ⟨some "Tabs", ⟨1, 1⟩, [member "onClick" "click", member "onBlur" "blur"]⟩
    (∀ declared ∈ view.declaredNames "Listen", Text.trim declared = declared) ∧
      (∀ method ∈ (view.analyze .usual (.empty "a.ts")).1.methods,
        method ∈ view.declaredNames "Listen") ∧
      view.declaredNames "Listen" = ["onClick", "onBlur"] := by
  intro member view
  have hnames : view.declaredNames "Listen" = ["onClick", "onBlur"] := by decide
  have htrimmed : ∀ declared ∈ view.declaredNames "Listen", Text.trim declared = declared := by
    rw [hnames]
    decide
  obtain ⟨-, -, -, -, hverbatim⟩ := methods_analyze .usual view (.empty "a.ts")
  exact ⟨htrimmed, (hverbatim htrimmed).1, hnames⟩

/-- **Not every method that is named is declared.**  A member whose name begins with a blank is
registered under another name, which may be that of another member. -/
theorem blank_before_method :
    let member := fun method event : String =>
      (⟨some method, ⟨2, 3⟩, [⟨"Listen", ⟨2, 3⟩, [.string event ⟨2, 11⟩]⟩]⟩ : Member)
    let one : View := ⟨some "Tabs", ⟨1, 1⟩, [member " save" "blur"]⟩
    let two : View := ⟨some "Tabs", ⟨1, 1⟩, [member " save" "blur", member "save" "click"]⟩
    one.declaredNames "Listen" = [" save"] ∧
      (one.analyze .usual (.empty "a.ts")).1.methods = ["save", "save"] ∧
      two.declaredNames "Listen" = [" save", "save"] ∧
      (two.analyze .usual (.empty "a.ts")).1.bindings.map (fun b => (b.eventName, b.methodName)) =
        [("blur", "save"), ("click", "save")] := by
  intro member one two
  refine ⟨by decide, by decide +kernel, by decide, ?_⟩
  have hdeclared : two.declaredBindings "Listen" =
      [⟨"blur", "save", false, false, false⟩, ⟨"click", "save", false, false, false⟩] := by
    decide
  rw [analyze_eq]
  show (Binding.sort (two.declaredBindings "Listen")).map _ = _
  rw [hdeclared, Binding.sort_of_pairwise (by decide)]
  rfl

end View

end Listeners
