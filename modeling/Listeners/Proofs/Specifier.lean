/-
What the parser of listener names does.

The parser is two nested cuts, and what it does with the stretches is said here once, for an
accepted name: how it is cut, which of the stretches are words of a vocabulary, and what becomes
of them.

A name that is accepted is kept as it was written, without the blanks around it: it is what
the listener is registered under, whatever the parts are compared as.
-/
import Listeners.Proofs.Text
import Listeners.Specifier

namespace Listeners

/-! ### The vocabularies -/

theorem Target.ofName?_eq_some_iff {name : String} {target : Target} :
    ofName? name = some target ↔ target.name = name := by
  constructor
  · intro h
    exact eq_of_beq (List.find?_some (p := fun other : Target => other.name == name) h)
  · rintro rfl
    exact ofName?_name target

theorem KeyFilter.ofName?_eq_some_iff {name : String} {key : KeyFilter} :
    ofName? name = some key ↔ key.name = name := by
  constructor
  · intro h
    exact eq_of_beq (List.find?_some (p := fun other : KeyFilter => other.name == name) h)
  · rintro rfl
    exact ofName?_name key

theorem Target.ofName?_eq_none_iff {name : String} :
    ofName? name = none ↔ ∀ target : Target, target.name ≠ name := by
  rw [Option.eq_none_iff_forall_ne_some]
  exact forall_congr' fun target => not_congr ofName?_eq_some_iff

theorem KeyFilter.ofName?_eq_none_iff {name : String} :
    ofName? name = none ↔ ∀ key : KeyFilter, key.name ≠ name := by
  rw [Option.eq_none_iff_forall_ne_some]
  exact forall_congr' fun key => not_congr ofName?_eq_some_iff

namespace Specifier

/-! ### Accepted names -/

/-- What stands behind the target is accepted if it is cut into an event and at most one word,
which is that of a key. -/
theorem parseEvent_eq_ok_iff {token rest : String} {target : Option Target}
    {specifier : Specifier} :
    parseEvent token target rest = .ok specifier ↔
      ∃ (event : String) (key : Option String), Text.split '.' rest = event :: key.toList ∧
        specifier.key.map KeyFilter.name = key.map canonical ∧
        specifier.eventName = token ∧ specifier.target = target ∧
        specifier.coreName = canonical event := by
  constructor
  · intro h
    unfold parseEvent at h
    split at h
    · next event hsplit =>
      cases h
      exact ⟨event, none, hsplit, rfl, rfl, rfl, rfl⟩
    · next event key hsplit =>
      split at h
      · next filter hfilter =>
        cases h
        have hname := KeyFilter.ofName?_eq_some_iff.mp hfilter
        exact ⟨event, some key, hsplit, congrArg some hname, rfl, rfl, rfl⟩
      · cases h
    · cases h
  · obtain ⟨eventName, target', coreName, filter⟩ := specifier
    rintro ⟨event, key, hsplit, hkey, rfl, rfl, rfl⟩
    unfold parseEvent
    rw [hsplit]
    cases key with
    | none =>
        obtain rfl : filter = none := Option.map_eq_none_iff.mp hkey
        rfl
    | some key =>
        obtain ⟨k, rfl, hname⟩ := Option.map_eq_some_iff.mp hkey
        simp [KeyFilter.ofName?_eq_some_iff.mpr hname]

/-- A name is accepted if it is cut into at most one word, which is that of a target, and a
rest that is accepted. -/
theorem parse_eq_ok_iff {name : String} {specifier : Specifier} :
    parse name = .ok specifier ↔
      ∃ (target : Option String) (rest : String),
        Text.split ':' (Text.trim name) = target.toList ++ [rest] ∧
        specifier.target.map Target.name = target.map canonical ∧
        parseEvent (Text.trim name) specifier.target rest = .ok specifier := by
  constructor
  · intro h
    unfold parse at h
    simp only at h
    split at h
    · next rest hsplit =>
      obtain ⟨_, _, -, -, -, htarget, -⟩ := parseEvent_eq_ok_iff.mp h
      refine ⟨none, rest, hsplit, ?_, ?_⟩
      · rw [htarget]
        rfl
      · rw [htarget]
        exact h
    · next target rest hsplit =>
      split at h
      · next t ht =>
        obtain ⟨_, _, -, -, -, htarget, -⟩ := parseEvent_eq_ok_iff.mp h
        refine ⟨some target, rest, hsplit, ?_, ?_⟩
        · rw [htarget]
          exact congrArg some (Target.ofName?_eq_some_iff.mp ht)
        · rw [htarget]
          exact h
      · cases h
    · cases h
  · rintro ⟨target, rest, hsplit, htarget, h⟩
    unfold parse
    simp only [hsplit]
    cases target with
    | none =>
        rw [Option.map_eq_none_iff.mp htarget] at h
        exact h
    | some target =>
        obtain ⟨t, ht, hname⟩ := Option.map_eq_some_iff.mp htarget
        rw [ht] at h
        simpa [Target.ofName?_eq_some_iff.mpr hname] using h

/-- An accepted name is kept as it was written, without the blanks around it. -/
theorem eventName_of_parse {name : String} {specifier : Specifier}
    (h : parse name = .ok specifier) : specifier.eventName = Text.trim name := by
  obtain ⟨_, _, -, -, hrest⟩ := parse_eq_ok_iff.mp h
  obtain ⟨_, _, -, -, hevent, -⟩ := parseEvent_eq_ok_iff.mp hrest
  exact hevent

end Specifier

end Listeners
