/-
The grammar of listener names.

The parser cuts a name at its colons and then at its periods, and counts.  What it accepts is
said without cutting and counting here: a name is an optional target with a colon, an event,
and an optional key with a period, where the event has no colon and no period in it and
target and key are words of their vocabularies, up to blanks and case.

That the parser accepts what can be written in this way needs that it cuts where the parts
meet and nowhere else.  An event has no separators by definition; a target and a key have none
because their words have none and separators do not get lost when parts are compared.  From the
same fact a name is written in at most one way: the parts are what the name is cut into.
-/
import Listeners.Proofs.Separator
import Listeners.Proofs.Specifier

namespace Listeners

/-! ### The vocabularies -/

theorem Target.colon_not_mem_name (target : Target) : ':' ∉ target.name.toList := by
  cases target <;> decide

theorem KeyFilter.colon_not_mem_name (key : KeyFilter) : ':' ∉ key.name.toList := by
  cases key <;> decide

theorem KeyFilter.period_not_mem_name (key : KeyFilter) : '.' ∉ key.name.toList := by
  cases key <;> decide

namespace Specifier

/-! ### Parts of a name -/

/-- A listener name in its parts. -/
@[ext]
structure Parts where
  target : Option String
  event : String
  key : Option String

namespace Parts

variable (parts : Parts)

/-- What stands behind the target. -/
def rest : String := parts.event ++ parts.key.elim "" ("." ++ ·)

/-- The name that the parts make up. -/
def text : String := parts.target.elim "" (· ++ ":") ++ parts.rest

/-- The parts are those of a listener name.  The event may be empty. -/
structure IsGrammatical : Prop where
  colon : ':' ∉ parts.event.toList
  period : '.' ∉ parts.event.toList
  target : ∀ word ∈ parts.target, ∃ target : Target, canonical word = target.name
  key : ∀ word ∈ parts.key, ∃ key : KeyFilter, canonical word = key.name

/-- The specifier says what the parts say. -/
structure Means (specifier : Specifier) : Prop where
  eventName : specifier.eventName = parts.text
  target : specifier.target.map Target.name = parts.target.map canonical
  coreName : specifier.coreName = canonical parts.event
  key : specifier.key.map KeyFilter.name = parts.key.map canonical

theorem rest_eq_intercalate : parts.rest = ".".intercalate (parts.event :: parts.key.toList) := by
  unfold rest
  cases parts.key <;> simp [String.append_assoc]

theorem text_eq_intercalate :
    parts.text = ":".intercalate (parts.target.toList ++ [parts.rest]) := by
  unfold text
  cases parts.target <;> simp

end Parts

/-! ### Words and separators -/

/-- A word of the vocabulary, if there is one at all, stands for an element of it. -/
theorem exists_map_name {α : Type} {name : α → String} {word? : Option String}
    (h : ∀ word ∈ word?, ∃ a : α, canonical word = name a) :
    ∃ a? : Option α, a?.map name = word?.map canonical := by
  cases word? with
  | none => exact ⟨none, rfl⟩
  | some word =>
      obtain ⟨a, ha⟩ := h word rfl
      exact ⟨some a, congrArg some ha.symm⟩

/-- A part that is compared as a word without some separator has not had it before. -/
theorem not_mem_of_canonical_eq {separator : Char} {part word : String}
    (hblank : Text.isBlank separator = false) (hlower : Text.lowerChar separator = [separator])
    (hpart : canonical part = word) (hword : separator ∉ word.toList) :
    separator ∉ part.toList := by
  intro hmem
  refine hword ?_
  rw [← hpart]
  exact Text.mem_toList_lowercase hlower (Text.mem_toList_trim hblank hmem)

/-! ### Where a name is cut -/

namespace Parts.IsGrammatical

variable {parts : Parts}

theorem colon_not_mem_target (h : parts.IsGrammatical) :
    ∀ word ∈ parts.target, ':' ∉ word.toList := by
  intro word hword
  obtain ⟨target, htarget⟩ := h.target word hword
  exact not_mem_of_canonical_eq (by decide) (by decide) htarget target.colon_not_mem_name

theorem colon_not_mem_rest (h : parts.IsGrammatical) : ':' ∉ parts.rest.toList := by
  unfold rest
  cases hkey : parts.key with
  | none => simpa using h.colon
  | some word =>
      obtain ⟨key, hword⟩ := h.key word hkey
      have hcolon : ':' ∉ word.toList :=
        not_mem_of_canonical_eq (by decide) (by decide) hword key.colon_not_mem_name
      simp [h.colon, hcolon]

theorem period_not_mem_key (h : parts.IsGrammatical) :
    ∀ word ∈ parts.key, '.' ∉ word.toList := by
  intro word hword
  obtain ⟨key, hkey⟩ := h.key word hword
  exact not_mem_of_canonical_eq (by decide) (by decide) hkey key.period_not_mem_name

/-- A name is cut at the colon behind its target only. -/
theorem split_text (h : parts.IsGrammatical) :
    Text.split ':' parts.text = parts.target.toList ++ [parts.rest] := by
  refine Text.split_eq_iff.mpr ⟨by simp, ?_, parts.text_eq_intercalate.symm⟩
  intro part hpart
  rcases List.mem_append.mp hpart with hpart | hpart
  · exact h.colon_not_mem_target part (Option.mem_toList.mp hpart)
  · rw [List.mem_singleton.mp hpart]
    exact h.colon_not_mem_rest

/-- The rest of a name is cut at the period before its key only. -/
theorem split_rest (h : parts.IsGrammatical) :
    Text.split '.' parts.rest = parts.event :: parts.key.toList := by
  refine Text.split_eq_iff.mpr ⟨by simp, ?_, parts.rest_eq_intercalate.symm⟩
  intro part hpart
  rcases List.mem_cons.mp hpart with rfl | hpart
  · exact h.period
  · exact h.period_not_mem_key part (Option.mem_toList.mp hpart)

/-- A name is written in one way only: its parts are what it is cut into. -/
theorem eq_of_text_eq {other : Parts} (h : parts.IsGrammatical) (hother : other.IsGrammatical)
    (htext : other.text = parts.text) : other = parts := by
  have hcolons := hother.split_text
  rw [htext, h.split_text] at hcolons
  obtain ⟨htarget, hrest⟩ := List.append_inj' hcolons rfl
  have hperiods := hother.split_rest
  rw [← List.singleton_inj.mp hrest, h.split_rest] at hperiods
  obtain ⟨hevent, hkey⟩ := List.cons.inj hperiods
  refine Parts.ext ?_ hevent.symm ?_
  · simpa using (congrArg List.head? htarget).symm
  · simpa using (congrArg List.head? hkey).symm

/-- What is written according to the grammar is accepted. -/
theorem exists_parse {name : String} (h : parts.IsGrammatical)
    (htext : parts.text = Text.trim name) :
    ∃ specifier, parse name = .ok specifier ∧ parts.Means specifier := by
  obtain ⟨target, htarget⟩ := exists_map_name h.target
  obtain ⟨key, hkey⟩ := exists_map_name h.key
  refine ⟨⟨parts.text, target, canonical parts.event, key⟩, ?_, ⟨rfl, htarget, rfl, hkey⟩⟩
  refine parse_eq_ok_iff.mpr ⟨parts.target, parts.rest, ?_, htarget, ?_⟩
  · rw [← htext]
    exact h.split_text
  · rw [← htext]
    exact parseEvent_eq_ok_iff.mpr ⟨parts.event, parts.key, h.split_rest, hkey, rfl, rfl, rfl⟩

end Parts.IsGrammatical

/-! ### The grammar -/

/-- What is accepted is written according to the grammar. -/
theorem exists_parts_of_parse {name : String} {specifier : Specifier}
    (h : parse name = .ok specifier) :
    ∃ parts : Parts, parts.IsGrammatical ∧ parts.text = Text.trim name := by
  obtain ⟨target, rest, hcolons, htarget, hrest⟩ := parse_eq_ok_iff.mp h
  obtain ⟨event, key, hperiods, hkey, -⟩ := parseEvent_eq_ok_iff.mp hrest
  obtain ⟨-, hcolon, htext⟩ := Text.split_eq_iff.mp hcolons
  obtain ⟨-, hperiod, hjoin⟩ := Text.split_eq_iff.mp hperiods
  refine ⟨⟨target, event, key⟩, ⟨?_, ?_, ?_, ?_⟩, ?_⟩
  · -- The event is a stretch of the rest, which has no colon in it.
    have hevent : event ∈ Text.split '.' rest := by simp [hperiods]
    exact fun hmem => hcolon rest (by simp) (Text.forall_mem_of_mem_split hevent ':' hmem).2
  · exact hperiod event (by simp)
  · rintro word rfl
    obtain ⟨target, -, hname⟩ := Option.map_eq_some_iff.mp htarget
    exact ⟨target, hname.symm⟩
  · rintro word rfl
    obtain ⟨key, -, hname⟩ := Option.map_eq_some_iff.mp hkey
    exact ⟨key, hname.symm⟩
  · rw [Parts.text_eq_intercalate, Parts.rest_eq_intercalate]
    exact hjoin ▸ htext

/-- **The grammar of listener names.**  A name is accepted if and only if, without the blanks
around it, it is an event without colons and periods, with or without the word of a target and
a colon before it, and with or without a period and the word of a key behind it; blanks
around the parts and the case of their letters do not matter.  It can be written in one
way only, and what it is taken apart into is what it is written from. -/
theorem parse_grammar (name : String) :
    ((∃ specifier, parse name = .ok specifier) ↔
        ∃ parts : Parts, parts.IsGrammatical ∧ parts.text = Text.trim name) ∧
      ∀ parts : Parts, parts.IsGrammatical → parts.text = Text.trim name →
        (∀ other : Parts, other.IsGrammatical → other.text = Text.trim name → other = parts) ∧
          ∃ specifier, parse name = .ok specifier ∧ parts.Means specifier := by
  refine ⟨⟨?_, ?_⟩, ?_⟩
  · rintro ⟨specifier, h⟩
    exact exists_parts_of_parse h
  · rintro ⟨parts, h, htext⟩
    obtain ⟨specifier, hparse, -⟩ := h.exists_parse htext
    exact ⟨specifier, hparse⟩
  · intro parts h htext
    refine ⟨?_, h.exists_parse htext⟩
    intro other hother hname
    exact h.eq_of_text_eq hother (hname.trans htext.symm)

/-- A name with a target and a key, in capitals and with blanks, and with an empty event. -/
theorem parse_grammar_empty_event :
    let name := "\t Parent\u00A0:.UP "
    let parts : Parts := ⟨some "Parent\u00A0", "", some "UP"⟩
    parts.IsGrammatical ∧ parts.text = Text.trim name ∧
      (∀ other : Parts, other.IsGrammatical → other.text = Text.trim name → other = parts) ∧
        ∃ specifier, parse name = .ok specifier ∧ parts.Means specifier := by
  intro name parts
  have h : parts.IsGrammatical := by
    refine ⟨by decide, by decide, ?_, ?_⟩
    · rintro word ⟨⟩
      exact ⟨.parent, by decide⟩
    · rintro word ⟨⟩
      exact ⟨.up, by decide⟩
  have htext : parts.text = Text.trim name := by decide
  exact ⟨h, htext, (parse_grammar name).2 parts h htext⟩

end Specifier

end Listeners
