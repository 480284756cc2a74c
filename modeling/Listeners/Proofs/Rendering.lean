/-
Rendering a listener name.

A name that is accepted says the same when it is written in its shortest form, with the words of the
vocabularies for target and key, the event in lowercase, and nothing around them.  So names
can be listed, compared and written back in that form and still be read.

The short form is read in the same parts only if the event, which is a text of any characters,
fits between the colon and the period and stays what it is when it is trimmed and lowercased for the
second time.  Both hold because lowercasing brings in no separators and no blanks, and does
nothing when it is done again.  The rest is the grammar.
-/
import Listeners.Flags
import Listeners.Proofs.Grammar
import Listeners.Proofs.Lowercase

namespace Listeners

namespace Text

/-- A text without blanks has none at its ends.  This form can be computed. -/
theorem trimmed_of_all {cs : List Char} (h : (cs.all fun c => !isBlank c) = true) : Trimmed cs :=
  trimmed_of_forall fun c hc => by simpa using List.all_eq_true.mp h c hc

theorem Trimmed.append {cs ds : List Char} (hcs : Trimmed cs) (hds : Trimmed ds) :
    Trimmed (cs ++ ds) := by
  refine ⟨fun c hc => ?_, fun c hc => ?_⟩
  · rw [List.head?_append, Option.or_eq_some_iff] at hc
    rcases hc with hc | ⟨-, hc⟩
    · exact hcs.1 c hc
    · exact hds.1 c hc
  · rw [List.getLast?_append, Option.or_eq_some_iff] at hc
    rcases hc with hc | ⟨-, hc⟩
    · exact hds.2 c hc
    · exact hcs.2 c hc

/-- Trimming brings nothing in. -/
theorem mem_of_mem_toList_trim {c : Char} {s : String} (h : c ∈ (trim s).toList) :
    c ∈ s.toList := by
  rw [trim, String.toList_ofList, trimChars, List.mem_reverse] at h
  have hfront := (List.dropWhile_sublist isBlank).subset h
  exact (List.dropWhile_sublist isBlank).subset (List.mem_reverse.mp hfront)

end Text

/-! ### Parts as they are compared -/

theorem Target.canonical_name (target : Target) :
    Specifier.canonical target.name = target.name := by
  cases target <;> decide

theorem KeyFilter.canonical_name (key : KeyFilter) :
    Specifier.canonical key.name = key.name := by
  cases key <;> decide

namespace Specifier

/-- A part in the form in which it is compared has no blanks at its ends. -/
theorem trimmed_canonical (part : String) : Text.Trimmed (canonical part).toList := by
  rw [canonical, Text.lowercase, String.toList_ofList]
  refine Text.trimmed_lowerChars ?_
  rw [Text.trim, String.toList_ofList]
  exact Text.trimmed_trimChars part.toList

/-- A part in the form in which it is compared is compared as it is. -/
theorem canonical_canonical (part : String) : canonical (canonical part) = canonical part := by
  have htrim : Text.trim (canonical part) = canonical part := by
    rw [Text.trim, Text.trimChars_of_trimmed (trimmed_canonical part), String.ofList_toList]
  rw [canonical, htrim, canonical, Text.lowercase_lowercase]

/-- No separator comes into a part by which it is compared. -/
theorem mem_of_mem_canonical {separator : Char} {part : String}
    (hascii : separator.toNat < 0x80) (hcaseless : Text.IsCaseless separator)
    (h : separator ∈ (canonical part).toList) : separator ∈ part.toList :=
  Text.mem_of_mem_toList_trim (Text.mem_of_mem_toList_lowercase hascii hcaseless h)

/-- Words that are compared as they are. -/
theorem map_canonical_map {α : Type} {name : α → String}
    (hname : ∀ a, canonical (name a) = name a) (a? : Option α) :
    (a?.map name).map canonical = a?.map name := by
  rw [Option.map_map, show canonical ∘ name = name from funext hname]

/-! ### The shortest form -/

/-- The parts of the shortest form. -/
def shortParts (specifier : Specifier) : Parts where
  target := specifier.target.map Target.name
  event := specifier.coreName
  key := specifier.key.map KeyFilter.name

theorem text_shortParts (specifier : Specifier) : specifier.shortParts.text = specifier.render := by
  unfold Parts.text Parts.rest shortParts render
  rw [← String.append_assoc]
  cases specifier.target <;> cases specifier.key <;> rfl

/-- The event can stand between the separators and is written as it is compared. -/
structure IsSettled (specifier : Specifier) : Prop where
  colon : ':' ∉ specifier.coreName.toList
  period : '.' ∉ specifier.coreName.toList
  canonical : canonical specifier.coreName = specifier.coreName

/-- What is read from a name is settled. -/
theorem isSettled_of_parse {name : String} {specifier : Specifier}
    (h : parse name = .ok specifier) : specifier.IsSettled := by
  obtain ⟨parts, hparts, htext⟩ := exists_parts_of_parse h
  obtain ⟨again, hagain, hmeans⟩ := hparts.exists_parse htext
  obtain rfl : again = specifier := Except.ok.inj (hagain.symm.trans h)
  refine ⟨?_, ?_, ?_⟩ <;> rw [hmeans.coreName]
  · exact fun hmem => hparts.colon (mem_of_mem_canonical (by decide) (by decide) hmem)
  · exact fun hmem => hparts.period (mem_of_mem_canonical (by decide) (by decide) hmem)
  · exact canonical_canonical parts.event

namespace IsSettled

variable {specifier : Specifier}

theorem isGrammatical_shortParts (h : specifier.IsSettled) :
    specifier.shortParts.IsGrammatical := by
  refine ⟨h.colon, h.period, ?_, ?_⟩
  · intro word hword
    obtain ⟨target, -, rfl⟩ := Option.map_eq_some_iff.mp hword
    exact ⟨target, target.canonical_name⟩
  · intro word hword
    obtain ⟨key, -, rfl⟩ := Option.map_eq_some_iff.mp hword
    exact ⟨key, key.canonical_name⟩

/-- There are no blanks around the shortest form. -/
theorem trim_render (h : specifier.IsSettled) :
    Text.trim specifier.render = specifier.render := by
  have htarget :
      Text.Trimmed (specifier.target.elim "" fun target => target.name ++ ":").toList := by
    refine Text.trimmed_of_all ?_
    rcases specifier.target with _ | target
    · decide
    · cases target <;> decide
  have hkey : Text.Trimmed (specifier.key.elim "" fun key => "." ++ key.name).toList := by
    refine Text.trimmed_of_all ?_
    rcases specifier.key with _ | key
    · decide
    · cases key <;> decide
  have hevent : Text.Trimmed specifier.coreName.toList := by
    rw [← h.canonical]
    exact trimmed_canonical specifier.coreName
  have hchars : Text.Trimmed specifier.render.toList := by
    rw [render, String.toList_append, String.toList_append]
    exact (htarget.append hevent).append hkey
  rw [Text.trim, Text.trimChars_of_trimmed hchars, String.ofList_toList]

/-- The shortest form is read in the parts that it is made of. -/
theorem parse_shortest (h : specifier.IsSettled) :
    parse specifier.render = .ok { specifier with eventName := specifier.render } := by
  have hgrammatical := h.isGrammatical_shortParts
  have htarget := map_canonical_map Target.canonical_name specifier.target
  have hkey := map_canonical_map KeyFilter.canonical_name specifier.key
  refine parse_eq_ok_iff.mpr ⟨specifier.shortParts.target, specifier.shortParts.rest, ?_,
    htarget.symm, ?_⟩
  · rw [h.trim_render, ← text_shortParts]
    exact hgrammatical.split_text
  · rw [h.trim_render]
    exact parseEvent_eq_ok_iff.mpr ⟨specifier.coreName, specifier.shortParts.key,
      hgrammatical.split_rest, hkey.symm, rfl, rfl, h.canonical.symm⟩

end IsSettled

/-- **What is rendered is read back.**  The shortest form of a name that is accepted is accepted, as
itself, with the same target, event and key; and the flags of a listener are the same under both
names, whatever options are written. -/
theorem parse_render {name : String} {specifier : Specifier} (h : parse name = .ok specifier) :
    ∃ again, parse specifier.render = .ok again ∧ again.eventName = specifier.render ∧
      again.target = specifier.target ∧ again.coreName = specifier.coreName ∧
      again.key = specifier.key ∧
      ∀ options : WrittenOptions,
        options.resolve again.coreName = options.resolve specifier.coreName :=
  ⟨_, (isSettled_of_parse h).parse_shortest, rfl, rfl, rfl, rfl, fun _ => rfl⟩

/-- A name in capitals, whose event ends in a sigma before a blank and begins with a dotted I. -/
theorem parse_render_sigma :
    let specifier : Specifier :=
      ⟨"Window: İΟΔΟΣ\u3000.ENTER", some .window, "i\u0307οδος", some .enter⟩
    parse "\u00A0Window: İΟΔΟΣ\u3000.ENTER" = .ok specifier ∧
      specifier.render = "window:i\u0307οδος.enter" ∧
      ∃ again, parse "window:i\u0307οδος.enter" = .ok again ∧
        again.eventName = "window:i\u0307οδος.enter" ∧ again.target = some .window ∧
        again.coreName = "i\u0307οδος" ∧ again.key = some .enter ∧
        ∀ options : WrittenOptions,
          options.resolve again.coreName = options.resolve "i\u0307οδος" := by
  intro specifier
  have hparse : parse "\u00A0Window: İΟΔΟΣ\u3000.ENTER" = .ok specifier := by decide +kernel
  have hrender : specifier.render = "window:i\u0307οδος.enter" := by decide
  have hagain := parse_render hparse
  rw [hrender] at hagain
  exact ⟨hparse, hrender, hagain⟩

end Specifier

end Listeners
