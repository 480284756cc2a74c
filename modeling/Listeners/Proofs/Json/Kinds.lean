/-
Values of JSON texts that have to be of one kind.

A reader of one kind of value takes exactly the values of that kind: whatever value it is given in a
text, if it reads something then that is what the value writes, and what stands behind the value is
left over.  What kind a value is can be told from its first character, so each reader is opened once
for the character that it wants and once for all the others.

A name may also be written as an object whose only key it is, with null.  The reader of names does
not look for the end of the object; it reads the first field and then wants the closing brace, and
that this is the whole object is known from the syntax.
-/
import Listeners.Proofs.Json.Passing
import Listeners.Settings.Text

namespace Listeners.Json

variable {α : Type}

/-! ### Values by what they begin with -/

theorem not_mem_words {c : Char} (h : c ∉ ['n', 't', 'f']) (cs : List Char) : c :: cs ∉ words := by
  intro hmem
  simp only [words, List.mem_cons, List.cons.injEq, List.not_mem_nil, or_false, not_or] at hmem h
  tauto

theorem not_isNumber {c : Char} (h : beginsNumber c = false) (cs : List Char) :
    ¬IsNumber (c :: cs) := by
  intro hnumber
  obtain ⟨d, ds, heq, hd⟩ := hnumber.head
  rw [← (List.cons.inj heq).1, h] at hd
  cases hd

theorem IsValue.eq_quoted {cs : List Char} (h : IsValue ('"' :: cs)) :
    ∃ body, '"' :: cs = quoted body ∧ IsQuoted body := by
  generalize htext : '"' :: cs = text at h
  cases h with
  | word h => exact absurd (htext ▸ h) (not_mem_words (by decide) cs)
  | @string body h => exact ⟨body, rfl, h⟩
  | number h => exact absurd (htext ▸ h) (not_isNumber rfl cs)
  | emptyArray | array | emptyObject | object => cases htext

theorem IsValue.eq_null {cs : List Char} (h : IsValue ('n' :: cs)) : 'n' :: cs = "null".toList := by
  generalize htext : 'n' :: cs = text at h
  cases h with
  | word h =>
      have hall : ∀ letters ∈ words, 'n' :: cs = letters → letters = "null".toList := by
        simp [words]
      exact hall text h htext
  | number h => exact absurd (htext ▸ h) (not_isNumber rfl cs)
  | string | emptyArray | array | emptyObject | object => cases htext

theorem IsValue.eq_object {cs : List Char} (h : IsValue ('{' :: cs)) :
    (∃ blanks, cs = blanks ++ ['}'] ∧ AreBlanks blanks) ∨
      ∃ fields, cs = fields ++ ['}'] ∧ AreFields fields := by
  generalize htext : '{' :: cs = text at h
  cases h with
  | word h => exact absurd (htext ▸ h) (not_mem_words (by decide) cs)
  | number h => exact absurd (htext ▸ h) (not_isNumber rfl cs)
  | @emptyObject blanks h => exact Or.inl ⟨blanks, (List.cons.inj htext).2, h⟩
  | @object fields h => exact Or.inr ⟨fields, (List.cons.inj htext).2, h⟩
  | string | emptyArray | array => cases htext

theorem isNull : IsValue "null".toList := .word (by simp [words])

/-! ### Readers of values -/

theorem writesString_quoted_iff {body : List Char} {s : String} :
    WritesString (quoted body) s ↔ WritesChars body s.toList := by
  constructor
  · rintro ⟨other, hother, h⟩
    obtain rfl := List.append_cancel_right (List.cons.inj hother).2
    exact h
  · intro h
    exact ⟨body, rfl, h⟩

theorem bind_eq_ok_iff {ε β : Type} {x : Except ε α} {f : α → Except ε β} {b : β} :
    (x >>= f) = .ok b ↔ ∃ a, x = .ok a ∧ f a = .ok b := by
  constructor
  · exact exists_of_bind_eq_ok
  · rintro ⟨a, rfl, h⟩
    exact h

namespace Reader

theorem lift_eq_ok_iff {step : Except Fault α} {a : α} : lift step = .ok a ↔ step = .ok a := by
  cases step with
  | error fault => exact iff_of_false (fun h => by cases h) (fun h => by cases h)
  | ok b => exact ⟨fun h => by cases h; rfl, fun h => by cases h; rfl⟩

variable {gap value rest found : List Char} {name : String}

/-- **A string is read as the one that it writes, and no other value is read as a string.** -/
theorem text_eq_ok_iff {wanted : String} (hgap : AreBlanks gap) (hvalue : IsValue value) :
    text wanted (gap ++ (value ++ rest)) = .ok (name, found) ↔
      found = rest ∧ WritesString value name := by
  obtain ⟨c, cs, rfl, hc⟩ := hvalue.head
  have hblank := skipBlank_append_cons hgap (isBlank_of_beginsValue hc) (cs ++ rest)
  by_cases hquote : c = '"'
  · subst hquote
    obtain ⟨body, heq, hbody⟩ := hvalue.eq_quoted
    have hread : text wanted (gap ++ '"' :: (cs ++ rest)) =
        lift (stringBody (body ++ '"' :: rest)) := by
      have htail : cs ++ rest = body ++ '"' :: rest := by
        rw [(List.cons.inj heq).2, List.append_assoc]
        rfl
      unfold text
      rw [hblank, htail]
      rfl
    rw [List.cons_append, hread, lift_eq_ok_iff, stringBody_eq_ok_iff hbody, heq,
      writesString_quoted_iff]
  · have hread : text wanted (gap ++ c :: (cs ++ rest)) =
        .error (refuse wanted (c :: (cs ++ rest))) := by
      unfold text
      rw [hblank]
      split
      · next heq => cases heq
      · next heq => exact absurd (List.cons.inj heq).1 hquote
      · rfl
    rw [List.cons_append, hread]
    refine iff_of_false (fun h => by cases h) ?_
    rintro ⟨-, body, heq, -⟩
    exact hquote (List.cons.inj heq).1

/-- Null is read, and no other value is read as null. -/
theorem unit_eq_ok_iff (hgap : AreBlanks gap) (hvalue : IsValue value) :
    unit (gap ++ (value ++ rest)) = .ok ((), found) ↔ found = rest ∧ value = "null".toList := by
  obtain ⟨c, cs, rfl, hc⟩ := hvalue.head
  have hblank := skipBlank_append_cons hgap (isBlank_of_beginsValue hc) (cs ++ rest)
  by_cases hn : c = 'n'
  · subst hn
    obtain rfl : cs = ['u', 'l', 'l'] := (List.cons.inj hvalue.eq_null).2
    have hread : unit (gap ++ 'n' :: (['u', 'l', 'l'] ++ rest)) = .ok ((), rest) := by
      unfold unit
      rw [hblank]
      rfl
    rw [List.cons_append, hread]
    constructor
    · intro h
      cases h
      exact ⟨rfl, rfl⟩
    · rintro ⟨rfl, -⟩
      rfl
  · have hread : unit (gap ++ c :: (cs ++ rest)) = .error (refuse "unit" (c :: (cs ++ rest))) := by
      unfold unit
      rw [hblank]
      split
      · next heq => cases heq
      · next heq => exact absurd (List.cons.inj heq).1 hn
      · rfl
    rw [List.cons_append, hread]
    refine iff_of_false (fun h => by cases h) ?_
    rintro ⟨-, heq⟩
    exact hn (List.cons.inj heq).1

end Reader

theorem colon_append {between : List Char} (h : AreBlanks between) (rest : List Char) :
    colon (between ++ ':' :: rest) = .ok rest := by
  unfold colon
  rw [skipBlank_append_cons h rfl]
  rfl

/-! ### Readers of variants -/

/-- A text that writes a name: as a string, or as an object whose only key it is, with null. -/
inductive WritesVariant : List Char → String → Prop where
  | string {value : List Char} {name : String} (h : WritesString value name) :
      WritesVariant value name
  | object {before key between gap after : List Char} {name : String} (hbefore : AreBlanks before)
      (hkey : WritesString key name) (hbetween : AreBlanks between) (hgap : AreBlanks gap)
      (hafter : AreBlanks after) :
      WritesVariant
        ('{' ::
          (before ++ (key ++ (between ++ ':' :: (gap ++ ("null".toList ++ (after ++ ['}'])))))))
        name

namespace Reader

variable {variants : List String} {name : String}

/-- Reads one of several names, given as a string. -/
def oneOf (variants : List String) : Reader String := fun cs => do
  let (name, rest) ← text "variant identifier" cs
  if variants.contains name then .ok (name, rest)
  else .error (.wrong (.unknownVariant name variants))

/-- Reads the end of an object that gives a name. -/
def closing (name : String) : Reader String := fun cs =>
  match skipBlank cs with
  | [] => .error (.fault .endOfObject)
  | '}' :: rest => .ok (name, rest)
  | _ => .error (.fault .expectedValue)

theorem variant_string {gap : List Char} (hgap : AreBlanks gap) (cs : List Char) :
    variant variants (gap ++ '"' :: cs) = oneOf variants ('"' :: cs) := by
  unfold variant
  rw [skipBlank_append_cons hgap rfl]
  rfl

theorem variant_object {gap : List Char} (hgap : AreBlanks gap) (cs : List Char) :
    variant variants (gap ++ '{' :: cs) = (do
      let (name, rest) ← oneOf variants cs
      let (_, rest) ← lift (colon rest) >>= unit
      closing name rest) := by
  unfold variant
  rw [skipBlank_append_cons hgap rfl]
  rfl

theorem variant_of_ne {gap : List Char} {c : Char} (hgap : AreBlanks gap) (hc : isBlank c = false)
    (hquote : c ≠ '"') (hbrace : c ≠ '{') (cs : List Char) :
    variant variants (gap ++ c :: cs) = .error (.fault .expectedValue) := by
  unfold variant
  rw [skipBlank_append_cons hgap hc]
  split
  · next heq => cases heq
  · next heq => exact absurd (List.cons.inj heq).1 hquote
  · next heq => exact absurd (List.cons.inj heq).1 hbrace
  · rfl

theorem oneOf_eq_ok_iff {gap value rest found : List Char} (hgap : AreBlanks gap)
    (hvalue : IsValue value) :
    oneOf variants (gap ++ (value ++ rest)) = .ok (name, found) ↔
      found = rest ∧ WritesString value name ∧ name ∈ variants := by
  unfold oneOf
  rw [bind_eq_ok_iff]
  constructor
  · rintro ⟨⟨s, more⟩, hread, h⟩
    rw [text_eq_ok_iff hgap hvalue] at hread
    obtain ⟨rfl, hwrites⟩ := hread
    change (if variants.contains s = true then _ else _) = Except.ok _ at h
    split_ifs at h with hmem
    cases h
    exact ⟨rfl, hwrites, List.contains_iff_mem.mp hmem⟩
  · rintro ⟨rfl, hwrites, hmem⟩
    refine ⟨(name, found), (text_eq_ok_iff hgap hvalue).mpr ⟨rfl, hwrites⟩, ?_⟩
    exact if_pos (List.contains_iff_mem.mpr hmem)

theorem closing_eq_ok_iff {after more found : List Char} {c : Char} {s : String}
    (hafter : AreBlanks after) (hc : isBlank c = false) :
    closing s (after ++ c :: more) = .ok (name, found) ↔ s = name ∧ c = '}' ∧ found = more := by
  unfold closing
  rw [skipBlank_append_cons hafter hc]
  by_cases hbrace : c = '}'
  · subst hbrace
    constructor
    · intro h
      cases h
      exact ⟨rfl, rfl, rfl⟩
    · rintro ⟨rfl, -, rfl⟩
      rfl
  · refine iff_of_false ?_ (fun h => hbrace h.2.1)
    split
    · next heq => cases heq
    · next heq => exact absurd (List.cons.inj heq).1 hbrace
    · exact fun h => by cases h

/-- Of an object, the first field has to be all that there is. -/
theorem variant_object_iff {front before key between gap value after more found : List Char}
    {c : Char} (hfront : AreBlanks front) (hbefore : AreBlanks before) (hkey : IsQuoted key)
    (hbetween : AreBlanks between) (hgap : AreBlanks gap) (hvalue : IsValue value)
    (hafter : AreBlanks after) (hc : isBlank c = false) :
    variant variants (front ++ '{' :: (before ++ (quoted key ++
        (between ++ ':' :: (gap ++ (value ++ (after ++ c :: more))))))) = .ok (name, found) ↔
      (WritesString (quoted key) name ∧ name ∈ variants) ∧ value = "null".toList ∧ c = '}' ∧
        found = more := by
  rw [variant_object hfront, bind_eq_ok_iff]
  constructor
  · rintro ⟨⟨s, behind⟩, hname, h⟩
    rw [oneOf_eq_ok_iff hbefore (.string hkey)] at hname
    obtain ⟨rfl, hname⟩ := hname
    obtain ⟨⟨⟨⟩, behind⟩, hunit, hclosing⟩ := exists_of_bind_eq_ok h
    rw [colon_append hbetween] at hunit
    obtain ⟨rfl, hnull⟩ : behind = after ++ c :: more ∧ value = "null".toList :=
      (unit_eq_ok_iff hgap hvalue).mp hunit
    obtain ⟨rfl, hbrace, hfound⟩ := (closing_eq_ok_iff hafter hc).mp hclosing
    exact ⟨hname, hnull, hbrace, hfound⟩
  · rintro ⟨hname, hnull, hbrace, hfound⟩
    refine ⟨(name, _), (oneOf_eq_ok_iff hbefore (.string hkey)).mpr ⟨rfl, hname⟩, ?_⟩
    refine bind_eq_ok_iff.mpr ⟨((), after ++ c :: more), ?_, ?_⟩
    · rw [colon_append hbetween]
      exact (unit_eq_ok_iff hgap hvalue).mpr ⟨rfl, hnull⟩
    · exact (closing_eq_ok_iff hafter hc).mpr ⟨rfl, hbrace, hfound⟩

variable {gap value rest found : List Char}

/-- A value that writes one of the names is read. -/
theorem variant_append (hgap : AreBlanks gap) (h : WritesVariant value name)
    (hmem : name ∈ variants) :
    variant variants (gap ++ (value ++ rest)) = .ok (name, rest) := by
  cases h with
  | string h =>
      have hread : oneOf variants ([] ++ (value ++ rest)) = .ok (name, rest) :=
        (oneOf_eq_ok_iff .nil h.isValue).mpr ⟨rfl, h, hmem⟩
      obtain ⟨body, rfl, -⟩ := h
      exact (variant_string hgap _).trans hread
  | @object before key between gap' after _ hbefore hkey hbetween hgap' hafter =>
      have hwrites := hkey
      obtain ⟨body, rfl, hbody⟩ := hkey
      have hread : variant variants (gap ++ '{' :: (before ++ (quoted body ++
          (between ++ ':' :: (gap' ++ ("null".toList ++ (after ++ '}' :: rest))))))) =
          .ok (name, rest) :=
        (variant_object_iff hgap hbefore hbody.isQuoted hbetween hgap' isNull hafter rfl).mpr
          ⟨⟨hwrites, hmem⟩, rfl, rfl, rfl⟩
      rw [← hread]
      simp

/-- No other value is read. -/
theorem writesVariant_of_variant (hgap : AreBlanks gap) (hvalue : IsValue value)
    (h : variant variants (gap ++ (value ++ rest)) = .ok (name, found)) :
    found = rest ∧ WritesVariant value name ∧ name ∈ variants := by
  obtain ⟨c, cs, rfl, hc⟩ := hvalue.head
  by_cases hquote : c = '"'
  · subst hquote
    rw [List.cons_append, variant_string hgap] at h
    obtain ⟨hfound, hwrites, hmem⟩ := (oneOf_eq_ok_iff .nil hvalue).mp h
    exact ⟨hfound, .string hwrites, hmem⟩
  · by_cases hbrace : c = '{'
    · subst hbrace
      rcases hvalue.eq_object with ⟨blanks, rfl, hblanks⟩ | ⟨fields, rfl, hfields⟩
      · rw [List.cons_append, List.append_assoc, variant_object hgap] at h
        obtain ⟨found', hname, -⟩ := exists_of_bind_eq_ok h
        obtain ⟨found', hread, -⟩ := exists_of_bind_eq_ok hname
        unfold text at hread
        rw [List.singleton_append, skipBlank_append_cons hblanks rfl] at hread
        cases hread
      · cases hfields with
        | @single before key between gap' value after hbefore hkey hbetween hgap' h' hafter =>
            have hread : variant variants (gap ++ '{' :: (before ++ (quoted key ++
                (between ++ ':' :: (gap' ++ (value ++ (after ++ '}' :: rest))))))) =
                .ok (name, found) := by
              rw [← h]
              simp
            rw [variant_object_iff hgap hbefore hkey hbetween hgap' h' hafter rfl] at hread
            obtain ⟨⟨hwrites, hmem⟩, rfl, -, hfound⟩ := hread
            refine ⟨hfound, ?_, hmem⟩
            simpa using WritesVariant.object hbefore hwrites hbetween hgap' hafter
        | @cons before key between gap' value after more hbefore hkey hbetween hgap' h' hafter _ =>
            have hread : variant variants (gap ++ '{' :: (before ++ (quoted key ++ (between ++
                ':' :: (gap' ++ (value ++ (after ++ ',' :: (more ++ '}' :: rest)))))))) =
                .ok (name, found) := by
              rw [← h]
              simp
            rw [variant_object_iff hgap hbefore hkey hbetween hgap' h' hafter rfl] at hread
            obtain ⟨-, -, hcomma, -⟩ := hread
            cases hcomma
    · rw [List.cons_append, variant_of_ne hgap (isBlank_of_beginsValue hc) hquote hbrace] at h
      cases h

end Reader

end Listeners.Json
