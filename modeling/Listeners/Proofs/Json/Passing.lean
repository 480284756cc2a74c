/-
Values of JSON texts are passed over.

The reader that passes over a value follows the syntax, so it is held against it part by part, and
for a value in a text: what stands behind the value is left over.  Numbers are the one kind of
value without an end of their own, so for them it matters what follows.  Everything else that
the reader needs is fuel, and two units for every character of the text are enough: on its way
from a value to a value inside it goes past a bracket.
-/
import Listeners.Proofs.Json.Strings

namespace Listeners.Json

/-! ### Numbers -/

/-- Whether the text goes on with something that is no digit. -/
def StopsDigits (rest : List Char) : Prop := ∀ c cs, rest = c :: cs → c.isDigit = false

theorem Follows.stopsDigits {rest : List Char} (h : Follows rest) : StopsDigits rest := by
  intro c cs heq
  have hall : ∀ c ∈ [' ', '\n', '\t', '\r', ',', ']', '}'], c.isDigit = false := by simp
  exact hall c (h c cs heq)

theorem stopsDigits_cons {c : Char} (h : c.isDigit = false) (cs : List Char) :
    StopsDigits (c :: cs) := by
  intro d ds heq
  obtain ⟨rfl, -⟩ := List.cons.inj heq
  exact h

theorem someDigits_append {digits rest : List Char} (h : AreDigits digits)
    (hrest : StopsDigits rest) (atEnd : Fault) :
    someDigits atEnd (digits ++ rest) = .ok (digits, rest) := by
  have hstop : rest.takeWhile Char.isDigit = [] ∧ rest.dropWhile Char.isDigit = rest := by
    cases rest with
    | nil => exact ⟨rfl, rfl⟩
    | cons c cs =>
        have hc : ¬c.isDigit = true := by
          rw [hrest c cs rfl]
          exact Bool.false_ne_true
        exact ⟨List.takeWhile_cons_of_neg hc, List.dropWhile_cons_of_neg hc⟩
  have htake : (digits ++ rest).takeWhile Char.isDigit = digits := by
    rw [List.takeWhile_append_of_pos h.isDigit, hstop.1, List.append_nil]
  have hdrop : (digits ++ rest).dropWhile Char.isDigit = rest := by
    rw [List.dropWhile_append_of_pos h.isDigit, hstop.2]
  unfold someDigits
  rw [htake, hdrop]
  cases digits with
  | nil => exact absurd rfl h.ne_nil
  | cons c digits => rfl

theorem wholePart_append {whole rest : List Char} (h : IsWhole whole) (hrest : StopsDigits rest)
    (atEnd : Fault) : wholePart atEnd (whole ++ rest) = .ok (whole, rest) := by
  cases h with
  | zero =>
      have hhead : rest.head?.any Char.isDigit = false := by
        cases rest with
        | nil => rfl
        | cons c cs => exact hrest c cs rfl
      show (if rest.head?.any Char.isDigit = true then _ else _) = _
      rw [hhead]
      rfl
  | @digits c cs h hc =>
      have hsome := someDigits_append h hrest atEnd
      rw [List.cons_append] at hsome ⊢
      rw [wholePart]
      · exact hsome
      · intro more heq
        exact hc (List.cons.inj heq).1

theorem exponent_stops {exponent rest : List Char} (h : IsExponent exponent)
    (hrest : Follows rest) :
    StopsDigits (exponent ++ rest) ∧ ∀ cs, exponent ++ rest ≠ '.' :: cs := by
  cases h with
  | nil =>
      refine ⟨hrest.stopsDigits, ?_⟩
      intro cs heq
      have hpoint := hrest '.' cs heq
      simp at hpoint
  | digits hmark hsign h =>
      rcases hmark with rfl | rfl
      · exact ⟨stopsDigits_cons rfl _, fun cs heq => by cases heq⟩
      · exact ⟨stopsDigits_cons rfl _, fun cs heq => by cases heq⟩

theorem fraction_stops {fraction rest : List Char} (h : IsFraction fraction)
    (hrest : StopsDigits rest) : StopsDigits (fraction ++ rest) := by
  cases h with
  | nil => exact hrest
  | digits h => exact stopsDigits_cons rfl _

theorem fractionPart_append {fraction rest : List Char} (h : IsFraction fraction)
    (hrest : StopsDigits rest) (hpoint : ∀ cs, rest ≠ '.' :: cs) (atEnd : Fault) :
    ∃ digits, fractionPart atEnd (fraction ++ rest) = .ok (digits, rest) := by
  cases h with
  | nil =>
      refine ⟨none, ?_⟩
      rw [List.nil_append, fractionPart]
      exact hpoint
  | @digits cs h =>
      refine ⟨some cs, ?_⟩
      show (someDigits atEnd (cs ++ rest)).bind _ = _
      rw [someDigits_append h hrest]
      rfl

theorem exponentPart_append {exponent rest : List Char} (h : IsExponent exponent)
    (hrest : Follows rest) (atEnd : Fault) :
    ∃ size, exponentPart atEnd (exponent ++ rest) = .ok (size, rest) := by
  cases h with
  | nil =>
      refine ⟨none, ?_⟩
      cases rest with
      | nil => rfl
      | cons c cs =>
          have hall : ∀ c ∈ [' ', '\n', '\t', '\r', ',', ']', '}'],
              ¬(decide (c = 'e') || decide (c = 'E')) = true := by simp
          exact if_neg (hall c (hrest c cs rfl))
  | @digits mark sign cs hmark hsign h =>
      have hmark : (decide (mark = 'e') || decide (mark = 'E')) = true := by
        rw [Bool.or_eq_true, decide_eq_true_iff, decide_eq_true_iff]
        exact hmark
      have hdigits := someDigits_append h hrest.stopsDigits atEnd
      unfold exponentPart
      rw [List.cons_append, List.append_assoc]
      dsimp only
      rw [if_pos hmark]
      rcases hsign with rfl | rfl | rfl
      · -- Without a sign the digits come at once, and none of them is taken for a sign.
        obtain ⟨d, ds, rfl⟩ := List.exists_cons_of_ne_nil h.ne_nil
        have hd : d.isDigit = true := h.isDigit d List.mem_cons_self
        rw [List.nil_append]
        split
        · next more heq =>
            obtain ⟨rfl, -⟩ := List.cons.inj heq
            cases hd
        · next more heq =>
            obtain ⟨rfl, -⟩ := List.cons.inj heq
            cases hd
        · rw [hdigits]
          exact ⟨_, rfl⟩
      · show ∃ size, (someDigits atEnd (cs ++ rest)).bind _ = _
        rw [hdigits]
        exact ⟨_, rfl⟩
      · show ∃ size, (someDigits atEnd (cs ++ rest)).bind _ = _
        rw [hdigits]
        exact ⟨_, rfl⟩

theorem IsWhole.head {whole : List Char} (h : IsWhole whole) :
    ∃ c cs, whole = c :: cs ∧ c.isDigit = true := by
  cases h with
  | zero => exact ⟨'0', [], rfl, rfl⟩
  | @digits c cs h hc => exact ⟨c, cs, rfl, h.isDigit c List.mem_cons_self⟩

/-- A number is passed over, in front of what may follow a value. -/
theorem skipNumber_append {text rest : List Char} (h : IsNumber text) (hrest : Follows rest) :
    skipNumber (text ++ rest) = .ok rest := by
  cases h with
  | @parts sign whole fraction exponent hsign hwhole hfraction hexponent =>
      obtain ⟨hstops, hpoint⟩ := exponent_stops hexponent hrest
      have hread := wholePart_append hwhole (fraction_stops hfraction hstops) .invalidNumber
      obtain ⟨digits, hdigits⟩ := fractionPart_append hfraction hstops hpoint .invalidNumber
      obtain ⟨size, hsize⟩ := exponentPart_append hexponent hrest .invalidNumber
      have hunsigned : ∀ isNegative : Bool,
          ((wholePart .invalidNumber (whole ++ (fraction ++ (exponent ++ rest)))).bind fun found =>
            (fractionPart .invalidNumber found.2).bind fun found' =>
              (exponentPart .invalidNumber found'.2).bind fun found'' =>
                .ok ((⟨isNegative, found.1, found'.1.getD [], found''.1.getD 0,
                  found'.1.isNone && found''.1.isNone⟩ : Numeral), found''.2)).map (·.2) =
            .ok rest := by
        intro isNegative
        rw [hread]
        show (((fractionPart .invalidNumber (fraction ++ (exponent ++ rest))).bind _).map _) = _
        rw [hdigits]
        show (((exponentPart .invalidNumber (exponent ++ rest)).bind _).map _) = _
        rw [hsize]
        rfl
      rw [List.append_assoc, List.append_assoc, List.append_assoc]
      unfold skipNumber numeral
      rcases hsign with rfl | rfl
      · obtain ⟨c, cs, rfl, hc⟩ := hwhole.head
        rw [List.nil_append]
        split
        next isNegative unsigned heq =>
          split at heq
          · next more hminus =>
              obtain ⟨rfl, -⟩ := List.cons.inj hminus
              cases hc
          · obtain ⟨rfl, rfl⟩ := Prod.mk.inj heq
            exact hunsigned false
      · exact hunsigned true

/-! ### What values begin with -/

/-- A character that can begin a value. -/
def beginsValue (c : Char) : Bool := ['n', 't', 'f', '"', '[', '{'].contains c || beginsNumber c

theorem beginsValue_of_beginsNumber {c : Char} (h : beginsNumber c = true) :
    beginsValue c = true := by
  unfold beginsValue
  rw [h, Bool.or_true]

/-- What begins a value is none of the characters that cannot. -/
theorem ne_of_beginsValue {c d : Char} (hc : beginsValue c = true) (hd : beginsValue d = false) :
    c ≠ d := by
  intro heq
  rw [heq, hd] at hc
  cases hc

theorem isBlank_of_beginsValue {c : Char} (h : beginsValue c = true) : isBlank c = false := by
  rw [Bool.eq_false_iff]
  intro hblank
  have hall : ∀ d ∈ [' ', '\n', '\t', '\r'], beginsValue d = false := by
    simp [beginsValue, beginsNumber]
  exact ne_of_beginsValue h (hall c (isBlank_iff.mp hblank)) rfl

theorem IsNumber.head {text : List Char} (h : IsNumber text) :
    ∃ c cs, text = c :: cs ∧ beginsNumber c = true := by
  cases h with
  | @parts sign whole fraction exponent hsign hwhole hfraction hexponent =>
      rcases hsign with rfl | rfl
      · obtain ⟨c, cs, rfl, hc⟩ := hwhole.head
        refine ⟨c, cs ++ (fraction ++ exponent), rfl, ?_⟩
        rw [beginsNumber, hc, Bool.or_true]
      · exact ⟨'-', whole ++ (fraction ++ exponent), rfl, rfl⟩

theorem IsValue.head {text : List Char} (h : IsValue text) :
    ∃ c cs, text = c :: cs ∧ beginsValue c = true := by
  cases h with
  | word h =>
      have hall : ∀ letters ∈ words, ∃ c cs, letters = c :: cs ∧ beginsValue c = true := by
        intro letters hletters
        simp only [words, List.mem_cons, List.not_mem_nil, or_false] at hletters
        rcases hletters with rfl | rfl | rfl <;> exact ⟨_, _, rfl, rfl⟩
      exact hall text h
  | number h =>
      obtain ⟨c, cs, rfl, hc⟩ := h.head
      exact ⟨c, cs, rfl, beginsValue_of_beginsNumber hc⟩
  | string | emptyArray | array | emptyObject | object => exact ⟨_, _, rfl, rfl⟩

/-- Items begin with blanks and then with a value. -/
theorem AreItems.head {items : List Char} (h : AreItems items) :
    ∃ before c cs, items = before ++ c :: cs ∧ AreBlanks before ∧ beginsValue c = true := by
  cases h with
  | single hbefore h hafter =>
      obtain ⟨c, cs, rfl, hc⟩ := h.head
      exact ⟨_, c, _, rfl, hbefore, hc⟩
  | cons hbefore h hafter hitems =>
      obtain ⟨c, cs, rfl, hc⟩ := h.head
      exact ⟨_, c, _, rfl, hbefore, hc⟩

/-- Fields begin with blanks and then with a quote. -/
theorem AreFields.head {fields : List Char} (h : AreFields fields) :
    ∃ before cs, fields = before ++ '"' :: cs ∧ AreBlanks before := by
  cases h with
  | single hbefore => exact ⟨_, _, rfl, hbefore⟩
  | cons hbefore => exact ⟨_, _, rfl, hbefore⟩

/-! ### Blanks in front -/

/-- Up to a character behind blanks. -/
theorem skipBlank_append_cons {blanks : List Char} (h : AreBlanks blanks) {c : Char}
    (hc : isBlank c = false) (cs : List Char) : skipBlank (blanks ++ c :: cs) = c :: cs := by
  rw [skipBlank_append h, skipBlank_cons hc]

theorem skipValue_skipBlank (fuel : Nat) (cs : List Char) :
    skipValue fuel (skipBlank cs) = skipValue fuel cs := by
  cases fuel with
  | zero => rfl
  | succ fuel => rw [skipValue, skipValue, skipBlank_skipBlank]

theorem skipItems_skipBlank (fuel : Nat) (cs : List Char) :
    skipItems fuel (skipBlank cs) = skipItems fuel cs := by
  cases fuel with
  | zero => rfl
  | succ fuel => rw [skipItems, skipItems, skipValue_skipBlank]

theorem skipFields_skipBlank (fuel : Nat) (cs : List Char) :
    skipFields fuel (skipBlank cs) = skipFields fuel cs := by
  cases fuel with
  | zero => rfl
  | succ fuel => rw [skipFields, skipFields, skipBlank_skipBlank]

theorem skipValue_blanks {blanks : List Char} (h : AreBlanks blanks) (fuel : Nat)
    (cs : List Char) : skipValue fuel (blanks ++ cs) = skipValue fuel cs := by
  rw [← skipValue_skipBlank, skipBlank_append h, skipValue_skipBlank]

/-! ### Values without items or fields -/

theorem skipLetters_append (letters rest : List Char) :
    skipLetters letters (letters ++ rest) = .ok rest := by
  induction letters with
  | nil => rfl
  | cons letter letters ih =>
      show (if letter = letter then _ else _) = _
      rw [if_pos rfl]
      exact ih

theorem skipValue_word {letters : List Char} (h : letters ∈ words) (fuel : Nat)
    (rest : List Char) : skipValue (fuel + 1) (letters ++ rest) = .ok rest := by
  simp only [words, List.mem_cons, List.not_mem_nil, or_false] at h
  rcases h with rfl | rfl | rfl
  · exact skipLetters_append ['u', 'l', 'l'] rest
  · exact skipLetters_append ['r', 'u', 'e'] rest
  · exact skipLetters_append ['a', 'l', 's', 'e'] rest

theorem skipValue_string {body : List Char} (h : IsQuoted body) (fuel : Nat)
    (rest : List Char) : skipValue (fuel + 1) (quoted body ++ rest) = .ok rest := by
  have htext : quoted body ++ rest = '"' :: (body ++ '"' :: rest) := by simp [quoted]
  rw [htext]
  show skipString ((body ++ '"' :: rest).length + 1) (body ++ '"' :: rest) = _
  refine skipString_quoted h ?_ rest
  rw [List.length_append]
  omega

theorem skipValue_number {text rest : List Char} (h : IsNumber text) (hrest : Follows rest)
    (fuel : Nat) : skipValue (fuel + 1) (text ++ rest) = .ok rest := by
  have hskip := skipNumber_append h hrest
  obtain ⟨c, cs, rfl, hc⟩ := h.head
  have hblank : isBlank c = false := isBlank_of_beginsValue (beginsValue_of_beginsNumber hc)
  have hne : ∀ d, beginsNumber d = false → c ≠ d := by
    intro d hd heq
    rw [heq, hd] at hc
    cases hc
  rw [List.cons_append] at hskip ⊢
  rw [skipValue, skipBlank_cons hblank]
  split
  · next heq => cases heq
  · next heq => exact absurd (List.cons.inj heq).1 (hne 'n' rfl)
  · next heq => exact absurd (List.cons.inj heq).1 (hne 't' rfl)
  · next heq => exact absurd (List.cons.inj heq).1 (hne 'f' rfl)
  · next heq => exact absurd (List.cons.inj heq).1 (hne '"' rfl)
  · next heq => exact absurd (List.cons.inj heq).1 (hne '[' rfl)
  · next heq => exact absurd (List.cons.inj heq).1 (hne '{' rfl)
  · next heq =>
      obtain ⟨rfl, rfl⟩ := List.cons.inj heq
      rw [if_pos hc]
      exact hskip

/-! ### Arrays and objects -/

/-- An array that has items is passed over as they are. -/
theorem skipValue_items {items : List Char} (h : AreItems items) (fuel : Nat)
    (rest : List Char) :
    skipValue (fuel + 1) ('[' :: (items ++ rest)) = skipItems fuel (items ++ rest) := by
  obtain ⟨before, c, cs, rfl, hbefore, hc⟩ := h.head
  have hblank := skipBlank_append_cons hbefore (isBlank_of_beginsValue hc) (cs ++ rest)
  have hbracket : isBlank '[' = false := rfl
  rw [List.append_assoc, List.cons_append, ← skipItems_skipBlank]
  simp only [skipValue, skipBlank_cons hbracket, hblank]
  split
  · next heq => cases heq
  · next heq => exact absurd (List.cons.inj heq).1 (ne_of_beginsValue hc rfl)
  · rfl

/-- An object that has fields is passed over as they are. -/
theorem skipValue_fields {fields : List Char} (h : AreFields fields) (fuel : Nat)
    (rest : List Char) :
    skipValue (fuel + 1) ('{' :: (fields ++ rest)) = skipFields fuel (fields ++ rest) := by
  obtain ⟨before, cs, rfl, hbefore⟩ := h.head
  have hblank := skipBlank_append_cons hbefore (c := '"') rfl (cs ++ rest)
  have hbrace : isBlank '{' = false := rfl
  rw [List.append_assoc, List.cons_append, ← skipFields_skipBlank]
  simp only [skipValue, skipBlank_cons hbrace, hblank]
  rfl

/-- A key is passed over with its colon. -/
theorem skipKey_append {key between : List Char} (h : IsQuoted key) (hbetween : AreBlanks between)
    (rest : List Char) : skipKey (quoted key ++ (between ++ ':' :: rest)) = .ok rest := by
  have htext : quoted key ++ (between ++ ':' :: rest) =
      '"' :: (key ++ '"' :: (between ++ ':' :: rest)) := by simp [quoted]
  have hskip := skipString_quoted h
    (show key.length < (key ++ '"' :: (between ++ ':' :: rest)).length + 1 by
      rw [List.length_append]
      omega) (between ++ ':' :: rest)
  rw [htext, skipKey, hskip]
  dsimp only [bind, Except.bind]
  rw [skipBlank_append_cons hbetween rfl]
  rfl

section Step

variable {before key between gap value after rest : List Char} {fuel : Nat}

/-- Past an item and a comma, the other items are passed over. -/
theorem skipItems_comma (hbefore : AreBlanks before) (hafter : AreBlanks after)
    (h : skipValue fuel (value ++ (after ++ ',' :: rest)) = .ok (after ++ ',' :: rest)) :
    skipItems (fuel + 1) (before ++ (value ++ (after ++ ',' :: rest))) = skipItems fuel rest := by
  rw [skipItems, skipValue_blanks hbefore, h]
  dsimp only [bind, Except.bind]
  rw [skipBlank_append_cons hafter rfl]
  rfl

/-- Past the last item comes the bracket. -/
theorem skipItems_bracket (hbefore : AreBlanks before) (hafter : AreBlanks after)
    (h : skipValue fuel (value ++ (after ++ ']' :: rest)) = .ok (after ++ ']' :: rest)) :
    skipItems (fuel + 1) (before ++ (value ++ (after ++ ']' :: rest))) = .ok rest := by
  rw [skipItems, skipValue_blanks hbefore, h]
  dsimp only [bind, Except.bind]
  rw [skipBlank_append_cons hafter rfl]
  rfl

theorem skipKey_skipValue (hbefore : AreBlanks before) (hkey : IsQuoted key)
    (hbetween : AreBlanks between) (hgap : AreBlanks gap) :
    (skipKey (skipBlank (before ++ (quoted key ++ (between ++ ':' :: (gap ++ value))))) >>=
      skipValue fuel) = skipValue fuel value := by
  have hstart : skipBlank (before ++ (quoted key ++ (between ++ ':' :: (gap ++ value)))) =
      quoted key ++ (between ++ ':' :: (gap ++ value)) := skipBlank_append_cons hbefore rfl _
  rw [hstart, skipKey_append hkey hbetween]
  exact skipValue_blanks hgap fuel value

/-- Past a field and a comma, the other fields are passed over. -/
theorem skipFields_comma (hbefore : AreBlanks before) (hkey : IsQuoted key)
    (hbetween : AreBlanks between) (hgap : AreBlanks gap) (hafter : AreBlanks after)
    (h : skipValue fuel (value ++ (after ++ ',' :: rest)) = .ok (after ++ ',' :: rest)) :
    skipFields (fuel + 1) (before ++ (quoted key ++
        (between ++ ':' :: (gap ++ (value ++ (after ++ ',' :: rest)))))) =
      skipFields fuel rest := by
  rw [skipFields, skipKey_skipValue hbefore hkey hbetween hgap, h]
  dsimp only [bind, Except.bind]
  rw [skipBlank_append_cons hafter rfl]
  rfl

/-- Past the last field comes the brace. -/
theorem skipFields_brace (hbefore : AreBlanks before) (hkey : IsQuoted key)
    (hbetween : AreBlanks between) (hgap : AreBlanks gap) (hafter : AreBlanks after)
    (h : skipValue fuel (value ++ (after ++ '}' :: rest)) = .ok (after ++ '}' :: rest)) :
    skipFields (fuel + 1) (before ++ (quoted key ++
        (between ++ ':' :: (gap ++ (value ++ (after ++ '}' :: rest)))))) = .ok rest := by
  rw [skipFields, skipKey_skipValue hbefore hkey hbetween hgap, h]
  dsimp only [bind, Except.bind]
  rw [skipBlank_append_cons hafter rfl]
  rfl

end Step

mutual

/-- **A value is passed over**, in front of what may follow it. -/
theorem skipValue_append {text rest : List Char} (h : IsValue text) {fuel : Nat}
    (hfuel : 2 * text.length ≤ fuel) (hrest : Follows rest) :
    skipValue fuel (text ++ rest) = .ok rest := by
  have hpos : 0 < text.length := by
    obtain ⟨c, cs, rfl, -⟩ := h.head
    exact Nat.zero_lt_succ _
  obtain ⟨fuel, rfl⟩ := Nat.exists_eq_succ_of_ne_zero (show fuel ≠ 0 by omega)
  cases h with
  | word h => exact skipValue_word h fuel rest
  | string h => exact skipValue_string h fuel rest
  | number h => exact skipValue_number h hrest fuel
  | @emptyArray blanks h =>
      have hbracket : isBlank '[' = false := rfl
      have hblank := skipBlank_append_cons h (c := ']') rfl rest
      rw [List.cons_append, List.append_assoc, List.singleton_append]
      simp only [skipValue, skipBlank_cons hbracket, hblank]
  | @array items h =>
      rw [List.length_cons, List.length_append] at hfuel
      rw [List.cons_append, List.append_assoc, skipValue_items h]
      exact skipItems_append h (by omega)
  | @emptyObject blanks h =>
      have hbrace : isBlank '{' = false := rfl
      have hblank := skipBlank_append_cons h (c := '}') rfl rest
      rw [List.cons_append, List.append_assoc, List.singleton_append]
      simp only [skipValue, skipBlank_cons hbrace, hblank]
  | @object fields h =>
      rw [List.length_cons, List.length_append] at hfuel
      rw [List.cons_append, List.append_assoc, skipValue_fields h]
      exact skipFields_append h (by omega)

theorem skipItems_append {items rest : List Char} (h : AreItems items) {fuel : Nat}
    (hfuel : 2 * items.length + 1 ≤ fuel) :
    skipItems fuel (items ++ ']' :: rest) = .ok rest := by
  obtain ⟨fuel, rfl⟩ := Nat.exists_eq_succ_of_ne_zero (show fuel ≠ 0 by omega)
  cases h with
  | @single before value after hbefore h hafter =>
      simp only [List.length_append] at hfuel
      have hvalue := skipValue_append h (show 2 * value.length ≤ fuel by omega)
        (hafter.follows_append (follows_cons (c := ']') (by decide) rest))
      rw [List.append_assoc, List.append_assoc]
      exact skipItems_bracket hbefore hafter hvalue
  | @cons before value after items hbefore h hafter hitems =>
      simp only [List.length_append, List.length_cons] at hfuel
      have hvalue := skipValue_append h (show 2 * value.length ≤ fuel by omega)
        (hafter.follows_append (follows_cons (c := ',') (by decide) (items ++ ']' :: rest)))
      rw [List.append_assoc, List.append_assoc, List.append_assoc, List.cons_append]
      refine (skipItems_comma hbefore hafter hvalue).trans ?_
      exact skipItems_append hitems (by omega)

theorem skipFields_append {fields rest : List Char} (h : AreFields fields) {fuel : Nat}
    (hfuel : 2 * fields.length + 1 ≤ fuel) :
    skipFields fuel (fields ++ '}' :: rest) = .ok rest := by
  obtain ⟨fuel, rfl⟩ := Nat.exists_eq_succ_of_ne_zero (show fuel ≠ 0 by omega)
  cases h with
  | @single before key between gap value after hbefore hkey hbetween hgap h hafter =>
      simp only [List.length_append, List.length_cons] at hfuel
      have hvalue := skipValue_append h (show 2 * value.length ≤ fuel by omega)
        (hafter.follows_append (follows_cons (c := '}') (by decide) rest))
      simp only [List.append_assoc, List.cons_append]
      exact skipFields_brace hbefore hkey hbetween hgap hafter hvalue
  | @cons before key between gap value after fields hbefore hkey hbetween hgap h hafter hfields =>
      simp only [List.length_append, List.length_cons] at hfuel
      have hvalue := skipValue_append h (show 2 * value.length ≤ fuel by omega)
        (hafter.follows_append (follows_cons (c := ',') (by decide) (fields ++ '}' :: rest)))
      simp only [List.append_assoc, List.cons_append]
      refine (skipFields_comma hbefore hkey hbetween hgap hafter hvalue).trans ?_
      exact skipFields_append hfields (by omega)

end

/-- A value behind blanks is passed over. -/
theorem skip_append {gap text rest : List Char} (hgap : AreBlanks gap) (h : IsValue text)
    (hrest : Follows rest) : skip (gap ++ (text ++ rest)) = .ok rest := by
  unfold skip
  rw [skipValue_blanks hgap]
  refine skipValue_append h ?_ hrest
  simp only [List.length_append]
  omega

end Listeners.Json
