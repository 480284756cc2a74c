/-
Strings of JSON texts, read and passed over.

A string can be read for its characters, or be passed over by a reader that asks for less.  Both
are held against the syntax: a text that writes characters is read as these characters, and what
may stand within quotes is passed over.  It cannot be passed over in two ways, so what stands within
quotes ends at one place only (`IsQuoted.unique`).  Whatever is read was written, so of a string
of the syntax nothing else can be read than what it writes, and no more of the text than it is
(`stringBody_eq_ok_iff`).
-/
import Listeners.Json.Text.Render
import Listeners.Json.Text.Skip
import Listeners.Json.Text.Value
import Listeners.Proofs.Decoding
import Listeners.Proofs.Json.Syntax
import Mathlib.Data.List.DropRight

namespace Listeners.Json

/-! ### Blanks -/

theorem isBlank_iff {c : Char} : isBlank c = true ↔ c ∈ [' ', '\n', '\t', '\r'] := by
  simp [isBlank, or_assoc]

theorem skipBlank_append {blanks : List Char} (h : AreBlanks blanks) (cs : List Char) :
    skipBlank (blanks ++ cs) = skipBlank cs :=
  List.dropWhile_append_of_pos fun c hc => isBlank_iff.mpr (h c hc)

theorem skipBlank_cons {c : Char} (h : isBlank c = false) (cs : List Char) :
    skipBlank (c :: cs) = c :: cs :=
  List.dropWhile_cons_of_neg (by simp [h])

theorem skipBlank_blanks {blanks : List Char} (h : AreBlanks blanks) : skipBlank blanks = [] := by
  rw [← List.append_nil blanks, skipBlank_append h]
  rfl

theorem skipBlank_skipBlank (cs : List Char) : skipBlank (skipBlank cs) = skipBlank cs :=
  List.dropWhile_idempotent ..

/-! ### Escapes -/

theorem hexDigit?_eq {c : Char} {n : Nat} (h : (c, n) ∈ hexDigits) : hexDigit? c = some n := by
  have hall : ∀ digit ∈ hexDigits, hexDigit? digit.1 = some digit.2 := by decide
  exact hall (c, n) h

theorem fourDigits_append {digits : List Char} {n : Nat} (h : IsUnit digits n)
    (rest : List Char) : fourDigits (digits ++ rest) = .ok (n, rest) := by
  cases h with
  | digits ha hb hc hd =>
      simp [fourDigits, hexDigit?_eq ha, hexDigit?_eq hb, hexDigit?_eq hc, hexDigit?_eq hd]

theorem escape_short {letter c : Char} (h : (letter, c) ∈ shortEscapes) (rest : List Char) :
    escape (letter :: rest) = .ok (c, rest) := by
  simp only [shortEscapes, List.mem_cons, Prod.mk.injEq, List.not_mem_nil, or_false] at h
  rcases h with h | h | h | h | h | h | h | h <;> obtain ⟨rfl, rfl⟩ := h <;> rfl

theorem surrogatePair_whole {n : Nat} (h : n < 0xD800 ∨ 0xDFFF < n) (rest : List Char) :
    surrogatePair n rest = .ok (Char.ofNat n, rest) := by
  have hlow : ¬(0xDC00 ≤ n && n ≤ 0xDFFF) = true := by
    rw [Bool.and_eq_true, decide_eq_true_iff, decide_eq_true_iff]
    omega
  have hhigh : (n < 0xD800 || 0xDBFF < n) = true := by
    rw [Bool.or_eq_true, decide_eq_true_iff, decide_eq_true_iff]
    omega
  unfold surrogatePair
  rw [if_neg hlow, if_pos hhigh]

theorem surrogatePair_pair {second : List Char} {m n : Nat} (h : IsUnit second n)
    (hm : 0xD800 ≤ m ∧ m ≤ 0xDBFF) (hn : 0xDC00 ≤ n ∧ n ≤ 0xDFFF) (rest : List Char) :
    surrogatePair m ('\\' :: 'u' :: (second ++ rest)) =
      .ok (Char.ofNat (0x10000 + (m - 0xD800) * 0x400 + (n - 0xDC00)), rest) := by
  have hlow : ¬(0xDC00 ≤ m && m ≤ 0xDFFF) = true := by
    rw [Bool.and_eq_true, decide_eq_true_iff, decide_eq_true_iff]
    omega
  have hhigh : ¬(m < 0xD800 || 0xDBFF < m) = true := by
    rw [Bool.or_eq_true, decide_eq_true_iff, decide_eq_true_iff]
    omega
  have hother : ¬(n < 0xDC00 || 0xDFFF < n) = true := by
    rw [Bool.or_eq_true, decide_eq_true_iff, decide_eq_true_iff]
    omega
  unfold surrogatePair
  rw [if_neg hlow, if_neg hhigh]
  show (fourDigits (second ++ rest)).bind _ = _
  rw [fourDigits_append h]
  exact if_neg hother

/-! ### Reading a string -/

theorem stringChars_escape (fuel : Nat) (cs : List Char) :
    stringChars (fuel + 1) ('\\' :: cs) =
      (escape cs).bind fun found =>
        (stringChars fuel found.2).map fun more => (found.1 :: more.1, more.2) := by
  show (escape cs).bind _ = _
  refine congrArg _ (funext fun found => ?_)
  show (stringChars fuel found.2).bind _ = _
  cases stringChars fuel found.2 with
  | error fault => rfl
  | ok more => rfl

theorem stringChars_plain {c : Char} (h : IsPlainChar c) (fuel : Nat) (cs : List Char) :
    stringChars (fuel + 1) (c :: cs) =
      (stringChars fuel cs).map fun more => (c :: more.1, more.2) := by
  have hprintable : ¬c.toNat < 0x20 := Nat.not_lt.mpr h.printable
  rw [stringChars, if_neg h.ne_quote, if_neg hprintable]
  · cases stringChars fuel cs with
    | error fault => rfl
    | ok more => rfl
  · exact h.ne_backslash

/-- One character is read from the text that writes it. -/
theorem stringChars_append {text : List Char} {c : Char} (h : WritesChar text c) (fuel : Nat)
    (rest : List Char) :
    stringChars (fuel + 1) (text ++ rest) =
      (stringChars fuel rest).map fun more => (c :: more.1, more.2) := by
  cases h with
  | plain h => exact stringChars_plain h fuel rest
  | short h =>
      show stringChars (fuel + 1) ('\\' :: (_ :: rest)) = _
      rw [stringChars_escape, escape_short h]
      rfl
  | @unit digits n h hwhole =>
      have hescape : escape ('u' :: (digits ++ rest)) = .ok (Char.ofNat n, rest) := by
        show (fourDigits (digits ++ rest)).bind _ = _
        rw [fourDigits_append h]
        exact surrogatePair_whole hwhole rest
      show stringChars (fuel + 1) ('\\' :: 'u' :: (digits ++ rest)) = _
      rw [stringChars_escape, hescape]
      rfl
  | @pair first second m n hfirst hsecond hm hn =>
      have hescape : escape ('u' :: (first ++ '\\' :: 'u' :: (second ++ rest))) =
          .ok (Char.ofNat (0x10000 + (m - 0xD800) * 0x400 + (n - 0xDC00)), rest) := by
        show (fourDigits (first ++ '\\' :: 'u' :: (second ++ rest))).bind _ = _
        rw [fourDigits_append hfirst]
        exact surrogatePair_pair hsecond hm hn rest
      have htext : ('\\' :: 'u' :: (first ++ '\\' :: 'u' :: second)) ++ rest =
          '\\' :: 'u' :: (first ++ '\\' :: 'u' :: (second ++ rest)) := by simp
      generalize Char.ofNat (0x10000 + (m - 0xD800) * 0x400 + (n - 0xDC00)) = c at hescape ⊢
      rw [htext, stringChars_escape, hescape]
      rfl

/-- A string is read for the characters that it writes. -/
theorem stringChars_quoted {text cs : List Char} (h : WritesChars text cs) {fuel : Nat}
    (hfuel : cs.length < fuel) (rest : List Char) :
    stringChars fuel (text ++ '"' :: rest) = .ok (cs, rest) := by
  induction h generalizing fuel with
  | nil =>
      obtain ⟨fuel, rfl⟩ := Nat.exists_eq_succ_of_ne_zero (Nat.ne_of_gt hfuel)
      rfl
  | @cons text rest' c cs hfirst hrest ih =>
      obtain ⟨fuel, rfl⟩ := Nat.exists_eq_succ_of_ne_zero (Nat.ne_of_gt (Nat.zero_lt_of_lt hfuel))
      rw [List.append_assoc, stringChars_append hfirst, ih (by simpa using hfuel)]
      rfl

theorem WritesChar.length_pos {text : List Char} {c : Char} (h : WritesChar text c) :
    0 < text.length := by
  cases h with
  | plain h => exact Nat.zero_lt_one
  | short h => exact Nat.zero_lt_two
  | unit h hwhole => exact Nat.zero_lt_succ _
  | pair hone htwo hm hn => exact Nat.zero_lt_succ _

theorem WritesChars.length_le {text cs : List Char} (h : WritesChars text cs) :
    cs.length ≤ text.length := by
  induction h with
  | nil => exact Nat.le_refl 0
  | @cons text rest c cs hfirst hrest ih =>
      have hpos := hfirst.length_pos
      rw [List.length_cons, List.length_append]
      omega

theorem stringBody_append {text : List Char} {s : String} (h : WritesChars text s.toList)
    (rest : List Char) : stringBody (text ++ '"' :: rest) = .ok (s, rest) := by
  have hlength := h.length_le
  have hread := stringChars_quoted h
    (show s.toList.length < (text ++ '"' :: rest).length + 1 by
      rw [List.length_append]
      omega) rest
  unfold stringBody
  rw [hread]
  show Except.ok (String.ofList s.toList, rest) = _
  rw [String.ofList_toList]

/-! ### Passing over a string -/

theorem skipString_escape (fuel : Nat) (cs : List Char) :
    skipString (fuel + 1) ('\\' :: cs) = (skipEscape cs).bind (skipString fuel) := rfl

/-- One piece is passed over. -/
theorem skipString_append {piece : List Char} (h : IsPiece piece) (fuel : Nat)
    (rest : List Char) : skipString (fuel + 1) (piece ++ rest) = skipString fuel rest := by
  cases h with
  | @plain c h =>
      have hprintable : ¬c.toNat < 0x20 := Nat.not_lt.mpr h.printable
      show skipString (fuel + 1) (c :: rest) = _
      rw [skipString, if_neg h.ne_quote, if_neg hprintable]
      exact h.ne_backslash
  | @short letter c h =>
      have hescape : skipEscape (letter :: rest) = .ok rest := by
        simp only [shortEscapes, List.mem_cons, Prod.mk.injEq, List.not_mem_nil, or_false] at h
        rcases h with h | h | h | h | h | h | h | h <;> obtain ⟨rfl, rfl⟩ := h <;> rfl
      show skipString (fuel + 1) ('\\' :: (letter :: rest)) = _
      rw [skipString_escape, hescape]
      rfl
  | @unit digits n h =>
      have hescape : skipEscape ('u' :: (digits ++ rest)) = .ok rest := by
        show (fourDigits (digits ++ rest)).map _ = _
        rw [fourDigits_append h]
        rfl
      show skipString (fuel + 1) ('\\' :: 'u' :: (digits ++ rest)) = _
      rw [skipString_escape, hescape]
      rfl

theorem IsPiece.length_pos {piece : List Char} (h : IsPiece piece) : 0 < piece.length := by
  cases h with
  | plain h => exact Nat.zero_lt_one
  | short h => exact Nat.zero_lt_two
  | unit h => exact Nat.zero_lt_succ _

/-- What stands within quotes is passed over. -/
theorem skipString_quoted {body : List Char} (h : IsQuoted body) {fuel : Nat}
    (hfuel : body.length < fuel) (rest : List Char) :
    skipString fuel (body ++ '"' :: rest) = .ok rest := by
  induction h generalizing fuel with
  | nil =>
      obtain ⟨fuel, rfl⟩ := Nat.exists_eq_succ_of_ne_zero (Nat.ne_of_gt hfuel)
      rfl
  | @cons piece more hpiece hmore ih =>
      obtain ⟨fuel, rfl⟩ := Nat.exists_eq_succ_of_ne_zero (Nat.ne_of_gt (Nat.zero_lt_of_lt hfuel))
      have hpos := hpiece.length_pos
      rw [List.length_append] at hfuel
      rw [List.append_assoc, skipString_append hpiece, ih (by omega)]

/-! ### What is read was written -/

/-- Within quotes there is no end before the last quote. -/
theorem IsQuoted.unique {one two rest found : List Char} (hone : IsQuoted one)
    (htwo : IsQuoted two) (h : one ++ '"' :: rest = two ++ '"' :: found) :
    one = two ∧ rest = found := by
  have hread := skipString_quoted hone (show one.length < one.length + two.length + 1 by omega) rest
  rw [h, skipString_quoted htwo (by omega)] at hread
  obtain rfl : found = rest := Except.ok.inj hread
  exact ⟨List.append_cancel_right h, rfl⟩

theorem mem_hexDigits {c : Char} {n : Nat} (h : hexDigit? c = some n) : (c, n) ∈ hexDigits := by
  have hle : c.toNat < 103 := by
    have hbound : ∀ d : Char, c ≤ d → c.toNat ≤ d.toNat := fun d hd => hd
    unfold hexDigit? at h
    split_ifs at h with hdigit hlower hupper
    · rw [Bool.and_eq_true, decide_eq_true_iff, decide_eq_true_iff] at hdigit
      exact Nat.lt_of_le_of_lt (hbound '9' hdigit.2) (by decide)
    · rw [Bool.and_eq_true, decide_eq_true_iff, decide_eq_true_iff] at hlower
      exact Nat.lt_of_le_of_lt (hbound 'f' hlower.2) (by decide)
    · rw [Bool.and_eq_true, decide_eq_true_iff, decide_eq_true_iff] at hupper
      exact Nat.lt_of_le_of_lt (hbound 'F' hupper.2) (by decide)
  have hall : ∀ k < 103, ∀ n ∈ hexDigit? (Char.ofNat k), (Char.ofNat k, n) ∈ hexDigits := by
    decide
  have hc : Char.ofNat c.toNat = c := Char.ofNat_toNat c
  rw [← hc] at h ⊢
  exact hall c.toNat hle n h

theorem exists_of_fourDigits {cs rest : List Char} {n : Nat} (h : fourDigits cs = .ok (n, rest)) :
    ∃ digits, cs = digits ++ rest ∧ IsUnit digits n := by
  unfold fourDigits at h
  split at h
  · next i j k l heq =>
      cases h
      match cs, heq with
      | a :: b :: c :: d :: cs, heq =>
          have hdigits : hexDigit? a = some i ∧ hexDigit? b = some j ∧ hexDigit? c = some k ∧
              hexDigit? d = some l := by
            simpa [Option.bind_eq_some_iff] using heq
          obtain ⟨ha, hb, hc, hd⟩ := hdigits
          refine ⟨[a, b, c, d], rfl, ?_⟩
          exact .digits (mem_hexDigits ha) (mem_hexDigits hb) (mem_hexDigits hc) (mem_hexDigits hd)
      | [], heq | [_], heq | [_, _], heq | [_, _, _], heq => simp [Option.bind_eq_some_iff] at heq
  · split at h
    · cases h
    · cases h

theorem exists_of_surrogatePair {digits cs rest : List Char} {n : Nat} {c : Char}
    (hdigits : IsUnit digits n) (h : surrogatePair n cs = .ok (c, rest)) :
    ∃ text, '\\' :: 'u' :: (digits ++ cs) = text ++ rest ∧ WritesChar text c := by
  unfold surrogatePair at h
  split_ifs at h with hlow hhigh
  · rw [Bool.or_eq_true, decide_eq_true_iff, decide_eq_true_iff] at hhigh
    rw [Bool.and_eq_true, decide_eq_true_iff, decide_eq_true_iff] at hlow
    cases h
    exact ⟨'\\' :: 'u' :: digits, rfl, .unit hdigits (by omega)⟩
  · rw [Bool.or_eq_true, decide_eq_true_iff, decide_eq_true_iff] at hhigh
    split at h
    · cases h
    · cases h
    · next more =>
        obtain ⟨⟨m, found⟩, hmore, hpair⟩ := exists_of_bind_eq_ok h
        obtain ⟨second, rfl, hsecond⟩ := exists_of_fourDigits hmore
        change (if (m < 0xDC00 || 0xDFFF < m) = true then _ else _) = Except.ok _ at hpair
        split_ifs at hpair with hother
        rw [Bool.or_eq_true, decide_eq_true_iff, decide_eq_true_iff] at hother
        obtain ⟨rfl, rfl⟩ := Prod.mk.inj (Except.ok.inj hpair)
        refine ⟨'\\' :: 'u' :: (digits ++ '\\' :: 'u' :: second), ?_, ?_⟩
        · simp
        · exact .pair hdigits hsecond (by omega) (by omega)
    · cases h

/-- An escape that stands for a character is one that writes it. -/
theorem exists_of_escape {cs rest : List Char} {c : Char} (h : escape cs = .ok (c, rest)) :
    ∃ text, '\\' :: cs = text ++ rest ∧ WritesChar text c := by
  have hshort : ∀ letter ds, (letter, c) ∈ shortEscapes → ds = rest →
      ∃ text, '\\' :: letter :: ds = text ++ rest ∧ WritesChar text c := by
    intro letter ds hmem hds
    subst hds
    exact ⟨['\\', letter], rfl, .short hmem⟩
  unfold escape at h
  split at h
  -- The escape with digits, what is no escape, and the eight with a letter.
  case h_10 cs =>
    obtain ⟨⟨n, found⟩, hdigits, hpair⟩ := exists_of_bind_eq_ok h
    obtain ⟨digits, rfl, hunit⟩ := exists_of_fourDigits hdigits
    exact exists_of_surrogatePair hunit hpair
  case h_1 => cases h
  case h_11 => cases h
  all_goals
    cases h
    exact hshort _ _ (by decide) rfl

theorem exists_of_stringChars {cs chars rest : List Char} {fuel : Nat}
    (h : stringChars fuel cs = .ok (chars, rest)) :
    ∃ text, cs = text ++ '"' :: rest ∧ WritesChars text chars := by
  induction fuel generalizing cs chars with
  | zero =>
      cases cs with
      | nil => cases h
      | cons c cs => cases h
  | succ fuel ih =>
      cases cs with
      | nil => cases h
      | cons c cs =>
          by_cases hc : c = '\\'
          · subst hc
            rw [stringChars_escape] at h
            obtain ⟨⟨d, found⟩, hescape, hmore⟩ := exists_of_bind_eq_ok h
            obtain ⟨⟨more, last⟩, hread, heq⟩ := exists_of_map_eq_ok hmore
            cases heq
            obtain ⟨first, hfirst, hwrites⟩ := exists_of_escape hescape
            obtain ⟨text, hfound, hrest⟩ := ih hread
            refine ⟨first ++ text, ?_, .cons hwrites hrest⟩
            rw [hfirst, List.append_assoc]
            exact congrArg (first ++ ·) hfound
          · rw [stringChars] at h
            · by_cases hquote : c = '"'
              · rw [if_pos hquote] at h
                cases h
                exact ⟨[], by rw [hquote]; rfl, .nil⟩
              · by_cases hcontrol : c.toNat < 0x20
                · rw [if_neg hquote, if_pos hcontrol] at h
                  cases h
                · rw [if_neg hquote, if_neg hcontrol] at h
                  obtain ⟨⟨more, last⟩, hread, heq⟩ := exists_of_bind_eq_ok h
                  cases heq
                  obtain ⟨text, rfl, hrest⟩ := ih hread
                  have hplain : IsPlainChar c := ⟨hquote, hc, Nat.not_lt.mp hcontrol⟩
                  exact ⟨[c] ++ text, rfl, .cons (.plain hplain) hrest⟩
            · exact hc

/-- **A string of the syntax is read as the one that it writes**, up to its last quote. -/
theorem stringBody_eq_ok_iff {body rest found : List Char} {s : String} (hbody : IsQuoted body) :
    stringBody (body ++ '"' :: rest) = .ok (s, found) ↔
      found = rest ∧ WritesChars body s.toList := by
  constructor
  · intro h
    obtain ⟨⟨chars, last⟩, hread, heq⟩ := exists_of_bind_eq_ok h
    cases heq
    obtain ⟨text, htext, hwrites⟩ := exists_of_stringChars hread
    obtain ⟨rfl, rfl⟩ := hbody.unique hwrites.isQuoted htext
    rw [String.toList_ofList]
    exact ⟨rfl, hwrites⟩
  · rintro ⟨rfl, hwrites⟩
    exact stringBody_append hwrites found

/-! ### Writing a string -/

theorem digitChar_mem_hexDigits {k : Nat} (h : k < 16) : (Nat.digitChar k, k) ∈ hexDigits := by
  have hall : ∀ k < 16, (Nat.digitChar k, k) ∈ hexDigits := by decide
  exact hall k h

theorem writesChar_renderChar (c : Char) : WritesChar (renderChar c) c := by
  unfold renderChar
  split
  case h_8 hquote hbackslash _ _ _ _ _ =>
    split_ifs with hcontrol
    · have hunit := IsUnit.digits (digitChar_mem_hexDigits (show 0 < 16 by omega))
        (digitChar_mem_hexDigits (show 0 < 16 by omega))
        (digitChar_mem_hexDigits (show c.toNat / 16 < 16 by omega))
        (digitChar_mem_hexDigits (show c.toNat % 16 < 16 by omega))
      have hwrites := WritesChar.unit hunit (by omega)
      have hnumber : ((0 * 16 + 0) * 16 + c.toNat / 16) * 16 + c.toNat % 16 = c.toNat := by omega
      rw [hnumber, Char.ofNat_toNat] at hwrites
      exact hwrites
    · exact .plain ⟨hquote, hbackslash, Nat.not_lt.mp hcontrol⟩
  -- The characters with an escape of their own.
  all_goals exact .short (by decide)

/-- **Every string can be written.** -/
theorem writesString_renderString (s : String) : WritesString (renderString s).toList s := by
  have hwrites : ∀ cs : List Char, WritesChars (cs.flatMap renderChar) cs := by
    intro cs
    induction cs with
    | nil => exact .nil
    | cons c cs ih => exact .cons (writesChar_renderChar c) ih
  refine ⟨s.toList.flatMap renderChar, ?_, hwrites s.toList⟩
  simp [renderString, quoted]

end Listeners.Json
