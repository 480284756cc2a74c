/-
Where the case of letters does not matter.

Listener names are compared in lowercase, and lowercasing is not a map on characters: the
form of a capital sigma depends on the characters around it.  Still, writing some of the
ASCII letters small or capital makes no difference to it, for no property of a character that
it asks about tells a small letter from its capital.

Cutting a text, trimming it and laying it bare keep the case of what is left, so it does not
matter either whether the letters are written small before that or afterwards.

Only the letters of ASCII are meant here.  `Char.toLower` and `String.toLower` know these and
leave everything else alone.
-/
import Listeners.Proofs.Declared

namespace Listeners.Text

/-! ### Characters -/

/-- The capital letters of ASCII. -/
def capitals : List Char := (List.range' 65 26).map Char.ofNat

theorem toLower_of_not_mem_capitals {c : Char} (h : c ∉ capitals) : c.toLower = c := by
  unfold Char.toLower
  rw [dif_neg]
  rintro ⟨hA, hZ⟩
  have hfirst : 65 ≤ c.toNat := UInt32.le_iff_toNat_le.mp hA
  have hlast : c.toNat ≤ 90 := UInt32.le_iff_toNat_le.mp hZ
  refine h (List.mem_map.mpr ⟨c.toNat, ?_, Char.ofNat_toNat c⟩)
  rw [List.mem_range'_1]
  omega

/-- A function that does not tell the capital letters from their small letters does not see
the case of any character. -/
theorem apply_toLower {α : Type} (f : Char → α)
    (h : (capitals.map Char.toLower).map f = capitals.map f) (c : Char) : f c.toLower = f c := by
  by_cases hc : c ∈ capitals
  · rw [List.map_map, List.map_inj_left] at h
    exact h c hc
  · rw [toLower_of_not_mem_capitals hc]

/-- A character that is no letter of ASCII. -/
structure IsCaseless (separator : Char) : Prop where
  notCapital : separator ∉ capitals
  notSmall : separator ∉ capitals.map Char.toLower

instance (separator : Char) : Decidable (IsCaseless separator) :=
  decidable_of_iff (separator ∉ capitals ∧ separator ∉ capitals.map Char.toLower)
    ⟨fun h => ⟨h.1, h.2⟩, fun h => ⟨h.notCapital, h.notSmall⟩⟩

/-- A character that is no letter is the small form of nothing but itself. -/
theorem IsCaseless.toLower_eq_iff {separator : Char} (h : IsCaseless separator) (c : Char) :
    c.toLower = separator ↔ c = separator := by
  by_cases hc : c ∈ capitals
  · have hcapital : c ≠ separator := fun e => h.notCapital (e ▸ hc)
    have hsmall : c.toLower ≠ separator :=
      fun e => h.notSmall (e ▸ List.mem_map_of_mem hc)
    exact ⟨fun e => absurd e hsmall, fun e => absurd e hcapital⟩
  · rw [toLower_of_not_mem_capitals hc]

theorem isBlank_toLower (c : Char) : isBlank c.toLower = isBlank c :=
  apply_toLower isBlank (by decide) c

theorem isCased_toLower (c : Char) : isCased c.toLower = isCased c :=
  apply_toLower isCased (by decide) c

theorem lowerChar_toLower (c : Char) : lowerChar c.toLower = lowerChar c :=
  apply_toLower lowerChar (by decide) c

/-- No letter of ASCII lies among the case-ignorable characters. -/
theorem letters_outside_caseIgnorable :
    ∀ i ∈ caseIgnorableIntervals, i.2 < 65 ∨ 122 < i.1 ∨ (90 < i.1 ∧ i.2 < 97) := by
  decide +kernel

theorem isCaseIgnorable_of_letter {c : Char}
    (h : 65 ≤ c.toNat ∧ c.toNat ≤ 90 ∨ 97 ≤ c.toNat ∧ c.toNat ≤ 122) :
    isCaseIgnorable c = false := by
  unfold isCaseIgnorable inIntervals
  rw [List.any_eq_false]
  intro i hi
  have hi := letters_outside_caseIgnorable i hi
  simp only [Bool.and_eq_true, decide_eq_true_eq]
  omega

theorem isCaseIgnorable_toLower (c : Char) : isCaseIgnorable c.toLower = isCaseIgnorable c := by
  by_cases hc : c ∈ capitals
  · have hletters : capitals.all (fun c => decide (65 ≤ c.toNat ∧ c.toNat ≤ 90 ∧
        97 ≤ c.toLower.toNat ∧ c.toLower.toNat ≤ 122)) = true := by decide
    obtain ⟨hA, hZ, ha, hz⟩ := of_decide_eq_true (List.all_eq_true.mp hletters c hc)
    rw [isCaseIgnorable_of_letter (Or.inl ⟨hA, hZ⟩), isCaseIgnorable_of_letter (Or.inr ⟨ha, hz⟩)]
  · rw [toLower_of_not_mem_capitals hc]

/-! ### Lowercase -/

theorem meetsCased_map_toLower (cs : List Char) :
    meetsCased (cs.map Char.toLower) = meetsCased cs := by
  unfold meetsCased
  rw [List.dropWhile_map, show isCaseIgnorable ∘ Char.toLower = isCaseIgnorable from
    funext isCaseIgnorable_toLower]
  cases cs.dropWhile isCaseIgnorable with
  | nil => rfl
  | cons c _ => exact isCased_toLower c

theorem lowerAfter_map_toLower (before cs : List Char) :
    lowerAfter (before.map Char.toLower) (cs.map Char.toLower) = lowerAfter before cs := by
  -- What stands before is written in small letters, too, for a sigma looks back at it.
  induction cs generalizing before with
  | nil => rfl
  | cons c cs ih =>
      have hsigma : c.toLower = 'Σ' ↔ c = 'Σ' := IsCaseless.toLower_eq_iff (by decide) c
      have hform : lowerSigma (before.map Char.toLower) (cs.map Char.toLower) =
          lowerSigma before cs := by
        unfold lowerSigma
        rw [meetsCased_map_toLower, meetsCased_map_toLower]
      have hrest := ih (c :: before)
      rw [List.map_cons] at hrest
      rw [List.map_cons, lowerAfter, lowerAfter, hform, hrest, lowerChar_toLower]
      simp only [hsigma]

/-- The lowercase form of a text does not depend on the case of its ASCII letters, also where
it depends on the characters around. -/
theorem lowerChars_map_toLower (cs : List Char) :
    lowerChars (cs.map Char.toLower) = lowerChars cs :=
  lowerAfter_map_toLower [] cs

theorem toList_toLower (s : String) : s.toLower.toList = s.toList.map Char.toLower :=
  String.toList_map

theorem lowercase_toLower (s : String) : lowercase s.toLower = lowercase s := by
  unfold lowercase
  rw [toList_toLower, lowerChars_map_toLower]

/-! ### Cutting and trimming -/

theorem toLower_ofList (cs : List Char) :
    (String.ofList cs).toLower = String.ofList (cs.map Char.toLower) := by
  refine String.toList_inj.mp ?_
  rw [toList_toLower, String.toList_ofList, String.toList_ofList]

theorem toLower_eq_empty_iff {s : String} : s.toLower = "" ↔ s = "" := by
  have hchars : s.toLower.toList = [] ↔ s.toList = [] := by
    rw [toList_toLower, List.map_eq_nil_iff]
  rwa [String.toList_eq_nil_iff, String.toList_eq_nil_iff] at hchars

theorem fields_map_toLower {separator : Char} (h : IsCaseless separator) (cs : List Char) :
    fields separator (cs.map Char.toLower) =
      (fields separator cs).map (List.map Char.toLower) := by
  induction cs with
  | nil => rfl
  | cons c cs ih =>
      rw [List.map_cons, fields, fields, ih]
      simp only [h.toLower_eq_iff]
      split
      · rfl
      · cases fields separator cs <;> rfl

/-- A text is cut at the same places, whatever the case of its letters is. -/
theorem split_toLower {separator : Char} (h : IsCaseless separator) (s : String) :
    split separator s.toLower = (split separator s).map String.toLower := by
  unfold split
  rw [toList_toLower, fields_map_toLower h, List.map_map, List.map_map]
  exact List.map_congr_left fun cs _ => (toLower_ofList cs).symm

theorem trim_toLower (s : String) : trim s.toLower = (trim s).toLower := by
  unfold trim trimChars
  rw [toLower_ofList, toList_toLower, List.dropWhile_map, ← List.map_reverse,
    List.dropWhile_map, ← List.map_reverse,
    show isBlank ∘ Char.toLower = isBlank from funext isBlank_toLower]

end Listeners.Text

namespace Listeners.View

/-! ### Names between commas -/

theorem isQuote_toLower (c : Char) : isQuote c.toLower = isQuote c :=
  Text.apply_toLower isQuote (by decide) c

theorem bare_toLower (s : String) : bare s.toLower = (bare s).toLower := by
  unfold bare
  rw [Text.toLower_ofList, Text.toList_toLower, List.filter_map]
  have hsame : (fun c => !Text.isBlank c && !isQuote c) ∘ Char.toLower =
      fun c => !Text.isBlank c && !isQuote c := by
    funext c
    simp only [Function.comp_apply, Text.isBlank_toLower, isQuote_toLower]
  rw [hsame]

/-- A bare text in small letters lists the same names in small letters. -/
theorem listedNames_toLower_bare (s : String) :
    listedNames (bare s).toLower = (listedNames s).map String.toLower := by
  unfold listedNames
  rw [bare_toLower, (isBare_bare s).bare_eq, Text.split_toLower (by decide), List.filter_map]
  refine congrArg (List.map String.toLower) (List.filter_congr fun name _ => ?_)
  simp [Text.toLower_eq_empty_iff]

end Listeners.View
