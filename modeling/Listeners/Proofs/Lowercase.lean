/-
What lowercase forms are made of.

The lowercase form of a text is put together from forms of its characters, one for each.  A capital
sigma has two forms and takes one of them after looking at the text around it; all other
characters have one.  So what holds of all forms of all characters holds of texts, and the
characters around need not be looked at again (`lowerAfter_cons`).

What holds of the forms of characters is read off the table of runs.  Three things matter.

  * The image of a run lies on no run, so a lowercase form is its own lowercase form.
  * No image is blank, so what is trimmed stays trimmed.
  * Only one image is a character of ASCII: the Kelvin sign becomes a small k.  The dotted
    capital I becomes a small i, too, but with a combining dot behind it.  So a text whose lowercase
    form is a word of ASCII without k is this word, up to the case of ASCII letters.
-/
import Listeners.Proofs.LetterCase

namespace Listeners.Text

/-! ### Runs -/

theorem CaseRun.image?_eq_some_iff {r : CaseRun} {n m : Nat} :
    r.image? n = some m ↔
      r.first ≤ n ∧ n ≤ r.last ∧ (n - r.first) % r.stride = 0 ∧ r.image + (n - r.first) = m := by
  unfold CaseRun.image?
  rw [Option.ite_none_right_eq_some, Option.some.injEq]
  simp only [Bool.and_eq_true, decide_eq_true_eq, beq_iff_eq, and_assoc]

/-- The last of the images of a run. -/
def CaseRun.lastImage (r : CaseRun) : Nat := r.image + (r.last - r.first)

theorem CaseRun.image_bounds {r : CaseRun} {n m : Nat} (h : r.image? n = some m) :
    r.image ≤ m ∧ m ≤ r.lastImage := by
  obtain ⟨hfirst, hlast, -, rfl⟩ := image?_eq_some_iff.mp h
  unfold lastImage
  omega

/-- A run has no image on another run: the intervals are disjoint, or the images fall between
the characters of the other run, which are every second one. -/
def CaseRun.misses (r s : CaseRun) : Bool :=
  s.last.blt r.image || r.lastImage.blt s.first ||
    (s.stride == 2 && (r.stride == 2 || r.first == r.last) && (r.image + s.first) % 2 == 1)

theorem CaseRun.image?_eq_none_of_misses {r s : CaseRun} (h : r.misses s = true) {n m : Nat}
    (hm : r.image? n = some m) : s.image? m = none := by
  have hbounds := image_bounds hm
  obtain ⟨hfirst, hlast, hstride, rfl⟩ := image?_eq_some_iff.mp hm
  refine Option.eq_none_iff_forall_ne_some.mpr fun k hk => ?_
  obtain ⟨hfirst', hlast', hstride', -⟩ := image?_eq_some_iff.mp hk
  simp only [misses, Bool.or_eq_true, Bool.and_eq_true, Nat.blt_eq, beq_iff_eq] at h
  rcases h with (h | h) | ⟨⟨htwo, h⟩, hodd⟩
  · omega
  · omega
  · rw [htwo] at hstride'
    rcases h with h | h
    · rw [h] at hstride
      omega
    · omega

theorem all_misses : (caseRuns.all fun r => caseRuns.all r.misses) = true := by decide +kernel

/-- The image of a run lies on no run. -/
theorem image?_image {r : CaseRun} (hr : r ∈ caseRuns) {n m : Nat} (hm : r.image? n = some m) :
    caseRuns.findSome? (·.image? m) = none := by
  refine List.findSome?_eq_none_iff.mpr fun s hs => ?_
  have hmisses := List.all_eq_true.mp (List.all_eq_true.mp all_misses r hr) s hs
  exact CaseRun.image?_eq_none_of_misses hmisses hm

/-- The images are characters, and none of them is the dotted capital I. -/
theorem image_isScalar :
    ∀ r ∈ caseRuns, r.lastImage < 0x130 ∨ 0x130 < r.image ∧ r.lastImage < 0xD800 ∨
      0xDFFF < r.image ∧ r.lastImage < 0x110000 := by
  decide +kernel

/-- The images lie between the blanks. -/
theorem image_between_blanks :
    ∀ r ∈ caseRuns, 0x20 < r.image ∧ r.lastImage < 0x85 ∨ 0xA0 < r.image ∧ r.lastImage < 0x1680 ∨
      0x1680 < r.image ∧ r.lastImage < 0x2000 ∨ 0x205F < r.image ∧ r.lastImage < 0x3000 ∨
      0x3000 < r.image := by
  decide +kernel

/-- One image only is in ASCII. -/
theorem image_beyond_ascii :
    ∀ r ∈ caseRuns, r.image = 0x6B ∧ r.lastImage = 0x6B ∧ r.first = 0x212A ∧ r.last = 0x212A ∨
      0x80 ≤ r.image := by
  decide +kernel

theorem eq_k_or_beyond_ascii {r : CaseRun} (hr : r ∈ caseRuns) {n m : Nat}
    (hm : r.image? n = some m) : m = 0x6B ∨ 0x80 ≤ m := by
  have hbounds := CaseRun.image_bounds hm
  have hbeyond := image_beyond_ascii r hr
  omega

/-! ### Characters -/

theorem toNat_ofNat_image {r : CaseRun} (hr : r ∈ caseRuns) {n m : Nat}
    (hm : r.image? n = some m) : (Char.ofNat m).toNat = m := by
  have hbounds := CaseRun.image_bounds hm
  have hscalar := image_isScalar r hr
  have hvalid : m.isValidChar := by
    unfold Nat.isValidChar
    omega
  rw [Char.ofNat, dif_pos hvalid]
  rfl

/-- The four ways in which the form of a character comes about. -/
theorem lowerChar_cases (c : Char) :
    (c.toNat < 0x80 ∧ lowerChar c = [c.toLower]) ∨
      (c = 'İ' ∧ lowerChar c = ['i', '\u0307']) ∨
      (∃ r ∈ caseRuns, ∃ m, r.image? c.toNat = some m ∧ lowerChar c = [Char.ofNat m]) ∨
      (0x80 ≤ c.toNat ∧ lowerChar c = [c]) := by
  unfold lowerChar
  by_cases hascii : c.toNat < 0x80
  · exact Or.inl ⟨hascii, if_pos hascii⟩
  · rw [if_neg hascii]
    by_cases hdotted : c = 'İ'
    · exact Or.inr (Or.inl ⟨hdotted, if_pos hdotted⟩)
    · rw [if_neg hdotted]
      cases himage : caseRuns.findSome? (·.image? c.toNat) with
      | none => exact Or.inr (Or.inr (Or.inr ⟨Nat.not_lt.mp hascii, rfl⟩))
      | some m =>
          obtain ⟨r, hr, hm⟩ := List.exists_of_findSome?_eq_some himage
          exact Or.inr (Or.inr (Or.inl ⟨r, hr, m, hm, rfl⟩))

/-- What a character may become in a text: its form when it stands alone, or, if it is a capital
sigma, also the small sigma at the end of a word. -/
inductive IsForm : Char → List Char → Prop where
  | alone (c : Char) : IsForm c (lowerChar c)
  | final : IsForm 'Σ' ['ς']

namespace IsForm

variable {c d : Char} {form : List Char}

theorem ne_nil (h : IsForm c form) : form ≠ [] := by
  cases h with
  | final => simp
  | alone =>
      rcases lowerChar_cases c with ⟨-, hform⟩ | ⟨-, hform⟩ | ⟨r, hr, m, -, hform⟩ | ⟨-, hform⟩ <;>
        simp [hform]

/-- Where a character of a form comes from. -/
theorem mem_cases (h : IsForm c form) (hd : d ∈ form) :
    (c = 'Σ' ∧ d = 'ς') ∨ (c.toNat < 0x80 ∧ d = c.toLower) ∨
      (c = 'İ' ∧ d ∈ ['i', '\u0307']) ∨
      (∃ r ∈ caseRuns, r.image? c.toNat = some d.toNat) ∨ (d = c ∧ lowerChar c = [c]) := by
  cases h with
  | final => exact Or.inl ⟨rfl, List.mem_singleton.mp hd⟩
  | alone =>
      refine Or.inr ?_
      rcases lowerChar_cases c with ⟨hascii, hform⟩ | ⟨hdotted, hform⟩ | ⟨r, hr, m, hm, hform⟩ |
        ⟨-, hform⟩ <;> rw [hform] at hd
      · exact Or.inl ⟨hascii, List.mem_singleton.mp hd⟩
      · exact Or.inr (Or.inl ⟨hdotted, hd⟩)
      · obtain rfl := List.mem_singleton.mp hd
        exact Or.inr (Or.inr (Or.inl ⟨r, hr, by rw [hm, toNat_ofNat_image hr hm]⟩))
      · exact Or.inr (Or.inr (Or.inr ⟨List.mem_singleton.mp hd, hform⟩))

/-- A character in lowercase is its own form. -/
theorem lowerChar_eq (h : IsForm c form) (hd : d ∈ form) : lowerChar d = [d] := by
  rcases h.mem_cases hd with ⟨-, rfl⟩ | ⟨hascii, rfl⟩ | ⟨-, hmem⟩ | ⟨r, hr, hm⟩ | ⟨rfl, hsettled⟩
  · decide
  · rw [lowerChar_toLower, lowerChar, if_pos hascii]
  · rcases List.mem_pair.mp hmem with rfl | rfl <;> decide
  · rcases eq_k_or_beyond_ascii hr hm with hk | hbeyond
    · have hkelvin : d = 'k' := by rw [← Char.ofNat_toNat d, hk]
      rw [hkelvin]
      decide
    · have hbounds := CaseRun.image_bounds hm
      have hscalar := image_isScalar r hr
      have hdotted : d ≠ 'İ' := by
        rintro rfl
        have hnat : 'İ'.toNat = 0x130 := rfl
        omega
      unfold lowerChar
      rw [if_neg (by omega), if_neg hdotted, image?_image hr hm]
  · exact hsettled

/-- No blank is the form of another character. -/
theorem isBlank_eq_false (h : IsForm c form) (hc : isBlank c = false) (hd : d ∈ form) :
    isBlank d = false := by
  rcases h.mem_cases hd with ⟨-, rfl⟩ | ⟨-, rfl⟩ | ⟨-, hmem⟩ | ⟨r, hr, hm⟩ | ⟨rfl, -⟩
  · decide
  · rw [isBlank_toLower, hc]
  · rcases List.mem_pair.mp hmem with rfl | rfl <;> decide
  · have hbounds := CaseRun.image_bounds hm
    have hbetween := image_between_blanks r hr
    unfold isBlank
    simp only [Bool.or_eq_false_iff, Bool.and_eq_false_iff, decide_eq_false_iff_not,
      beq_eq_false_iff_ne]
    omega
  · exact hc

/-- A character of ASCII that is no letter is no form but its own. -/
theorem eq_of_isCaseless (h : IsForm c form) (hd : d ∈ form) (hascii : d.toNat < 0x80)
    (hcaseless : IsCaseless d) : d = c := by
  rcases h.mem_cases hd with ⟨-, rfl⟩ | ⟨-, hsmall⟩ | ⟨-, hmem⟩ | ⟨r, hr, hm⟩ | ⟨heq, -⟩
  · exact absurd hascii (by decide)
  · exact ((hcaseless.toLower_eq_iff c).mp hsmall.symm).symm
  · rcases List.mem_pair.mp hmem with rfl | rfl
    · exact absurd hcaseless (by decide)
    · exact absurd hascii (by decide)
  · rcases eq_k_or_beyond_ascii hr hm with hk | hbeyond
    · have hkelvin : d = 'k' := by rw [← Char.ofNat_toNat d, hk]
      exact absurd (hkelvin ▸ hcaseless) (by decide)
    · omega
  · exact heq

/-- A form in ASCII without k is that of a character of ASCII. -/
theorem eq_toLower (h : IsForm c form) (hascii : ∀ d ∈ form, d.toNat < 0x80) (hk : 'k' ∉ form) :
    c.toNat < 0x80 ∧ form = [c.toLower] := by
  cases h with
  | final => exact absurd (hascii 'ς' (by simp)) (by decide)
  | alone =>
      rcases lowerChar_cases c with hform | ⟨-, hform⟩ | ⟨r, hr, m, hm, hform⟩ | ⟨hbeyond, hform⟩
      · exact hform
      · exact absurd (hascii '\u0307' (by simp [hform])) (by decide)
      · rcases eq_k_or_beyond_ascii hr hm with rfl | hbeyond
        · exact absurd (show 'k' ∈ lowerChar c by simp [hform]) hk
        · have hsmall := hascii (Char.ofNat m) (by simp [hform])
          rw [toNat_ofNat_image hr hm] at hsmall
          omega
      · have hsmall := hascii c (by simp [hform])
        omega

end IsForm

/-! ### Texts -/

/-- The lowercase form of a text is a form of its first character and what follows. -/
theorem lowerAfter_cons (before : List Char) (c : Char) (cs : List Char) :
    ∃ form, IsForm c form ∧ lowerAfter before (c :: cs) = form ++ lowerAfter (c :: before) cs := by
  by_cases hsigma : c = 'Σ'
  · subst hsigma
    refine ⟨[lowerSigma before cs], ?_, rfl⟩
    unfold lowerSigma
    split
    · exact .final
    · exact .alone 'Σ'
  · exact ⟨lowerChar c, .alone c, congrArg (· ++ lowerAfter (c :: before) cs) (if_neg hsigma)⟩

/-- Every character of a lowercase form comes from a character of the text. -/
theorem exists_form_of_mem_lowerAfter {before cs : List Char} {d : Char}
    (h : d ∈ lowerAfter before cs) : ∃ c ∈ cs, ∃ form, IsForm c form ∧ d ∈ form := by
  induction cs generalizing before with
  | nil => simp [lowerAfter] at h
  | cons c cs ih =>
      obtain ⟨form, hform, heq⟩ := lowerAfter_cons before c cs
      rw [heq, List.mem_append] at h
      rcases h with h | h
      · exact ⟨c, List.mem_cons_self, form, hform, h⟩
      · obtain ⟨c', hc', hrest⟩ := ih h
        exact ⟨c', List.mem_cons_of_mem c hc', hrest⟩

/-- A text of characters in lowercase is its own lowercase form. -/
theorem lowercase_of_settled {s : String} (h : ∀ c ∈ s.toList, lowerChar c = [c]) :
    lowercase s = s := by
  have hsigma : 'Σ' ∉ s.toList := fun hmem => absurd (h 'Σ' hmem) (by decide)
  rw [lowercase, lowerChars, lowerAfter_eq_flatMap hsigma, List.flatMap_congr h,
    List.flatMap_singleton', String.ofList_toList]

/-- What is in lowercase stays as it is, the sigmas included, which are small already. -/
theorem lowercase_lowercase (s : String) : lowercase (lowercase s) = lowercase s := by
  refine lowercase_of_settled fun d hd => ?_
  rw [lowercase, String.toList_ofList] at hd
  obtain ⟨c, -, form, hform, hmem⟩ := exists_form_of_mem_lowerAfter hd
  exact hform.lowerChar_eq hmem

/-- No separator comes in by lowercasing. -/
theorem mem_of_mem_toList_lowercase {separator : Char} {s : String}
    (hascii : separator.toNat < 0x80) (hcaseless : IsCaseless separator)
    (h : separator ∈ (lowercase s).toList) : separator ∈ s.toList := by
  rw [lowercase, String.toList_ofList] at h
  obtain ⟨c, hc, form, hform, hmem⟩ := exists_form_of_mem_lowerAfter h
  rw [hform.eq_of_isCaseless hmem hascii hcaseless]
  exact hc

theorem exists_form_of_getLast?_lowerAfter {before cs : List Char} {d : Char}
    (h : (lowerAfter before cs).getLast? = some d) :
    ∃ c, cs.getLast? = some c ∧ ∃ form, IsForm c form ∧ d ∈ form := by
  induction cs generalizing before with
  | nil => simp [lowerAfter] at h
  | cons c cs ih =>
      obtain ⟨form, hform, heq⟩ := lowerAfter_cons before c cs
      rw [heq, List.getLast?_append] at h
      cases hrest : (lowerAfter (c :: before) cs).getLast? with
      | some d' =>
          rw [hrest, Option.some_or] at h
          obtain ⟨c', hc', hd⟩ := ih (hrest.trans h)
          exact ⟨c', by rw [List.getLast?_cons, hc']; rfl, hd⟩
      | none =>
          rw [hrest, Option.none_or] at h
          -- No form is empty, so nothing of the text is left.
          have hnil : cs = [] := by
            cases cs with
            | nil => rfl
            | cons c' cs =>
                obtain ⟨form', hform', heq'⟩ := lowerAfter_cons (c :: before) c' cs
                rw [heq', List.getLast?_eq_none_iff, List.append_eq_nil_iff] at hrest
                exact absurd hrest.1 hform'.ne_nil
          subst hnil
          exact ⟨c, rfl, form, hform, List.mem_of_getLast? h⟩

/-- A text without blanks at its ends has none in lowercase. -/
theorem trimmed_lowerChars {cs : List Char} (h : Trimmed cs) : Trimmed (lowerChars cs) := by
  refine ⟨fun d hd => ?_, fun d hd => ?_⟩
  · cases cs with
    | nil => simp at hd
    | cons c cs =>
        obtain ⟨form, hform, heq⟩ := lowerAfter_cons [] c cs
        rw [lowerChars, heq, List.head?_append_of_ne_nil _ hform.ne_nil] at hd
        exact hform.isBlank_eq_false (h.1 c rfl) (List.mem_of_mem_head? hd)
  · obtain ⟨c, hc, form, hform, hmem⟩ := exists_form_of_getLast?_lowerAfter hd
    exact hform.isBlank_eq_false (h.2 c hc) hmem

end Listeners.Text
