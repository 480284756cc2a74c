/-
Words of the vocabularies.

The names of targets, keys and events are looked up in lowercase, and lowercasing is more than
writing the capitals of ASCII small.  Characters that only look like letters of ASCII, or are
other letters altogether, may become letters of ASCII, and then a name could be taken for a word
that it is not.

It is not so with these vocabularies.  Only two characters beyond ASCII have a letter of ASCII in
their lowercase forms.  The dotted capital I keeps its dot, which is in no word, and the Kelvin sign
becomes a k, which happens to be in no word either.  The second fact is one about the words,
so a word with a k would have to be looked at.
-/
import Listeners.Proofs.Lowercase
import Listeners.Proofs.Specifier

namespace Listeners

namespace Text

/-- A word of ASCII, in small letters, without k. -/
def IsPlain (word : String) : Prop :=
  ∀ c ∈ word.toList, c.toNat < 0x80 ∧ c.toLower = c ∧ c ≠ 'k'

instance (word : String) : Decidable (IsPlain word) :=
  List.decidableBAll (fun c : Char => c.toNat < 0x80 ∧ c.toLower = c ∧ c ≠ 'k') word.toList

theorem IsPlain.toLower_eq {word : String} (h : IsPlain word) : word.toLower = word := by
  refine String.toList_inj.mp ?_
  rw [toList_toLower]
  exact (List.map_congr_left fun c hc => (h c hc).2.1).trans (List.map_id _)

/-- A plain word is its own lowercase form. -/
theorem IsPlain.lowercase_eq {word : String} (h : IsPlain word) : lowercase word = word := by
  refine lowercase_of_settled fun c hc => ?_
  obtain ⟨hascii, hsmall, -⟩ := h c hc
  rw [lowerChar, if_pos hascii, hsmall]

/-- A text whose lowercase form is in ASCII and has no k is in ASCII, and it is lowercased letter
by letter. -/
theorem lowerAfter_eq_map_toLower {before cs : List Char}
    (hascii : ∀ d ∈ lowerAfter before cs, d.toNat < 0x80) (hk : 'k' ∉ lowerAfter before cs) :
    lowerAfter before cs = cs.map Char.toLower := by
  induction cs generalizing before with
  | nil => rfl
  | cons c cs ih =>
      obtain ⟨form, hform, heq⟩ := lowerAfter_cons before c cs
      rw [heq] at hascii hk
      have hrest := ih (fun d hd => hascii d (List.mem_append_right form hd))
        fun hmem => hk (List.mem_append_right form hmem)
      obtain ⟨-, hsmall⟩ := hform.eq_toLower (fun d hd => hascii d (List.mem_append_left _ hd))
        fun hmem => hk (List.mem_append_left _ hmem)
      rw [heq, hrest, hsmall]
      rfl

/-- Plain words are found in lowercase up to the case of ASCII letters, and in no other way. -/
theorem lowercase_eq_iff {s word : String} (hword : IsPlain word) :
    lowercase s = word ↔ s.toLower = word := by
  constructor
  · intro h
    have hchars : lowerAfter [] s.toList = word.toList := by
      rw [← h, lowercase, String.toList_ofList, lowerChars]
    have hmap := lowerAfter_eq_map_toLower (hchars ▸ fun d hd => (hword d hd).1)
      (hchars ▸ fun hk => (hword 'k' hk).2.2 rfl)
    refine String.toList_inj.mp ?_
    rw [toList_toLower, ← hmap, hchars]
  · intro h
    rw [← lowercase_toLower, h, hword.lowercase_eq]

/-- With a k in the word there would be another way, the Kelvin sign. -/
example : lowercase "\u212Aey" = "key" ∧ "\u212Aey".toLower ≠ "key" := by
  refine ⟨by decide, ?_⟩
  rw [Ne, ← String.toList_inj, toList_toLower]
  decide

/-- What is a plain word up to the case of ASCII letters is in ASCII. -/
theorem toNat_lt_of_toLower_eq {s word : String} (hword : IsPlain word) (h : s.toLower = word) :
    ∀ c ∈ s.toList, c.toNat < 0x80 := by
  intro c hc
  by_cases hcapital : c ∈ capitals
  · have hcapitals : (capitals.all fun c => decide (c.toNat < 0x80)) = true := by decide
    exact of_decide_eq_true (List.all_eq_true.mp hcapitals c hcapital)
  · have hmem : c.toLower ∈ word.toList := by
      rw [← h, toList_toLower]
      exact List.mem_map_of_mem hc
    rw [toLower_of_not_mem_capitals hcapital] at hmem
    exact (hword c hmem).1

end Text

/-! ### The words -/

theorem Target.isPlain_name (target : Target) : Text.IsPlain target.name := by
  cases target <;> decide

theorem KeyFilter.isPlain_name (key : KeyFilter) : Text.IsPlain key.name := by
  cases key <;> decide

theorem isPlain_of_mem_passiveEvents : ∀ word ∈ passiveEvents, Text.IsPlain word := by
  decide

theorem Target.ofName?_lowercase_eq_some_iff {s : String} {target : Target} :
    ofName? (Text.lowercase s) = some target ↔ s.toLower = target.name := by
  rw [ofName?_eq_some_iff, eq_comm, Text.lowercase_eq_iff target.isPlain_name]

theorem KeyFilter.ofName?_lowercase_eq_some_iff {s : String} {key : KeyFilter} :
    ofName? (Text.lowercase s) = some key ↔ s.toLower = key.name := by
  rw [ofName?_eq_some_iff, eq_comm, Text.lowercase_eq_iff key.isPlain_name]

theorem isPassiveByDefault_iff {event : String} :
    isPassiveByDefault event = true ↔ ∃ word ∈ passiveEvents, event.toLower = word := by
  rw [isPassiveByDefault, List.contains_iff_mem]
  constructor
  · intro hmem
    exact ⟨_, hmem, (Text.lowercase_eq_iff (isPlain_of_mem_passiveEvents _ hmem)).mp rfl⟩
  · rintro ⟨word, hmem, hword⟩
    rwa [(Text.lowercase_eq_iff (isPlain_of_mem_passiveEvents word hmem)).mpr hword]

/-- A text with a character beyond ASCII is no word of any vocabulary. -/
theorem no_word_beyond_ascii {s : String} (h : ∃ c ∈ s.toList, 0x80 ≤ c.toNat) :
    Target.ofName? (Text.lowercase s) = none ∧ KeyFilter.ofName? (Text.lowercase s) = none ∧
      isPassiveByDefault s = false := by
  obtain ⟨c, hc, hbeyond⟩ := h
  have hno : ∀ word, Text.IsPlain word → s.toLower ≠ word := by
    intro word hword hs
    have hascii := Text.toNat_lt_of_toLower_eq hword hs c hc
    omega
  refine ⟨?_, ?_, ?_⟩
  · refine Option.eq_none_iff_forall_ne_some.mpr fun target htarget => ?_
    exact hno target.name target.isPlain_name (Target.ofName?_lowercase_eq_some_iff.mp htarget)
  · refine Option.eq_none_iff_forall_ne_some.mpr fun key hkey => ?_
    exact hno key.name key.isPlain_name (KeyFilter.ofName?_lowercase_eq_some_iff.mp hkey)
  · rw [← Bool.not_eq_true, isPassiveByDefault_iff]
    rintro ⟨word, hmem, hword⟩
    exact hno word (isPlain_of_mem_passiveEvents word hmem) hword

/-- **The vocabularies are matched up to the case of ASCII letters and no further.**  What stands
for a target or a key, without the blanks around it, is the word up to the case of its letters, and
so is the event that is usually passive.  A text with a character beyond ASCII in it is no
word of any of them, whatever its lowercase form is, so none is left in a part that is taken for
a word when the blanks around it are off. -/
theorem vocabularies_up_to_case :
    (∀ (s : String) (target : Target),
        Target.ofName? (Specifier.canonical s) = some target ↔
          (Text.trim s).toLower = target.name.toLower) ∧
      (∀ (s : String) (key : KeyFilter),
        KeyFilter.ofName? (Specifier.canonical s) = some key ↔
          (Text.trim s).toLower = key.name.toLower) ∧
      (∀ event : String, isPassiveByDefault event = true ↔
        ∃ word ∈ passiveEvents, event.toLower = word.toLower) ∧
      (∀ s : String, (∃ c ∈ s.toList, 0x80 ≤ c.toNat) →
        Target.ofName? (Text.lowercase s) = none ∧ KeyFilter.ofName? (Text.lowercase s) = none ∧
          isPassiveByDefault s = false) ∧
      ∀ s : String, (∃ c ∈ (Text.trim s).toList, 0x80 ≤ c.toNat) →
        Target.ofName? (Specifier.canonical s) = none ∧
          KeyFilter.ofName? (Specifier.canonical s) = none := by
  refine ⟨fun s target => ?_, fun s key => ?_, fun event => ?_, fun s => no_word_beyond_ascii,
    fun s h => ?_⟩
  · rw [target.isPlain_name.toLower_eq]
    exact Target.ofName?_lowercase_eq_some_iff
  · rw [key.isPlain_name.toLower_eq]
    exact KeyFilter.ofName?_lowercase_eq_some_iff
  · rw [isPassiveByDefault_iff]
    refine exists_congr fun word => and_congr_right fun hmem => ?_
    rw [(isPlain_of_mem_passiveEvents word hmem).toLower_eq]
  · obtain ⟨htarget, hkey, -⟩ := no_word_beyond_ascii h
    exact ⟨htarget, hkey⟩

/-- A dotted capital I is no i, though the lowercase form of the one begins with the other. -/
theorem vocabularies_up_to_case_look_alikes :
    Target.ofName? (Specifier.canonical " WINDOW ") = some .window ∧
      Target.ofName? (Text.lowercase "w\u0130ndow") = none ∧
      isPassiveByDefault "Wheel" = true ∧ isPassiveByDefault "\u212Awheel" = false := by
  have hwindow : (Text.trim " WINDOW ").toLower = Target.window.name.toLower := by
    rw [← String.toList_inj, Text.toList_toLower, Text.toList_toLower]
    decide
  have hwheel : "Wheel".toLower = "wheel".toLower := by
    rw [← String.toList_inj, Text.toList_toLower, Text.toList_toLower]
    decide
  obtain ⟨htarget, -, hevent, hbeyond, -⟩ := vocabularies_up_to_case
  refine ⟨(htarget " WINDOW " .window).mpr hwindow, ?_,
    (hevent "Wheel").mpr ⟨"wheel", by decide, hwheel⟩, ?_⟩
  · exact (hbeyond "w\u0130ndow" ⟨'\u0130', by decide, by decide⟩).1
  · exact (hbeyond "\u212Awheel" ⟨'\u212A', by decide, by decide⟩).2.2

end Listeners
