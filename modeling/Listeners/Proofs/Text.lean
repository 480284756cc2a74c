/-
Trimming and cutting, where there is nothing to do.

A listener name passes through the same functions more than once: its blanks and quotes
are taken out when the annotation is read, it is cut at the commas, and then it is trimmed
again when it is taken apart.  That a name is kept as it was written rests on the later
rounds doing nothing.  This file says when they do nothing.

  * Trimming leaves a text alone that does not begin or end with a blank, and what
    it returns is such a text.
  * Cutting at a separator that does not occur returns the whole text, and the stretches
    it returns otherwise hold nothing that the text does not hold.
  * A text without blanks and quotes has neither to lose, so it is the same when it is
    laid bare, trimmed, or cut at a comma it does not hold.
-/
import Listeners.Request
import Mathlib.Data.List.DropRight

namespace Listeners.Text

/-! ### Trimming -/

/-- Neither end of the text is a blank. -/
def Trimmed (cs : List Char) : Prop :=
  (∀ c, cs.head? = some c → isBlank c = false) ∧
    ∀ c, cs.getLast? = some c → isBlank c = false

theorem trimChars_eq_rdropWhile (cs : List Char) :
    trimChars cs = (cs.dropWhile isBlank).rdropWhile isBlank := rfl

/-- What is left after trimming has a blank at neither end. -/
theorem trimmed_trimChars (cs : List Char) : Trimmed (trimChars cs) := by
  rw [trimChars_eq_rdropWhile]
  set front := cs.dropWhile isBlank with hfront
  refine ⟨?_, ?_⟩
  · -- Dropping from the right leaves a prefix, so the first character is that of `front`.
    intro c hc
    obtain ⟨rest, hrest⟩ := List.rdropWhile_prefix isBlank (l := front)
    have hhead : front.head? = some c := by
      rw [← hrest, List.head?_append, hc]
      rfl
    have hnot := List.head?_dropWhile_not isBlank cs
    rw [← hfront, hhead] at hnot
    simpa using hnot
  · intro c hc
    have hne : front.rdropWhile isBlank ≠ [] := by
      intro hnil
      rw [hnil] at hc
      simp at hc
    have hlast := List.rdropWhile_last_not isBlank front hne
    rw [List.getLast?_eq_some_getLast hne, Option.some.injEq] at hc
    rw [hc] at hlast
    simpa using hlast

theorem trimChars_of_trimmed {cs : List Char} (h : Trimmed cs) : trimChars cs = cs := by
  obtain ⟨hhead, hlast⟩ := h
  have hfront : cs.dropWhile isBlank = cs := by
    cases cs with
    | nil => rfl
    | cons c rest => simp [hhead c rfl]
  rw [trimChars_eq_rdropWhile, hfront, List.rdropWhile_eq_self_iff]
  intro hne hblank
  rw [hlast _ (List.getLast?_eq_some_getLast hne)] at hblank
  exact Bool.noConfusion hblank

/-- A text in which no blank occurs at all has none at its ends. -/
theorem trimmed_of_forall {cs : List Char} (h : ∀ c ∈ cs, isBlank c = false) : Trimmed cs :=
  ⟨fun c hc => h c (List.mem_of_mem_head? hc), fun c hc => h c (List.mem_of_getLast? hc)⟩

/-- Trimming twice is trimming once. -/
theorem trim_trim (s : String) : trim (trim s) = trim s := by
  unfold trim
  rw [String.toList_ofList, trimChars_of_trimmed (trimmed_trimChars s.toList)]

theorem trim_of_forall {s : String} (h : ∀ c ∈ s.toList, isBlank c = false) : trim s = s := by
  unfold trim
  rw [trimChars_of_trimmed (trimmed_of_forall h), String.ofList_toList]

/-! ### Cutting -/

/-- The stretches hold nothing that the text does not hold. -/
theorem mem_of_mem_fields {separator c : Char} {cs f : List Char}
    (hf : f ∈ fields separator cs) (hc : c ∈ f) : c ∈ cs := by
  induction cs generalizing f with
  | nil =>
      rw [fields, List.mem_singleton] at hf
      rw [hf] at hc
      exact hc
  | cons d cs ih =>
      rw [fields] at hf
      split at hf
      · rcases List.mem_cons.mp hf with rfl | hf
        · simp at hc
        · exact List.mem_cons_of_mem d (ih hf hc)
      · split at hf
        · rw [List.mem_singleton] at hf
          rw [hf, List.mem_singleton] at hc
          simp [hc]
        · rename_i g gs hg
          rcases List.mem_cons.mp hf with rfl | hf
          · rcases List.mem_cons.mp hc with rfl | hc
            · simp
            · exact List.mem_cons_of_mem d (ih (by rw [hg]; simp) hc)
          · exact List.mem_cons_of_mem d (ih (by rw [hg]; simp [hf]) hc)

theorem fields_eq_splitOn {α : Type} [DecidableEq α] (separator : α) (cs : List α) :
    fields separator cs = cs.splitOn separator := by
  induction cs with
  | nil => rfl
  | cons c cs ih =>
      rw [fields, ih, List.splitOn_cons_eq_if_modifyHead]
      simp only [beq_iff_eq]
      split
      · rfl
      · -- There is a first stretch, which the character is put in front of.
        cases hfields : cs.splitOn separator with
        | nil => exact absurd hfields (List.splitOn_ne_nil separator cs)
        | cons f fs => rfl

theorem fields_of_not_mem {α : Type} [DecidableEq α] {separator : α} {cs : List α}
    (h : separator ∉ cs) : fields separator cs = [cs] := by
  rw [fields_eq_splitOn, List.splitOn_eq_singleton h]

theorem split_of_not_mem {separator : Char} {s : String} (h : separator ∉ s.toList) :
    split separator s = [s] := by
  unfold split
  rw [fields_of_not_mem h, List.map_singleton, String.ofList_toList]

/-- A stretch between separators holds no separator, and nothing that the text does not
hold. -/
theorem forall_mem_of_mem_split {separator : Char} {s f : String} (h : f ∈ split separator s) :
    ∀ c ∈ f.toList, c ≠ separator ∧ c ∈ s.toList := by
  obtain ⟨g, hg, rfl⟩ := List.mem_map.mp h
  intro c hc
  rw [String.toList_ofList] at hc
  refine ⟨?_, mem_of_mem_fields hg hc⟩
  rintro rfl
  exact not_mem_of_mem_fields hg hc

end Listeners.Text

/-! ### Texts without blanks and quotes -/

namespace Listeners.View

/-- No blank and no quote occurs in the text. -/
def IsBare (s : String) : Prop := ∀ c ∈ s.toList, Text.isBlank c = false ∧ isQuote c = false

theorem isBare_bare (s : String) : IsBare (bare s) := by
  intro c hc
  rw [bare, String.toList_ofList, List.mem_filter] at hc
  simpa using hc.2

theorem IsBare.bare_eq {s : String} (h : IsBare s) : bare s = s := by
  have hall : ∀ c ∈ s.toList, (!Text.isBlank c && !isQuote c) = true := by
    intro c hc
    obtain ⟨hblank, hquote⟩ := h c hc
    rw [hblank, hquote]
    rfl
  rw [bare, List.filter_eq_self.mpr hall, String.ofList_toList]

theorem IsBare.trim_eq {s : String} (h : IsBare s) : Text.trim s = s :=
  Text.trim_of_forall fun c hc => (h c hc).1

/-- A bare text is blank only if it is empty. -/
theorem IsBare.isBlankText_iff {s : String} (h : IsBare s) :
    Text.isBlankText s = true ↔ s = "" := by
  constructor
  · intro hblank
    rw [Text.isBlankText, List.all_eq_true] at hblank
    have hnil : s.toList = [] := by
      refine List.eq_nil_iff_forall_not_mem.mpr fun c hc => ?_
      have hno := (h c hc).1
      rw [hblank c hc] at hno
      exact Bool.noConfusion hno
    exact String.toList_eq_nil_iff.mp hnil
  · rintro rfl
    rfl

theorem IsBare.of_mem_split {separator : Char} {s f : String} (h : IsBare s)
    (hf : f ∈ Text.split separator s) : IsBare f :=
  fun c hc => h c (Text.forall_mem_of_mem_split hf c hc).2

end Listeners.View
