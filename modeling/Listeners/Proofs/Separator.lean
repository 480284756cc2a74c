/-
Separators.

Cutting a text at a separator and joining the stretches with it again gives the text back, and
stretches in which the separator does not occur are found again when they are joined and cut.
So to know what a text is cut into is to know how it is put together.  Where only the first
separator matters, there is one way to cut a text that has one.

The stretches are looked at without the blanks around them and in lowercase.  A separator that
is no blank and is its own lowercase form does not get lost by that, so a stretch that turns
out to be a word without separators has had none before.
-/
import Listeners.Proofs.Text

namespace Listeners.Text

/-! ### Cutting and joining -/

/-- The stretches of a text, with the separator between them, are the text. -/
theorem intercalate_split (separator : Char) (s : String) :
    (String.singleton separator).intercalate (split separator s) = s := by
  refine String.toList_inj.mp ?_
  have hlists : (split separator s).map String.toList = s.toList.splitOn separator := by
    rw [split, fields_eq_splitOn, List.map_map]
    exact (List.map_congr_left fun f _ => String.toList_ofList).trans (List.map_id _)
  rw [String.toList_intercalate, String.toList_singleton, hlists, List.intercalate_splitOn]

/-- Parts in which the separator does not occur are found again as stretches. -/
theorem split_intercalate {separator : Char} {parts : List String} (hne : parts ≠ [])
    (h : ∀ part ∈ parts, separator ∉ part.toList) :
    split separator ((String.singleton separator).intercalate parts) = parts := by
  have hlists : ∀ f ∈ parts.map String.toList, separator ∉ f := by
    intro f hf
    obtain ⟨part, hpart, rfl⟩ := List.mem_map.mp hf
    exact h part hpart
  rw [split, fields_eq_splitOn, String.toList_intercalate, String.toList_singleton,
    List.splitOn_intercalate separator hlists (by simpa using hne), List.map_map]
  exact (List.map_congr_left fun part _ => String.ofList_toList).trans (List.map_id _)

/-- The stretches of a text are the parts without separator that it is joined from. -/
theorem split_eq_iff {separator : Char} {s : String} {parts : List String} :
    split separator s = parts ↔
      parts ≠ [] ∧ (∀ part ∈ parts, separator ∉ part.toList) ∧
        (String.singleton separator).intercalate parts = s := by
  constructor
  · rintro rfl
    refine ⟨?_, ?_, intercalate_split separator s⟩
    · simp [split, fields_ne_nil]
    · intro part hpart hmem
      exact (forall_mem_of_mem_split hpart separator hmem).1 rfl
  · rintro ⟨hne, hparts, rfl⟩
    exact split_intercalate hne hparts

theorem length_split (separator : Char) (s : String) :
    (split separator s).length = s.toList.count separator + 1 := by
  rw [split, List.length_map, length_fields]

theorem split_eq_singleton_iff {separator : Char} {s part : String} :
    split separator s = [part] ↔ separator ∉ s.toList ∧ part = s := by
  rw [split_eq_iff]
  constructor
  · rintro ⟨-, hpart, hjoin⟩
    obtain rfl : part = s := by simpa using hjoin
    exact ⟨hpart part (List.mem_singleton_self part), rfl⟩
  · rintro ⟨hmem, rfl⟩
    exact ⟨by simp, by simpa using hmem, by simp⟩

/-! ### The first separator -/

/-- The text is `before`, a separator, which is the first one in it, and `after`. -/
structure IsCut (separator : Char) (s before after : String) : Prop where
  joined : s = before ++ String.singleton separator ++ after
  first : separator ∉ before.toList

section

variable {separator : Char} {s before after : String}

theorem IsCut.toList_eq (h : IsCut separator s before after) :
    s.toList = before.toList ++ separator :: after.toList := by
  rw [h.joined]
  simp

theorem IsCut.split_eq (h : IsCut separator s before after) :
    split separator s = before :: split separator after := by
  have hbefore : ∀ c ∈ before.toList, (c == separator) = false := by
    intro c hc
    exact beq_false_of_ne fun e => h.first (e ▸ hc)
  rw [split, fields_eq_splitOn, h.toList_eq, List.splitOn,
    List.splitOnP_append_cons_of_forall_mem hbefore separator (beq_self_eq_true separator) _,
    List.map_cons, String.ofList_toList, split, fields_eq_splitOn, List.splitOn]

/-- A text has one first separator only. -/
theorem IsCut.unique (h : IsCut separator s before after) {before' after' : String}
    (h' : IsCut separator s before' after') : before' = before ∧ after' = after := by
  have hbefore : before' = before := by
    have hsplit := h'.split_eq.symm.trans h.split_eq
    exact (List.cons.inj hsplit).1
  subst hbefore
  have hchars := h'.toList_eq.symm.trans h.toList_eq
  have hafter := (List.cons.inj (List.append_cancel_left hchars)).2
  exact ⟨rfl, String.toList_inj.mp hafter⟩

theorem IsCut.mem (h : IsCut separator s before after) : separator ∈ s.toList := by
  rw [h.toList_eq]
  simp

/-- A text with one separator is cut into what stands before it and what stands behind it. -/
theorem split_eq_pair_iff :
    split separator s = [before, after] ↔
      s.toList.count separator = 1 ∧ IsCut separator s before after := by
  constructor
  · intro h
    have hcount := length_split separator s
    rw [h] at hcount
    obtain ⟨-, hparts, hjoin⟩ := split_eq_iff.mp h
    refine ⟨by simpa using hcount.symm, ?_, hparts before (by simp)⟩
    simpa using hjoin.symm
  · rintro ⟨hcount, h⟩
    have hafter : separator ∉ after.toList := by
      rw [h.toList_eq, List.count_append, List.count_cons_self] at hcount
      exact List.count_eq_zero.mp (by omega)
    rw [h.split_eq, split_of_not_mem hafter]

end

/-! ### Characters that stay -/

/-- Trimming takes away blanks only. -/
theorem mem_toList_trim {c : Char} {s : String} (hblank : isBlank c = false)
    (hc : c ∈ s.toList) : c ∈ (trim s).toList := by
  have hdrop : ∀ cs : List Char, c ∈ cs → c ∈ cs.dropWhile isBlank := by
    intro cs hc
    rw [← List.takeWhile_append_dropWhile (p := isBlank) (l := cs)] at hc
    rcases List.mem_append.mp hc with hc | hc
    · rw [List.mem_takeWhile_imp hc] at hblank
      exact Bool.noConfusion hblank
    · exact hc
  rw [trim, String.toList_ofList, trimChars, List.mem_reverse]
  exact hdrop _ (List.mem_reverse.mpr (hdrop _ hc))

/-- A character that is its own lowercase form stays where it is. -/
theorem mem_lowerAfter {c : Char} (hc : lowerChar c = [c]) (before : List Char) {cs : List Char}
    (hmem : c ∈ cs) : c ∈ lowerAfter before cs := by
  induction cs generalizing before with
  | nil => simp at hmem
  | cons d cs ih =>
      rw [lowerAfter, List.mem_append]
      rcases List.mem_cons.mp hmem with rfl | hmem
      · have hsigma : c ≠ 'Σ' := by
          rintro rfl
          exact absurd hc (by decide)
        rw [if_neg hsigma, hc]
        exact Or.inl (List.mem_singleton.mpr rfl)
      · exact Or.inr (ih (d :: before) hmem)

theorem mem_toList_lowercase {c : Char} {s : String} (hc : lowerChar c = [c])
    (hmem : c ∈ s.toList) : c ∈ (lowercase s).toList := by
  rw [lowercase, String.toList_ofList]
  exact mem_lowerAfter hc [] hmem

end Listeners.Text
