/-
The order in which bindings are listed.

`Binding.precedes` compares lowercase names, first those of the events and then those of
the methods, and different bindings may have the same names.  So it orders the keys of
bindings and not the bindings themselves: it is total and transitive, which is what sorting
needs, but two bindings may each come no later than the other.
-/
import Listeners.Binding

namespace Listeners.Binding

/-! ### Characters -/

theorem charPrecedes_total (a b : Char) (h : a ≠ b) :
    charPrecedes a b = true ∨ charPrecedes b a = true := by
  unfold charPrecedes
  rw [decide_eq_true_eq, decide_eq_true_eq]
  by_cases hlt : a < b
  · exact Or.inl hlt
  · by_cases hgt : b < a
    · exact Or.inr hgt
    · exact absurd (Char.le_antisymm (Char.not_lt.mp hgt) (Char.not_lt.mp hlt)) h

theorem charPrecedes_asymm (a b : Char) (hab : charPrecedes a b = true)
    (hba : charPrecedes b a = true) : a = b := by
  unfold charPrecedes at hab hba
  rw [decide_eq_true_eq] at hab hba
  exact absurd hba (Char.lt_asymm hab)

theorem charPrecedes_trans (a b c : Char) (hab : charPrecedes a b = true)
    (hbc : charPrecedes b c = true) : charPrecedes a c = true := by
  unfold charPrecedes at *
  rw [decide_eq_true_eq] at *
  exact Char.lt_trans hab hbc

/-! ### Bindings -/

/-- Of two bindings one may be listed before the other. -/
theorem precedes_total (a b : Binding) : (precedes a b || precedes b a) = true := by
  rw [Bool.or_eq_true]
  unfold precedes
  by_cases h : a.key.1 = b.key.1
  · rw [if_pos h, if_pos h.symm]
    exact Text.upTo_total charPrecedes_total a.key.2 b.key.2
  · rw [if_neg h, if_neg fun e => h e.symm]
    exact Text.upTo_total charPrecedes_total a.key.1 b.key.1

/-- What may be listed before a binding may be listed before those after it. -/
theorem precedes_trans (a b c : Binding) (hab : precedes a b = true)
    (hbc : precedes b c = true) : precedes a c = true := by
  unfold precedes at *
  by_cases h1 : a.key.1 = b.key.1
  · rw [if_pos h1] at hab
    rw [h1]
    by_cases h2 : b.key.1 = c.key.1
    · rw [if_pos h2] at hbc ⊢
      exact Text.upTo_trans charPrecedes_asymm charPrecedes_trans hab hbc
    · rw [if_neg h2] at hbc ⊢
      exact hbc
  · rw [if_neg h1] at hab
    by_cases h2 : b.key.1 = c.key.1
    · rw [← h2, if_neg h1]
      exact hab
    · rw [if_neg h2] at hbc
      -- If the event names met again behind a different one, each would come first.
      have h3 : a.key.1 ≠ c.key.1 := by
        intro e
        rw [← e] at hbc
        exact h1 (Text.upTo_antisymm charPrecedes_asymm hab hbc)
      rw [if_neg h3]
      exact Text.upTo_trans charPrecedes_asymm charPrecedes_trans hab hbc

/-! ### Sorting -/

theorem sort_perm (bindings : List Binding) : (sort bindings).Perm bindings :=
  List.mergeSort_perm bindings precedes

theorem pairwise_sort (bindings : List Binding) :
    (sort bindings).Pairwise fun a b => precedes a b = true :=
  List.pairwise_mergeSort precedes_trans precedes_total bindings

/-- Bindings that are in order already stay as they are, also those that have the same
names. -/
theorem sort_of_pairwise {bindings : List Binding}
    (h : bindings.Pairwise fun a b => precedes a b = true) : sort bindings = bindings :=
  List.mergeSort_of_pairwise h

theorem sort_sort (bindings : List Binding) : sort (sort bindings) = sort bindings :=
  sort_of_pairwise (pairwise_sort bindings)

end Listeners.Binding
