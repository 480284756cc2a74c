/-
The order of lists by their elements.

Lists are compared at the first place where they differ, and a list comes before all those
that continue it.  Texts are ordered so by their characters, which is also the order of
their bytes, and paths by the names in them.
-/
namespace Listeners.Text

/-- Whether a list comes no later than another, if the elements come in the order
`precedes`. -/
def upTo {α : Type} [DecidableEq α] (precedes : α → α → Bool) : List α → List α → Bool
  | [], _ => true
  | _ :: _, [] => false
  | a :: as, b :: bs => if a = b then upTo precedes as bs else precedes a b

section

variable {α : Type} [DecidableEq α] {precedes : α → α → Bool}

/-- Every list comes no later than itself. -/
theorem upTo_refl (as : List α) : upTo precedes as as = true := by
  induction as with
  | nil => rfl
  | cons a as ih => simp [upTo, ih]

/-- Of two lists one comes no later than the other, if that is so of different elements. -/
theorem upTo_total (total : ∀ a b, a ≠ b → precedes a b = true ∨ precedes b a = true)
    (as bs : List α) : upTo precedes as bs = true ∨ upTo precedes bs as = true := by
  induction as generalizing bs with
  | nil => exact Or.inl rfl
  | cons a as ih =>
    cases bs with
    | nil => exact Or.inr rfl
    | cons b bs =>
      by_cases h : a = b
      · subst h
        simpa [upTo] using ih bs
      · have h' : b ≠ a := fun e => h e.symm
        simpa [upTo, h, h'] using total a b h

/-- Lists of which each comes no later than the other are the same, if elements of which
each comes before the other are. -/
theorem upTo_antisymm (asymm : ∀ a b, precedes a b = true → precedes b a = true → a = b)
    {as bs : List α} (h : upTo precedes as bs = true) (g : upTo precedes bs as = true) :
    as = bs := by
  induction as generalizing bs with
  | nil =>
    cases bs with
    | nil => rfl
    | cons b bs => cases g
  | cons a as ih =>
    cases bs with
    | nil => cases h
    | cons b bs =>
      by_cases e : a = b
      · subst e
        simp only [upTo, if_true] at h g
        rw [ih h g]
      · have e' : b ≠ a := fun e' => e e'.symm
        simp only [upTo, e, e', if_false] at h g
        exact absurd (asymm a b h g) e

/-- What comes no later than a list comes no later than those after it. -/
theorem upTo_trans
    (asymm : ∀ a b, precedes a b = true → precedes b a = true → a = b)
    (trans : ∀ a b c, precedes a b = true → precedes b c = true → precedes a c = true)
    {as bs cs : List α} (h : upTo precedes as bs = true) (g : upTo precedes bs cs = true) :
    upTo precedes as cs = true := by
  induction as generalizing bs cs with
  | nil => rfl
  | cons a as ih =>
    cases bs with
    | nil => cases h
    | cons b bs =>
      cases cs with
      | nil => cases g
      | cons c cs =>
        simp only [upTo] at h g ⊢
        split at h
        · next hab =>
          subst hab
          split at g
          · next hbc => simpa [hbc] using ih h g
          · next hbc => simpa [hbc] using g
        · next hab =>
          split at g
          · next hbc =>
            subst hbc
            simpa [hab] using h
          · next hbc =>
            split
            · next hac =>
              subst hac
              exact absurd (asymm _ _ h g) hab
            · exact trans _ _ _ h g

end

end Listeners.Text
