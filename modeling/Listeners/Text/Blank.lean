/-
Blank characters, trimming, and cutting a text at a separator.

Names in annotations are written by people, with blanks around them and between their
parts.  A blank is a character with the Unicode property White_Space, which is more than
the ASCII blanks (it has the no-break space and the ideographic space, for instance) and
less than "everything invisible" (the zero width space is not blank).

All functions here are defined on lists of characters, where they can be reasoned about
by induction; the versions on `String` only convert at both ends.  Lists of anything else
are cut in the same way, and so are the bytes of a path.
-/
namespace Listeners.Text

/-- The characters with the property White_Space. -/
def isBlank (c : Char) : Bool :=
  let n := c.toNat
  (9 ≤ n && n ≤ 13) || n == 0x20 || n == 0x85 || n == 0xA0 || n == 0x1680 ||
    (0x2000 ≤ n && n ≤ 0x200A) || n == 0x2028 || n == 0x2029 || n == 0x202F ||
    n == 0x205F || n == 0x3000

/-- The text without the blanks before its first and after its last other character. -/
def trimChars (cs : List Char) : List Char :=
  ((cs.dropWhile isBlank).reverse.dropWhile isBlank).reverse

/-- The text without leading and trailing blanks. -/
def trim (s : String) : String := String.ofList (trimChars s.toList)

/-- A text with no character other than blanks. -/
def isBlankText (s : String) : Bool := s.toList.all isBlank

section

variable {α : Type} [DecidableEq α]

/-- The stretches between the occurrences of `separator`, which are one more than its
occurrences; a text without it is its own only stretch. -/
def fields (separator : α) : List α → List (List α)
  | [] => [[]]
  | c :: cs =>
    if c = separator then [] :: fields separator cs
    else match fields separator cs with
      | [] => [[c]]
      | f :: fs => (c :: f) :: fs

theorem fields_ne_nil (separator : α) (cs : List α) : fields separator cs ≠ [] := by
  cases cs with
  | nil => simp [fields]
  | cons c cs =>
    simp only [fields]
    split
    · simp
    · split <;> simp

/-- There is one stretch more than there are separators. -/
theorem length_fields (separator : α) (cs : List α) :
    (fields separator cs).length = cs.count separator + 1 := by
  induction cs with
  | nil => rfl
  | cons c cs ih =>
    simp only [fields]
    split
    · next h => simp [h, ih]
    · next h =>
      rw [List.count_cons_of_ne (fun e => h e)]
      rw [← ih]
      split
      · next hnil => exact absurd hnil (fields_ne_nil separator cs)
      · next hcons => simp [hcons]

/-- No stretch holds the separator. -/
theorem not_mem_of_mem_fields {separator : α} {cs f : List α}
    (h : f ∈ fields separator cs) : separator ∉ f := by
  induction cs generalizing f with
  | nil => simp [fields] at h; simp [h]
  | cons c cs ih =>
    simp only [fields] at h
    split at h
    · rcases List.mem_cons.mp h with rfl | h
      · simp
      · exact ih h
    · next hc =>
      split at h
      · simp at h; subst h; simpa using fun e => hc e.symm
      · next g gs hg =>
        rcases List.mem_cons.mp h with rfl | h
        · simp only [List.mem_cons, not_or]
          exact ⟨fun e => hc e.symm, ih (by simp [hg])⟩
        · exact ih (by simp [hg, h])

end

/-- `s` cut at every occurrence of `separator`. -/
def split (separator : Char) (s : String) : List String :=
  (fields separator s.toList).map String.ofList

end Listeners.Text
