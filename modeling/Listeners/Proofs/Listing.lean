/-
The listing of bindings, told apart from everything else that might be made of them.

Sorting is defined by what may stand before what, and different bindings may stand before each
other.  So the result is not determined by being in order; it is determined by being in order
and stable (`Proofs/Stability.lean`).  Here this is said of the single bindings that are given,
each with its number among them: a listing has all of them, in ascending order, and where two
compare equal the one with the smaller number first.  There is exactly one such list.  The numbers
are needed because a binding may be given twice.

The order itself is the lexicographic one of the two names in lowercase, compared byte by byte.
That it is a total preorder then needs no case analysis: it is made of the comparison of
bytes by operations that keep these laws.
-/
import Listeners.Proofs.ByteOrder
import Listeners.Proofs.Stability
import Mathlib.Data.List.Sigma

namespace Listeners

namespace Text

/-! ### The comparison of texts -/

theorem compare_eq_lt_iff_lex {xs ys : List UInt8} :
    compare xs ys = .lt ↔ List.Lex (· < ·) xs ys := by
  rw [List.compare_eq_compareLex]
  induction xs generalizing ys with
  | nil =>
      cases ys with
      | nil => simp [List.compareLex]
      | cons y ys => exact iff_of_true rfl List.Lex.nil
  | cons x xs ih =>
      cases ys with
      | nil => simp [List.compareLex]
      | cons y ys =>
          rw [List.compareLex_cons_cons, Ordering.then_eq_lt, List.cons_lex_cons_iff, ih,
            Std.compare_eq_lt, Std.compare_eq_eq_iff_eq]

theorem compare_bytes_eq_eq {s t : String} : compare (bytes s) (bytes t) = .eq ↔ s = t := by
  rw [Std.compare_eq_eq_iff_eq, bytes_inj]

/-- Texts are compared by their bytes as they are by their characters. -/
theorem isLE_compare_bytes {s t : String} :
    (compare (bytes s) (bytes t)).isLE = true ↔ s = t ∨ s < t := by
  rw [Ordering.isLE_iff_eq_lt_or_eq_eq, compare_eq_lt_iff_lex, lex_bytes_iff, compare_bytes_eq_eq,
    or_comm]

end Text

namespace Binding

/-! ### The comparison of bindings -/

/-- The name of the event in lowercase. -/
def lowerEvent (binding : Binding) : String := Text.lowercase binding.eventName

/-- The name of the method in lowercase. -/
def lowerMethod (binding : Binding) : String := Text.lowercase binding.methodName

/-- Bindings are compared by their events and, if these are the same, by their methods. -/
def comparison : Binding → Binding → Ordering :=
  compareLex (compareOn fun binding => Text.bytes binding.lowerEvent)
    (compareOn fun binding => Text.bytes binding.lowerMethod)

instance : Std.TransCmp comparison :=
  inferInstanceAs (Std.TransCmp (compareLex _ _))

theorem key_eq (binding : Binding) :
    binding.key = (binding.lowerEvent.toList, binding.lowerMethod.toList) := by
  unfold key lowerEvent lowerMethod Text.lowercase
  rw [String.toList_ofList, String.toList_ofList]

/-- Bindings compare equal exactly if they have the same names in lowercase. -/
theorem comparison_eq_eq_iff {a b : Binding} :
    comparison a b = .eq ↔ a.lowerEvent = b.lowerEvent ∧ a.lowerMethod = b.lowerMethod := by
  unfold comparison
  rw [compareLex_eq_eq]
  exact and_congr Text.compare_bytes_eq_eq Text.compare_bytes_eq_eq

theorem comparison_eq_eq_iff_key {a b : Binding} : comparison a b = .eq ↔ a.key = b.key := by
  rw [comparison_eq_eq_iff, key_eq, key_eq, Prod.mk.injEq, String.toList_inj, String.toList_inj]

theorem upTo_toList {s t : String} :
    Text.upTo charPrecedes s.toList t.toList =
      (compare (Text.bytes s) (Text.bytes t)).isLE := by
  have hirrefl : ∀ c, charPrecedes c c = false := fun c => decide_eq_false (Char.lt_irrefl c)
  rw [Bool.eq_iff_iff, Text.isLE_compare_bytes, String.lt_iff, ← String.toList_inj,
    Text.upTo_iff_lex hirrefl]
  unfold charPrecedes
  simp only [decide_eq_true_iff]
  rfl

/-- A binding may be listed before another exactly if it does not compare greater. -/
theorem precedes_eq_isLE (a b : Binding) : a.precedes b = (comparison a b).isLE := by
  have hevent : a.key.1 = b.key.1 ↔ a.lowerEvent = b.lowerEvent := by
    rw [key_eq, key_eq, String.toList_inj]
  have hcompare : comparison a b =
      (compare (Text.bytes a.lowerEvent) (Text.bytes b.lowerEvent)).then
        (compare (Text.bytes a.lowerMethod) (Text.bytes b.lowerMethod)) := rfl
  unfold precedes
  by_cases h : a.lowerEvent = b.lowerEvent
  · rw [if_pos (hevent.mpr h), hcompare, h, Std.ReflOrd.compare_self, key_eq, key_eq, upTo_toList]
    rfl
  · rw [if_neg (hevent.not.mpr h), hcompare, key_eq, key_eq, upTo_toList]
    cases hfirst : compare (Text.bytes a.lowerEvent) (Text.bytes b.lowerEvent) with
    | lt => rfl
    | eq => exact absurd (Text.compare_bytes_eq_eq.mp hfirst) h
    | gt => rfl

/-! ### Listings -/

/-- A list of the given bindings, each of them once, in the order of the comparison; those that
compare equal stand in the order in which they are given. -/
def IsListing (bindings listed : List Binding) : Prop :=
  ∃ places : List (Binding × Nat), places.Perm bindings.zipIdx ∧ listed = places.map (·.1) ∧
    places.Pairwise fun a b =>
      (comparison a.1 b.1).isLE = true ∧ (comparison a.1 b.1 = .eq → a.2 < b.2)

theorem pairwise_zipIdx (bindings : List Binding) (first : Nat) :
    (bindings.zipIdx first).Pairwise fun a b => a.2 < b.2 := by
  induction bindings generalizing first with
  | nil => exact List.Pairwise.nil
  | cons binding bindings ih =>
      rw [List.zipIdx_cons, List.pairwise_cons]
      refine ⟨?_, ih (first + 1)⟩
      intro place hplace
      exact List.le_snd_of_mem_zipIdx hplace

/-- The sorted list is a listing. -/
theorem isListing_sort (bindings : List Binding) : IsListing bindings (sort bindings) := by
  have hperm : (bindings.zipIdx.mergeSort (List.zipIdxLE precedes)).Perm bindings.zipIdx :=
    List.mergeSort_perm _ _
  refine ⟨bindings.zipIdx.mergeSort (List.zipIdxLE precedes), hperm,
    List.mergeSort_zipIdx.symm, ?_⟩
  have hordered := List.pairwise_mergeSort (List.zipIdxLE_trans precedes_trans)
    (List.zipIdxLE_total precedes_total) bindings.zipIdx
  have hdistinct : (bindings.zipIdx.mergeSort (List.zipIdxLE precedes)).Pairwise
      fun a b => a.2 ≠ b.2 :=
    List.pairwise_map.mp ((hperm.map Prod.snd).nodup_iff.mpr (List.nodup_zipIdx_map_snd bindings))
  refine (hordered.and hdistinct).imp ?_
  rintro a b ⟨hle, hne⟩
  unfold List.zipIdxLE at hle
  by_cases hab : a.1.precedes b.1 = true
  · rw [if_pos hab] at hle
    refine ⟨by rw [← precedes_eq_isLE]; exact hab, ?_⟩
    intro heq
    have hba : b.1.precedes a.1 = true :=
      precedes_of_key_eq (comparison_eq_eq_iff_key.mp heq).symm
    rw [if_pos hba, decide_eq_true_iff] at hle
    omega
  · rw [if_neg hab] at hle
    cases hle

/-- A listing holds the bindings of one key as they are given. -/
theorem IsListing.filter_key {bindings listed : List Binding} (h : IsListing bindings listed)
    (key : List Char × List Char) :
    listed.filter (·.key = key) = bindings.filter (·.key = key) := by
  obtain ⟨places, hperm, rfl, hordered⟩ := h
  -- The places of one key ascend in the listing as they do among the given bindings.
  have hplaces : places.filter (·.1.key = key) = bindings.zipIdx.filter (·.1.key = key) := by
    have hlisted : (places.filter (·.1.key = key)).Pairwise fun a b => a.2 < b.2 := by
      rw [List.pairwise_filter]
      refine hordered.imp ?_
      intro a b hab ha hb
      rw [decide_eq_true_iff] at ha hb
      exact hab.2 (comparison_eq_eq_iff_key.mpr (ha.trans hb.symm))
    have hgiven : (bindings.zipIdx.filter (·.1.key = key)).Pairwise fun a b => a.2 < b.2 :=
      (pairwise_zipIdx bindings 0).filter _
    refine (hperm.filter _).eq_of_pairwise ?_ hlisted hgiven
    intro a b _ _ hab hba
    omega
  have hgiven : bindings = bindings.zipIdx.map (·.1) := (List.zipIdx_map_fst 0 bindings).symm
  conv_rhs => rw [hgiven]
  rw [List.filter_map, List.filter_map]
  exact congrArg _ hplaces

theorem isListing_iff {bindings listed : List Binding} :
    IsListing bindings listed ↔ listed = sort bindings := by
  constructor
  · intro h
    refine (sort_eq_iff.mpr ⟨?_, h.filter_key⟩).symm
    obtain ⟨places, -, rfl, hordered⟩ := h
    refine List.pairwise_map.mpr (hordered.imp ?_)
    intro a b hab
    rw [precedes_eq_isLE]
    exact hab.1
  · rintro rfl
    exact isListing_sort bindings

/-- A binding that is given anywhere stands somewhere in the list of the others, which keep
their places to each other. -/
theorem exists_sort_between (front back : List Binding) (binding : Binding) :
    ∃ before after, sort (front ++ back) = before ++ after ∧
      sort (front ++ binding :: back) = before ++ binding :: after := by
  induction front with
  | nil =>
      obtain ⟨before, after, hwith, hwithout, -⟩ :=
        List.mergeSort_cons precedes_trans precedes_total binding back
      exact ⟨before, after, hwithout, hwith⟩
  | cons first front ih =>
      obtain ⟨before, after, hwithout, hwith⟩ := ih
      rw [List.cons_append, List.cons_append, sort_cons, sort_cons, hwithout, hwith]
      simp only [List.filter_append, List.filter_cons]
      by_cases hfirst : first.precedes binding = true
      · -- Then all that comes after the binding comes after the first one, too.
        have hafter : after.filter (fun b => !first.precedes b) = [] := by
          refine List.filter_eq_nil_iff.mpr ?_
          intro b hb
          have hordered := pairwise_sort (front ++ binding :: back)
          rw [hwith, List.pairwise_append] at hordered
          have hbinding := (List.pairwise_cons.mp hordered.2.1).1 b hb
          simp [precedes_trans first binding b hfirst hbinding]
        refine ⟨before.filter (fun b => !first.precedes b) ++
          first :: before.filter first.precedes, after.filter first.precedes, ?_, ?_⟩
        · simp [hafter]
        · simp [hafter, hfirst]
      · refine ⟨before.filter (fun b => !first.precedes b),
          after.filter (fun b => !first.precedes b) ++
            first :: (before.filter first.precedes ++ after.filter first.precedes), ?_, ?_⟩
        · simp
        · simp [hfirst]

/-- **Sorting gives the one listing of the bindings.**  The comparison that it follows is a total
preorder, under which exactly the bindings with the same names in lowercase are equal.  To sort
again changes nothing, and a binding that is added anywhere leaves the others in their order. -/
theorem sort_listing (bindings : List Binding) :
    (∀ listed, IsListing bindings listed ↔ listed = sort bindings) ∧
      (sort bindings).Perm bindings ∧
      sort (sort bindings) = sort bindings ∧
      (∀ front back binding, bindings = front ++ back →
        ∃ before after, sort bindings = before ++ after ∧
          sort (front ++ binding :: back) = before ++ binding :: after) ∧
      (∀ a b, comparison a b = (comparison b a).swap) ∧
      (∀ a b c, (comparison a b).isLE = true → (comparison b c).isLE = true →
        (comparison a c).isLE = true) ∧
      (∀ a b, comparison a b = .eq ↔
        a.lowerEvent = b.lowerEvent ∧ a.lowerMethod = b.lowerMethod) ∧
      ∀ a b c, comparison a b = .eq → comparison a c = comparison b c := by
  refine ⟨fun listed => isListing_iff, sort_perm bindings, sort_sort bindings, ?_, ?_, ?_, ?_, ?_⟩
  · rintro front back binding rfl
    exact exists_sort_between front back binding
  · intro a b
    exact Std.OrientedCmp.eq_swap
  · intro a b c hab hbc
    exact Std.TransCmp.isLE_trans hab hbc
  · intro a b
    exact comparison_eq_eq_iff
  · intro a b c hab
    exact Std.TransCmp.congr_left hab

end Binding

end Listeners
