/-
Where sorting puts a binding.

Sorted bindings are in order (`Proofs/Order.lean`), but different bindings may be listed
under the same names, so being in order does not say where each of them stands.  Bindings are
compared by their keys, and sorting by a key is stable (`Proofs/StableSort.lean`), so to
recognise a sorted list it is enough to look at what it holds under each key.

Two results are built on this.  Bindings that are found in two parts are listed as the merge
of the two lists, and bindings that are added anywhere leave those that are listed already
in their order.
-/
import Listeners.Proofs.Order
import Listeners.Proofs.StableSort

namespace Listeners.Binding

/-! ### Only the key counts -/

/-- Bindings each of which may be listed before the other have the same key. -/
theorem key_eq_of_precedes {a b : Binding} (hab : precedes a b = true)
    (hba : precedes b a = true) : a.key = b.key := by
  unfold precedes at hab hba
  by_cases h : a.key.1 = b.key.1
  · rw [if_pos h] at hab
    rw [if_pos h.symm] at hba
    exact Prod.ext h (Text.upTo_antisymm charPrecedes_asymm hab hba)
  · rw [if_neg h] at hab
    rw [if_neg fun e => h e.symm] at hba
    exact absurd (Text.upTo_antisymm charPrecedes_asymm hab hba) h

theorem precedes_congr {a b c d : Binding} (hac : a.key = c.key) (hbd : b.key = d.key) :
    precedes a b = precedes c d := by
  unfold precedes
  rw [hac, hbd]

theorem precedes_of_key_eq {a b : Binding} (h : a.key = b.key) : precedes a b = true := by
  unfold precedes
  rw [h, if_pos rfl]
  exact Text.upTo_refl b.key.2

/-- Bindings are compared by their keys. -/
theorem comparesBy_key : ComparesBy precedes key where
  trans := precedes_trans
  total := precedes_total
  key_eq := fun _ _ => key_eq_of_precedes
  le_of_key_eq := fun _ _ => precedes_of_key_eq

/-! ### What stands under one key -/

/-- Sorting leaves the bindings of one key in their order. -/
theorem filter_key_sort (key : List Char × List Char) (bindings : List Binding) :
    (sort bindings).filter (·.key = key) = bindings.filter (·.key = key) :=
  comparesBy_key.filter_key_mergeSort key bindings

/-- **The sorted list is the one that is in order and holds the same under each key.** -/
theorem sort_eq_iff {bindings sorted : List Binding} :
    sort bindings = sorted ↔
      (sorted.Pairwise fun a b => precedes a b = true) ∧
        ∀ key, sorted.filter (·.key = key) = bindings.filter (·.key = key) := by
  constructor
  · rintro rfl
    exact ⟨pairwise_sort bindings, fun key => filter_key_sort key bindings⟩
  · rintro ⟨hordered, hkeys⟩
    refine comparesBy_key.eq_of_filter_key (pairwise_sort bindings) hordered fun key => ?_
    rw [filter_key_sort, hkeys]

/-! ### Bindings that are found in another order -/

theorem sort_perm_sort {as bs : List Binding} (h : as.Perm bs) : (sort as).Perm (sort bs) :=
  (sort_perm as).trans (h.trans (sort_perm bs).symm)

/-- Whatever the order is in which bindings are found, the same keys are listed in the same
places. -/
theorem map_key_sort_of_perm {as bs : List Binding} (h : as.Perm bs) :
    (sort as).map key = (sort bs).map key := by
  have hordered : ∀ cs, ((sort cs).map key).Pairwise fun k l =>
      ∃ a b : Binding, a.key = k ∧ b.key = l ∧ precedes a b = true :=
    fun cs => List.pairwise_map.mpr ((pairwise_sort cs).imp fun hab => ⟨_, _, rfl, rfl, hab⟩)
  refine ((sort_perm_sort h).map key).eq_of_pairwise ?_ (hordered as) (hordered bs)
  rintro _ _ - - ⟨a, b, rfl, rfl, hab⟩ ⟨c, d, hc, hd, hcd⟩
  rw [precedes_congr hc hd] at hcd
  exact key_eq_of_precedes hab hcd

/-- Bindings that are found in another order are listed in the same way, if none of them differ
under the same names. -/
theorem sort_eq_of_perm {as bs : List Binding} (h : as.Perm bs)
    (hkeys : ∀ a ∈ as, ∀ b ∈ as, a.key = b.key → a = b) : sort as = sort bs := by
  refine (sort_perm_sort h).eq_of_pairwise (fun a b ha hb hab hba => ?_) (pairwise_sort as)
    (pairwise_sort bs)
  have ha' : a ∈ as := (sort_perm as).mem_iff.mp ha
  have hb' : b ∈ as := h.mem_iff.mpr ((sort_perm bs).mem_iff.mp hb)
  exact hkeys a ha' b hb' (key_eq_of_precedes hab hba)

/-! ### Bindings that are found in two parts -/

/-- Merging puts the first part before the second under each key. -/
theorem filter_key_merge (key : List Char × List Char) {as bs : List Binding}
    (has : as.Pairwise fun a b => precedes a b = true) :
    (as.merge bs precedes).filter (·.key = key) =
      as.filter (·.key = key) ++ bs.filter (·.key = key) := by
  induction as generalizing bs with
  | nil => simp
  | cons a as iha =>
      have hrest := (List.pairwise_cons.mp has).2
      induction bs with
      | nil => simp
      | cons b bs ihb =>
          by_cases hab : precedes a b = true
          · rw [List.cons_merge_cons_pos _ _ _ hab, List.filter_cons, iha hrest]
            by_cases ha : a.key = key <;> simp [ha]
          · -- Then `b` comes before everything that is left of the first part, so nothing
            -- there has its key.
            have hnone : b.key = key → (a :: as).filter (·.key = key) = [] := by
              intro hb
              refine List.filter_eq_nil_iff.mpr fun c hc hkey => hab ?_
              have hcb : c.key = b.key := by simpa [hb] using hkey
              rw [precedes_congr rfl hcb.symm]
              exact comparesBy_key.le_of_mem_cons has hc
            rw [List.cons_merge_cons_neg _ _ _ hab, List.filter_cons, ihb]
            by_cases hb : b.key = key
            · rw [hnone hb]
              simp [hb]
            · simp [hb]

/-- Bindings that are found one part after the other are listed as the merge of the parts, the
first part before the second where keys are the same. -/
theorem sort_append (as bs : List Binding) :
    sort (as ++ bs) = (sort as).merge (sort bs) precedes := by
  refine sort_eq_iff.mpr ⟨?_, fun key => ?_⟩
  · exact List.pairwise_merge precedes_trans precedes_total _ _ (pairwise_sort as)
      (pairwise_sort bs)
  · rw [filter_key_merge key (pairwise_sort as), filter_key_sort, filter_key_sort,
      List.filter_append]

/-! ### Bindings that are added -/

/-- A binding that is found first comes behind those that it may not be listed before, and in
front of all the others. -/
theorem sort_cons (a : Binding) (bindings : List Binding) :
    sort (a :: bindings) =
      (sort bindings).filter (fun b => !precedes a b) ++
        a :: (sort bindings).filter (precedes a) := by
  obtain ⟨front, back, hcons, hsort, hfront⟩ :=
    List.mergeSort_cons precedes_trans precedes_total a bindings
  have hback : ∀ b ∈ back, precedes a b = true := by
    have hordered := pairwise_sort (a :: bindings)
    rw [sort, hcons, List.pairwise_append] at hordered
    exact (List.pairwise_cons.mp hordered.2.1).1
  rw [sort, hcons, sort, hsort, List.filter_append, List.filter_append,
    List.filter_eq_self.mpr hfront, List.filter_eq_nil_iff.mpr fun b hb => by simp [hback b hb],
    List.filter_eq_nil_iff.mpr fun b hb => by simpa using hfront b hb,
    List.filter_eq_self.mpr hback, List.append_nil, List.nil_append]

theorem sort_sublist_sort_cons (a : Binding) (bindings : List Binding) :
    (sort bindings).Sublist (sort (a :: bindings)) := by
  obtain ⟨front, back, hcons, hsort, -⟩ :=
    List.mergeSort_cons precedes_trans precedes_total a bindings
  rw [sort, hsort, sort, hcons]
  exact (List.Sublist.refl front).append (List.sublist_cons_self a back)

/-- Bindings that are added anywhere leave the others listed in their order. -/
theorem sort_sublist {as bs : List Binding} (h : as.Sublist bs) : (sort as).Sublist (sort bs) := by
  induction h with
  | slnil => exact List.Sublist.refl _
  | @cons as bs b h ih => exact ih.trans (sort_sublist_sort_cons b bs)
  | @cons_cons as bs a h ih =>
      rw [sort_cons, sort_cons]
      exact (ih.filter _).append ((ih.filter _).cons_cons a)

end Listeners.Binding
