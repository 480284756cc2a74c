/-
Sorting by a key.

Things are often sorted by a part of them, their key, and different things may have the same key.
Being in order does not say where each of them stands then.  What is missing is that sorting is
stable: the things of one key stay in the order in which they were found.  Together the two say
everything: a list that is in order is determined by what it holds under each key.

So whether one first leaves things out and then sorts, or sorts and then leaves them out, is the
same (`filter_mergeSort`).
-/
import Mathlib.Data.List.Basic
import Mathlib.Data.List.Pairwise

namespace Listeners

/-- Things are compared by their keys: all of them can be, and those that come no later than each
other have the same key. -/
structure ComparesBy {α κ : Type} (le : α → α → Bool) (key : α → κ) : Prop where
  trans : ∀ a b c, le a b = true → le b c = true → le a c = true
  total : ∀ a b, (le a b || le b a) = true
  key_eq : ∀ a b, le a b = true → le b a = true → key a = key b
  le_of_key_eq : ∀ a b, key a = key b → le a b = true

namespace ComparesBy

variable {α κ : Type} {le : α → α → Bool} {key : α → κ}

theorem pairwise_mergeSort (h : ComparesBy le key) (items : List α) :
    (items.mergeSort le).Pairwise fun a b => le a b = true :=
  List.pairwise_mergeSort h.trans h.total items

/-- The first item of a list that is in order comes no later than all of it. -/
theorem le_of_mem_cons (h : ComparesBy le key) {a b : α} {items : List α}
    (hordered : (a :: items).Pairwise fun a b => le a b = true) (hb : b ∈ a :: items) :
    le a b = true := by
  rcases List.mem_cons.mp hb with rfl | hb
  · exact h.le_of_key_eq _ _ rfl
  · exact (List.pairwise_cons.mp hordered).1 b hb

variable [DecidableEq κ]

/-- Sorting leaves the items of one key in their order. -/
theorem filter_key_mergeSort (h : ComparesBy le key) (k : κ) (items : List α) :
    (items.mergeSort le).filter (key · = k) = items.filter (key · = k) := by
  have hkey : ∀ a ∈ items.filter (key · = k), key a = k := by
    intro a ha
    simpa using (List.mem_filter.mp ha).2
  have hordered : (items.filter (key · = k)).Pairwise fun a b => le a b = true :=
    List.pairwise_of_forall_mem_list fun a ha b hb =>
      h.le_of_key_eq a b ((hkey a ha).trans (hkey b hb).symm)
  -- Being in order, the part stands in the sorted list as it is, and nothing else there has
  -- its key.
  have hsublist : (items.filter (key · = k)).Sublist (items.mergeSort le) :=
    List.sublist_mergeSort h.trans h.total hordered List.filter_sublist
  have hpart : (items.filter (key · = k)).Sublist ((items.mergeSort le).filter (key · = k)) := by
    have hself : (items.filter (key · = k)).filter (key · = k) = items.filter (key · = k) :=
      List.filter_eq_self.mpr fun a ha => by simpa using hkey a ha
    rw [← hself]
    exact hsublist.filter _
  have hlength := ((List.mergeSort_perm items le).filter (key · = k)).length_eq
  exact (hpart.eq_of_length hlength.symm).symm

theorem mem_iff_of_filter_key {as bs : List α}
    (h : ∀ k, as.filter (key · = k) = bs.filter (key · = k)) (c : α) : c ∈ as ↔ c ∈ bs := by
  have hc : c ∈ as.filter (key · = key c) ↔ c ∈ bs.filter (key · = key c) := by rw [h]
  simpa using hc

/-- A list that is in order is determined by what it holds under each key. -/
theorem eq_of_filter_key (h : ComparesBy le key) {as bs : List α}
    (has : as.Pairwise fun a b => le a b = true) (hbs : bs.Pairwise fun a b => le a b = true)
    (hkeys : ∀ k, as.filter (key · = k) = bs.filter (key · = k)) : as = bs := by
  have hmem := mem_iff_of_filter_key hkeys
  induction as generalizing bs with
  | nil =>
      refine (List.eq_nil_iff_forall_not_mem.mpr fun c hc => ?_).symm
      simpa using (hmem c).mpr hc
  | cons a as ih =>
      cases bs with
      | nil => simpa using (hmem a).mp (by simp)
      | cons b bs =>
          -- The first item of each list stands in the other list, too.
          have hab : le a b = true := h.le_of_mem_cons has ((hmem b).mpr (by simp))
          have hba : le b a = true := h.le_of_mem_cons hbs ((hmem a).mp (by simp))
          have hkey : key a = key b := h.key_eq a b hab hba
          have hfirst := hkeys (key a)
          rw [List.filter_cons_of_pos (by simp), List.filter_cons_of_pos (by simp [hkey])] at hfirst
          obtain ⟨rfl, -⟩ := List.cons.inj hfirst
          have hrest : ∀ k, as.filter (key · = k) = bs.filter (key · = k) := by
            intro k
            have hall := hkeys k
            rw [List.filter_cons, List.filter_cons] at hall
            split at hall
            · exact (List.cons.inj hall).2
            · exact hall
          rw [ih (List.pairwise_cons.mp has).2 (List.pairwise_cons.mp hbs).2 hrest
            (mem_iff_of_filter_key hrest)]

/-- **What is left out makes no difference to the order of the rest.** -/
theorem filter_mergeSort (h : ComparesBy le key) (p : α → Bool) (items : List α) :
    (items.mergeSort le).filter p = (items.filter p).mergeSort le := by
  refine h.eq_of_filter_key ((h.pairwise_mergeSort items).filter p)
    (h.pairwise_mergeSort (items.filter p)) fun k => ?_
  rw [List.filter_comm, h.filter_key_mergeSort, h.filter_key_mergeSort, List.filter_comm]

end ComparesBy

end Listeners
