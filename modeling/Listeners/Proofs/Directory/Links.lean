/-
Entries that are not there.

Whoever takes an entry out of a tree can only lose files by it: what can still be reached is what
was reached before, on the same way (`isWay_of_erase`).  And nothing is lost with a link that leads
nowhere, because nothing that is followed through it arrives, with the link or without it
(`isWay_erase_iff`).
-/
import Listeners.Proofs.Directory.Ways
import Listeners.Proofs.Text

namespace Listeners.Directory.Tree

variable {tree : Tree} {links : Nat} {here place gone : Place} {name : Name} {root : Bytes}
  {parts : List Bytes} {names : List Name} {content : ByteArray}

/-! ### Without an entry -/

/-- A tree without the entry at a place. -/
def erase (tree : Tree) (place : Place) : Tree where
  entries := tree.entries.filter (·.1 ≠ place)
  distinct := (List.filter_sublist.map _).nodup tree.distinct

theorem find?_erase_of_ne {other : Place} (h : other ≠ place) :
    (tree.erase place).find? other = tree.find? other := by
  by_cases htop : other = []
  · rw [htop]
    rfl
  · rw [find?_of_ne_nil _ htop, find?_of_ne_nil _ htop, erase, List.find?_filter]
    congr 2
    funext found
    by_cases hfound : found.1 = other
    · simp [hfound, h]
    · simp [hfound]

theorem find?_erase_self (h : place ≠ []) : (tree.erase place).find? place = none := by
  rw [find?_of_ne_nil _ h, Option.map_eq_none_iff, erase, List.find?_filter, List.find?_eq_none]
  intro found _
  by_cases hfound : found.1 = place
  · simp [hfound]
  · simp [hfound]

/-- What a tree still has without an entry, it has. -/
theorem find?_of_erase {entry : Entry} (h : (tree.erase gone).find? place = some entry) :
    tree.find? place = some entry := by
  by_cases htop : place = []
  · subst htop
    exact h
  by_cases hplace : place = gone
  · rw [hplace, find?_erase_self (hplace ▸ htop)] at h
    cases h
  · rwa [find?_erase_of_ne hplace] at h

/-- A path that arrives without an entry has not come by it. -/
theorem follow_of_erase (h : (tree.erase gone).follow links here parts = some place) :
    tree.follow links here parts = some place := by
  fun_induction (tree.erase gone).follow links here parts with
  | case1 => simpa [follow] using h
  | case2 links here part parts hstay ih => rw [follow, if_pos hstay, ih h]
  | case3 links here parts hstay ih => rw [follow, if_neg hstay, if_pos rfl, ih h]
  | case4 => cases h
  | case5 => cases h
  | case6 links here part parts hstay hup name hname hfound ih =>
      rw [follow, if_neg hstay, if_neg hup]
      simp only [hname, find?_of_erase hfound, ih h]
  | case7 links here part parts hstay hup name hname content hfound hlast =>
      rw [follow, if_neg hstay, if_neg hup]
      simp only [hname, find?_of_erase hfound, hlast, if_true, h]
  | case8 => cases h
  | case9 => cases h
  | case10 => cases h
  | case11 here part parts hstay hup name hname target hfound links htarget ih =>
      rw [follow, if_neg hstay, if_neg hup]
      simp only [hname, find?_of_erase hfound, if_neg htarget, ih h]

theorem reach_of_erase (h : (tree.erase gone).reach root names = some place) :
    tree.reach root names = some place := by
  unfold reach at h ⊢
  by_cases hroot : root = []
  · rwa [if_pos hroot] at h ⊢
  · rw [if_neg hroot] at h ⊢
    exact follow_of_erase h

theorem LeadsToDirectory.of_erase (h : (tree.erase gone).LeadsToDirectory root names) :
    tree.LeadsToDirectory root names := by
  obtain ⟨place, hreach, hplace⟩ := h
  exact ⟨place, reach_of_erase hreach, find?_of_erase hplace⟩

theorem LeadsToFile.of_erase (h : (tree.erase gone).LeadsToFile root names content) :
    tree.LeadsToFile root names content := by
  obtain ⟨place, hreach, hplace⟩ := h
  exact ⟨place, reach_of_erase hreach, find?_of_erase hplace⟩

/-- **A way that is left without an entry is a way with it.** -/
theorem isWay_of_erase (h : (tree.erase gone).IsWay root names content) :
    tree.IsWay root names content := by
  have hsame : ∀ way, way <+: names →
      tree.reach root way = (tree.erase gone).reach root way := by
    intro way hway
    obtain ⟨place, hplace⟩ := h.exists_reach hway
    rw [hplace]
    exact reach_of_erase hplace
  refine h.transfer (fun way => LeadsToDirectory.of_erase) h.file.of_erase ?_
  intro way name hname hreturn here target hhere hlink earlier hearlier
  have hway : way <+: names := (List.prefix_append way [name]).trans hname
  have hproper : way ≠ names := by
    rintro rfl
    have hlength := hname.length_le
    rw [List.length_append, List.length_singleton] at hlength
    omega
  rw [hsame way hway] at hhere
  rw [hsame earlier (hearlier.trans hway), hsame _ hname]
  refine hreturn here target hhere ?_ earlier hearlier
  -- The link is among the entries that are left, or the way would end before it.
  obtain ⟨other, hother, hdirectory⟩ := h.directories way hway hproper
  obtain rfl : other = here := Option.some.inj (hother.symm.trans hhere)
  cases hfound : (tree.erase gone).find? (other ++ [name]) with
  | none =>
      obtain ⟨goal, hgoal⟩ := h.exists_reach hname
      rw [reach_concat_of_missing hhere hdirectory hfound] at hgoal
      cases hgoal
  | some entry => rw [← hlink, find?_of_erase hfound]

/-! ### Without a link that leads nowhere -/

/-- Whether the link at a place leads nowhere. -/
def IsDangling (tree : Tree) (here : Place) (name : Name) : Prop :=
  ∃ target, tree.find? (here ++ [name]) = some (.link target) ∧ tree.locate here target = none

/-- A link to itself leads nowhere, because only so many links are followed. -/
theorem isDangling_of_self (h : tree.find? (here ++ [name]) = some (.link name.bytes)) :
    tree.IsDangling here name := by
  have hfields : Text.fields Path.slash name.bytes = [name.bytes] :=
    Text.fields_of_not_mem name.isName.2.1
  have hbase : base here name.bytes = here := by
    refine if_neg fun hslash => name.isName.2.1 ?_
    exact List.mem_of_head? hslash
  have hnone : ∀ links, tree.follow links here [name.bytes] = none := by
    intro links
    induction links with
    | zero => rw [follow_cons, h]
    | succ links ih =>
        rw [follow_cons, h]
        simp only [hbase, hfields, List.append_nil, ih, ite_self]
  refine ⟨name.bytes, h, ?_⟩
  rw [locate, if_neg name.bytes_ne.1, hbase, hfields]
  exact hnone linkLimit

/-- A link to the directory that it stands in leads there as often as links may be followed. -/
theorem follow_replicate (h : tree.find? (here ++ [name]) = some (.link [Path.dot])) (count : Nat) :
    tree.follow links here (List.replicate count name.bytes) =
      if count ≤ links then some here else none := by
  have hbase : base here [Path.dot] = here := if_neg (by decide)
  have hfields : Text.fields Path.slash [Path.dot] = [[Path.dot]] := by decide
  induction count generalizing links with
  | zero => simp [follow]
  | succ count ih =>
      rw [List.replicate_succ, follow_cons, h]
      cases links with
      | zero => rfl
      | succ links =>
          dsimp only
          rw [if_neg (List.cons_ne_nil _ _), hbase, hfields, List.singleton_append, follow,
            if_pos (by simp), ih]
          simp only [Nat.add_le_add_iff_right]

/-- Without a link that leads nowhere, every path leads where it led before. -/
theorem follow_erase {there : Place} {dangling : Name} (h : tree.IsDangling there dangling)
    (hlinks : links ≤ linkLimit) :
    (tree.erase (there ++ [dangling])).follow links here parts =
      tree.follow links here parts := by
  obtain ⟨target, hlink, hnowhere⟩ := h
  have hkept : ∀ other, tree.find? other ≠ some (.link target) →
      (tree.erase (there ++ [dangling])).find? other = tree.find? other := by
    intro other hother
    exact find?_erase_of_ne fun e => hother (e ▸ hlink)
  fun_induction tree.follow links here parts with
  | case1 | case2 | case3 | case4 | case5 | case6 | case7 | case8 => simp_all [follow]
  | case10 here part parts hstay hup name hname links hfound =>
      rw [follow, if_neg hstay, if_neg hup]
      by_cases hplace : here ++ [name] = there ++ [dangling]
      · simp [hname, hplace, find?_erase_self]
      · simp [hname, find?_erase_of_ne hplace, hfound]
  | case9 here part parts hstay hup name hname other hfound =>
      rw [follow, if_neg hstay, if_neg hup]
      by_cases hplace : here ++ [name] = there ++ [dangling]
      · simp [hname, hplace, find?_erase_self]
      · simp [hname, find?_erase_of_ne hplace, hfound]
  | case11 here part parts hstay hup name hname other hfound links hother ih =>
      rw [follow, if_neg hstay, if_neg hup]
      by_cases hplace : here ++ [name] = there ++ [dangling]
      · -- The link itself: its own path leads nowhere, and so it does with fewer links.
        obtain ⟨rfl, rfl⟩ : here = there ∧ name = dangling := by simpa using hplace
        obtain rfl : target = other := by simpa [hfound] using hlink.symm
        have hshort :
            tree.follow links (base here target) (Text.fields Path.slash target) = none := by
          refine Option.eq_none_iff_forall_ne_some.mpr fun goal hgoal => ?_
          have hlong := follow_mono hgoal (Nat.le_of_succ_le hlinks)
          rw [locate, if_neg hother, hlong] at hnowhere
          cases hnowhere
        rw [follow_append_eq_none hshort]
        simp [hname, find?_erase_self]
      · simp only [hname, find?_erase_of_ne hplace, hfound, if_neg hother]
        exact ih (Nat.le_of_succ_le hlinks)

theorem reach_erase (h : tree.IsDangling here name) (names : List Name) :
    (tree.erase (here ++ [name])).reach root names = tree.reach root names := by
  unfold reach
  rw [follow_erase h (Nat.le_refl _)]

/-- **The ways are the same** without a link that leads nowhere. -/
theorem isWay_erase_iff (h : tree.IsDangling here name) :
    (tree.erase (here ++ [name])).IsWay root names content ↔ tree.IsWay root names content := by
  refine ⟨isWay_of_erase, fun hway => ?_⟩
  obtain ⟨target, hlink, -⟩ := id h
  have hkept : ∀ place entry, tree.find? place = some entry → (∀ target, entry ≠ .link target) →
      (tree.erase (here ++ [name])).find? place = some entry := by
    intro place entry hplace hplain
    rw [find?_erase_of_ne, hplace]
    rintro rfl
    exact hplain target (Option.some.inj (hplace.symm.trans hlink))
  refine hway.transfer ?_ ?_ ?_
  · rintro way ⟨place, hreach, hplace⟩
    exact ⟨place, by rw [reach_erase h, hreach], hkept place _ hplace (by simp)⟩
  · obtain ⟨place, hreach, hplace⟩ := hway.file
    exact ⟨place, by rw [reach_erase h, hreach], hkept place _ hplace (by simp)⟩
  · intro way other _ hreturn there target hthere hfound earlier hearlier
    rw [reach_erase h] at hthere
    rw [reach_erase h, reach_erase h]
    exact hreturn there target hthere (find?_of_erase hfound) earlier hearlier

end Listeners.Directory.Tree
