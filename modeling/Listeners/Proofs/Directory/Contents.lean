/-
Trees with other contents.

Where a path leads depends on the names of the entries, and on which of them are directories and
which are links, but not on what stands in a file.  So if contents are changed, the ways to the
files stay, and only what is found at their ends is different (`isWay_rewrite_iff`).
-/
import Listeners.Proofs.Directory.Ways

namespace Listeners.Directory

/-- A file with another content; everything else stays. -/
def Entry.rewrite (change : ByteArray → ByteArray) : Entry → Entry
  | .file content => .file (change content)
  | .directory => .directory
  | .link target => .link target

namespace Tree

variable {tree : Tree} {change : Place → ByteArray → ByteArray} {root : Bytes}
  {names : List Name} {content : ByteArray} {place : Place}

/-- The tree after each file has been changed by `change`, for the place where it is. -/
def rewrite (tree : Tree) (change : Place → ByteArray → ByteArray) : Tree where
  entries := tree.entries.map fun found => (found.1, found.2.rewrite (change found.1))
  distinct := by
    rw [List.map_map]
    exact tree.distinct

theorem find?_rewrite (tree : Tree) (change : Place → ByteArray → ByteArray) (place : Place) :
    (tree.rewrite change).find? place =
      (tree.find? place).map fun entry => entry.rewrite (change place) := by
  by_cases htop : place = []
  · subst htop
    rfl
  · rw [find?_of_ne_nil _ htop, find?_of_ne_nil _ htop, rewrite, List.find?_map, Option.map_map,
      Option.map_map]
    refine Option.map_congr fun found hfound => ?_
    have hplace := List.find?_some hfound
    simp only [Function.comp, beq_iff_eq] at hplace ⊢
    rw [hplace]

/-- A path leads where it led before. -/
theorem follow_rewrite (links : Nat) (here : Place) (parts : List Bytes) :
    (tree.rewrite change).follow links here parts = tree.follow links here parts := by
  fun_induction tree.follow links here parts with
  | case1 => rw [follow]
  | case2 links here part parts hstay ih => rw [follow, if_pos hstay, ih]
  | case3 links here parts hstay ih => rw [follow, if_neg hstay, if_pos rfl, ih]
  | case4 | case5 | case6 | case7 | case8 | case9 | case10 | case11 =>
      simp_all [follow, find?_rewrite, Entry.rewrite]

theorem reach_rewrite (names : List Name) :
    (tree.rewrite change).reach root names = tree.reach root names := by
  rw [reach, reach, follow_rewrite]

theorem find?_rewrite_eq_directory_iff :
    (tree.rewrite change).find? place = some .directory ↔
      tree.find? place = some .directory := by
  rw [find?_rewrite]
  cases tree.find? place with
  | none => simp
  | some entry => cases entry <;> simp [Entry.rewrite]

theorem find?_rewrite_eq_link_iff {target : Bytes} :
    (tree.rewrite change).find? place = some (.link target) ↔
      tree.find? place = some (.link target) := by
  rw [find?_rewrite]
  cases tree.find? place with
  | none => simp
  | some entry => cases entry <;> simp [Entry.rewrite]

theorem find?_rewrite_eq_file_iff :
    (tree.rewrite change).find? place = some (.file content) ↔
      ∃ before, tree.find? place = some (.file before) ∧ content = change place before := by
  rw [find?_rewrite]
  cases tree.find? place with
  | none => simp
  | some entry => cases entry <;> simp [Entry.rewrite, eq_comm]

/-- **The ways to the files stay**, and at their ends is what the files were changed into. -/
theorem isWay_rewrite_iff :
    (tree.rewrite change).IsWay root names content ↔
      ∃ place before, tree.reach root names = some place ∧ content = change place before ∧
        tree.IsWay root names before := by
  have hdirectory : ∀ way, (tree.rewrite change).LeadsToDirectory root way ↔
      tree.LeadsToDirectory root way := by
    intro way
    simp only [LeadsToDirectory, reach_rewrite, find?_rewrite_eq_directory_iff]
  have hreturn : ∀ way name, (tree.rewrite change).DoesNotReturn root way name ↔
      tree.DoesNotReturn root way name := by
    intro way name
    simp only [DoesNotReturn, reach_rewrite, find?_rewrite_eq_link_iff]
  constructor
  · intro h
    obtain ⟨place, hplace, hfile⟩ := h.file
    obtain ⟨before, hbefore, rfl⟩ := find?_rewrite_eq_file_iff.mp hfile
    rw [reach_rewrite] at hplace
    refine ⟨place, before, hplace, rfl, h.transfer (fun way => (hdirectory way).mp) ?_ ?_⟩
    · exact ⟨place, hplace, hbefore⟩
    · exact fun way name _ => (hreturn way name).mp
  · rintro ⟨place, before, hplace, rfl, h⟩
    refine h.transfer (fun way => (hdirectory way).mpr) ?_ ?_
    · obtain ⟨other, hother, hfile⟩ := h.file
      obtain rfl : other = place := Option.some.inj (hother.symm.trans hplace)
      exact ⟨other, by rw [reach_rewrite, hplace],
        find?_rewrite_eq_file_iff.mpr ⟨before, hfile, rfl⟩⟩
    · exact fun way name _ => (hreturn way name).mpr

end Tree

end Listeners.Directory
