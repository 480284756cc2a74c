/-
Following a path.

A path is followed part by part, so a path that is continued is followed from the place where
its first half ends, with as many links as are left (`follow_append`), and a path that leads
nowhere does not lead anywhere if it is continued.  Behind a directory, one more name leads to the
entry of that name, unless the entry is a link; a link leads where its own path does.
-/
import Listeners.Directory.Sources
import Mathlib.Tactic.Common

namespace Listeners.Directory

theorem Name.bytes_injective {a b : Name} (h : a.bytes = b.bytes) : a = b := by
  cases a
  cases b
  cases h
  rfl

/-- A name says something and does not go up. -/
theorem Name.bytes_ne (name : Name) :
    name.bytes ≠ [] ∧ name.bytes ≠ [Path.dot] ∧ name.bytes ≠ Path.up := by
  simpa using name.isName.1

@[simp] theorem Name.ofBytes?_bytes (name : Name) : Name.ofBytes? name.bytes = some name :=
  dif_pos name.isName

namespace Tree

variable {tree : Tree} {links : Nat} {here place : Place} {parts : List Bytes}

/-! ### One part more -/

/-- Below the top, what is at a place is what the entries say. -/
theorem find?_of_ne_nil (tree : Tree) (h : place ≠ []) :
    tree.find? place = (tree.entries.find? (·.1 == place)).map (·.2) := by
  cases place with
  | nil => exact absurd rfl h
  | cons name names => rfl

/-- A part that is a name leads on from its entry. -/
theorem follow_cons (tree : Tree) (links : Nat) (here : Place) (name : Name)
    (parts : List Bytes) :
    tree.follow links here (name.bytes :: parts) =
      match tree.find? (here ++ [name]), links with
      | none, _ | some (.link _), 0 => none
      | some .directory, _ => tree.follow links (here ++ [name]) parts
      | some (.file _), _ => if parts.isEmpty then some (here ++ [name]) else none
      | some (.link target), links + 1 =>
        if target = [] then none
        else tree.follow links (base here target) (Text.fields Path.slash target ++ parts) := by
  have hname := name.bytes_ne
  rw [follow]
  simp only [hname, decide_false, Bool.or_self, Bool.false_eq_true, if_false, Name.ofBytes?_bytes]
  cases tree.find? (here ++ [name]) with
  | none => rfl
  | some entry =>
      cases entry with
      | file content => rfl
      | directory => rfl
      | link target =>
          cases links with
          | zero => rfl
          | succ links => rfl

/-- The path goes on from a directory behind its name. -/
theorem follow_directory {name : Name} (h : tree.find? (here ++ [name]) = some .directory) :
    tree.follow links here (name.bytes :: parts) = tree.follow links (here ++ [name]) parts := by
  rw [follow_cons, h]

/-- A path that leads to a directory can be continued from there. -/
theorem follow_append (h : tree.follow links here parts = some place)
    (hdirectory : tree.find? place = some .directory) :
    ∃ left ≤ links, ∀ more, tree.follow links here (parts ++ more) =
      tree.follow left place more := by
  fun_induction tree.follow links here parts with
  | case1 links here =>
      obtain rfl := Option.some.inj h
      exact ⟨links, Nat.le_refl _, fun more => rfl⟩
  | case2 links here part parts hstay ih =>
      obtain ⟨left, hleft, hmore⟩ := ih h
      exact ⟨left, hleft, fun more => by rw [List.cons_append, follow, if_pos hstay, hmore]⟩
  | case3 links here parts hstay ih =>
      obtain ⟨left, hleft, hmore⟩ := ih h
      refine ⟨left, hleft, fun more => ?_⟩
      rw [List.cons_append, follow, if_neg hstay, if_pos rfl, hmore]
  | case4 => cases h
  | case5 => cases h
  | case6 links here part parts hstay hup name hname hfound ih =>
      obtain ⟨left, hleft, hmore⟩ := ih h
      refine ⟨left, hleft, fun more => ?_⟩
      rw [List.cons_append, follow, if_neg hstay, if_neg hup]
      simp only [hname, hfound, hmore]
  | case7 links here part parts hstay hup name hname content hfound hlast =>
      obtain rfl := Option.some.inj h
      rw [hfound] at hdirectory
      cases hdirectory
  | case8 => cases h
  | case9 => cases h
  | case10 => cases h
  | case11 here part parts hstay hup name hname target hfound links htarget ih =>
      obtain ⟨left, hleft, hmore⟩ := ih h
      refine ⟨left, Nat.le_succ_of_le hleft, fun more => ?_⟩
      rw [List.cons_append, follow, if_neg hstay, if_neg hup]
      simp only [hname, hfound, if_neg htarget]
      rw [← List.append_assoc, hmore]

/-- A path that leads nowhere does not lead anywhere if it is continued. -/
theorem follow_append_eq_none (h : tree.follow links here parts = none) (more : List Bytes) :
    tree.follow links here (parts ++ more) = none := by
  fun_induction tree.follow links here parts with
  | case1 => cases h
  | case7 => cases h
  | case2 | case3 | case4 | case5 | case6 | case8 | case9 | case10 | case11 =>
      simp_all [follow]

/-- More links that may be followed do no harm. -/
theorem follow_mono (h : tree.follow links here parts = some place) {more : Nat}
    (hle : links ≤ more) : tree.follow more here parts = some place := by
  fun_induction tree.follow links here parts generalizing more with
  | case4 | case5 | case8 | case9 | case10 => cases h
  | case1 | case2 | case3 | case6 | case7 => simp_all [follow]
  | case11 =>
      obtain ⟨more, rfl⟩ := Nat.exists_eq_add_of_le' hle
      simp_all [follow]

/-! ### Names behind a path -/

variable {root : Bytes} {way : List Name} {name : Name}

/-- From a directory that is reached, one goes on with a number of links that are left. -/
theorem exists_reach_append (h : tree.reach root way = some here)
    (hdirectory : tree.find? here = some .directory) :
    ∃ left ≤ linkLimit, ∀ names, tree.reach root (way ++ names) =
      tree.follow left here (names.map (·.bytes)) := by
  unfold reach at h ⊢
  by_cases hroot : root = []
  · rw [if_pos hroot] at h
    cases h
  · rw [if_neg hroot] at h
    obtain ⟨left, hleft, hmore⟩ := follow_append h hdirectory
    refine ⟨left, hleft, fun names => ?_⟩
    rw [if_neg hroot, List.map_append, ← List.append_assoc, hmore]

/-- There must be an entry to go on to. -/
theorem reach_concat_of_missing (h : tree.reach root way = some here)
    (hdirectory : tree.find? here = some .directory) (hfound : tree.find? (here ++ [name]) = none) :
    tree.reach root (way ++ [name]) = none := by
  obtain ⟨left, -, hmore⟩ := exists_reach_append h hdirectory
  rw [hmore, List.map_singleton, follow_cons, hfound]

/-- An entry that is no link is reached by its name. -/
theorem reach_concat_of_plain {entry : Entry} (h : tree.reach root way = some here)
    (hdirectory : tree.find? here = some .directory)
    (hfound : tree.find? (here ++ [name]) = some entry) (hplain : ∀ target, entry ≠ .link target) :
    tree.reach root (way ++ [name]) = some (here ++ [name]) := by
  obtain ⟨left, -, hmore⟩ := exists_reach_append h hdirectory
  rw [hmore, List.map_singleton, follow_cons, hfound]
  cases entry with
  | file content => rfl
  | directory => rw [follow]
  | link target => exact absurd rfl (hplain target)

end Tree

end Listeners.Directory
