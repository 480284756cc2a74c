/-
The files below a directory.

All directories below the first one are entered, those that links lead to as well.  Two
kinds of entries are passed over: those named `node_modules`, and links that lead nowhere
or back to one of the directories that the walk is in.

The walk comes to an end.  A step through a link enters a directory that the walk is not
in yet, so there is one fewer left of those; and any other step goes further down, below
which there is less room.
-/
import Listeners.Directory.Tree
namespace Listeners.Directory

namespace Tree

/-- The places of all directories. -/
def directories (tree : Tree) : List Place :=
  [] :: tree.entries.filterMap fun (place, entry) =>
    match entry with
    | .directory => some place
    | _ => none

/-- The length of the longest way from the top. -/
def height (tree : Tree) : Nat := (tree.entries.map (·.1.length)).foldr max 0

/-- How many directories are not among `places`. -/
def unentered (tree : Tree) (places : List Place) : Nat :=
  tree.directories.countP fun place => !places.contains place

theorem mem_entries_of_find? {tree : Tree} {place : Place} {entry : Entry} (h : place ≠ [])
    (found : tree.find? place = some entry) : (place, entry) ∈ tree.entries := by
  cases place with
  | nil => exact absurd rfl h
  | cons name names =>
    simp only [find?, Option.map_eq_some_iff] at found
    obtain ⟨⟨p, e⟩, hfind, rfl⟩ := found
    have hp := List.find?_some hfind
    simp only [beq_iff_eq] at hp
    subst hp
    exact List.mem_of_find?_eq_some hfind

theorem mem_directories {tree : Tree} {place : Place}
    (h : tree.find? place = some .directory) : place ∈ tree.directories := by
  by_cases hp : place = []
  · simp [directories, hp]
  · exact List.mem_cons_of_mem _
      (List.mem_filterMap.mpr ⟨_, mem_entries_of_find? hp h, rfl⟩)

theorem length_le_height {tree : Tree} {place : Place} {entry : Entry}
    (h : (place, entry) ∈ tree.entries) : place.length ≤ tree.height := by
  have le_max : ∀ (ns : List Nat) {n : Nat}, n ∈ ns → n ≤ ns.foldr max 0 := by
    intro ns
    induction ns with
    | nil => intro n hn; cases hn
    | cons m ns ih =>
      intro n hn
      rcases List.mem_cons.mp hn with rfl | hn
      · exact Nat.le_max_left ..
      · exact Nat.le_trans (ih hn) (Nat.le_max_right ..)
  exact le_max _ (List.mem_map.mpr ⟨_, h, rfl⟩)

/-- Entering a directory cannot make more of the others unentered. -/
theorem unentered_cons_le (tree : Tree) (place : Place) (places : List Place) :
    tree.unentered (place :: places) ≤ tree.unentered places :=
  List.countP_mono_left fun d _ h => by
    simp only [List.contains_eq_mem, Bool.not_eq_true', decide_eq_false_iff_not,
      List.mem_cons, not_or] at h ⊢
    exact h.2

/-- A directory that is entered for the first time is one fewer of those left. -/
theorem unentered_cons_lt {tree : Tree} {place : Place} {places : List Place}
    (isDirectory : place ∈ tree.directories) (isNew : place ∉ places) :
    tree.unentered (place :: places) < tree.unentered places := by
  have fewer : ∀ ds : List Place,
      ds.countP (fun d => !(place :: places).contains d) ≤
        ds.countP (fun d => !places.contains d) :=
    fun _ => List.countP_mono_left fun d _ h => by
      simp only [List.contains_eq_mem, Bool.not_eq_true', decide_eq_false_iff_not,
        List.mem_cons, not_or] at h ⊢
      exact h.2
  obtain ⟨before, behind, split⟩ := List.append_of_mem isDirectory
  have h1 := fewer before
  have h2 := fewer behind
  simp only [unentered, split, List.countP_append, List.countP_cons, List.contains_eq_mem,
    List.mem_cons, true_or, isNew, decide_true, decide_false, Bool.not_true, Bool.not_false,
    Bool.false_eq_true, if_false, if_true] at h1 h2 ⊢
  omega

/-- Where a name leads from the directory `here`, to which the walk came by the names `way`
behind the path `root`.  The directories that the walk is in, from the last to the first, are
`here` and `entered`, and a link must not lead back to one of them. -/
def step? (tree : Tree) (root : Bytes) (entered : List Place) (here : Place)
    (way : List Name) (name : Name) : Option Place :=
  match tree.find? (here ++ [name]) with
  | none => none
  | some (.link _) =>
    (tree.reach root (way ++ [name])).filter fun goal => !(here :: entered).contains goal
  | some _ => some (here ++ [name])

/-- A step into a directory leaves fewer directories to enter, or less room below. -/
theorem lt_of_step? {tree : Tree} {root : Bytes} {entered : List Place} {here : Place}
    {way : List Name} {name : Name} {place : Place}
    (step : tree.step? root entered here way name = some place)
    (found : tree.find? place = some .directory) :
    Prod.Lex (· < ·) (· < ·)
      (tree.unentered (place :: here :: entered), tree.height - place.length)
      (tree.unentered (here :: entered), tree.height - here.length) := by
  -- Below `here` there is no more room than there was, but one name less of it.
  have further : place = here ++ [name] → Prod.Lex (· < ·) (· < ·)
      (tree.unentered (place :: here :: entered), tree.height - place.length)
      (tree.unentered (here :: entered), tree.height - here.length) := by
    rintro rfl
    rcases Nat.lt_or_eq_of_le (tree.unentered_cons_le (here ++ [name]) (here :: entered))
      with lt | eq
    · exact Prod.Lex.left _ _ lt
    · rw [eq]
      apply Prod.Lex.right
      have longer : (here ++ [name]).length = here.length + 1 := by simp
      have inside : here ++ [name] ≠ [] := fun e => by simp [e] at longer
      have room := length_le_height (mem_entries_of_find? inside found)
      omega
  unfold step? at step
  split at step
  · cases step
  · obtain ⟨-, isNew⟩ := Option.filter_eq_some_iff.mp step
    exact Prod.Lex.left _ _ (unentered_cons_lt (mem_directories found) (by simpa using isNew))
  · exact further (Option.some.inj step).symm

/-- A file, by the names on the way to it from the path where the walk began. -/
structure Found where
  names : List Name
  content : ByteArray

/-- A name that is never entered or read. -/
def excludedName : Bytes := Text.bytes "node_modules"

/-- The files below the directory `here`, to which the walk came by the names `way` behind the
path `root`, through the directories `entered`. -/
def walk (tree : Tree) (root : Bytes) (entered : List Place) (here : Place)
    (way : List Name) : List Found :=
  (tree.names here).flatMap fun name =>
    if name.bytes = excludedName then []
    else match _step : tree.step? root entered here way name with
      | none => []
      | some place =>
        match _found : tree.find? place with
        | some (.file content) => [⟨way ++ [name], content⟩]
        | some .directory => tree.walk root (here :: entered) place (way ++ [name])
        | _ => []
termination_by (tree.unentered (here :: entered), tree.height - here.length)
decreasing_by exact lt_of_step? _step _found

end Tree

end Listeners.Directory
