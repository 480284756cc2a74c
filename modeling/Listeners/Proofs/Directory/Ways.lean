/-
The ways to the files that a walk finds.

A walk carries with it where it stands and which directories it is in, and looks at a link only
when it comes to one.  What it finds is said here by the paths alone: a file is found under some
names exactly if each of them, behind those before it, leads on, none of them is passed over,
and no link among them leads back (`IsWay`).  Paths are followed as a whole, through all links on
the way, as whoever opens the file will do.

The bridge is the invariant `Stands`: the walk stands where its names lead from the root, and the
directories that it is in are those that the first of these names lead to.  With it, one step of
the walk is one more name of the way (`Stands.step?_eq_some_iff`).
-/
import Listeners.Proofs.Directory.Following
import Mathlib.Data.List.Basic

namespace Listeners.Directory.Tree

variable {tree : Tree} {root : Bytes} {entered : List Place} {here place : Place}
  {way rest : List Name} {name : Name} {content : ByteArray}

/-! ### Ways -/

/-- Some names behind a path lead to a directory. -/
def LeadsToDirectory (tree : Tree) (root : Bytes) (way : List Name) : Prop :=
  ∃ place, tree.reach root way = some place ∧ tree.find? place = some .directory

/-- Some names behind a path lead to a file. -/
def LeadsToFile (tree : Tree) (root : Bytes) (way : List Name) (content : ByteArray) : Prop :=
  ∃ place, tree.reach root way = some place ∧ tree.find? place = some (.file content)

/-- If the entry of a name behind some others is a link, it does not lead back to where the first
of the others lead. -/
def DoesNotReturn (tree : Tree) (root : Bytes) (way : List Name) (name : Name) : Prop :=
  ∀ here target, tree.reach root way = some here →
    tree.find? (here ++ [name]) = some (.link target) →
      ∀ earlier, earlier <+: way → tree.reach root earlier ≠ tree.reach root (way ++ [name])

/-- **The way to a file.**  Neither the root nor a name is passed over, all names but the last lead
to directories and the last to the file, and no link leads back. -/
structure IsWay (tree : Tree) (root : Bytes) (names : List Name) (content : ByteArray) :
    Prop where
  rootAllowed : Path.fileName? root ≠ some excludedName
  allowed : ∀ name ∈ names, name.bytes ≠ excludedName
  directories : ∀ way, way <+: names → way ≠ names → tree.LeadsToDirectory root way
  file : tree.LeadsToFile root names content
  noReturn : ∀ way name, way ++ [name] <+: names → tree.DoesNotReturn root way name

/-- A way leads somewhere, as far as one follows it. -/
theorem IsWay.exists_reach {names : List Name} (h : tree.IsWay root names content)
    (hway : way <+: names) : ∃ place, tree.reach root way = some place := by
  by_cases hall : way = names
  · obtain ⟨place, hplace, -⟩ := h.file
    exact ⟨place, hall ▸ hplace⟩
  · obtain ⟨place, hplace, -⟩ := h.directories way hway hall
    exact ⟨place, hplace⟩

/-- A way is one in another tree as well, if the directories, the links and the file on it are. -/
theorem IsWay.transfer {other : Tree} {names : List Name} {written : ByteArray}
    (h : tree.IsWay root names content)
    (hdirectory : ∀ way, tree.LeadsToDirectory root way → other.LeadsToDirectory root way)
    (hfile : other.LeadsToFile root names written)
    (hreturn : ∀ way name, way ++ [name] <+: names → tree.DoesNotReturn root way name →
      other.DoesNotReturn root way name) : other.IsWay root names written := by
  refine ⟨h.rootAllowed, h.allowed, ?_, hfile, ?_⟩
  · intro way hway hne
    exact hdirectory way (h.directories way hway hne)
  · intro way name hname
    exact hreturn way name hname (h.noReturn way name hname)

/-- The rest of a way behind some names. -/
structure GoesOn (tree : Tree) (root : Bytes) (way rest : List Name) (content : ByteArray) :
    Prop where
  allowed : ∀ name ∈ rest, name.bytes ≠ excludedName
  directories : ∀ more, more <+: rest → more ≠ rest → tree.LeadsToDirectory root (way ++ more)
  file : tree.LeadsToFile root (way ++ rest) content
  noReturn : ∀ more name, more ++ [name] <+: rest → tree.DoesNotReturn root (way ++ more) name

theorem isWay_iff {names : List Name} :
    tree.IsWay root names content ↔
      Path.fileName? root ≠ some excludedName ∧ tree.GoesOn root [] names content :=
  ⟨fun h => ⟨h.rootAllowed, h.allowed, h.directories, h.file, h.noReturn⟩,
    fun ⟨hroot, h⟩ => ⟨hroot, h.allowed, h.directories, h.file, h.noReturn⟩⟩

theorem goesOn_nil_iff : tree.GoesOn root way [] content ↔ tree.LeadsToFile root way content := by
  constructor
  · intro h
    simpa using h.file
  · intro h
    refine ⟨by simp, ?_, by simpa using h, ?_⟩
    · intro more hmore hne
      exact absurd (List.prefix_nil.mp hmore) hne
    · intro more name hmore
      simp at hmore

/-- One name more. -/
theorem goesOn_cons_iff :
    tree.GoesOn root way (name :: rest) content ↔
      name.bytes ≠ excludedName ∧ tree.LeadsToDirectory root way ∧
        tree.DoesNotReturn root way name ∧ tree.GoesOn root (way ++ [name]) rest content := by
  have hmove : ∀ more, way ++ name :: more = way ++ [name] ++ more := by simp
  constructor
  · intro h
    refine ⟨h.allowed name (by simp), ?_, ?_, ?_, ?_, ?_, ?_⟩
    · simpa using h.directories [] (by simp) (by simp)
    · simpa using h.noReturn [] name (by simp)
    · intro other hother
      exact h.allowed other (by simp [hother])
    · intro more hmore hne
      rw [← hmove]
      exact h.directories (name :: more) (by simpa using hmore) (by simpa using hne)
    · rw [← hmove]
      exact h.file
    · intro more other hmore
      rw [← hmove]
      exact h.noReturn (name :: more) other (by simpa using hmore)
  · rintro ⟨hname, hdirectory, hreturn, h⟩
    refine ⟨?_, ?_, ?_, ?_⟩
    · intro other hother
      rcases List.mem_cons.mp hother with rfl | hother
      · exact hname
      · exact h.allowed other hother
    · intro more hmore hne
      cases more with
      | nil => simpa using hdirectory
      | cons first more =>
          obtain ⟨rfl, hrest⟩ := List.cons_prefix_cons.mp hmore
          rw [hmove]
          exact h.directories more hrest (by simpa using hne)
    · rw [hmove]
      exact h.file
    · intro more other hmore
      cases more with
      | nil =>
          obtain rfl : other = name := by simpa using hmore
          simpa using hreturn
      | cons first more =>
          obtain ⟨rfl, hrest⟩ := List.cons_prefix_cons.mp hmore
          rw [hmove]
          exact h.noReturn more other hrest

/-- There is a way to a file that stands in the directory at the root. -/
theorem isWay_singleton (hroot : Path.fileName? root ≠ some excludedName)
    (hname : name.bytes ≠ excludedName) (h : tree.reach root [] = some here)
    (hdirectory : tree.find? here = some .directory)
    (hfile : tree.find? (here ++ [name]) = some (.file content)) :
    tree.IsWay root [name] content := by
  refine isWay_iff.mpr ⟨hroot, goesOn_cons_iff.mpr ⟨hname, ⟨here, h, hdirectory⟩, ?_, ?_⟩⟩
  · intro there target hthere hlink
    obtain rfl : there = here := Option.some.inj (hthere.symm.trans h)
    rw [hfile] at hlink
    cases hlink
  · exact goesOn_nil_iff.mpr
      ⟨here ++ [name], reach_concat_of_plain h hdirectory hfile (by simp), hfile⟩

/-! ### One step of the walk -/

theorem mem_names_iff :
    name ∈ tree.names here ↔ ∃ entry, tree.find? (here ++ [name]) = some entry := by
  have hne : here ++ [name] ≠ [] := by simp
  unfold names
  rw [List.mem_filterMap]
  constructor
  · rintro ⟨⟨other, entry⟩, hmem, hname⟩
    simp only [Option.ite_none_right_eq_some] at hname
    obtain ⟨rfl, hlast⟩ := hname
    have hother : other.dropLast ++ [name] = other := List.dropLast_append_getLast? _ hlast
    rw [hother, find?_of_ne_nil _ (hother ▸ hne)]
    have hsome : (tree.entries.find? (·.1 == other)).isSome = true :=
      List.find?_isSome.mpr ⟨_, hmem, by simp⟩
    obtain ⟨found, hfound⟩ := Option.isSome_iff_exists.mp hsome
    exact ⟨found.2, by rw [hfound]; rfl⟩
  · rintro ⟨entry, hfound⟩
    exact ⟨(here ++ [name], entry), mem_entries_of_find? hne hfound, by simp⟩

/-- Where a walk stands: it came to a directory by `way`, and the directories that it is in are
those that the first names of `way` lead to. -/
structure Stands (tree : Tree) (root : Bytes) (entered : List Place) (here : Place)
    (way : List Name) : Prop where
  reached : tree.reach root way = some here
  directory : tree.find? here = some .directory
  entered : ∀ place, place ∈ here :: entered ↔
    ∃ earlier, earlier <+: way ∧ tree.reach root earlier = some place

/-- At the root the walk is in no other directory. -/
theorem stands_root (h : tree.reach root [] = some here)
    (hdirectory : tree.find? here = some .directory) : tree.Stands root [] here [] := by
  refine ⟨h, hdirectory, fun place => ?_⟩
  rw [List.mem_singleton]
  constructor
  · rintro rfl
    exact ⟨[], List.prefix_refl [], h⟩
  · rintro ⟨earlier, hearlier, hplace⟩
    rw [List.prefix_nil.mp hearlier, h] at hplace
    exact (Option.some.inj hplace).symm

namespace Stands

theorem leadsToDirectory (h : tree.Stands root entered here way) :
    tree.LeadsToDirectory root way :=
  ⟨here, h.reached, h.directory⟩

/-- **A step of the walk is one more name**, behind which the path leads somewhere and does not
lead back. -/
theorem step?_eq_some_iff (h : tree.Stands root entered here way) :
    tree.step? root entered here way name = some place ↔
      tree.reach root (way ++ [name]) = some place ∧ tree.DoesNotReturn root way name := by
  unfold step? DoesNotReturn
  cases hfound : tree.find? (here ++ [name]) with
  | none =>
      rw [reach_concat_of_missing h.reached h.directory hfound]
      simp
  | some entry =>
      -- An entry that is no link is where the name leads, and there is nothing to forbid.
      have hplain : (∀ target, entry ≠ .link target) →
          (some (here ++ [name]) = some place ↔
            tree.reach root (way ++ [name]) = some place ∧ tree.DoesNotReturn root way name) := by
        intro hplain
        rw [reach_concat_of_plain h.reached h.directory hfound hplain]
        refine ⟨fun hplace => ⟨hplace, fun there target hthere hlink => ?_⟩, fun hplace => hplace.1⟩
        obtain rfl : there = here := by simpa [h.reached] using hthere.symm
        rw [hfound] at hlink
        exact absurd (Option.some.inj hlink) (hplain target)
      cases entry with
      | file content => exact hplain (by simp)
      | directory => exact hplain (by simp)
      | link target =>
          rw [Option.filter_eq_some_iff]
          refine and_congr_right fun hplace => ?_
          rw [hplace, h.reached]
          simp only [Bool.not_eq_true', List.contains_eq_mem, decide_eq_false_iff_not, h.entered]
          constructor
          · intro hnew there other hthere _ earlier hearlier hback
            exact hnew ⟨earlier, hearlier, hback⟩
          · rintro hnew ⟨earlier, hearlier, hback⟩
            exact hnew here target rfl hfound earlier hearlier hback

/-- The walk stands in the directory that it steps into. -/
theorem step (h : tree.Stands root entered here way)
    (hstep : tree.step? root entered here way name = some place)
    (hdirectory : tree.find? place = some .directory) :
    tree.Stands root (here :: entered) place (way ++ [name]) := by
  obtain ⟨hplace, -⟩ := h.step?_eq_some_iff.mp hstep
  refine ⟨hplace, hdirectory, fun other => ?_⟩
  rw [List.mem_cons, h.entered]
  constructor
  · rintro (rfl | ⟨earlier, hearlier, hother⟩)
    · exact ⟨way ++ [name], List.prefix_refl _, hplace⟩
    · exact ⟨earlier, hearlier.trans (List.prefix_append _ _), hother⟩
  · rintro ⟨earlier, hearlier, hother⟩
    rcases List.prefix_concat_iff.mp hearlier with rfl | hearlier
    · rw [hplace] at hother
      exact Or.inl (Option.some.inj hother).symm
    · exact Or.inr ⟨earlier, hearlier, hother⟩

end Stands

/-! ### All steps of the walk -/

/-- What a walk finds at one name and below. -/
def behind (tree : Tree) (root : Bytes) (entered : List Place) (here : Place) (way : List Name)
    (name : Name) : List Found :=
  if name.bytes = excludedName then []
  else match tree.step? root entered here way name with
    | none => []
    | some place =>
      match tree.find? place with
      | some (.file content) => [⟨way ++ [name], content⟩]
      | some .directory => tree.walk root (here :: entered) place (way ++ [name])
      | _ => []

/-- A walk takes the names of a directory one by one. -/
theorem walk_eq_flatMap (tree : Tree) (root : Bytes) (entered : List Place) (here : Place)
    (way : List Name) :
    tree.walk root entered here way =
      (tree.names here).flatMap (tree.behind root entered here way) := by
  rw [walk]
  congr 1
  funext name
  unfold behind
  split
  · rfl
  · split <;> rename_i hstep <;> rw [hstep]
    dsimp only
    split <;> rename_i hplace <;> simp only [hplace]

theorem mem_behind_iff {found : Found} :
    found ∈ tree.behind root entered here way name ↔
      name.bytes ≠ excludedName ∧ ∃ place, tree.step? root entered here way name = some place ∧
        ((∃ content, tree.find? place = some (.file content) ∧ found = ⟨way ++ [name], content⟩) ∨
          tree.find? place = some .directory ∧
            found ∈ tree.walk root (here :: entered) place (way ++ [name])) := by
  unfold behind
  by_cases hname : name.bytes = excludedName
  · simp [hname]
  · rw [if_neg hname, and_iff_right hname]
    cases hstep : tree.step? root entered here way name with
    | none => simp
    | some place =>
        dsimp only
        split <;> simp_all

/-- What is found below a directory is found by a step to it, or below where a step leads. -/
theorem mem_walk_iff_step {found : Found} :
    found ∈ tree.walk root entered here way ↔
      ∃ name, found ∈ tree.behind root entered here way name := by
  rw [walk_eq_flatMap, List.mem_flatMap]
  refine exists_congr fun name => and_iff_right_of_imp fun hfound => ?_
  -- A step goes to an entry.
  obtain ⟨-, place, hstep, -⟩ := mem_behind_iff.mp hfound
  rw [mem_names_iff]
  unfold step? at hstep
  split at hstep
  · cases hstep
  · exact ⟨_, ‹_›⟩
  · exact ⟨_, ‹_›⟩

/-- **What a walk finds** below the directory that it stands in are the files to which its way goes
on. -/
theorem Stands.mem_walk_iff (h : tree.Stands root entered here way) {found : Found} :
    found ∈ tree.walk root entered here way ↔
      ∃ name rest, found.names = way ++ name :: rest ∧
        tree.GoesOn root way (name :: rest) found.content := by
  induction entered, here, way using walk.induct tree root with
  | case1 entered here way ih =>
      rw [mem_walk_iff_step]
      constructor
      · rintro ⟨name, hfound⟩
        obtain ⟨hname, place, hstep, hfound⟩ := mem_behind_iff.mp hfound
        obtain ⟨hplace, hreturn⟩ := h.step?_eq_some_iff.mp hstep
        rcases hfound with ⟨content, hfile, rfl⟩ | ⟨hdirectory, hfound⟩
        · refine ⟨name, [], rfl, goesOn_cons_iff.mpr ⟨hname, h.leadsToDirectory, hreturn, ?_⟩⟩
          exact goesOn_nil_iff.mpr ⟨place, hplace, hfile⟩
        · obtain ⟨next, rest, hnames, hrest⟩ :=
            (ih name place hstep hdirectory (h.step hstep hdirectory)).mp hfound
          exact ⟨name, next :: rest, by simpa using hnames,
            goesOn_cons_iff.mpr ⟨hname, h.leadsToDirectory, hreturn, hrest⟩⟩
      · rintro ⟨name, rest, hnames, hgoes⟩
        obtain ⟨hname, -, hreturn, hrest⟩ := goesOn_cons_iff.mp hgoes
        cases rest with
        | nil =>
            obtain ⟨place, hplace, hfile⟩ := goesOn_nil_iff.mp hrest
            have hstep := h.step?_eq_some_iff.mpr ⟨hplace, hreturn⟩
            refine ⟨name, mem_behind_iff.mpr ⟨hname, place, hstep, Or.inl ?_⟩⟩
            exact ⟨found.content, hfile, by rw [← hnames]⟩
        | cons next rest =>
            obtain ⟨-, ⟨place, hplace, hdirectory⟩, -⟩ := goesOn_cons_iff.mp hrest
            have hstep := h.step?_eq_some_iff.mpr ⟨hplace, hreturn⟩
            refine ⟨name, mem_behind_iff.mpr ⟨hname, place, hstep, Or.inr ⟨hdirectory, ?_⟩⟩⟩
            exact (ih name place hstep hdirectory (h.step hstep hdirectory)).mpr
              ⟨next, rest, by simpa using hnames, hrest⟩

/-- **The files at and below a path** are those that some names behind it are the way to. -/
theorem mem_filesFrom_iff {found : Found} :
    found ∈ tree.filesFrom root ↔ tree.IsWay root found.names found.content := by
  obtain ⟨names, content⟩ := found
  rw [isWay_iff]
  unfold filesFrom
  by_cases hroot : Path.fileName? root = some excludedName
  · simp [hroot]
  · rw [if_neg hroot, and_iff_right hroot]
    -- The root is a file, or a directory, or there is no way from it.
    have hstart : tree.GoesOn root [] names content →
        tree.LeadsToFile root [] content ∧ names = [] ∨ tree.LeadsToDirectory root [] := by
      intro h
      cases names with
      | nil => exact Or.inl ⟨goesOn_nil_iff.mp h, rfl⟩
      | cons name rest => exact Or.inr (goesOn_cons_iff.mp h).2.1
    cases hreach : tree.reach root [] with
    | none =>
        refine iff_of_false List.not_mem_nil fun h => ?_
        rcases hstart h with ⟨⟨place, hplace, -⟩, -⟩ | ⟨place, hplace, -⟩ <;> simp_all
    | some place =>
        dsimp only
        split
        · rename_i written hfile
          rw [List.mem_singleton, Found.mk.injEq]
          constructor
          · rintro ⟨rfl, rfl⟩
            exact goesOn_nil_iff.mpr ⟨place, hreach, hfile⟩
          · intro h
            rcases hstart h with ⟨⟨other, hother, hcontent⟩, hnames⟩ | ⟨other, hother, hdirectory⟩
            · simp_all
            · simp_all
        · rename_i hdirectory
          rw [(stands_root hreach hdirectory).mem_walk_iff]
          constructor
          · rintro ⟨name, rest, rfl, h⟩
            exact h
          · intro h
            cases names with
            | nil =>
                obtain ⟨other, hother, hfile⟩ := goesOn_nil_iff.mp h
                simp_all
            | cons name rest => exact ⟨name, rest, rfl, h⟩
        · rename_i hfile hdirectory
          refine iff_of_false List.not_mem_nil fun h => ?_
          rcases hstart h with ⟨⟨other, hother, hcontent⟩, -⟩ | ⟨other, hother, hother'⟩
          · simp_all
          · simp_all

end Listeners.Directory.Tree
