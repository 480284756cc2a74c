/-
The sources at and below a path.

Which files are listed is known from the ways that lead to them and from their names
(`mem_sources_iff`).  What remains is that none is listed twice and in which order they stand.  A
walk comes to every name of a directory once, and what it finds there begins with the names so
far and this one, so all that it finds has different names (`nodup_filesFrom`).  The names are also
what the sources are sorted by, so they ascend strictly, and a list of sources is known once its
members are known (`sources_congr`).
-/
import Listeners.Proofs.ByteOrder
import Listeners.Proofs.Directory.Links
import Listeners.Proofs.Directory.Path
import Mathlib.Data.List.Lex
import Mathlib.Data.List.Nodup
import Mathlib.Data.List.Sort

namespace Listeners.Directory

/-! ### The order of names -/

/-- A list that ascends strictly is known once its members are known. -/
theorem eq_of_ascending {α : Type} (key : α → List Bytes) {as bs : List α}
    (has : as.Pairwise fun a b => List.Lex (· < ·) (key a) (key b))
    (hbs : bs.Pairwise fun a b => List.Lex (· < ·) (key a) (key b))
    (hmem : ∀ a, a ∈ as ↔ a ∈ bs) : as = bs := by
  have hasymm : Std.Asymm fun a b : α => List.Lex (· < ·) (key a) (key b) :=
    ⟨fun a b hab => List.lex_asymm (fun h => List.lt_asymm h) hab⟩
  exact has.eq_of_mem_iff hbs hmem

namespace Candidate

/-- The names on the way to a candidate, as they are compared. -/
def key (candidate : Candidate) : List Bytes := candidate.names.map (·.bytes)

theorem precedes_iff {a b : Candidate} :
    a.precedes b = true ↔ a.key = b.key ∨ List.Lex (· < ·) a.key b.key := by
  have hirrefl : ∀ name : Bytes, decide (name < name) = false := by
    intro name
    exact decide_eq_false (List.lt_irrefl name)
  unfold precedes
  rw [Text.upTo_iff_lex hirrefl]
  simp only [decide_eq_true_iff]
  rfl

theorem precedes_trans (a b c : Candidate) (hab : a.precedes b = true)
    (hbc : b.precedes c = true) : a.precedes c = true := by
  rw [precedes_iff] at *
  rcases hab with hab | hab
  · rwa [hab]
  · rcases hbc with hbc | hbc
    · rw [hbc] at hab
      exact Or.inr hab
    · exact Or.inr (List.lex_trans List.lt_trans hab hbc)

theorem precedes_total (a b : Candidate) : (a.precedes b || b.precedes a) = true := by
  rw [Bool.or_eq_true]
  refine Text.upTo_total (fun x y hne => ?_) _ _
  rw [decide_eq_true_iff, decide_eq_true_iff]
  by_contra h
  rw [not_or] at h
  exact hne (List.le_antisymm (List.not_lt.mp h.2) (List.not_lt.mp h.1))

theorem key_inj {a b : Candidate} : a.key = b.key ↔ a.names = b.names :=
  (List.map_injective_iff.mpr fun _ _ => Name.bytes_injective).eq_iff

end Candidate

namespace Tree

variable {tree : Tree} {root : Bytes}

/-! ### Nothing is found twice -/

theorem nodup_names (tree : Tree) (here : Place) : (tree.names here).Nodup := by
  have hplaces : tree.names here = (tree.entries.map (·.1)).filterMap fun place =>
      if place.dropLast = here then place.getLast? else none := by
    rw [List.filterMap_map]
    rfl
  rw [hplaces]
  refine List.Nodup.filterMap ?_ tree.distinct
  intro place other name hplace hother
  simp only [Option.mem_def, Option.ite_none_right_eq_some] at hplace hother
  obtain ⟨rfl, hplace⟩ := hplace
  obtain ⟨hhere, hother⟩ := hother
  rw [← List.dropLast_append_getLast? _ hplace, ← List.dropLast_append_getLast? _ hother, hhere]

/-- What is found begins with the names by which the walk has come. -/
theorem prefix_of_mem_walk {entered : List Place} {here : Place} {way : List Name} {found : Found}
    (h : found ∈ tree.walk root entered here way) : way <+: found.names := by
  induction entered, here, way using walk.induct tree root with
  | case1 entered here way ih =>
      obtain ⟨name, hfound⟩ := mem_walk_iff_step.mp h
      obtain ⟨-, place, hstep, hfound⟩ := mem_behind_iff.mp hfound
      rcases hfound with ⟨content, -, rfl⟩ | ⟨hdirectory, hfound⟩
      · exact List.prefix_append way [name]
      · exact (List.prefix_append way [name]).trans (ih name place hstep hdirectory hfound)

theorem prefix_of_mem_behind {entered : List Place} {here : Place} {way : List Name} {name : Name}
    {found : Found} (h : found ∈ tree.behind root entered here way name) :
    way ++ [name] <+: found.names := by
  obtain ⟨-, place, hstep, hfound⟩ := mem_behind_iff.mp h
  rcases hfound with ⟨content, -, rfl⟩ | ⟨-, hfound⟩
  · exact List.prefix_refl _
  · exact prefix_of_mem_walk hfound

/-- **A walk finds nothing twice.** -/
theorem nodup_walk (entered : List Place) (here : Place) (way : List Name) :
    ((tree.walk root entered here way).map (·.names)).Nodup := by
  induction entered, here, way using walk.induct tree root with
  | case1 entered here way ih =>
      rw [walk_eq_flatMap, List.map_flatMap, List.nodup_flatMap]
      constructor
      · intro name _
        unfold behind
        split
        · exact List.nodup_nil
        · split
          · exact List.nodup_nil
          · rename_i place hstep
            split
            · exact List.nodup_singleton _
            · rename_i hdirectory
              exact ih name place hstep hdirectory
            · exact List.nodup_nil
      · -- Behind different names, the names go on differently.
        refine (nodup_names tree here).imp fun {name other} hne names hnames hothers => hne ?_
        obtain ⟨found, hfound, rfl⟩ := List.mem_map.mp hnames
        obtain ⟨twin, htwin, hsame⟩ := List.mem_map.mp hothers
        have hname := prefix_of_mem_behind hfound
        have hother := prefix_of_mem_behind htwin
        rw [hsame] at hother
        have hlength : (way ++ [name]).length = (way ++ [other]).length := by simp
        have hprefix := List.prefix_of_prefix_length_le hname hother hlength.le
        simpa using hprefix.eq_of_length hlength

theorem nodup_filesFrom (tree : Tree) (root : Bytes) :
    ((tree.filesFrom root).map (·.names)).Nodup := by
  unfold filesFrom
  split
  · exact List.nodup_nil
  · split
    · exact List.nodup_nil
    · split
      · exact List.nodup_singleton _
      · exact nodup_walk _ _ _
      · exact List.nodup_nil

/-! ### Sources -/

/-- **A source at or below a path**: a file to which some names are the way, at the path that the
names make, under a name that is one of a source. -/
structure IsSource (tree : Tree) (root : Bytes) (source : Candidate) : Prop where
  path : source.path = source.names.foldl joinPath root
  way : tree.IsWay root source.names source.content
  name : ∃ last, lastName? root source.names = some last ∧ IsSourceName last

theorem mem_sources_iff {source : Candidate} :
    source ∈ tree.sources root ↔ tree.IsSource root source := by
  unfold sources
  rw [List.mem_mergeSort, List.mem_filter, List.mem_map, isSourcePath_iff]
  constructor
  · rintro ⟨⟨found, hfound, rfl⟩, hname⟩
    refine ⟨rfl, mem_filesFrom_iff.mp hfound, ?_⟩
    rwa [fileName?_path] at hname
  · rintro ⟨hpath, hway, hname⟩
    refine ⟨⟨⟨source.names, source.content⟩, mem_filesFrom_iff.mpr hway, ?_⟩, ?_⟩
    · rw [← hpath]
    · rwa [hpath, fileName?_path]

theorem nodup_names_sources (tree : Tree) (root : Bytes) :
    ((tree.sources root).map (·.names)).Nodup := by
  unfold sources
  refine (((List.mergeSort_perm _ _).map _).nodup_iff).mpr ?_
  refine ((List.filter_sublist).map _).nodup ?_
  rw [List.map_map]
  exact nodup_filesFrom tree root

theorem nodup_paths_sources (tree : Tree) (root : Bytes) :
    ((tree.sources root).map (·.path)).Nodup := by
  refine ((nodup_names_sources tree root).of_map _).map_on fun a ha b hb hab => ?_
  rw [(mem_sources_iff.mp ha).path, (mem_sources_iff.mp hb).path] at hab
  exact List.inj_on_of_nodup_map (nodup_names_sources tree root) ha hb (path_injective hab)

/-- The names on the way to the sources ascend. -/
theorem pairwise_key_sources (tree : Tree) (root : Bytes) :
    (tree.sources root).Pairwise fun a b => List.Lex (· < ·) a.key b.key := by
  have hsorted : (tree.sources root).Pairwise fun a b => a.precedes b = true :=
    List.pairwise_mergeSort Candidate.precedes_trans Candidate.precedes_total _
  have hdistinct : (tree.sources root).Pairwise fun a b => a.names ≠ b.names :=
    List.pairwise_map.mp (nodup_names_sources tree root)
  refine hsorted.imp₂ (fun a b hle hne => ?_) hdistinct
  rw [Candidate.precedes_iff, Candidate.key_inj] at hle
  exact hle.resolve_left hne

/-- So do the parts of their paths. -/
theorem pairwise_parts_sources (tree : Tree) (root : Bytes) :
    (tree.sources root).Pairwise fun a b =>
      List.Lex (· < ·) (Path.parts a.path) (Path.parts b.path) := by
  refine (pairwise_key_sources tree root).imp_of_mem fun {a b} ha hb hab => ?_
  rw [(mem_sources_iff.mp ha).path, (mem_sources_iff.mp hb).path, parts_path, parts_path]
  exact List.Lex.append_left _ hab _

/-- A path that leads nowhere has no sources. -/
theorem sources_eq_nil (h : tree.reach root [] = none) : tree.sources root = [] := by
  have hfiles : tree.filesFrom root = [] := by
    unfold filesFrom
    rw [h]
    exact ite_self _
  unfold sources
  rw [hfiles]
  exact List.mergeSort_nil

example : tree.sources [] = [] := sources_eq_nil rfl

/-- Two trees have the same sources if they have the same ways to files. -/
theorem sources_congr {other : Tree}
    (h : ∀ names content, tree.IsWay root names content ↔ other.IsWay root names content) :
    tree.sources root = other.sources root := by
  refine eq_of_ascending Candidate.key (pairwise_key_sources tree root)
    (pairwise_key_sources other root) fun source => ?_
  rw [mem_sources_iff, mem_sources_iff]
  constructor
  · intro hsource
    exact ⟨hsource.path, (h _ _).mp hsource.way, hsource.name⟩
  · intro hsource
    exact ⟨hsource.path, (h _ _).mpr hsource.way, hsource.name⟩

/-- **The sources at and below a path.**  They stand in ascending order of the parts of their
paths, none twice, and they are exactly the files under the name of a source to which a way leads.
An entry that is added to the tree takes no source away, wherever it is and whatever it leads to;
and a link that leads nowhere does not bring one either. -/
theorem sources_listing (tree : Tree) (root : Bytes) :
    ((tree.sources root).Pairwise fun a b =>
        List.Lex (· < ·) (Path.parts a.path) (Path.parts b.path)) ∧
      ((tree.sources root).map (·.path)).Nodup ∧
      (∀ source, source ∈ tree.sources root ↔ tree.IsSource root source) ∧
      (∀ place, (tree.erase place).sources root ⊆ tree.sources root) ∧
      ∀ here name, tree.IsDangling here name →
        (tree.erase (here ++ [name])).sources root = tree.sources root := by
  refine ⟨pairwise_parts_sources tree root, nodup_paths_sources tree root,
    fun source => mem_sources_iff, ?_, ?_⟩
  · intro place source hsource
    rw [mem_sources_iff] at *
    exact ⟨hsource.path, isWay_of_erase hsource.way, hsource.name⟩
  · intro here name hdangling
    exact sources_congr fun names content => isWay_erase_iff hdangling

end Tree

/-! ### A small tree -/

namespace Site

def pages : Name := ⟨Text.bytes "pages", by decide⟩

def main : Name := ⟨Text.bytes "main.ts", by decide⟩

/-- A name that is no text. -/
def garbled : Name := ⟨0xFF :: Text.bytes ".ts", by decide⟩

def again : Name := ⟨Text.bytes "again", by decide⟩

def here : Name := ⟨Text.bytes "here", by decide⟩

/-- A directory with two files, a link to itself, and a link to the directory. -/
def tree : Tree where
  entries := [([pages], .directory), ([pages, main], .file .empty),
    ([pages, garbled], .file .empty), ([pages, again], .link again.bytes),
    ([pages, here], .link [Path.dot])]
  distinct := by decide

/-- The directory, by one link more than may be followed. -/
def far : Bytes := (List.replicate 41 here).foldl joinPath pages.bytes

theorem reach_pages : tree.reach pages.bytes [] = some [pages] := by
  have hfields : Text.fields Path.slash pages.bytes = [pages.bytes] := by decide
  unfold Tree.reach
  rw [if_neg pages.bytes_ne.1, hfields, List.map_nil, List.append_nil, Tree.follow_directory rfl,
    Tree.follow, List.nil_append]

/-- Where the far path leads depends on how many links may be followed. -/
theorem follow_far (links : Nat) :
    tree.follow links [] (Text.fields Path.slash far) =
      if 41 ≤ links then some [pages] else none := by
  have hfields : Text.fields Path.slash far = pages.bytes :: List.replicate 41 here.bytes := by
    decide +kernel
  rw [hfields, Tree.follow_directory rfl, List.nil_append]
  exact Tree.follow_replicate rfl 41

theorem isDangling_again : tree.IsDangling [pages] again := Tree.isDangling_of_self rfl

/-- There is a way to each of the two files. -/
theorem isWay_singleton {name : Name} (hname : name ∈ [main, garbled]) :
    tree.IsWay pages.bytes [name] .empty := by
  have hroot : Path.fileName? pages.bytes ≠ some Tree.excludedName := by decide
  have hcases : name = main ∨ name = garbled := by simpa using hname
  rcases hcases with rfl | rfl
  · exact Tree.isWay_singleton hroot (by decide) reach_pages rfl rfl
  · exact Tree.isWay_singleton hroot (by decide) reach_pages rfl rfl

theorem hasSourceEnding {name : Name} (hname : name ∈ [main, garbled]) :
    HasSourceEnding name.bytes := by
  have hcases : name = main ∨ name = garbled := by simpa using hname
  rcases hcases with rfl | rfl
  · exact ⟨⟨Text.bytes "main", by decide, Or.inl (by decide)⟩, by decide⟩
  · exact ⟨⟨[0xFF], by decide, Or.inl (by decide)⟩, by decide⟩

/-- One of the two files is listed, and the link to itself makes no difference. -/
theorem sources_listing_site :
    tree.IsDangling [pages] again ∧
      (∃ source ∈ tree.sources pages.bytes, source.path = Text.bytes "pages/main.ts") ∧
      (tree.erase [pages, again]).sources pages.bytes = tree.sources pages.bytes := by
  obtain ⟨-, -, hlisted, -, hsame⟩ := Tree.sources_listing tree pages.bytes
  refine ⟨isDangling_again, ⟨⟨Text.bytes "pages/main.ts", [main], .empty⟩, ?_, rfl⟩,
    hsame [pages] again isDangling_again⟩
  refine (hlisted _).mpr ⟨by decide, isWay_singleton (by simp), main.bytes, rfl, ?_⟩
  exact ⟨hasSourceEnding (by simp), "main.ts", rfl⟩

/-- Not every file with the ending of a source is listed that some names lead to: not the other
file, because its name is no text, and none by the far path, although that leads to the directory
if one more link is followed. -/
theorem unlisted_files :
    (tree.IsWay pages.bytes [garbled] .empty ∧ HasSourceEnding garbled.bytes ∧
      ∀ source ∈ tree.sources pages.bytes, source.names ≠ [garbled]) ∧
    (tree.follow 41 [] (Text.fields Path.slash far) = some [pages] ∧
      tree.find? [pages, main] = some (.file .empty) ∧ HasSourceEnding main.bytes ∧
      tree.sources far = []) := by
  refine ⟨⟨isWay_singleton (by simp), hasSourceEnding (by simp), ?_⟩,
    ⟨follow_far 41, rfl, hasSourceEnding (by simp), ?_⟩⟩
  · intro source hsource hnames
    obtain ⟨last, hlast, hname⟩ := (Tree.mem_sources_iff.mp hsource).name
    rw [hnames] at hlast
    obtain rfl : garbled.bytes = last := Option.some.inj hlast
    obtain ⟨text, htext⟩ := hname.isText
    have hnone : garbled.bytes.text? = none := by decide
    exact Bytes.text?_eq_none_iff.mp hnone text htext
  · refine Tree.sources_eq_nil ?_
    unfold Tree.reach
    rw [List.map_nil, List.append_nil, follow_far]
    exact ite_self _

end Site

end Listeners.Directory
