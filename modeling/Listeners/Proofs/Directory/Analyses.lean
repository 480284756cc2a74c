/-
The analyses of a directory.

Files that can be read are analysed together, files that cannot be read come to the end, and then
all are sorted by the texts that they go by, which is not the order in which the sources were
found.  So the analyses are those of the sources, one for each, in another order
(`analyze_eq_map_arranged`), and an analysis depends on nothing but what its source goes by and
what stands in it.

Paths that are no texts may go by one text, and of such files those that can be read come first.
Still the sorting is stable, so what is done to some of the files leaves the others where they
are among themselves (`filter_arranged`).
-/
import Listeners.Proofs.ByteOrder
import Listeners.Proofs.Bytes
import Listeners.Proofs.Directory.Contents
import Listeners.Proofs.Directory.Sources
import Listeners.Proofs.StableSort
import Mathlib.Data.List.Perm.Basic

namespace Listeners

theorem Source.file_analyze (parse : Script.Parser) (settings : Settings) (source : Source) :
    (source.analyze parse settings).file = source.path := by
  unfold Source.analyze
  split
  · rfl
  · rfl

namespace Directory

variable {parse : Script.Parser} {settings : Settings} {tree : Tree} {root : Bytes}

/-! ### The analysis of one source -/

namespace Candidate

/-- The analysis of a source, whether it can be read or not. -/
def analysis (parse : Script.Parser) (settings : Settings) (source : Candidate) : Analysis :=
  source.read.elim (Source.analyze parse settings) id

/-- **What the analysis of a source says.**  If the source holds a text it is the analysis of that
text, and if not then its only diagnostic is that the file cannot be read. -/
structure HasAnalysis (parse : Script.Parser) (settings : Settings) (source : Candidate)
    (analysis : Analysis) : Prop where
  file : analysis.file = source.file
  text : ∀ text : String, source.content = text.toUTF8 →
    analysis = Source.analyze parse settings ⟨source.file, text⟩
  noText : (∀ text : String, source.content ≠ text.toUTF8) →
    analysis.classes = [] ∧ ∃ diagnostic, analysis.diagnostics = [diagnostic] ∧
      diagnostic.code = "L-ERR-IO" ∧ diagnostic.severity = .fatal ∧
        diagnostic.file = source.file ∧ diagnostic.location = ⟨1, 1⟩

theorem read_eq_or (source : Candidate) :
    (∃ text : String, source.content = text.toUTF8 ∧ source.read = .inl ⟨source.file, text⟩) ∨
      (∀ text : String, source.content ≠ text.toUTF8) ∧
        source.read = .inr (.failed source.file (.unreadable source.file invalidText)) := by
  unfold read
  cases hread : String.fromUTF8? source.content with
  | some text => exact Or.inl ⟨text, Text.fromUTF8?_eq_some_iff.mp hread, rfl⟩
  | none =>
      refine Or.inr ⟨fun text htext => ?_, rfl⟩
      rw [Text.fromUTF8?_eq_some_iff.mpr htext] at hread
      cases hread

theorem file_analysis (source : Candidate) :
    (source.analysis parse settings).file = source.file := by
  unfold analysis
  rcases source.read_eq_or with ⟨text, -, hread⟩ | ⟨-, hread⟩
  · rw [hread]
    exact Source.file_analyze parse settings _
  · rw [hread]
    rfl

theorem hasAnalysis_analysis (source : Candidate) :
    source.HasAnalysis parse settings (source.analysis parse settings) := by
  refine ⟨source.file_analysis, fun text htext => ?_, fun hnone => ?_⟩
  · unfold analysis
    rcases source.read_eq_or with ⟨other, hother, hread⟩ | ⟨hnone, -⟩
    · have hsame : other = text := by
        rw [htext] at hother
        exact (String.toByteArray_inj.mp hother).symm
      rw [hread, hsame]
      rfl
    · exact absurd htext (hnone text)
  · unfold analysis
    rcases source.read_eq_or with ⟨text, htext, -⟩ | ⟨-, hread⟩
    · exact absurd htext (hnone text)
    · rw [hread]
      exact ⟨rfl, _, rfl, rfl, rfl, rfl, rfl⟩

/-- Whether a source comes no later than another by the texts that they go by. -/
def sortsBefore (a b : Candidate) : Bool := decide (a.file ≤ b.file)

theorem comparesBy_file : ComparesBy sortsBefore file where
  trans a b c hab hbc := by
    unfold sortsBefore at *
    rw [decide_eq_true_iff] at *
    exact String.le_trans hab hbc
  total a b := by
    unfold sortsBefore
    rw [Bool.or_eq_true, decide_eq_true_iff, decide_eq_true_iff]
    exact String.le_total _ _
  key_eq a b hab hba := String.le_antisymm (of_decide_eq_true hab) (of_decide_eq_true hba)
  le_of_key_eq a b h := decide_eq_true (h ▸ String.le_refl a.file)

end Candidate

/-! ### The order of the analyses -/

/-- What becomes of the left items of a list, and of the right ones. -/
theorem map_getLeft?_append_getRight? {α β γ : Type} (f : α → γ) (g : β → γ)
    (items : List (α ⊕ β)) :
    (items.filterMap Sum.getLeft?).map f ++ (items.filterMap Sum.getRight?).map g =
      (items.filter Sum.isLeft ++ items.filter (!·.isLeft)).map (Sum.elim f g) := by
  have hleft : (items.filterMap Sum.getLeft?).map f =
      (items.filter Sum.isLeft).map (Sum.elim f g) := by
    induction items with
    | nil => rfl
    | cons item items ih => cases item <;> simp [List.filterMap_cons, List.filter_cons, ih]
  have hright : (items.filterMap Sum.getRight?).map g =
      (items.filter (!·.isLeft)).map (Sum.elim f g) := by
    induction items with
    | nil => rfl
    | cons item items ih => cases item <;> simp_all [List.filterMap_cons, List.filter_cons]
  rw [hleft, hright, List.map_append]

namespace Tree

/-- The sources in the order of their analyses: by the texts that they go by, and where these are
the same, those that can be read before the others. -/
def arranged (tree : Tree) (root : Bytes) : List Candidate :=
  ((tree.sources root).filter (·.read.isLeft) ++
    (tree.sources root).filter (!·.read.isLeft)).mergeSort Candidate.sortsBefore

theorem arranged_perm (tree : Tree) (root : Bytes) :
    (tree.arranged root).Perm (tree.sources root) :=
  (List.mergeSort_perm _ _).trans (List.filter_append_perm _ _)

/-- **There is one analysis for each source**, which depends on that source only. -/
theorem analyze_eq_map_arranged (parse : Script.Parser) (settings : Settings) (tree : Tree)
    (root : Bytes) :
    tree.analyze parse settings root =
      (tree.arranged root).map (Candidate.analysis parse settings) := by
  have hfiles := map_getLeft?_append_getRight? (Source.analyze parse settings) id
    ((tree.sources root).map Candidate.read)
  have hanalysis : Sum.elim (Source.analyze parse settings) id ∘ Candidate.read =
      Candidate.analysis parse settings := rfl
  rw [List.map_id, List.filter_map, List.filter_map, ← List.map_append, List.map_map,
    hanalysis] at hfiles
  unfold analyze Source.analyzeAll arranged
  dsimp only
  rw [hfiles]
  refine (List.map_mergeSort fun a _ b _ => ?_).symm
  rw [Candidate.sortsBefore, Candidate.file_analysis, Candidate.file_analysis]

/-- **The analyses of the sources at and below a path**, each with its source: there is one for
each source, it says what the source holds, and they are in the order of the bytes of the texts
that the sources go by. -/
structure IsListing (parse : Script.Parser) (settings : Settings) (tree : Tree) (root : Bytes)
    (entries : List (Candidate × Analysis)) : Prop where
  sources : (entries.map (·.1)).Perm (tree.sources root)
  analyses : entries.map (·.2) = tree.analyze parse settings root
  own : ∀ entry ∈ entries, entry.1.HasAnalysis parse settings entry.2
  ordered : entries.Pairwise fun a b =>
    a.1.file = b.1.file ∨ List.Lex (· < ·) (Text.bytes a.1.file) (Text.bytes b.1.file)

/-- The sources in the order of their analyses, each with its analysis. -/
def results (parse : Script.Parser) (settings : Settings) (tree : Tree) (root : Bytes) :
    List (Candidate × Analysis) :=
  (tree.arranged root).map fun source => (source, source.analysis parse settings)

theorem isListing_results (parse : Script.Parser) (settings : Settings) (tree : Tree)
    (root : Bytes) : IsListing parse settings tree root (results parse settings tree root) where
  sources := by
    rw [results, List.map_map]
    exact (List.Perm.of_eq (List.map_id _)).trans (arranged_perm tree root)
  analyses := by
    rw [results, List.map_map, analyze_eq_map_arranged]
    rfl
  own := by
    intro entry hentry
    obtain ⟨source, -, rfl⟩ := List.mem_map.mp hentry
    exact source.hasAnalysis_analysis
  ordered := by
    have hordered := Candidate.comparesBy_file.pairwise_mergeSort
      ((tree.sources root).filter (·.read.isLeft) ++
        (tree.sources root).filter (!·.read.isLeft))
    refine List.pairwise_map.mpr (hordered.imp fun {a b} hab => ?_)
    rw [Text.lex_bytes_iff]
    by_cases hlt : a.file < b.file
    · exact Or.inr hlt
    · exact Or.inl (String.le_antisymm (of_decide_eq_true hab) (String.not_lt.mp hlt))

/-! ### Other contents -/

/-- Whether the source at a path is changed by `change`. -/
def isChanged (tree : Tree) (root : Bytes) (change : Place → ByteArray → ByteArray)
    (path : Bytes) : Bool :=
  (tree.sources root).any fun source => source.path == path &&
    (tree.reach root source.names).any fun place =>
      (change place source.content).data != source.content.data

theorem isChanged_iff {change : Place → ByteArray → ByteArray} {source : Candidate} {place : Place}
    (h : source ∈ tree.sources root) (hplace : tree.reach root source.names = some place) :
    tree.isChanged root change source.path = true ↔
      change place source.content ≠ source.content := by
  unfold isChanged
  simp only [List.any_eq_true, Bool.and_eq_true, beq_iff_eq, Option.any_eq_true, bne_iff_ne,
    ne_eq, ← ByteArray.ext_iff]
  constructor
  · rintro ⟨other, hother, hpath, there, hthere, hchange⟩
    obtain rfl : other = source :=
      List.inj_on_of_nodup_map (nodup_paths_sources tree root) hother h hpath
    obtain rfl : there = place := Option.some.inj (hthere.symm.trans hplace)
    exact hchange
  · intro hchange
    exact ⟨source, h, rfl, place, hplace, hchange⟩

/-- A source has the same names in the tree with other contents. -/
theorem mem_sources_rewrite (change : Place → ByteArray → ByteArray) {source : Candidate}
    {place : Place} (h : source ∈ tree.sources root)
    (hplace : tree.reach root source.names = some place) :
    { source with content := change place source.content } ∈
      (tree.rewrite change).sources root := by
  obtain ⟨hpath, hway, hname⟩ := mem_sources_iff.mp h
  exact mem_sources_iff.mpr ⟨hpath, isWay_rewrite_iff.mpr ⟨place, _, hplace, rfl, hway⟩, hname⟩

/-- A source of the tree with other contents has the same names in the tree. -/
theorem exists_of_mem_sources_rewrite {change : Place → ByteArray → ByteArray} {source : Candidate}
    (h : source ∈ (tree.rewrite change).sources root) :
    ∃ place before, tree.reach root source.names = some place ∧
      source.content = change place before ∧
        { source with content := before } ∈ tree.sources root := by
  obtain ⟨hpath, hway, hname⟩ := mem_sources_iff.mp h
  obtain ⟨place, before, hplace, hcontent, hbefore⟩ := isWay_rewrite_iff.mp hway
  exact ⟨place, before, hplace, hcontent, mem_sources_iff.mpr ⟨hpath, hbefore, hname⟩⟩

/-- The sources are at the same paths. -/
theorem map_path_sources_rewrite (tree : Tree) (root : Bytes)
    (change : Place → ByteArray → ByteArray) :
    ((tree.rewrite change).sources root).map (·.path) = (tree.sources root).map (·.path) := by
  have hascending : ∀ tree : Tree, ((tree.sources root).map (·.path)).Pairwise fun a b =>
      List.Lex (· < ·) (Path.parts a) (Path.parts b) :=
    fun tree => List.pairwise_map.mpr (pairwise_parts_sources tree root)
  refine eq_of_ascending Path.parts (hascending _) (hascending _) fun path => ?_
  rw [List.mem_map, List.mem_map]
  constructor
  · rintro ⟨source, hsource, rfl⟩
    obtain ⟨place, before, -, -, hbefore⟩ := exists_of_mem_sources_rewrite hsource
    exact ⟨_, hbefore, rfl⟩
  · rintro ⟨source, hsource, rfl⟩
    obtain ⟨place, hplace, -⟩ := (mem_sources_iff.mp hsource).way.file
    exact ⟨_, mem_sources_rewrite change hsource hplace, rfl⟩

/-- What is not changed is the same. -/
theorem filter_isChanged_sources (tree : Tree) (root : Bytes)
    (change : Place → ByteArray → ByteArray) :
    ((tree.rewrite change).sources root).filter (!tree.isChanged root change ·.path) =
      (tree.sources root).filter (!tree.isChanged root change ·.path) := by
  have hascending : ∀ tree' : Tree,
      ((tree'.sources root).filter (!tree.isChanged root change ·.path)).Pairwise fun a b =>
        List.Lex (· < ·) a.key b.key :=
    fun tree' => (pairwise_key_sources tree' root).filter _
  refine eq_of_ascending Candidate.key (hascending _) (hascending _) fun source => ?_
  rw [List.mem_filter, List.mem_filter]
  refine and_congr_left fun hkept => ?_
  rw [Bool.not_eq_true'] at hkept
  constructor
  · intro hsource
    obtain ⟨place, before, hplace, hcontent, hbefore⟩ := exists_of_mem_sources_rewrite hsource
    have hsame : change place before = before := by
      by_contra hne
      have hchanged : tree.isChanged root change source.path = true :=
        (isChanged_iff hbefore hplace).mpr hne
      rw [hkept] at hchanged
      cases hchanged
    rwa [← hsame, ← hcontent] at hbefore
  · intro hsource
    obtain ⟨place, hplace, -⟩ := (mem_sources_iff.mp hsource).way.file
    have hsame : change place source.content = source.content := by
      by_contra hne
      rw [(isChanged_iff hsource hplace).mpr hne] at hkept
      cases hkept
    have hrewritten := mem_sources_rewrite change hsource hplace
    rwa [hsame] at hrewritten

/-- The texts that the analyses go by are those that the sources go by, in order. -/
theorem pairwise_file_arranged (tree : Tree) (root : Bytes) :
    ((tree.arranged root).map (·.file)).Pairwise (· ≤ ·) :=
  List.pairwise_map.mpr
    ((Candidate.comparesBy_file.pairwise_mergeSort _).imp fun hab => of_decide_eq_true hab)

/-- The analyses go by the same texts, in the same order. -/
theorem map_file_arranged_rewrite (tree : Tree) (root : Bytes)
    (change : Place → ByteArray → ByteArray) :
    ((tree.rewrite change).arranged root).map (·.file) = (tree.arranged root).map (·.file) := by
  have hsources : ((tree.rewrite change).sources root).map (·.file) =
      (tree.sources root).map (·.file) := by
    have hpaths := congrArg (List.map Bytes.lossy) (map_path_sources_rewrite tree root change)
    rw [List.map_map, List.map_map] at hpaths
    exact hpaths
  have hperm : (((tree.rewrite change).arranged root).map (·.file)).Perm
      ((tree.arranged root).map (·.file)) := by
    refine ((arranged_perm _ root).map _).trans ?_
    rw [hsources]
    exact ((arranged_perm tree root).map _).symm
  exact hperm.eq_of_pairwise (fun a b _ _ hab hba => String.le_antisymm hab hba)
    (pairwise_file_arranged _ root) (pairwise_file_arranged tree root)

/-- What is left out of the sources makes no difference to the order of the others. -/
theorem filter_arranged (tree : Tree) (root : Bytes) (p : Candidate → Bool) :
    (tree.arranged root).filter p =
      (((tree.sources root).filter p).filter (·.read.isLeft) ++
        ((tree.sources root).filter p).filter (!·.read.isLeft)).mergeSort
          Candidate.sortsBefore := by
  rw [arranged, Candidate.comparesBy_file.filter_mergeSort, List.filter_append,
    List.filter_comm p, List.filter_comm p]

end Tree

end Directory

end Listeners
