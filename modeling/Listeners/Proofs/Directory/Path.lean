/-
Paths of what is found.

The path of a file that a walk finds is the path where the walk began, continued by the names on
the way.  Slashes are put in where there are none yet, so what the path says in the end is what
it said in the beginning and then the names (`parts_path`).  Two ways from one root that give
the same path are therefore the same way, and the name that the file is judged by is the last of
them.
-/
import Listeners.Proofs.Bytes
import Listeners.Proofs.Directory.Following
import Listeners.Proofs.Text

namespace Listeners.Path

/-! ### Parts -/

/-- The parts on both sides of a slash. -/
theorem parts_append (path rest : Bytes) :
    parts (path ++ slash :: rest) = parts path ++ parts rest := by
  unfold parts
  rw [Text.fields_eq_splitOn, Text.fields_eq_splitOn, Text.fields_eq_splitOn,
    List.splitOn_append_cons_self, List.filter_append]

theorem parts_nil : parts [] = [] := rfl

/-! ### Extensions -/

/-- What stands behind the last dot. -/
theorem extension?_dot {stem ending : Bytes} (h : dot ∉ ending) :
    extension? (stem ++ dot :: ending) = if stem = [] then none else some ending := by
  have hreversed : (stem ++ dot :: ending).reverse = ending.reverse ++ dot :: stem.reverse := by
    simp
  have hending : (ending.reverse ++ dot :: stem.reverse).takeWhile (· != dot) =
      ending.reverse := by
    rw [List.takeWhile_append_of_pos]
    · simp
    · intro byte hbyte
      rw [bne_iff_ne]
      rintro rfl
      exact h (List.mem_reverse.mp hbyte)
  have hstem : (ending.reverse ++ dot :: stem.reverse).drop (ending.reverse.length + 1) =
      stem.reverse := by
    rw [List.drop_length_add_append]
    rfl
  unfold extension?
  rw [hreversed]
  dsimp only
  rw [hending, hstem, List.reverse_reverse]
  simp

/-- Without a dot there is no extension. -/
theorem extension?_of_not_mem {name : Bytes} (h : dot ∉ name) : extension? name = none := by
  have hending : name.reverse.takeWhile (· != dot) = name.reverse := by
    rw [List.takeWhile_eq_self_iff]
    intro byte hbyte
    rw [bne_iff_ne]
    rintro rfl
    exact h (List.mem_reverse.mp hbyte)
  unfold extension?
  dsimp only
  rw [hending, List.drop_of_length_le (Nat.le_succ _)]
  rfl

/-- The extension is what stands behind the last dot, if something stands before that. -/
theorem extension?_eq_some_iff {name ending : Bytes} :
    extension? name = some ending ↔
      dot ∉ ending ∧ ∃ stem, stem ≠ [] ∧ name = stem ++ dot :: ending := by
  constructor
  · intro h
    by_cases hdot : dot ∈ name
    · obtain ⟨behind, before, hname, hbehind⟩ :=
        List.eq_append_cons_of_mem (List.mem_reverse.mpr hdot)
      have hsplit : name = before.reverse ++ dot :: behind.reverse := by
        rw [← List.reverse_reverse name, hname]
        simp
      have hending : dot ∉ behind.reverse := by simpa using hbehind
      rw [hsplit, extension?_dot hending] at h
      simp only [Option.ite_none_left_eq_some, Option.some.injEq] at h
      obtain ⟨hstem, rfl⟩ := h
      exact ⟨hending, _, hstem, hsplit⟩
    · rw [extension?_of_not_mem hdot] at h
      cases h
  · rintro ⟨hending, stem, hstem, rfl⟩
    rw [extension?_dot hending, if_neg hstem]

/-- The extension of a path is a text if what stands behind the last dot of its file name is the
bytes of the text. -/
theorem extensionText?_eq_some_iff {path name : Bytes} {ending : String}
    (h : fileName? path = some name) (hending : dot ∉ Text.bytes ending) :
    extensionText? path = some ending ↔
      ∃ stem, stem ≠ [] ∧ name = stem ++ dot :: Text.bytes ending := by
  unfold extensionText?
  rw [h, Option.bind_some, Option.bind_eq_some_iff]
  constructor
  · rintro ⟨found, hfound, htext⟩
    obtain rfl := Bytes.text?_eq_some_iff.mp htext
    exact (extension?_eq_some_iff.mp hfound).2
  · intro hname
    exact ⟨_, extension?_eq_some_iff.mpr ⟨hending, hname⟩, Bytes.text?_eq_some_iff.mpr rfl⟩

end Listeners.Path

namespace Listeners.Directory

/-! ### Names behind a path -/

theorem Name.parts_bytes (name : Name) : Path.parts name.bytes = [name.bytes] := by
  have hname := name.bytes_ne
  unfold Path.parts
  rw [Text.fields_of_not_mem name.isName.2.1]
  simp [hname]

/-- A path is one part longer if it is continued by a name. -/
theorem parts_joinPath (path : Bytes) (name : Name) :
    Path.parts (joinPath path name) = Path.parts path ++ [name.bytes] := by
  unfold joinPath
  by_cases hempty : path = []
  · subst hempty
    rw [if_pos (by simp), List.nil_append, name.parts_bytes, Path.parts_nil, List.nil_append]
  by_cases hslash : path.getLast? = some Path.slash
  · -- The slash is there: what stands behind it is nothing, and then the name.
    have hpath : path = path.dropLast ++ [Path.slash] :=
      (List.dropLast_append_getLast? _ hslash).symm
    have hsame : Path.parts path = Path.parts path.dropLast := by
      have happend := Path.parts_append path.dropLast []
      rw [← hpath, Path.parts_nil, List.append_nil] at happend
      exact happend
    have hcontinued : path ++ name.bytes = path.dropLast ++ Path.slash :: name.bytes := by
      conv_lhs => rw [hpath]
      rw [List.append_assoc, List.singleton_append]
    rw [if_pos (by simp [hslash]), hcontinued, Path.parts_append, name.parts_bytes, hsame]
  · rw [if_neg (by simp [hempty, hslash]), Path.parts_append, name.parts_bytes]

/-- What a path says that is continued by names. -/
theorem parts_path (root : Bytes) (names : List Name) :
    Path.parts (names.foldl joinPath root) = Path.parts root ++ names.map (·.bytes) := by
  induction names generalizing root with
  | nil => simp
  | cons name names ih =>
      rw [List.foldl_cons, ih, parts_joinPath, List.append_assoc]
      rfl

/-- The path tells the names behind the root. -/
theorem path_injective {root : Bytes} {names others : List Name}
    (h : names.foldl joinPath root = others.foldl joinPath root) : names = others := by
  have hparts := congrArg Path.parts h
  rw [parts_path, parts_path, List.append_cancel_left_eq] at hparts
  exact List.map_injective_iff.mpr (fun _ _ => Name.bytes_injective) hparts

/-- The name of the file at the end of a way: the last name, or else that of the root. -/
def lastName? (root : Bytes) (names : List Name) : Option Bytes :=
  match names.getLast? with
  | some name => some name.bytes
  | none => Path.fileName? root

theorem fileName?_path (root : Bytes) (names : List Name) :
    Path.fileName? (names.foldl joinPath root) = lastName? root names := by
  unfold lastName? Path.fileName?
  rw [parts_path]
  cases hlast : names.getLast? with
  | none =>
      rw [List.getLast?_eq_none_iff.mp hlast]
      simp
  | some name =>
      have hname := name.bytes_ne
      rw [List.getLast?_append, List.getLast?_map, hlast]
      simp_all

/-! ### Names of sources -/

/-- A name that ends in `.ts` or `.tsx` after something else, but not in `.d.ts`. -/
structure HasSourceEnding (name : Bytes) : Prop where
  ending : ∃ stem, stem ≠ [] ∧ (name = stem ++ Text.bytes ".ts" ∨ name = stem ++ Text.bytes ".tsx")
  notDeclarations : ¬ Text.bytes ".d.ts" <:+ name

/-- A name with such an ending that is a text. -/
structure IsSourceName (name : Bytes) : Prop extends HasSourceEnding name where
  isText : ∃ text, Text.bytes text = name

theorem isSourcePath_iff {path : Bytes} :
    isSourcePath path = true ↔ ∃ name, Path.fileName? path = some name ∧ IsSourceName name := by
  have hts : Path.dot ∉ Text.bytes "ts" := by decide
  have htsx : Path.dot ∉ Text.bytes "tsx" := by decide
  unfold isSourcePath
  cases hname : Path.fileName? path with
  | none => simp
  | some name =>
      rw [Option.bind_some]
      simp only [Option.some.injEq, exists_eq_left']
      cases htext : name.text? with
      | none =>
          refine iff_of_false Bool.false_ne_true fun h => ?_
          obtain ⟨text, htext'⟩ := h.isText
          exact Bytes.text?_eq_none_iff.mp htext text htext'
      | some text =>
          have hbytes := Bytes.text?_eq_some_iff.mp htext
          simp only [hbytes, Bool.and_eq_true, Bool.or_eq_true, Bool.not_eq_true', beq_iff_eq,
            Path.extensionText?_eq_some_iff hname hts, Path.extensionText?_eq_some_iff hname htsx]
          constructor
          · rintro ⟨hdeclarations, hextension⟩
            refine ⟨⟨?_, ?_⟩, text, hbytes⟩
            · rcases hextension with ⟨stem, hstem, hname⟩ | ⟨stem, hstem, hname⟩
              · exact ⟨stem, hstem, Or.inl hname⟩
              · exact ⟨stem, hstem, Or.inr hname⟩
            · rw [← List.isSuffixOf_iff_suffix, hdeclarations]
              exact Bool.false_ne_true
          · rintro ⟨⟨⟨stem, hstem, hname⟩, hdeclarations⟩, -⟩
            refine ⟨?_, ?_⟩
            · rw [← Bool.not_eq_true, List.isSuffixOf_iff_suffix]
              exact hdeclarations
            · rcases hname with hname | hname
              · exact Or.inl ⟨stem, hstem, hname⟩
              · exact Or.inr ⟨stem, hstem, hname⟩

end Listeners.Directory
