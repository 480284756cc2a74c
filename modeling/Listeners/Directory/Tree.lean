/-
Directory trees with links.

A tree is a list of entries, each at a place: the names on the way from the top to it.
No two entries are at one place, and the top itself is a directory.  A link holds a path,
which is followed from the directory that the link stands in, or from the top if it begins
with a slash.  An empty path leads nowhere.

`follow` finds the place at the end of a path, through all links on the way and at its
end.  A link may lead to itself, so only so many links are followed.
-/
import Listeners.Path
namespace Listeners.Directory

/-- A name that an entry may have: any bytes without a slash or a zero, whether they are a
text or not, but for those that mean a directory already. -/
structure Name where
  bytes : Bytes
  isName : bytes ∉ [[], [Path.dot], Path.up] ∧ Path.slash ∉ bytes ∧ 0 ∉ bytes
  deriving DecidableEq

/-- Bytes as a name, if they may be one. -/
def Name.ofBytes? (bytes : Bytes) : Option Name :=
  if h : bytes ∉ [[], [Path.dot], Path.up] ∧ Path.slash ∉ bytes ∧ 0 ∉ bytes then
    some ⟨bytes, h⟩
  else none

/-- The names on the way from the top of a tree. -/
abbrev Place := List Name

inductive Entry where
  | file (content : ByteArray)
  | directory
  | link (target : Bytes)

structure Tree where
  entries : List (Place × Entry)
  distinct : (entries.map (·.1)).Nodup

namespace Tree

/-- Nothing but the top. -/
def empty : Tree := ⟨[], by simp⟩

/-- What is at a place. -/
def find? (tree : Tree) : Place → Option Entry
  | [] => some .directory
  | place => (tree.entries.find? (·.1 == place)).map (·.2)

/-- Puts an entry at a place, instead of the one that is there. -/
def put (tree : Tree) (place : Place) (entry : Entry) : Tree :=
  if h : place ∈ tree.entries.map (·.1) then
    ⟨tree.entries.map fun found => if found.1 = place then (place, entry) else found, by
      have keeps : ((tree.entries.map fun found =>
          if found.1 = place then (place, entry) else found).map (·.1)) =
          tree.entries.map (·.1) := by
        rw [List.map_map]
        apply List.map_congr_left
        intro found _
        simp only [Function.comp]
        split
        · next h => exact h.symm
        · rfl
      rw [keeps]
      exact tree.distinct⟩
  else
    ⟨tree.entries ++ [(place, entry)], by
      rw [List.map_append, List.nodup_append]
      refine ⟨tree.distinct, by simp, ?_⟩
      intro a ha b hb
      simp only [List.map_cons, List.map_nil, List.mem_singleton] at hb
      intro hab
      exact h (hb ▸ hab ▸ ha)⟩

/-- How many links may be followed on the way along one path. -/
def linkLimit : Nat := 40

/-- The directory from which the path of a link is followed that stands in `here`. -/
def base (here : Place) (target : Bytes) : Place :=
  if target.head? = some Path.slash then [] else here

/-- The place at the end of the parts of a path that begins at the directory `here`.
Empty parts and single dots stay there, and two dots go up, at most to the top. -/
def follow (tree : Tree) (links : Nat) (here : Place) : List Bytes → Option Place
  | [] => some here
  | part :: parts =>
    if part = [] || part = [Path.dot] then tree.follow links here parts
    else if part = Path.up then tree.follow links here.dropLast parts
    else match Name.ofBytes? part with
      | none => none
      | some name =>
        match tree.find? (here ++ [name]) with
        | none => none
        | some .directory => tree.follow links (here ++ [name]) parts
        | some (.file _) => if parts.isEmpty then some (here ++ [name]) else none
        | some (.link target) =>
          match links with
          | 0 => none
          | links + 1 =>
            if target = [] then none
            else tree.follow links (base here target) (Text.fields Path.slash target ++ parts)
termination_by parts => (links, parts.length)

/-- The place that a path leads to from a directory. -/
def locate (tree : Tree) (here : Place) (path : Bytes) : Option Place :=
  if path = [] then none
  else tree.follow linkLimit (base here path) (Text.fields Path.slash path)

/-- The place that a path from the top leads to if some names are written behind it. -/
def reach (tree : Tree) (path : Bytes) (names : List Name) : Option Place :=
  if path = [] then none
  else tree.follow linkLimit [] (Text.fields Path.slash path ++ names.map (·.bytes))

/-- Puts an entry where the names lead from the directory `here`, through links, and makes
the directories that are missing on the way. -/
def insertFrom (tree : Tree) (entry : Entry) (here : Place) : List Name → Tree
  | [] => tree
  | [name] => tree.put (here ++ [name]) entry
  | name :: names =>
    let place := here ++ [name]
    match tree.find? place with
    | none => (tree.put place .directory).insertFrom entry place names
    | some .directory => tree.insertFrom entry place names
    | some (.file _) => tree
    | some (.link target) =>
      match tree.locate here target with
      | some place => tree.insertFrom entry place names
      | none => tree

/-- Puts an entry at a path from the top, which must not go up. -/
def insert (tree : Tree) (path : Bytes) (entry : Entry) : Tree :=
  match (Path.parts path).mapM Name.ofBytes? with
  | some names => tree.insertFrom entry [] names
  | none => tree

/-- The names of the entries of a directory. -/
def names (tree : Tree) (here : Place) : List Name :=
  tree.entries.filterMap fun (place, _) =>
    if place.dropLast = here then place.getLast? else none

end Tree

end Listeners.Directory
