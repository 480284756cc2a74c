/-
The sources in a directory, and their analysis.

A source is a file whose name is a text that ends in `.ts` or `.tsx` after something else,
but not in `.d.ts`.  The names of directories need not be texts, and what is said about a
source names its path with replacements then, so that two sources may go by one text.

Sources are listed by the names on the way to them, their analyses by the texts of their
paths.  The two orders differ, because a slash is not the least of the bytes.
-/
import Listeners.Directory.Walk
import Listeners.Source
import Listeners.Text.Order
namespace Listeners.Directory

/-- A file that may be a source, at a path. -/
structure Candidate where
  path : Bytes
  names : List Name
  content : ByteArray

/-- The text that a candidate goes by. -/
def Candidate.file (candidate : Candidate) : String := candidate.path.lossy

/-- Whether a path is that of a source. -/
def isSourcePath (path : Bytes) : Bool :=
  match (Path.fileName? path).bind Bytes.text? with
  | none => false
  | some name =>
    !(Text.bytes ".d.ts").isSuffixOf (Text.bytes name) &&
      (Path.extensionText? path == some "ts" || Path.extensionText? path == some "tsx")

/-- A path continued by a name. -/
def joinPath (path : Bytes) (name : Name) : Bytes :=
  if path = [] || path.getLast? = some Path.slash then path ++ name.bytes
  else path ++ Path.slash :: name.bytes

/-- Whether a candidate may be listed before another. -/
def Candidate.precedes (a b : Candidate) : Bool :=
  Text.upTo (fun x y => decide (x < y)) (a.names.map (·.bytes)) (b.names.map (·.bytes))

namespace Tree

/-- All files at and below a path: the path may be that of a file itself. -/
def filesFrom (tree : Tree) (root : Bytes) : List Found :=
  if Path.fileName? root = some excludedName then []
  else match tree.reach root [] with
    | none => []
    | some place =>
      match tree.find? place with
      | some (.file content) => [⟨[], content⟩]
      | some .directory => tree.walk root [] place []
      | _ => []

/-- The sources at and below a path. -/
def sources (tree : Tree) (root : Bytes) : List Candidate :=
  let candidates := (tree.filesFrom root).map fun found =>
    ⟨found.names.foldl joinPath root, found.names, found.content⟩
  (candidates.filter (isSourcePath ·.path)).mergeSort Candidate.precedes

end Tree

/-- Why a file cannot be read that does not hold a text. -/
def invalidText : String := "stream did not contain valid UTF-8"

/-- The source that a file holds, or else the analysis of a file that cannot be read. -/
def Candidate.read (candidate : Candidate) : Source ⊕ Analysis :=
  match String.fromUTF8? candidate.content with
  | some text => .inl ⟨candidate.file, text⟩
  | none => .inr (.failed candidate.file (.unreadable candidate.file invalidText))

/-- The analyses of the sources at and below a path, given a parser.  What can be read is
analysed together, and what cannot is put in its place afterwards. -/
def Tree.analyze (parse : Script.Parser) (settings : Settings) (tree : Tree) (root : Bytes) :
    List Analysis :=
  let files := (tree.sources root).map Candidate.read
  let sources := files.filterMap Sum.getLeft?
  let unreadable := files.filterMap Sum.getRight?
  (Source.analyzeAll parse settings sources ++ unreadable).mergeSort fun a b =>
    decide (a.file ≤ b.file)

end Listeners.Directory
