/-
Settings as JSON text.

Settings are written as an object.  Each of its two keys may be left out and then has its
usual value, and may not be repeated; other keys are passed over.  They may also be
written as an array of the values in order, of which the last ones may be left out.  A
scope is written as its name, or as an object whose only key is the name and whose value
is null.

The text is read from left to right and the first thing that is wrong is reported: either
it is no JSON text (`TextError.fault`), or a value is not one of the wanted kind
(`TextError.wrong`).
-/
import Listeners.Json.Decode
import Listeners.Json.Text.Skip
import Listeners.Json.Text.Value
import Listeners.Settings
namespace Listeners

namespace Json

/-- What is wrong with a text that should write a value of some kind. -/
inductive TextError where
  | fault (fault : Fault)
  | wrong (error : DecodeError)
  deriving DecidableEq, Repr

def TextError.message : TextError → String
  | .fault found => found.message
  | .wrong error => error.message

/-- A part of a text is read, and the rest is left over. -/
abbrev Reader (α : Type) := List Char → Except TextError (α × List Char)

namespace Reader

variable {α : Type}

/-- A step in reading that only knows of faults. -/
def lift (step : Except Fault α) : Except TextError α := step.mapError .fault

/-- A value of another sort than the wanted one begins here.  It is described if it is well
formed as far as has to be known. -/
def refuse (wanted : String) (cs : List Char) : TextError :=
  let wrong (json : Json) : TextError := .wrong (.wrongType json.describe wanted)
  let judge (json : Except Fault Json) : TextError :=
    match json with
    | .ok json => wrong json
    | .error fault => .fault fault
  match cs with
  | 'n' :: rest => judge ((fun _ => null) <$> skipLetters ['u', 'l', 'l'] rest)
  | 't' :: rest => judge ((fun _ => boolean true) <$> skipLetters ['r', 'u', 'e'] rest)
  | 'f' :: rest => judge ((fun _ => boolean false) <$> skipLetters ['a', 'l', 's', 'e'] rest)
  | '"' :: rest => judge ((fun found => string found.1) <$> stringBody rest)
  | '[' :: _ => wrong (array [])
  | '{' :: _ => wrong (object [])
  | c :: rest =>
    if beginsNumber c then judge ((·.1) <$> number (c :: rest)) else .fault .expectedValue
  | [] => .fault .expectedValue

/-- Reads a string. -/
def text (wanted : String) : Reader String := fun cs =>
  match skipBlank cs with
  | [] => .error (.fault .endOfValue)
  | '"' :: rest => lift (stringBody rest)
  | rest => .error (refuse wanted rest)

/-- Reads null. -/
def unit : Reader Unit := fun cs =>
  match skipBlank cs with
  | [] => .error (.fault .endOfValue)
  | 'n' :: rest => lift ((((), ·)) <$> skipLetters ['u', 'l', 'l'] rest)
  | rest => .error (refuse "unit" rest)

/-- Reads one of several names, given as a string or as an object whose only key it is. -/
def variant (variants : List String) : Reader String := fun cs =>
  let name : Reader String := fun cs => do
    let (name, rest) ← text "variant identifier" cs
    if variants.contains name then .ok (name, rest)
    else .error (.wrong (.unknownVariant name variants))
  match skipBlank cs with
  | [] => .error (.fault .endOfValue)
  | '"' :: rest => name ('"' :: rest)
  | '{' :: rest => do
    let (name, rest) ← name rest
    let (_, rest) ← lift (colon rest) >>= unit
    match skipBlank rest with
    | [] => .error (.fault .endOfObject)
    | '}' :: rest => .ok (name, rest)
    | _ => .error (.fault .expectedValue)
  | _ => .error (.fault .expectedValue)

end Reader

end Json

open Json (Fault TextError Reader)

namespace FatalScope

def read : Reader FatalScope := fun cs => do
  let (name, rest) ← Reader.variant [specifier.name, file.name] cs
  .ok (if name = file.name then file else specifier, rest)

end FatalScope

namespace Settings

/-- Settings as far as they have been read. -/
structure Entries where
  annotationName : Option String
  fatalScope : Option FatalScope

/-- The settings, with the usual values for what is left out. -/
def Entries.settings (entries : Entries) : Settings where
  annotationName := entries.annotationName.getD usual.annotationName
  fatalScope := entries.fatalScope.getD usual.fatalScope

/-- Reads the value of a key. -/
def readEntry (entries : Entries) (key : String) : Reader Entries := fun cs =>
  match key with
  | "annotationName" =>
    if entries.annotationName.isSome then .error (.wrong (.duplicateField key))
    else do
      let (name, rest) ← Reader.lift (Json.colon cs) >>= Reader.text "a string"
      .ok ({ entries with annotationName := some name }, rest)
  | "fatalScope" =>
    if entries.fatalScope.isSome then .error (.wrong (.duplicateField key))
    else do
      let (scope, rest) ← Reader.lift (Json.colon cs) >>= FatalScope.read
      .ok ({ entries with fatalScope := some scope }, rest)
  | _ => Reader.lift do
    let rest ← Json.colon cs >>= Json.skip
    .ok (entries, rest)

/-- Reads the entries of an object and its closing brace. -/
def readEntries (fuel : Nat) (isFirst : Bool) (entries : Entries) : Reader Entries := fun cs =>
  match fuel with
  | 0 => .error (.fault .endOfObject)
  | fuel + 1 => do
    match ← Reader.lift (Json.nextKey isFirst cs) with
    | none =>
      let rest ← Reader.lift (Json.endObject cs)
      .ok (entries, rest)
    | some (key, rest) =>
      let (entries, rest) ← readEntry entries key rest
      readEntries fuel false entries rest

/-- Reads the items of an array and its closing bracket. -/
def readItems : Reader Entries := fun cs => do
  match ← Reader.lift (Json.nextItem true cs) with
  | none =>
    let rest ← Reader.lift (Json.endArray cs)
    .ok (⟨none, none⟩, rest)
  | some rest =>
    let (name, rest) ← Reader.text "a string" rest
    match ← Reader.lift (Json.nextItem false rest) with
    | none =>
      let rest ← Reader.lift (Json.endArray rest)
      .ok (⟨some name, none⟩, rest)
    | some rest =>
      let (scope, rest) ← FatalScope.read rest
      let rest ← Reader.lift (Json.endArray rest)
      .ok (⟨some name, some scope⟩, rest)

/-- The settings that a text writes. -/
def ofText (text : String) : Except TextError Settings := do
  let (entries, rest) ←
    match Json.skipBlank text.toList with
    | [] => .error (.fault .endOfValue)
    | '[' :: rest => readItems rest
    | '{' :: rest => readEntries (rest.length + 1) true ⟨none, none⟩ rest
    | rest => .error (Reader.refuse "struct AnalyzerOptions" rest)
  Reader.lift (Json.endText rest)
  .ok entries.settings

end Settings

end Listeners
