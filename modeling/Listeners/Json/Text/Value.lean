/-
Reading a JSON value.

The items of an array and the fields of an object are come to one after the other:
`nextItem` and `nextKey` say where the next one begins, if there is one.  A key that an
object repeats has the value that comes last.
-/
import Listeners.Json.Text
namespace Listeners.Json

/-! ### Items and fields -/

/-- The text from the next item of an array on, or none at the closing bracket. -/
def nextItem (isFirst : Bool) (cs : List Char) : Except Fault (Option (List Char)) :=
  match skipBlank cs with
  | [] => .error .endOfArray
  | ']' :: _ => .ok none
  | c :: rest =>
    if isFirst then .ok (some (c :: rest))
    else if c = ',' then
      match skipBlank rest with
      | [] => .error .endOfValue
      | ']' :: _ => .error .trailingComma
      | rest => .ok (some rest)
    else .error .expectedArrayEnd

/-- The next key of an object and the text behind it, or none at the closing brace. -/
def nextKey (isFirst : Bool) (cs : List Char) :
    Except Fault (Option (String × List Char)) :=
  match skipBlank cs with
  | [] => .error .endOfObject
  | '}' :: _ => .ok none
  | c :: rest =>
    if isFirst then
      if c = '"' then some <$> stringBody rest else .error .keyIsNoString
    else if c = ',' then
      match skipBlank rest with
      | [] => .error .endOfValue
      | '}' :: _ => .error .trailingComma
      | '"' :: rest => some <$> stringBody rest
      | _ => .error .keyIsNoString
    else .error .expectedObjectEnd

/-- Past the colon behind a key. -/
def colon (cs : List Char) : Except Fault (List Char) :=
  match skipBlank cs with
  | [] => .error .endOfObject
  | ':' :: rest => .ok rest
  | _ => .error .expectedColon

/-- Past the closing bracket of an array of which no more items are wanted. -/
def endArray (cs : List Char) : Except Fault (List Char) :=
  match skipBlank cs with
  | [] => .error .endOfArray
  | ']' :: rest => .ok rest
  | ',' :: rest =>
    match skipBlank rest with
    | ']' :: _ => .error .trailingComma
    | _ => .error .trailingCharacters
  | _ => .error .trailingCharacters

/-- Past the closing brace of an object of which no more fields are wanted. -/
def endObject (cs : List Char) : Except Fault (List Char) :=
  match skipBlank cs with
  | [] => .error .endOfObject
  | '}' :: rest => .ok rest
  | ',' :: _ => .error .trailingComma
  | _ => .error .trailingCharacters

/-- Nothing but blanks may follow a value. -/
def endText (cs : List Char) : Except Fault Unit :=
  if (skipBlank cs).isEmpty then .ok () else .error .trailingCharacters

/-! ### Values -/

mutual

/-- Reads a value. -/
def readValue (fuel : Nat) (cs : List Char) : Except Fault (Json × List Char) :=
  match fuel with
  | 0 => .error .endOfValue
  | fuel + 1 =>
    match skipBlank cs with
    | [] => .error .endOfValue
    | 'n' :: rest => (null, ·) <$> skipLetters ['u', 'l', 'l'] rest
    | 't' :: rest => (boolean true, ·) <$> skipLetters ['r', 'u', 'e'] rest
    | 'f' :: rest => (boolean false, ·) <$> skipLetters ['a', 'l', 's', 'e'] rest
    | '"' :: rest => do
      let (value, rest) ← stringBody rest
      .ok (string value, rest)
    | '[' :: rest => do
      let (items, rest) ← readItems fuel true rest
      .ok (array items, rest)
    | '{' :: rest => do
      let (fields, rest) ← readFields fuel true rest
      .ok (object (Fields.normalize fields), rest)
    | c :: rest => if beginsNumber c then number (c :: rest) else .error .expectedValue

/-- Reads the items of an array and its closing bracket. -/
def readItems (fuel : Nat) (isFirst : Bool) (cs : List Char) :
    Except Fault (List Json × List Char) :=
  match fuel with
  | 0 => .error .endOfArray
  | fuel + 1 => do
    match ← nextItem isFirst cs with
    | none => ([], ·) <$> endArray cs
    | some rest =>
      let (item, rest) ← readValue fuel rest
      let (items, rest) ← readItems fuel false rest
      .ok (item :: items, rest)

/-- Reads the fields of an object and its closing brace. -/
def readFields (fuel : Nat) (isFirst : Bool) (cs : List Char) :
    Except Fault (Fields × List Char) :=
  match fuel with
  | 0 => .error .endOfObject
  | fuel + 1 => do
    match ← nextKey isFirst cs with
    | none => ([], ·) <$> endObject cs
    | some (key, rest) =>
      let (value, rest) ← colon rest >>= readValue fuel
      let (fields, rest) ← readFields fuel false rest
      .ok ((key, value) :: fields, rest)

end

/-- The value that a text writes. -/
def ofText (text : String) : Except Fault Json := do
  let cs := text.toList
  let (value, rest) ← readValue (2 * cs.length + 2) cs
  endText rest
  .ok value

end Listeners.Json
