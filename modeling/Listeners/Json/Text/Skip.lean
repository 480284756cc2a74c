/-
Passing over a JSON value.

What is passed over has to be well formed, but less is asked of it than of what is read: a
number may be too large for a double, and a string may hold half of a surrogate pair.
-/
import Listeners.Json.Text
namespace Listeners.Json

/-! ### Strings -/

/-- Past an escape, behind the backslash. -/
def skipEscape : List Char → Except Fault (List Char)
  | [] => .error .endOfString
  | 'u' :: cs => (fourDigits cs).map (·.2)
  | c :: cs =>
    if ['"', '\\', '/', 'b', 'f', 'n', 'r', 't'].contains c then .ok cs else .error .invalidEscape

/-- Past a string, behind its first quote. -/
def skipString (fuel : Nat) (cs : List Char) : Except Fault (List Char) :=
  match fuel, cs with
  | _, [] | 0, _ => .error .endOfString
  | fuel + 1, '\\' :: cs => skipEscape cs >>= skipString fuel
  | fuel + 1, c :: cs =>
    if c = '"' then .ok cs
    else if c.toNat < 0x20 then .error .controlCharacter
    else skipString fuel cs

/-! ### Values -/

/-- Past a key and its colon, from the quote on. -/
def skipKey (cs : List Char) : Except Fault (List Char) :=
  match cs with
  | [] => .error .endOfObject
  | '"' :: cs => do
    let rest ← skipString (cs.length + 1) cs
    match skipBlank rest with
    | [] => .error .endOfObject
    | ':' :: rest => .ok rest
    | _ => .error .expectedColon
  | _ => .error .keyIsNoString

mutual

/-- Past a value. -/
def skipValue (fuel : Nat) (cs : List Char) : Except Fault (List Char) :=
  match fuel with
  | 0 => .error .endOfValue
  | fuel + 1 =>
    match skipBlank cs with
    | [] => .error .endOfValue
    | 'n' :: rest => skipLetters ['u', 'l', 'l'] rest
    | 't' :: rest => skipLetters ['r', 'u', 'e'] rest
    | 'f' :: rest => skipLetters ['a', 'l', 's', 'e'] rest
    | '"' :: rest => skipString (rest.length + 1) rest
    | '[' :: rest =>
      match skipBlank rest with
      | [] => .error .endOfArray
      | ']' :: rest => .ok rest
      | rest => skipItems fuel rest
    | '{' :: rest =>
      match skipBlank rest with
      | [] => .error .endOfObject
      | '}' :: rest => .ok rest
      | rest => skipFields fuel rest
    | c :: rest => if beginsNumber c then skipNumber (c :: rest) else .error .expectedValue

/-- Past the items of an array and its bracket; at least one item is there. -/
def skipItems (fuel : Nat) (cs : List Char) : Except Fault (List Char) :=
  match fuel with
  | 0 => .error .endOfArray
  | fuel + 1 => do
    let rest ← skipValue fuel cs
    match skipBlank rest with
    | [] => .error .endOfArray
    | ',' :: rest => skipItems fuel rest
    | ']' :: rest => .ok rest
    | _ => .error .expectedArrayEnd

/-- Past the fields of an object and its brace; at least one field is there. -/
def skipFields (fuel : Nat) (cs : List Char) : Except Fault (List Char) :=
  match fuel with
  | 0 => .error .endOfObject
  | fuel + 1 => do
    let rest ← skipKey (skipBlank cs) >>= skipValue fuel
    match skipBlank rest with
    | [] => .error .endOfObject
    | ',' :: rest => skipFields fuel rest
    | '}' :: rest => .ok rest
    | _ => .error .expectedObjectEnd

end

/-- Past a value: a bound on the nesting is computed from the text. -/
def skip (cs : List Char) : Except Fault (List Char) := skipValue (2 * cs.length + 2) cs

end Listeners.Json
