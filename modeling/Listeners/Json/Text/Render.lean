/-
Writing a JSON value.

A value is written without blanks.  In a string the quote, the backslash and the control
characters are escaped, and all else stands for itself.
-/
import Listeners.Json.Text
namespace Listeners.Json

/-- A character within quotes. -/
def renderChar (c : Char) : List Char :=
  match c with
  | '"' => ['\\', '"']
  | '\\' => ['\\', '\\']
  | '\n' => ['\\', 'n']
  | '\r' => ['\\', 'r']
  | '\t' => ['\\', 't']
  | '\x08' => ['\\', 'b']
  | '\x0C' => ['\\', 'f']
  | c =>
    if c.toNat < 0x20 then
      ['\\', 'u', '0', '0', Nat.digitChar (c.toNat / 16), Nat.digitChar (c.toNat % 16)]
    else [c]

/-- A string within quotes. -/
def renderString (s : String) : String :=
  "\"" ++ String.ofList (s.toList.flatMap renderChar) ++ "\""

mutual

/-- The text of a value. -/
def render : Json → String
  | null => "null"
  | boolean value => toString value
  | integer value => toString value
  | double value => if value.isFinite then pointText value else "null"
  | string value => renderString value
  | array items => "[" ++ ",".intercalate (renderItems items) ++ "]"
  | object fields => "\x7b" ++ ",".intercalate (renderFields fields) ++ "\x7d"

def renderItems : List Json → List String
  | [] => []
  | item :: items => item.render :: renderItems items

def renderFields : List (String × Json) → List String
  | [] => []
  | (key, value) :: fields => (renderString key ++ ":" ++ value.render) :: renderFields fields

end

end Listeners.Json
