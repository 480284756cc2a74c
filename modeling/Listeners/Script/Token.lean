/-
Tokens of a script.

A token knows where it begins and where the text goes on after it, so that a reader that
has taken one can go on from there, or go back and read the same characters differently:
a slash may begin a division or a regular expression, and a closing brace may end a block
or resume a template, which only the grammar knows.

Of a token the library keeps what it has to report or to decide on: the spelling of words
and punctuators and the values of string and number literals.
-/
import Listeners.Number.Double
namespace Listeners.Script

/-- A place in a text: what follows it, and how many bytes precede it. -/
structure Cursor where
  rest : List Char
  offset : Nat

/-- What stands at the front of a text, blanks and comments aside. -/
inductive Lexeme where
  /-- An identifier or a keyword, and whether it was spelled with an escape. -/
  | word (name : String) (escaped : Bool)
  | privateName (name : String)
  /-- A string literal, with its escapes resolved. -/
  | string (value : String)
  | number (value : Double)
  | bigint
  /-- A template up to its end, or else up to its first substitution. -/
  | template (complete : Bool)
  | punctuator (text : String)
  /-- Nothing: the text is at its end. -/
  | finish
  /-- Characters that make no token, and the byte offset at which they cease to. -/
  | malformed (mistake : Nat)
  deriving DecidableEq

structure Token where
  lexeme : Lexeme
  start : Cursor
  /-- Where the text goes on. -/
  after : Cursor
  /-- Whether a line ends between the token and the one before it. -/
  afterLineBreak : Bool

namespace Token

def isPunctuator (t : Token) (text : String) : Bool := t.lexeme == .punctuator text

/-- Whether the token is a keyword or a word that has a meaning in its place.  A word with
an escape in it never has. -/
def isWord (t : Token) (name : String) : Bool := t.lexeme == .word name false

def isAnyWord (t : Token) : Bool :=
  match t.lexeme with
  | .word .. => true
  | _ => false

def isFinish (t : Token) : Bool := t.lexeme == .finish

end Token

end Listeners.Script
