/-
Reading a script token by token.

A reading looks at the token in front, takes it or refuses it, and says what it made of
the tokens it took.  It either succeeds or fails at the token that it could not accept,
and then gives the byte offset of that token; which token it is depends only on what was
taken before it, so a failure is located where the text stops making sense.

Where two constructs begin alike one is tried first, with `attempt`, and the text is read
again as the other if that fails.

The constructs of the language contain each other in every direction.  Rather than by
mutual recursion the cycle is closed by naming the constructs: a `Goal` is something that
can be asked for, the rules of the grammar take a reading of every goal as an argument,
and `Grammar.lean` supplies the rules with themselves.  The depth to which it does so is
bounded by the length of the source.
-/
import Listeners.Script.Dialect
import Listeners.Script.Node
import Listeners.Script.Token.Scan
namespace Listeners.Script

/-- What is allowed where a reading stands. -/
structure Context where
  dialect : Dialect
  /-- More than the number of repetitions in any list of the source. -/
  bound : Nat
  /-- Whether `in` is an operator; it is not at the head of a loop. -/
  inOperator : Bool
  /-- Whether `await` is an operator. -/
  awaiting : Bool
  /-- Whether `yield` is an operator. -/
  yielding : Bool
  /-- Whether this is the expression of a decorator, which brackets do not continue. -/
  decorating : Bool
  /-- Whether `extends` belongs to a type further out. -/
  inferring : Bool

/-- Where a reading stands. -/
structure Place where
  token : Token
  /-- Where the token before it ended. -/
  previousEnd : Nat
  /-- The places of shorthand properties with a default, which are only allowed if the
  object they stand in turns out to be the target of an assignment. -/
  defaults : List Nat

abbrev Reading := ReaderT Context (StateT Place (Except Nat))

/-- The punctuator that opens a block. -/
def openBrace : String := "\x7b"

/-- The punctuator that closes a block. -/
def closeBrace : String := "\x7d"

namespace Reading

variable {α : Type}

/-! ### The token in front -/

def current : Reading Token := return (← get).token

def next : Reading Token := return (← get).token.after.token

/-- The byte offset at which the token in front begins. -/
def position : Reading Nat := return (← get).token.start.offset

/-- Fails at an offset.  Characters in front that make no token are a mistake that comes
before any other. -/
def failAt (offset : Nat) : Reading α := do
  match (← current).lexeme with
  | .malformed mistake => throw mistake
  | _ => throw offset

/-- The token in front is not acceptable. -/
def refuse : Reading α := do failAt (← position)

/-- Goes on behind a place that was reached by other means than taking a token. -/
def resume (cursor : Cursor) : Reading Unit :=
  modify fun place => { place with token := cursor.token, previousEnd := cursor.offset }

/-- Takes the token in front. -/
def advance : Reading Unit := do
  let token ← current
  match token.lexeme with
  | .finish | .malformed _ => refuse
  | _ => resume token.after

/-- Takes the token in front, which was found to be longer or shorter than it seemed. -/
def takeAs (token : Token) : Reading Unit := resume token.after

def sees (text : String) : Reading Bool := return (← current).isPunctuator text

def seesWord (name : String) : Reading Bool := return (← current).isWord name

/-- Takes the punctuator if it is in front. -/
def accept (text : String) : Reading Bool := do
  if ← sees text then advance; return true else return false

/-- Takes the word if it is in front. -/
def acceptWord (name : String) : Reading Bool := do
  if ← seesWord name then advance; return true else return false

def expect (text : String) : Reading Unit := do
  unless ← accept text do refuse

def expectWord (name : String) : Reading Unit := do
  unless ← acceptWord name do refuse

/-- Takes any word, and gives its spelling. -/
def anyWord : Reading String := do
  match (← current).lexeme with
  | .word name _ => advance; return name
  | _ => refuse

/-- Takes a word that may be the name of a variable. -/
def bindingName : Reading String := do
  match (← current).lexeme with
  | .word name escaped => if isReserved name && !escaped then refuse else advance; return name
  | _ => refuse

/-- Takes a string literal. -/
def stringLiteral : Reading String := do
  match (← current).lexeme with
  | .string value => advance; return value
  | _ => refuse

def hasTypes : Reading Bool := return (← read).dialect.hasTypes

def hasMarkup : Reading Bool := return (← read).dialect.hasMarkup

/-! ### Alternatives and repetitions -/

/-- What `reading` makes of the text, or nothing, and then nothing is taken. -/
def attempt (reading : Reading α) : Reading (Option α) := fun context place =>
  match reading context place with
  | .ok (value, place) => .ok (some value, place)
  | .error _ => .ok (none, place)

/-- Repeats `reading` until it gives nothing, at most `count` times. -/
def repeatUpTo (reading : Reading (Option α)) : Nat → List α → Reading (List α)
  | 0, _ => refuse
  | count + 1, found => do
    match ← reading with
    | some value => repeatUpTo reading count (value :: found)
    | none => return found.reverse

/-- Repeats `reading` until it gives nothing. -/
def many (reading : Reading (Option α)) : Reading (List α) := do
  repeatUpTo reading (← read).bound []

/-- Repeats a step that carries a value along, until it gives nothing. -/
def iterateUpTo (step : α → Reading (Option α)) : Nat → α → Reading α
  | 0, _ => refuse
  | count + 1, value => do
    match ← step value with
    | some value => iterateUpTo step count value
    | none => return value

/-- Repeats a step that carries a value along, until it gives nothing. -/
def iterate (step : α → Reading (Option α)) (value : α) : Reading α := do
  iterateUpTo step (← read).bound value

/-- Items up to a closing punctuator, separated by commas; one may follow the last. -/
def separated (close : String) (item : Reading α) : Reading (List α) := do
  let items ← many do
    if ← accept close then return none
    let value ← item
    unless ← sees close do expect ","
    return some value
  return items

/-! ### What is allowed -/

/-- Inside brackets, whatever was not allowed outside of them is. -/
def enclosed (reading : Reading α) : Reading α :=
  withReader (fun s => { s with inOperator := true, decorating := false, inferring := false })
    reading

/-- Inside the parameters and the body of a function. -/
def inFunction (isAsync isGenerator : Bool) (reading : Reading α) : Reading α :=
  withReader (fun s => { s with awaiting := isAsync, yielding := isGenerator })
    (enclosed reading)

/-- Takes the end of a statement, which is a semicolon, or nothing if a line or a block
ends here. -/
def semicolon : Reading Unit := do
  let token ← current
  if token.isPunctuator ";" then advance
  else if token.isFinish || token.isPunctuator closeBrace || token.afterLineBreak then return
  else failAt (← get).previousEnd

end Reading

/-! ### Goals -/

/-- The constructs that other constructs contain. -/
inductive Goal where
  /-- Expressions separated by commas. -/
  | expression
  /-- One expression.  In the middle of a conditional an arrow function may have a written
  return type only if the colon of the conditional follows it. -/
  | assignment (arrowTypes : Bool)
  /-- Operands joined by operators that bind more tightly than `level`. -/
  | binary (level : Nat)
  | unary
  /-- What may stand before the parentheses of a call. -/
  | leftHand
  | statement
  /-- A block with its braces. -/
  | block
  | type
  /-- The target of a declaration. -/
  | pattern
  | decorators
  /-- A class from the word `class` on. -/
  | classFrom (start : Nat) (decorators : List Decorator)
  /-- A function from its parameters on. -/
  | functionFrom (isAsync isGenerator : Bool)
  /-- An element of markup, after which the text goes on at the given place. -/
  | markup

abbrev Goal.Result : Goal → Type
  | .statement | .expression | .assignment _ | .binary _ | .unary | .leftHand
  | .type | .pattern => Node
  | .block | .functionFrom _ _ => List Node
  | .decorators => List Decorator
  | .classFrom _ _ => Class
  | .markup => Node × Cursor

/-- A reading of every goal. -/
abbrev Rules := (goal : Goal) → Reading goal.Result

namespace Rules

variable (rules : Rules)

def expression : Reading Node := rules .expression

/-- One expression, without the restriction inside conditionals. -/
def assignment : Reading Node := rules (.assignment true)

def statement : Reading Node := rules .statement

def block : Reading (List Node) := rules .block

def type : Reading Node := rules .type

def pattern : Reading Node := rules .pattern

end Rules

end Listeners.Script
