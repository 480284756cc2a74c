/-
Functions: blocks, bodies, arrow functions and the targets of declarations.

An arrow function is recognized by its head, which is its parameters and, after them, an
arrow.  The head is tried where it may begin; once the arrow has been read the body belongs
to the function, and a mistake in it is a mistake there.  One thing can still undo the
decision: between the question mark and the colon of a conditional, what looks like a
return type may be the other branch.
-/
import Listeners.Script.Grammar.Type
namespace Listeners.Script.Grammar

open Reading

variable (rules : Rules)

/-- Statements in braces. -/
def block : Reading (List Node) := do
  expect openBrace
  many do
    if ← accept closeBrace then return none
    return some (← rules.statement)

/-- A function from its parameters on.  Where types are written the body may be missing. -/
def functionFrom (isAsync isGenerator : Bool) : Reading (List Node) :=
  inFunction isAsync isGenerator do
    let types ← if ← hasTypes then optionalTypeParameters rules else pure []
    let parts ← parameters rules
    let head := types ++ parts ++ (← optionalTypeAnnotation rules)
    if (← hasTypes) && !(← sees openBrace) then
      semicolon
      return head
    else return head ++ (← rules.block)

/-! ### The targets of declarations -/

/-- A property of a pattern in braces. -/
def propertyPattern : Reading Node := do
  if ← accept "..." then rules.pattern
  else
    let key ← propertyKey rules
    let target ←
      if ← accept ":" then pure [← rules.pattern]
      else match key with
        | .identifier name => if isReserved name then refuse else pure [.identifier name]
        | _ => refuse
    return .compound .pattern (keyParts key ++ target ++ (← optionalInitializer rules))

/-- An element of a pattern in brackets, which may be left out. -/
def elementPattern : Reading Node := do
  if (← sees ",") || (← sees "]") then return .compound .pattern []
  else
    let _ ← accept "..."
    let target ← rules.pattern
    return .compound .pattern (target :: (← optionalInitializer rules))

/-- A variable, or several that take the parts of a value. -/
def pattern : Reading Node := do
  if ← accept openBrace then
    return .compound .pattern (← enclosed (separated closeBrace (propertyPattern rules)))
  else if ← accept "[" then
    return .compound .pattern (← enclosed (separated "]" (elementPattern rules)))
  else return .identifier (← bindingName)

/-! ### Arrow functions -/

/-- The head of an arrow function: its parts, and whether its return type is written. -/
def arrowHead : Reading (List Node × Bool) := do
  let types ← if ← hasTypes then optionalTypeParameters rules else pure []
  let parts ← parameters rules
  let returned ← optionalTypeAnnotation rules
  if (← current).afterLineBreak then refuse
  expect "=>"
  return (types ++ parts ++ returned, !returned.isEmpty)

/-- The body of an arrow function: a block or an expression. -/
def arrowBody (isAsync arrowTypes : Bool) : Reading (List Node) :=
  withReader (fun s => { s with awaiting := isAsync, yielding := false }) do
    if ← sees openBrace then enclosed rules.block
    else return [← rules (.assignment arrowTypes)]

/-- An arrow function from its parameters on, if it is one. -/
def arrowFrom? (isAsync arrowTypes : Bool) : Reading (Option Node) := do
  let before ← get
  match ← attempt (inFunction isAsync false (arrowHead rules)) with
  | none => return none
  | some (parts, hasReturnType) =>
    let body ← arrowBody rules isAsync arrowTypes
    if hasReturnType && !arrowTypes && !(← sees ":") then
      set before
      return none
    else return some (.compound .arrow (parts ++ body))

/-- Whether an angle in front may open the type parameters of an arrow function.  Where
there is markup it must not look like a tag. -/
def mayOpenTypeParameters (hasMarkup : Bool) (token : Token) : Bool :=
  let first := token.after.token
  let name := if first.isWord "const" then first.after.token else first
  let following := name.after.token
  let afterBound := following.after.token
  token.isPunctuator "<" && name.isAnyWord &&
    (!hasMarkup || following.isPunctuator "," || following.isPunctuator "=" ||
      (following.isWord "extends" &&
        !(["=", ">", "/"].any afterBound.isPunctuator)))

/-- Whether an arrow function may begin at a token with its parameters. -/
def mayOpenArrow (context : Context) (token : Token) : Bool :=
  mayOpenParameters token ||
    (context.dialect.hasTypes && mayOpenTypeParameters context.dialect.hasMarkup token)

/-- A parameter without parentheses, and the arrow behind it. -/
def bareParameter : Reading Node := do
  let name ← bindingName
  expect "=>"
  return .identifier name

/-- Whether a token is a name and an arrow follows it on its line. -/
def isBareParameter (token : Token) : Bool :=
  let following := token.after.token
  match token.lexeme with
  | .word name _ => !isReserved name && following.isPunctuator "=>" && !following.afterLineBreak
  | _ => false

/-- An arrow function, if one begins here. -/
def arrow? (arrowTypes : Bool) : Reading (Option Node) := do
  let context ← read
  let token ← current
  let following ← next
  let bare (isAsync : Bool) : Reading (Option Node) := do
    let parameter ← bareParameter
    return some (.compound .arrow (parameter :: (← arrowBody rules isAsync arrowTypes)))
  if isBareParameter token then bare false
  else if token.isWord "async" && !following.afterLineBreak then
    if isBareParameter following then
      advance
      bare true
    else if mayOpenArrow context following then
      let before ← get
      advance
      match ← arrowFrom? rules true arrowTypes with
      | some arrow => return some arrow
      | none =>
        set before
        return none
    else return none
  else if mayOpenArrow context token then arrowFrom? rules false arrowTypes
  else return none

end Listeners.Script.Grammar
