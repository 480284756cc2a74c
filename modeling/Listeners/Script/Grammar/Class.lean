/-
Classes.

A word before the name of an element is a qualifier of it only if a name follows that it
can qualify; otherwise the word is the name itself, so that `get`, `static` or `async` may
name an element.  Most qualifiers must stand on the line of what they qualify.  After
`static`, `get` and `set` a line may end.

An element begins with its first decorator or qualifier.
-/
import Listeners.Script.Grammar.Expression
namespace Listeners.Script.Grammar

open Reading

variable (rules : Rules)

/-! ### Decorators -/

/-- A decorator: an at sign and an expression. -/
def decorator : Reading Decorator := do
  let start ← position
  expect "@"
  let expression ← withReader (fun s => { s with decorating := true }) (rules .leftHand)
  return .mk start expression

def decorators : Reading (List Decorator) :=
  many do
    if ← sees "@" then return some (← decorator rules) else return none

/-! ### Elements -/

/-- Whether a qualifier can stand before the token. -/
def canBeQualified (token : Token) : Bool := isPropertyName token || token.isPunctuator "*"

/-- The words that qualify an element and have no meaning without types. -/
def typedQualifiers : List String :=
  ["public", "private", "protected", "abstract", "override", "readonly", "declare"]

/-- The qualifier in front, if there is one. -/
def qualifier? : Reading (Option String) := do
  let token ← current
  let following ← next
  match token.lexeme with
  | .word name false =>
    let mayPrecedeLine := name == "static" || name == "get" || name == "set"
    let isQualifier := mayPrecedeLine || name == "async" || name == "accessor" ||
      typedQualifiers.contains name
    if isQualifier && canBeQualified following && (mayPrecedeLine || !following.afterLineBreak) then
      if typedQualifiers.contains name && !(← hasTypes) then refuse
      advance
      return some name
    else return none
  | _ => return none

/-- The rest of a field, behind its name. -/
def fieldRest : Reading (List Node) := do
  let type ← optionalTypeAnnotation rules
  let initializer ← inFunction false false (optionalInitializer rules)
  semicolon
  return type ++ initializer

/-- An element with a name, behind its qualifiers. -/
def memberRest (start : Nat) (decorators : List Decorator) (qualifiers : List String) :
    Reading Element := do
  let isGenerator ← accept "*"
  let key ← propertyKey rules
  if ← hasTypes then
    unless ← accept "?" do
      let _ ← accept "!"
  let opensFunction := (← sees "(") || (← sees "<")
  if opensFunction || isGenerator then
    let parts ← rules (.functionFrom (qualifiers.contains "async") isGenerator)
    return .member start .method decorators key parts
  else
    let sort := if qualifiers.contains "accessor" then .accessor else .field
    return .member start sort decorators key (← fieldRest rules)

/-- An element of a class. -/
def element : Reading Element := do
  let start ← position
  let decorators ← rules .decorators
  if (← seesWord "static") && (← next).isPunctuator openBrace then
    advance
    return .staticBlock (← inFunction false false rules.block)
  else
    let qualifiers ← many qualifier?
    if (← hasTypes) && (← seesIndexSignature) then
      let parts ← indexSignature rules
      unless ← accept "," do semicolon
      return .indexSignature parts
    else memberRest rules start decorators qualifiers

/-- The elements between the braces of a class. -/
def elements : Reading (List Element) := do
  expect openBrace
  let found ← enclosed <| many do
    if ← accept closeBrace then return none
    else if ← accept ";" then return some []
    else return some [← element rules]
  return found.flatten

/-! ### Classes -/

/-- The name of a class, if it has one. -/
def className? : Reading (Option String) := do
  let token ← current
  match token.lexeme with
  | .word name escaped =>
    let opensInterfaces := token.isWord "implements" && (← next).isAnyWord
    if (isReserved name && !escaped) || opensInterfaces then return none
    else
      advance
      return some name
  | _ => return none

/-- What a class extends, with its type arguments. -/
def superclass : Reading (List Node) := do
  if ← acceptWord "extends" then
    let parent ← rules .leftHand
    return parent :: (← if ← hasTypes then optionalTypeArguments rules else pure [])
  else return []

/-- The interfaces that a class implements. -/
def interfaces : Reading (List Node) := do
  if (← hasTypes) && (← acceptWord "implements") then typeList rules else return []

/-- A class from the word `class` on. -/
def classFrom (start : Nat) (decorators : List Decorator) : Reading Class := do
  expectWord "class"
  let name ← className?
  let types ← if ← hasTypes then optionalTypeParameters rules else pure []
  let parent ← enclosed (superclass rules)
  let heritage := types ++ parent ++ (← interfaces rules)
  return .mk start name decorators heritage (← elements rules)

end Listeners.Script.Grammar
