/-
Markup: elements with attributes and children.

Between tags a text is not made of tokens, and in names hyphens count, so an element keeps
track of the place that it has reached and asks for tokens only inside of tags and braces.
Behind its last angle the text goes on as whatever the element stands in, a program or the
text of another element; therefore the angle is not taken like other tokens.
-/
import Listeners.Script.Grammar.Reading
namespace Listeners.Script.Grammar

open Reading

variable (rules : Rules)

/-- A part of the name of a tag or of an attribute. -/
def markupWord : Reading String := do
  match (← current).markupName? with
  | some (name, after) => resume after; return name
  | none => refuse

/-- The name of a tag, which may have a namespace or be a member of something. -/
def markupName : Reading String := do
  let first ← markupWord
  iterate (fun name => do
    if ← accept ":" then return some (name ++ ":" ++ (← markupWord))
    else if ← accept "." then return some (name ++ "." ++ (← markupWord))
    else return none) first

/-- An expression in braces, or nothing, or the elements of a value; the closing brace is
left in front. -/
def bracedExpression : Reading (List Node) := do
  expect openBrace
  if ← sees closeBrace then return []
  else
    let _ ← accept "..."
    let expression ← enclosed rules.expression
    unless ← sees closeBrace do refuse
    return [expression]

/-- The value of an attribute. -/
def attributeValue : Reading (List Node) := do
  let token ← current
  match token.afterMarkupString? with
  | some after => resume after; return []
  | none =>
    if token.isPunctuator "<" then
      let (element, after) ← rules .markup
      resume after
      return [element]
    else
      let parts ← bracedExpression rules
      expect closeBrace
      return parts

/-- The attributes of a tag. -/
def attributes : Reading (List Node) := do
  let groups ← many do
    if (← sees "/") || (← sees ">") then return none
    else if ← sees openBrace then
      let parts ← bracedExpression rules
      expect closeBrace
      return some parts
    else
      let _ ← markupName
      if ← accept "=" then return some (← attributeValue rules) else return some []
  return groups.flatten

/-- The place behind the angle in front. -/
def behindAngle : Reading Cursor := do
  let token ← current
  if token.isPunctuator ">" then return token.after else refuse

/-- One child of an element and the place behind it; or nothing, before a closing tag. -/
def child? (cursor : Cursor) : Reading (Option (List Node × Cursor)) := do
  match markupText cursor.rest cursor.offset with
  | .error offset => failAt offset
  | .ok cursor =>
    resume cursor
    let token ← current
    if token.isPunctuator openBrace then
      let parts ← bracedExpression rules
      return some (parts, (← current).after)
    else if token.isPunctuator "<" then
      if (← next).isPunctuator "/" then return none
      else
        let (element, after) ← rules .markup
        return some ([element], after)
    else refuse

/-- The children of an element, up to its closing tag. -/
def children (cursor : Cursor) : Reading (List Node) := do
  let (parts, _) ← iterate (fun (parts, cursor) => do
    match ← child? rules cursor with
    | some (more, cursor) => return some (parts ++ more, cursor)
    | none => return none) ([], cursor)
  return parts

/-- An element, and the place behind it.  The closing tag repeats the name. -/
def markup : Reading (Node × Cursor) := do
  expect "<"
  let (name, parts) ←
    if ← sees ">" then pure ("", [])
    else
      let name ← markupName
      let token ← current
      let types ←
        if (← hasTypes) && token.isPunctuator "<" then
          advance
          separated ">" (enclosed rules.type)
        else pure []
      pure (name, types ++ (← attributes rules))
  if name != "" && (← accept "/") then
    return (.compound .markup parts, ← behindAngle)
  else
    let inside ← children rules (← behindAngle)
    expect "<"
    expect "/"
    let closing ← position
    let closingName ← if ← sees ">" then pure "" else markupName
    if closingName != name then failAt closing
    return (.compound .markup (parts ++ inside), ← behindAngle)

end Listeners.Script.Grammar
