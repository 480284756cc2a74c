/-
Types.

Of a type only the types and the expressions in it are kept, because classes may stand in
them; apart from these, what matters is where it ends.  The hard cases are those in which a
type begins like something else.  A parenthesis opens a parenthesized type or the parameters
of a function type, which shows only behind the closing parenthesis; a brace opens a mapped
type or a list of members; `extends` after an inferred type belongs to it or to the
conditional type around it.
-/
import Listeners.Script.Grammar.Reading
namespace Listeners.Script.Grammar

open Reading

variable (rules : Rules)

/-! ### Type arguments and parameters -/

/-- The list of types between angles, from the opening angle on. -/
def typeArguments : Reading (List Node) := do
  match (← current).firstAngle? with
  | none => refuse
  | some angle =>
    takeAs angle
    separated ">" (enclosed rules.type)

/-- Type arguments, if an angle opens here. -/
def optionalTypeArguments : Reading (List Node) := do
  if (← current).firstAngle?.isSome then typeArguments rules else return []

/-- A type, if what opens it is there. -/
def typeBehind (opening : Reading Bool) : Reading (List Node) := do
  if ← opening then return [← rules.type] else return []

/-- Types separated by commas, of which there is at least one. -/
def typeList : Reading (List Node) := do
  let first ← rules.type
  let rest ← many do
    if ← accept "," then return some (← rules.type) else return none
  return first :: rest

/-- Takes the words that qualify a type parameter.  A word is one if a name follows it. -/
def typeParameterModifiers : Reading Unit :=
  iterate (fun _ => do
    let token ← current
    let following ← next
    let isModifier := token.isWord "const" || token.isWord "in" || token.isWord "out"
    if isModifier && following.isAnyWord && !following.isWord "extends" then
      advance
      return some ()
    else return none) ()

def typeParameter : Reading (List Node) := do
  typeParameterModifiers
  let _ ← bindingName
  let bound ← typeBehind rules (acceptWord "extends")
  return bound ++ (← typeBehind rules (accept "="))

/-- The type parameters of a declaration, if there are any. -/
def optionalTypeParameters : Reading (List Node) := do
  if ← accept "<" then
    let parameters ← separated ">" (enclosed (typeParameter rules))
    return parameters.flatten
  else return []

/-! ### Parameters -/

/-- The words that may precede a parameter of a constructor. -/
def isParameterModifier (token : Token) : Bool :=
  ["public", "private", "protected", "readonly", "override"].any token.isWord

/-- Takes the words that make a parameter a field.  A word is one if a name or a pattern
follows it. -/
def parameterModifiers : Reading Unit :=
  iterate (fun _ => do
    let token ← current
    let following ← next
    let namesFollow := following.isAnyWord || following.isPunctuator openBrace ||
      following.isPunctuator "["
    if isParameterModifier token && namesFollow then
      advance
      return some ()
    else return none) ()

/-- The written type of a variable, if there is one. -/
def optionalTypeAnnotation : Reading (List Node) := do
  if ← hasTypes then typeBehind rules (accept ":") else return []

/-- The value that a variable has unless it is given another. -/
def optionalInitializer : Reading (List Node) := do
  if ← accept "=" then return [← rules.assignment] else return []

def parameter : Reading Node := do
  let decorators ← rules .decorators
  if ← hasTypes then parameterModifiers
  let _ ← accept "..."
  let target ← if ← acceptWord "this" then pure .null else rules.pattern
  if ← hasTypes then
    let _ ← accept "?"
  let type ← optionalTypeAnnotation rules
  let initializer ← optionalInitializer rules
  let decorations := decorators.map fun
    | .mk _ expression => expression
  return .compound .pattern (decorations ++ target :: (type ++ initializer))

/-- The parameters of a function, with their parentheses. -/
def parameters : Reading (List Node) := do
  expect "("
  enclosed (separated ")" (parameter rules))

/-! ### Members of object types -/

/-- Whether a token can be the name of a property. -/
def isPropertyName (token : Token) : Bool :=
  match token.lexeme with
  | .word .. | .string _ | .number _ | .bigint | .privateName _ => true
  | _ => token.isPunctuator "["

/-- The name of a property or of a class element. -/
def propertyKey : Reading Key := do
  match (← current).lexeme with
  | .word name _ => advance; return .identifier name
  | .string value => advance; return .string value
  | .number value => advance; return .number value
  | .bigint => advance; return .bigint
  | .privateName name => advance; return .privateName name
  | _ =>
    expect "["
    let expression ← enclosed rules.assignment
    expect "]"
    return .computed expression

/-- The expression in a key, if it is computed. -/
def keyParts : Key → List Node
  | .computed expression => [expression]
  | _ => []

/-- Whether a bracket in front opens an index signature: a name and a colon are in it. -/
def seesIndexSignature : Reading Bool := do
  let token ← current
  let name := token.after.token
  return token.isPunctuator "[" && name.isAnyWord && name.after.token.isPunctuator ":"

/-- An index signature, from its bracket to its type. -/
def indexSignature : Reading (List Node) := do
  expect "["
  let _ ← anyWord
  expect ":"
  let key ← enclosed rules.type
  expect "]"
  return key :: (← optionalTypeAnnotation rules)

/-- Takes a word that qualifies the member which follows it on the same line. -/
def acceptMemberModifier (name : String) : Reading Bool := do
  let following ← next
  if (← seesWord name) && isPropertyName following && !following.afterLineBreak then
    advance
    return true
  else return false

/-- The parameters and the result of a function without a body. -/
def signature : Reading (List Node) := do
  let types ← optionalTypeParameters rules
  let parts ← parameters rules
  return types ++ parts ++ (← optionalTypeAnnotation rules)

/-- A member of an object type. -/
def typeMember : Reading (List Node) := do
  let token ← current
  let following ← next
  let opensSignature (t : Token) : Bool := t.isPunctuator "(" || t.isPunctuator "<"
  if opensSignature token then signature rules
  else if token.isWord "new" && opensSignature following then
    advance
    signature rules
  else
    let _ ← acceptMemberModifier "readonly"
    if ← seesIndexSignature then indexSignature rules
    else
      unless ← acceptMemberModifier "get" do
        let _ ← acceptMemberModifier "set"
      let key ← propertyKey rules
      let _ ← accept "?"
      let rest ←
        if opensSignature (← current) then signature rules else optionalTypeAnnotation rules
      return keyParts key ++ rest

/-- The members between the braces of an object type or of an interface. -/
def typeMembers : Reading (List Node) := do
  expect openBrace
  let members ← many do
    if ← accept closeBrace then return none
    enclosed do
      let member ← typeMember rules
      unless ← accept "," do semicolon
      return some member
  return members.flatten

/-- Whether a brace in front opens a mapped type: the word `in` follows the name in its
brackets. -/
def seesMappedType : Reading Bool := do
  let first := (← current).after.token
  let second := first.after.token
  let bracket :=
    if first.isPunctuator "+" || first.isPunctuator "-" then second.after.token
    else if first.isWord "readonly" then second
    else first
  let name := bracket.after.token
  return bracket.isPunctuator "[" && name.isAnyWord && name.after.token.isWord "in"

/-- Takes a plus or a minus that adds or removes a qualification. -/
def acceptSign : Reading Unit := do
  unless ← accept "+" do
    let _ ← accept "-"

/-- A mapped type, with its braces. -/
def mappedType : Reading (List Node) := do
  expect openBrace
  acceptSign
  let _ ← acceptWord "readonly"
  expect "["
  let _ ← anyWord
  expectWord "in"
  let keys ← enclosed rules.type
  let names ← enclosed (typeBehind rules (acceptWord "as"))
  expect "]"
  acceptSign
  let _ ← accept "?"
  let values ← enclosed (typeBehind rules (accept ":"))
  unless ← accept "," do semicolon
  expect closeBrace
  return keys :: (names ++ values)

/-! ### Types without operators -/

/-- A name, and further names behind dots. -/
def entityName : Reading Unit := do
  let _ ← anyWord
  iterate (fun _ => do
    if ← accept "." then
      match (← current).lexeme with
      | .privateName _ => advance
      | _ =>
        let _ ← anyWord
      return some ()
    else return none) ()

/-- Type arguments on the line of what they belong to. -/
def sameLineTypeArguments : Reading (List Node) := do
  if (← current).afterLineBreak then return [] else optionalTypeArguments rules

/-- A type that is imported where it is used. -/
def importedType : Reading (List Node) := do
  expectWord "import"
  expect "("
  let parts ← separated ")" (enclosed (rules (.assignment true)))
  if ← accept "." then entityName
  return parts ++ (← sameLineTypeArguments rules)

/-- An element of a tuple type, which may have a name. -/
def tupleElement : Reading Node := do
  let _ ← accept "..."
  let token ← current
  let following ← next
  let isNamed := token.isAnyWord && (following.isPunctuator ":" ||
    (following.isPunctuator "?" && following.after.token.isPunctuator ":"))
  if isNamed then
    advance
    let _ ← accept "?"
    expect ":"
  let type ← rules.type
  let _ ← accept "?"
  return type

/-- What stands between the parts of a template, behind the first brace. -/
def substitutions (substitution : Reading Node) : Reading (List Node) := do
  let (found, _) ← iterate (fun (found, isOpen) => do
    if !isOpen then return none
    let next ← enclosed substitution
    match (← current).afterTemplatePart? with
    | none => refuse
    | some (complete, after) =>
      resume after
      return some (found ++ [next], !complete)) (([] : List Node), true)
  return found

/-- Whether a token is the whole of a type, which takes no type arguments. -/
def isTypeKeyword (token : Token) : Bool :=
  ["any", "bigint", "boolean", "false", "never", "null", "number", "object", "string",
    "symbol", "this", "true", "undefined", "unknown", "void"].any token.isWord

/-- A type that is a name, perhaps the subject of a predicate. -/
def namedType : Reading (List Node) := do
  let first ← current
  entityName
  let isOneWord : Reading Bool := return first.after.offset = (← get).previousEnd
  let arguments ←
    if isTypeKeyword first && (← isOneWord) then pure [] else sameLineTypeArguments rules
  let token ← current
  if (← isOneWord) && token.isWord "is" && !token.afterLineBreak then
    advance
    return arguments ++ [← rules.type]
  else return arguments

/-- A type without operators before or behind it. -/
def primaryType : Reading (List Node) := do
  let token ← current
  match token.lexeme with
  | .string _ | .number _ | .bigint | .template true => advance; return []
  | .template false =>
    resume token.after
    substitutions rules.type
  | .punctuator "-" => advance; advance; return []
  | .punctuator "(" =>
    advance
    let type ← enclosed rules.type
    expect ")"
    return [type]
  | .punctuator "[" =>
    advance
    separated "]" (enclosed (tupleElement rules))
  | .word "typeof" false =>
    advance
    if ← seesWord "import" then importedType rules
    else
      entityName
      sameLineTypeArguments rules
  | .word "import" false => importedType rules
  | .word "asserts" false =>
    let following ← next
    if following.isAnyWord && !following.isWord "is" && !following.afterLineBreak then
      advance
    namedType rules
  | .word .. => namedType rules
  | _ =>
    if token.isPunctuator openBrace then
      if ← seesMappedType then mappedType rules else typeMembers rules
    else refuse

/-! ### Operators on types -/

/-- Array and index types: brackets on the same line. -/
def postfixType : Reading (List Node) := do
  iterate (fun parts => do
    let token ← current
    if token.isPunctuator "[" && !token.afterLineBreak then
      advance
      let index ← if ← sees "]" then pure [] else pure [← enclosed rules.type]
      expect "]"
      return some (parts ++ index)
    else return none) (← primaryType rules)

/-- The bound of an inferred type.  It is one if no question mark follows it, or if a
conditional type could not be meant. -/
def inferredBound : Reading Node := do
  expectWord "extends"
  let bound ← withReader (fun s => { s with inferring := true }) rules.type
  if !(← read).inferring && (← sees "?") then refuse
  return bound

/-- A type after the words that operate on it. -/
def operatorType : Reading (List Node) := do
  let isOperator : Reading Bool := do
    let token ← current
    let following ← next
    let isWord := token.isWord "keyof" || token.isWord "unique" || token.isWord "readonly"
    let endsHere := match following.lexeme with
      | .word name _ => name == "extends" || name == "is" || name == "as"
      | .string _ | .number _ | .bigint | .template _ => false
      | _ => !(["(", "[", openBrace, "-"].any following.isPunctuator)
    return isWord && !endsHere
  iterate (fun _ => do
    if ← isOperator then advance; return some () else return none) ()
  let token ← current
  if token.isWord "infer" && (← next).isAnyWord then
    advance
    let _ ← bindingName
    if ← seesWord "extends" then return (← attempt (inferredBound rules)).toList
    else return []
  else postfixType rules

/-- Whether a parenthesis in front may open the parameters of a function type. -/
def mayOpenParameters (token : Token) : Bool :=
  let first := token.after.token
  token.isPunctuator "(" &&
    (first.isAnyWord || [")", "...", openBrace, "["].any first.isPunctuator)

/-- The parameters and the result of a function type. -/
def functionType : Reading (List Node) := do
  let types ← optionalTypeParameters rules
  let parts ← parameters rules
  expect "=>"
  return types ++ parts ++ [← rules.type]

/-- A function or constructor type, if one begins here. -/
def functionType? : Reading (Option (List Node)) := do
  let token ← current
  let isAbstract := token.isWord "abstract" && (← next).isWord "new"
  if isAbstract then advance
  if (← acceptWord "new") || token.isPunctuator "<" then return some (← functionType rules)
  else if mayOpenParameters token then attempt (functionType rules)
  else return none

/-- Types joined by `&` or `|`; one may also precede the first. -/
def joinedType : Reading (List Node) := do
  let joins : Reading Bool := do return (← accept "|") || (← accept "&")
  let operand : Reading (List Node) := do
    match ← functionType? rules with
    | some parts => return parts
    | none => operatorType rules
  let _ ← joins
  iterate (fun parts => do
    if ← joins then return some (parts ++ (← operand)) else return none) (← operand)

/-- A type: also one that is chosen by a condition. -/
def type : Reading Node := do
  let parts ← joinedType rules
  let token ← current
  if token.isWord "extends" && !token.afterLineBreak && !(← read).inferring then
    advance
    let bound ← withReader (fun s => { s with inferring := true }) rules.type
    let choice := withReader (fun s => { s with inferring := false }) rules.type
    expect "?"
    let whenTrue ← choice
    expect ":"
    return .compound .type (parts ++ [bound, whenTrue, ← choice])
  else return .compound .type parts

end Listeners.Script.Grammar
