/-
Expressions.

From the inside out: operands that begin with their own token, what may follow them
(members, calls, templates), operators before and behind them, operators between them, and
at last the conditional, assignments and sequences.

Three tokens need care.  A slash where an operand is expected begins a regular expression.
A less-than sign behind an operand may open type arguments; it does if they can be read and
what follows them could not follow a comparison.  A greater-than sign is joined with the
characters behind it only where an operator is expected.
-/
import Listeners.Script.Grammar.Function
namespace Listeners.Script.Grammar

open Reading

variable (rules : Rules)

/-! ### Operators between operands -/

/-- How tightly an operator binds.  Zero is for what is no operator. -/
def tightness (operator : String) : Nat :=
  if operator == "??" then 1
  else if operator == "||" then 2
  else if operator == "&&" then 3
  else if operator == "|" then 4
  else if operator == "^" then 5
  else if operator == "&" then 6
  else if ["==", "!=", "===", "!=="].contains operator then 7
  else if ["<", ">", "<=", ">="].contains operator then 8
  else if ["<<", ">>", ">>>"].contains operator then 9
  else if operator == "+" || operator == "-" then 10
  else if operator == "*" || operator == "/" || operator == "%" then 11
  else if operator == "**" then 12
  else 0

/-- How tightly the token binds two operands, if it stands between them. -/
def Token.tightness (context : Context) (token : Token) : Nat :=
  match token.joined.lexeme with
  | .punctuator text => Grammar.tightness text
  | .word "instanceof" false => 8
  | .word "in" false => if context.inOperator then 8 else 0
  | .word "as" false | .word "satisfies" false =>
    if context.dialect.hasTypes && !token.afterLineBreak then 8 else 0
  | _ => 0

/-- Whether the token assigns. -/
def isAssignmentOperator (token : Token) : Bool :=
  ["=", "+=", "-=", "*=", "/=", "%=", "**=", "<<=", ">>=", ">>>=", "&=", "|=", "^=", "&&=",
    "||=", "??="].any token.joined.isPunctuator

/-- Whether an operand can begin with the token. -/
def beginsOperand (token : Token) : Bool :=
  match token.lexeme with
  | .string _ | .number _ | .bigint | .template _ | .privateName _ => true
  | .punctuator text =>
    ["(", "[", openBrace, "+", "-", "!", "~", "++", "--", "<", "/", "/=", "@"].contains text
  | .word name _ =>
    !isReserved name || ["class", "delete", "false", "function", "import", "new", "null",
      "super", "this", "true", "typeof", "void"].contains name
  | _ => false

/-- Whether type arguments that end before the token were meant as such. -/
def mayFollowTypeArguments (context : Context) (token : Token) : Bool :=
  match token.lexeme with
  | .punctuator "(" | .template _ => true
  | .punctuator "<" | .punctuator ">" | .punctuator "+" | .punctuator "-" => false
  | _ => token.afterLineBreak || 0 < Token.tightness context token || !beginsOperand token

/-! ### Operands -/

/-- A template, whose token is in front. -/
def template (complete : Bool) : Reading (List Node) := do
  let token ← current
  resume token.after
  if complete then return [] else substitutions rules.expression

/-- The arguments of a call, behind the parenthesis. -/
def arguments : Reading (List Argument) :=
  enclosed (separated ")" do
    let start ← position
    let isSpread ← accept "..."
    return .mk start isSpread (← rules.assignment))

/-- An argument as part of a construct. -/
def Argument.part : Argument → Node
  | .mk _ true value => .compound .spread [value]
  | .mk _ false value => value

/-- An element of an array literal, which may be left out. -/
def arrayElement : Reading Node := do
  if (← sees ",") || (← sees "]") then return .compound .pattern []
  else if ← accept "..." then return .compound .spread [← rules.assignment]
  else rules.assignment

/-- Whether the word in front qualifies a property that follows it. -/
def seesPropertyModifier (name : String) (sameLine : Bool) : Reading Bool := do
  let following ← next
  return (← seesWord name) && (isPropertyName following || following.isPunctuator "*") &&
    !(sameLine && following.afterLineBreak)

/-- A property of an object literal. -/
def property : Reading Property := do
  if ← accept "..." then return .spread (← rules.assignment)
  else
    let start ← position
    let isAsync ← seesPropertyModifier "async" true
    if isAsync then advance
    let isAccessor :=
      (← seesPropertyModifier "get" false) || (← seesPropertyModifier "set" false)
    if isAccessor then advance
    let isGenerator ← accept "*"
    let key ← propertyKey rules
    let opensFunction := (← sees "(") || (← sees "<")
    if opensFunction || isAsync || isGenerator || isAccessor then
      let parts ← rules (.functionFrom isAsync isGenerator)
      return if isAccessor then .accessor key parts else .method key parts
    else if ← accept ":" then return .entry key (← rules.assignment)
    else match key with
      | .identifier name =>
        if isReserved name then refuse
        else if ← accept "=" then
          modify fun place => { place with defaults := place.defaults ++ [start] }
          return .entry key (.compound .assignment [.identifier name, ← rules.assignment])
        else return .entry key (.identifier name)
      | _ => refuse

/-- An expression in parentheses, behind the first. -/
def parenthesized : Reading Node := do
  let inner ← enclosed rules.expression
  expect ")"
  return .parenthesized inner

/-- A function with the word `function`, which is in front. -/
def functionExpression (isAsync : Bool) : Reading Node := do
  advance
  let isGenerator ← accept "*"
  unless (← sees "(") || (← sees "<") do
    let _ ← bindingName
  return .compound .function (← rules (.functionFrom isAsync isGenerator))

/-- The arguments of `new`, which may be missing with their parentheses. -/
def constructionArguments : Reading (List Node) := do
  if ← accept "(" then return (← arguments rules).map Argument.part else return []

/-- What `new` applies to: an operand and its members. -/
def constructed : Reading Node := withReader (fun s => { s with decorating := false }) do
  rules .leftHand

/-- What begins with the word `import` in an expression. -/
def importExpression : Reading Node := do
  advance
  if ← accept "." then
    let _ ← anyWord
    if ← accept "(" then
      return .compound .importCall ((← arguments rules).map Argument.part)
    else return .compound .metaProperty []
  else
    expect "("
    return .compound .importCall ((← arguments rules).map Argument.part)

/-- A class after its decorators. -/
def decoratedClass : Reading Node := do
  let start ← position
  let decorators ← rules .decorators
  unless ← seesWord "class" do refuse
  return .ofClass (← rules (.classFrom start decorators))

/-- An operand that begins with a word. -/
def wordOperand (name : String) : Reading Node := do
  match name with
  | "this" => advance; return .compound .thisReference []
  | "super" => advance; return .compound .superReference []
  | "null" => advance; return .null
  | "true" => advance; return .boolean true
  | "false" => advance; return .boolean false
  | "function" => functionExpression rules false
  | "class" => decoratedClass rules
  | "import" => importExpression rules
  | "async" =>
    let following ← next
    if following.isWord "function" && !following.afterLineBreak then
      advance
      functionExpression rules true
    else return .identifier (← bindingName)
  | _ => return .identifier (← bindingName)

/-- An operand without anything before or behind it. -/
def operand : Reading Node := do
  let token ← current
  match token.lexeme with
  | .word name false => wordOperand rules name
  | .word _ true => return .identifier (← bindingName)
  | .number value => advance; return .number value
  | .string value => advance; return .string value
  | .bigint => advance; return .compound .bigint []
  | .template complete => return .compound .template (← template rules complete)
  | .privateName _ =>
    advance
    if ← seesWord "in" then return .compound .privateName [] else refuse
  | .punctuator "(" => advance; parenthesized rules
  | .punctuator "[" =>
    advance
    return .compound .array (← enclosed (separated "]" (arrayElement rules)))
  | .punctuator "@" => decoratedClass rules
  | .punctuator "/" | .punctuator "/=" =>
    match token.afterRegularExpression? with
    | some after => resume after; return .compound .regularExpression []
    | none => refuse
  | .punctuator "<" =>
    if ← hasMarkup then
      let (element, after) ← rules .markup
      resume after
      return element
    else refuse
  | _ =>
    if ← accept openBrace then
      return .object (← enclosed (separated closeBrace (property rules)))
    else refuse

/-! ### What follows an operand -/

/-- An operand with what follows it, as far as it has been read. -/
structure Chain where
  node : Node
  /-- Type arguments that belong to what follows. -/
  types : List Node
  /-- Whether a question mark has made what follows it optional. -/
  isOptional : Bool

/-- The name of a member, behind its dot. -/
def memberName : Reading Unit := do
  match (← current).lexeme with
  | .privateName _ => advance
  | _ =>
    let _ ← anyWord

/-- Type arguments of an expression, if the angle in front opens some.  The last angle
closes none if it is part of `>=`. -/
def expressionTypeArguments? : Reading (Option (List Node)) := do
  let context ← read
  attempt do
    let types ← typeArguments rules
    let token ← current
    let isJoined := token.start.offset = (← get).previousEnd && token.start.rest.head? = some '='
    if isJoined || !mayFollowTypeArguments context token then refuse
    return types

/-- One step further along a chain.  `allowsCalls` is false for what `new` applies to. -/
def chainStep (allowsCalls : Bool) (chain : Chain) : Reading (Option Chain) := do
  let context ← read
  let token ← current
  let become (node : Node) : Option Chain := some ⟨node, [], chain.isOptional⟩
  match token.lexeme with
  | .punctuator "." =>
    advance
    memberName
    return become (.compound .member [chain.node])
  | .punctuator "?." =>
    if !allowsCalls then refuse
    advance
    if ← accept "[" then
      let key ← enclosed rules.expression
      expect "]"
      return some ⟨.compound .member [chain.node, key], [], true⟩
    else if (← sees "(") || (← sees "<") then
      let types ← if ← hasTypes then optionalTypeArguments rules else pure []
      expect "("
      return some ⟨.call chain.node types (← arguments rules), [], true⟩
    else
      memberName
      return some ⟨.compound .member [chain.node], [], true⟩
  | .punctuator "[" =>
    if context.decorating then return none
    advance
    let key ← enclosed rules.expression
    expect "]"
    return become (.compound .member [chain.node, key])
  | .punctuator "!" =>
    if context.dialect.hasTypes && !token.afterLineBreak then
      advance
      return become (.compound .nonNull [chain.node])
    else return none
  | .template complete =>
    let parts := chain.node :: chain.types
    return become (.compound .taggedTemplate (parts ++ (← template rules complete)))
  | .punctuator "(" =>
    if allowsCalls then
      advance
      return become (.call chain.node chain.types (← arguments rules))
    else return none
  | .punctuator "<" | .punctuator "<<" =>
    if !context.dialect.hasTypes then return none
    match ← expressionTypeArguments? rules with
    | none => return none
    | some types =>
      if (← sees "(") || (← current).lexeme matches .template _ then
        return some { chain with types }
      else return become (.compound .instantiation (chain.node :: types))
  | _ => return none

/-- An operand and all that follows it.  Type arguments are left over at the end if the
parentheses behind them belong to `new`. -/
def chainFrom (allowsCalls : Bool) (first : Node) : Reading Node := do
  let chain ← iterate (chainStep rules allowsCalls) ⟨first, [], false⟩
  let node :=
    if chain.types.isEmpty then chain.node
    else .compound .instantiation (chain.node :: chain.types)
  return if chain.isOptional then .compound .optionalChain [node] else node

/-- What may stand before the parentheses of a call, with `new` at the front. -/
def construction : Reading Node := do
  advance
  if ← accept "." then
    let _ ← anyWord
    return .compound .metaProperty []
  else
    let callee ←
      if ← seesWord "new" then constructed rules
      else withReader (fun s => { s with decorating := false }) do
        chainFrom rules false (← operand rules)
    return .compound .construction (callee :: (← constructionArguments rules))

/-- An operand with members and calls. -/
def leftHand : Reading Node := do
  let first ← if ← seesWord "new" then construction rules else operand rules
  chainFrom rules true first

/-! ### Operators before and behind -/

/-- What can be assigned to: a variable, a member, a pattern, or one of these in
parentheses or with a type. -/
def isAssignable : Node → Bool
  | .identifier _ | .object _ => true
  | .parenthesized inner => isAssignable inner
  | .compound .cast [.compound .type _, inner] | .compound .cast [inner, .compound .type _]
  | .compound .nonNull [inner] => isAssignable inner
  | .compound .array _ | .compound .member _ => true
  | _ => false

/-- An operand to which an operator behind it may apply. -/
def postfixed : Reading Node := do
  let start ← position
  let node ← leftHand rules
  let token ← current
  if (token.isPunctuator "++" || token.isPunctuator "--") && !token.afterLineBreak then
    unless isAssignable node do failAt start
    advance
    return .compound .update [node]
  else return node

/-- A type between angles before an operand. -/
def castBefore : Reading Node := do
  advance
  let type ←
    if ← acceptWord "const" then pure (.compound .type []) else enclosed rules.type
  expect ">"
  return .compound .cast [type, ← rules .unary]

/-- Whether the word `await` in front is an operator.  Where it need not be one, it is if
an operand follows it on its line. -/
def seesAwait : Reading Bool := do
  let following ← next
  let operandFollows := match following.lexeme with
    | .word name _ => beginsOperand following && name != "in" && name != "of"
    | .string _ | .number _ | .bigint => true
    | _ => false
  return (← seesWord "await") &&
    ((← read).awaiting || (operandFollows && !following.afterLineBreak))

def unary : Reading Node := do
  let token ← current
  let apply (construct : Construct) : Reading Node := do
    advance
    let start ← position
    let operand ← rules .unary
    if construct matches .update then
      unless isAssignable operand do failAt start
    return .compound construct [operand]
  match token.lexeme with
  | .punctuator "-" => advance; return .negation (← rules .unary)
  | .punctuator "+" | .punctuator "!" | .punctuator "~" => apply .unary
  | .punctuator "++" | .punctuator "--" => apply .update
  | .word "typeof" false | .word "void" false | .word "delete" false => apply .unary
  | .punctuator "<" =>
    if (← hasTypes) && !(← hasMarkup) then castBefore rules else postfixed rules
  | _ => if ← seesAwait then apply .await else postfixed rules

/-! ### Operators between -/

/-- One operator that binds more tightly than `level`, and its right operand. -/
def binaryStep (level : Nat) (left : Node) : Reading (Option Node) := do
  let token := (← current).joined
  let strength := Token.tightness (← read) token
  if strength ≤ level then return none
  else if token.isWord "as" || token.isWord "satisfies" then
    advance
    return some (.compound .cast [left, ← rules.type])
  else
    let construct : Construct :=
      if ["??", "||", "&&"].any token.isPunctuator then .logical
      else if left matches .compound .privateName _ then .membership
      else .binary
    -- A power is the only operator whose right operand may be another of its kind.
    let rightLevel := if token.isPunctuator "**" then strength - 1 else strength
    takeAs token
    let right ← rules (.binary rightLevel)
    return some (.compound construct [left, right])

def binary (level : Nat) : Reading Node := do
  iterate (binaryStep rules level) (← rules .unary)

/-! ### Conditionals, assignments, sequences -/

/-- A generator hands a value out. -/
def yieldExpression (arrowTypes : Bool) : Reading Node := do
  advance
  let token ← current
  if token.afterLineBreak then return .compound .yield []
  else if ← accept "*" then return .compound .yield [← rules (.assignment arrowTypes)]
  else if beginsOperand token then return .compound .yield [← rules (.assignment arrowTypes)]
  else return .compound .yield []

def assignment (arrowTypes : Bool) : Reading Node := do
  if (← read).yielding && (← seesWord "yield") then yieldExpression rules arrowTypes
  else match ← arrow? rules arrowTypes with
  | some arrow => return arrow
  | none =>
    let start ← position
    let left ← rules (.binary 0)
    let token ← current
    if isAssignmentOperator token then
      unless isAssignable left do failAt start
      takeAs token.joined
      modify fun place => { place with defaults := place.defaults.filter (· < start) }
      return .compound .assignment [left, ← rules (.assignment arrowTypes)]
    else if ← accept "?" then
      let whenTrue ← enclosed (rules (.assignment false))
      expect ":"
      return .compound .conditional [left, whenTrue, ← rules (.assignment arrowTypes)]
    else return left

def expression : Reading Node := do
  let first ← rules.assignment
  let rest ← many do
    if ← accept "," then return some (← rules.assignment) else return none
  return if rest.isEmpty then first else .compound .sequence (first :: rest)

end Listeners.Script.Grammar
