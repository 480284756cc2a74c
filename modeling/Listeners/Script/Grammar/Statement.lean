/-
Statements and declarations.

Many words open a declaration only if the right word follows on the same line: `type`,
`interface`, `namespace`, `module`, `declare` and `abstract` are names everywhere else.
Of declarations of types the types in them are kept, and of namespaces and ambient modules
the statements.

A class declaration begins with its decorators if they stand directly before it, and with
`declare` or `abstract` otherwise; a decorator before `export` belongs to the class but is
not its beginning.
-/
import Listeners.Script.Grammar.Class
namespace Listeners.Script.Grammar

open Reading

variable (rules : Rules)

/-- A statement of which only the parts are kept. -/
def parts (nodes : List Node) : Node := .compound .statement nodes

/-- An expression in parentheses, as the head of a statement has it. -/
def condition : Reading Node := do
  expect "("
  let node ← enclosed rules.expression
  expect ")"
  return node

/-! ### Variables -/

/-- A variable and its value. -/
def variableBinding : Reading Node := do
  let target ← rules.pattern
  if ← hasTypes then
    let _ ← accept "!"
  let type ← optionalTypeAnnotation rules
  return .compound .pattern (target :: (type ++ (← optionalInitializer rules)))

/-- The variables of a declaration, behind the word that opens it. -/
def variableList : Reading (List Node) := do
  let first ← variableBinding rules
  let rest ← many do
    if ← accept "," then return some (← variableBinding rules) else return none
  return first :: rest

/-- How many words in front open a declaration of variables.  `let` and `using` are names
unless a variable follows. -/
def variableWords : Reading Nat := do
  let token ← current
  let following ← next
  let isName (t : Token) : Bool := match t.lexeme with
    | .word name _ => !isReserved name && name != "of"
    | _ => false
  let opensPattern := following.isPunctuator openBrace || following.isPunctuator "["
  let third := following.after.token
  if token.isWord "var" || token.isWord "const" then return 1
  else if token.isWord "let" && ((following.isAnyWord && !following.isWord "in" &&
      !following.isWord "instanceof") || opensPattern) then return 1
  else if token.isWord "using" && isName following && !following.afterLineBreak then return 1
  else if token.isWord "await" && following.isWord "using" && isName third &&
      !following.afterLineBreak && !third.afterLineBreak then return 2
  else return 0

/-- Takes a number of tokens. -/
def advanceBy : Nat → Reading Unit
  | 0 => return
  | count + 1 => do advance; advanceBy count

/-! ### Loops -/

/-- What stands in the parentheses of a `for`. -/
def forHead : Reading (List Node) := do
  let start ← position
  let words ← variableWords
  let opening ← withReader (fun s => { s with inOperator := false }) do
    if ← sees ";" then return []
    else if 0 < words then
      advanceBy words
      variableList rules
    else return [← rules.expression]
  if ← acceptWord "of" then
    modify fun place => { place with defaults := place.defaults.filter (· < start) }
    return opening ++ [← enclosed rules.assignment]
  else if ← acceptWord "in" then
    modify fun place => { place with defaults := place.defaults.filter (· < start) }
    return opening ++ [← enclosed rules.expression]
  else
    expect ";"
    let test ← if ← sees ";" then pure [] else pure [← enclosed rules.expression]
    expect ";"
    let update ← if ← sees ")" then pure [] else pure [← enclosed rules.expression]
    return opening ++ test ++ update

def forStatement : Reading Node := do
  advance
  let _ ← acceptWord "await"
  expect "("
  let head ← forHead rules
  expect ")"
  return parts (head ++ [← rules.statement])

def doStatement : Reading Node := do
  advance
  let body ← rules.statement
  expectWord "while"
  let test ← condition rules
  let _ ← accept ";"
  return parts [body, test]

/-! ### Branches -/

def ifStatement : Reading Node := do
  advance
  let test ← condition rules
  let whenTrue ← rules.statement
  if ← acceptWord "else" then return parts [test, whenTrue, ← rules.statement]
  else return parts [test, whenTrue]

/-- The statements of a case, up to the next. -/
def caseBody : Reading (List Node) :=
  many do
    if (← sees closeBrace) || (← seesWord "case") || (← seesWord "default") then return none
    else return some (← rules.statement)

def switchStatement : Reading Node := do
  advance
  let subject ← condition rules
  expect openBrace
  let cases ← many do
    if ← accept closeBrace then return none
    else
      let label ←
        if ← acceptWord "case" then pure [← enclosed rules.expression]
        else
          expectWord "default"
          pure []
      expect ":"
      return some (label ++ (← caseBody rules))
  return parts (subject :: cases.flatten)

/-- A `try` and its blocks.  At least one must follow the first. -/
def tryStatement : Reading Node := do
  advance
  let body ← rules.block
  let handler? ←
    if ← acceptWord "catch" then
      let caught ←
        if ← accept "(" then
          let target ← rules.pattern
          let type ← optionalTypeAnnotation rules
          expect ")"
          pure (target :: type)
        else pure []
      pure (some (caught ++ (← rules.block)))
    else pure none
  let cleanup? ← if ← acceptWord "finally" then pure (some (← rules.block)) else pure none
  if handler?.isNone && cleanup?.isNone then failAt (← get).previousEnd
  return parts (body ++ handler?.getD [] ++ cleanup?.getD [])

/-! ### Declarations of types -/

/-- An interface, behind the word. -/
def interfaceRest : Reading Node := do
  let _ ← bindingName
  let types ← optionalTypeParameters rules
  let parents ← if ← acceptWord "extends" then typeList rules else pure []
  return parts (types ++ parents ++ (← typeMembers rules))

/-- A named type, behind the word. -/
def typeAliasRest : Reading Node := do
  let _ ← bindingName
  let types ← optionalTypeParameters rules
  expect "="
  let type ← rules.type
  semicolon
  return parts (types ++ [type])

/-- An enumeration, behind the word. -/
def enumRest : Reading Node := do
  let _ ← bindingName
  expect openBrace
  let members ← enclosed <| separated closeBrace do
    let key ← match (← current).lexeme with
      | .template true => advance; pure []
      | _ => pure (keyParts (← propertyKey rules))
    return .compound .pattern (key ++ (← optionalInitializer rules))
  return parts members

/-- A namespace or a module, behind the word. -/
def namespaceRest : Reading Node := do
  match (← current).lexeme with
  | .string _ => advance
  | _ =>
    let _ ← bindingName
    iterate (fun _ => do
      if ← accept "." then
        let _ ← anyWord
        return some ()
      else return none) ()
  if ← sees openBrace then return parts (← rules.block)
  else
    semicolon
    return parts []

/-! ### Modules -/

/-- The attributes behind the name of a module. -/
def moduleAttributes : Reading (List Node) := do
  if (← seesWord "with") || ((← seesWord "assert") && !(← current).afterLineBreak) then
    advance
    unless ← sees openBrace do refuse
    return [← rules .unary]
  else return []

/-- The name of a module, behind `from`, to the end of its statement. -/
def moduleSource : Reading Node := do
  let _ ← stringLiteral
  let attributes ← moduleAttributes rules
  semicolon
  return parts attributes

/-- Whether a token can name something exported. -/
def isExportedName (token : Token) : Bool :=
  match token.lexeme with
  | .word .. | .string _ => true
  | _ => false

/-- A word or a string that names something exported. -/
def exportedName : Reading Unit := do
  match (← current).lexeme with
  | .string _ => advance
  | _ =>
    let _ ← anyWord

/-- Whether a token is the word `type` before a name that stands for a type only, rather
than a name itself.  The names may be `type` and `as`, so that up to three tokens behind the
word decide: `type as as` gives `type` another name and `type as as a` gives it to `as`. -/
def isTypeModifier (token : Token) : Bool :=
  let first := token.after.token
  let second := first.after.token
  let third := second.after.token
  token.isWord "type" && isExportedName first &&
    if !first.isWord "as" then true
    else if second.isWord "as" then isExportedName third
    else !isExportedName second

/-- The names in the braces of an import or an export. -/
def moduleNames : Reading Unit := do
  expect openBrace
  let _ ← separated closeBrace do
    if (← hasTypes) && isTypeModifier (← current) then advance
    exportedName
    if ← acceptWord "as" then exportedName

/-- Whether the word in front says something about an import and is not its first name. -/
def seesImportPhase : Reading Bool := do
  let token ← current
  let following ← next
  let isPhase := token.isWord "type" || token.isWord "defer" || token.isWord "source"
  let namesFollow := following.isPunctuator openBrace || following.isPunctuator "*" ||
    (following.isAnyWord && (!following.isWord "from" || following.after.token.isWord "from"))
  return isPhase && namesFollow

/-- What an import brings in, up to the name of its module. -/
def importRest : Reading Node := do
  match (← current).lexeme with
  | .string _ => moduleSource rules
  | _ =>
    if ← seesImportPhase then advance
    if (← current).isAnyWord then
      let _ ← bindingName
      if ← accept "=" then
        let imported ← rules.expression
        semicolon
        return parts [imported]
      let _ ← accept ","
    if ← accept "*" then
      expectWord "as"
      let _ ← bindingName
    else if ← sees openBrace then moduleNames
    expectWord "from"
    moduleSource rules

/-! ### Classes and functions as statements -/

/-- A class declaration, at its decorators or qualifiers, given further decorators. -/
def classStatement (earlier : List Decorator) : Reading Node := do
  let start ← position
  let decorators ← rules .decorators
  iterate (fun _ => do
    if (← acceptWord "declare") || (← acceptWord "abstract") then return some ()
    else return none) ()
  return .ofClass (← rules (.classFrom start (earlier ++ decorators)))

/-- A function declaration, at its first word.  Its name may be missing if it is the
default of a module. -/
def functionStatement (isDefault : Bool) : Reading Node := do
  let isAsync ← acceptWord "async"
  expectWord "function"
  let isGenerator ← accept "*"
  unless isDefault && !(← current).isAnyWord do
    let _ ← bindingName
  return .compound .function (← rules (.functionFrom isAsync isGenerator))

/-- Whether a name follows the token in front on its line. -/
def nameFollows : Reading Bool := do
  let following ← next
  return match following.lexeme with
    | .word name escaped => (!isReserved name || escaped) && !following.afterLineBreak
    | _ => false

/-- Whether the words in front open a class declaration. -/
def opensClass (token : Token) : Bool :=
  let following := token.after.token
  token.isWord "class" ||
    (token.isWord "abstract" && following.isWord "class" && !following.afterLineBreak)

/-- A declaration that only a language with types has, if one begins here. -/
def typedDeclaration? : Reading (Option Node) := do
  let token ← current
  let following ← next
  let sameLine := !following.afterLineBreak
  let named (rest : Reading Node) : Reading (Option Node) := do
    if ← nameFollows then
      advance
      return some (← rest)
    else return none
  match token.lexeme with
  | .word "interface" false => named (interfaceRest rules)
  | .word "type" false => named (typeAliasRest rules)
  | .word "enum" false => advance; return some (← enumRest rules)
  | .word "const" false =>
    if following.isWord "enum" then
      advance
      advance
      return some (← enumRest rules)
    else return none
  | .word "namespace" false | .word "module" false =>
    let isNamed := match following.lexeme with
      | .string _ => sameLine
      | _ => false
    if isNamed || (← nameFollows) then
      advance
      return some (← namespaceRest rules)
    else return none
  | .word "global" false =>
    if following.isPunctuator openBrace && sameLine then
      advance
      return some (parts (← rules.block))
    else return none
  | .word "declare" false =>
    let opens := ["abstract", "async", "class", "const", "enum", "function", "global", "import",
      "interface", "let", "module", "namespace", "type", "using", "var"].any following.isWord
    if opens && sameLine then
      if opensClass following then return some (← classStatement rules [])
      else
        advance
        return some (← rules.statement)
    else return none
  | _ => return none

/-! ### Exports -/

/-- What is exported as the default of a module. -/
def exportDefault (earlier : List Decorator) : Reading Node := do
  let token ← current
  let following ← next
  if token.isPunctuator "@" || opensClass token then classStatement rules earlier
  else if token.isWord "function" ||
      (token.isWord "async" && following.isWord "function" && !following.afterLineBreak) then
    functionStatement rules true
  else if token.isWord "interface" && (← hasTypes) && (← nameFollows) then
    advance
    interfaceRest rules
  else
    let value ← rules.assignment
    semicolon
    return parts [value]

/-- What follows the word `export`, given the decorators before it. -/
def exportRest (earlier : List Decorator) : Reading Node := do
  let token ← current
  let following ← next
  let isTypeOnly := token.isWord "type" &&
    (following.isPunctuator openBrace || following.isPunctuator "*")
  if isTypeOnly then advance
  if ← acceptWord "default" then exportDefault rules earlier
  else if ← accept "=" then
    let value ← rules.expression
    semicolon
    return parts [value]
  else if ← acceptWord "as" then
    expectWord "namespace"
    let _ ← bindingName
    semicolon
    return parts []
  else if ← accept "*" then
    if ← acceptWord "as" then exportedName
    expectWord "from"
    moduleSource rules
  else if ← sees openBrace then
    moduleNames
    if ← acceptWord "from" then moduleSource rules
    else
      semicolon
      return parts []
  else if token.isPunctuator "@" || opensClass token ||
      (token.isWord "declare" && opensClass following) then classStatement rules earlier
  else
    let opens := ["async", "const", "declare", "enum", "function", "import", "interface", "let",
      "module", "namespace", "type", "using", "var", "await"].any token.isWord
    if opens then rules.statement else refuse

/-! ### Statements -/

/-- A statement that begins with a decorator. -/
def decoratedStatement : Reading Node := do
  let before ← get
  let decorators ← rules .decorators
  if ← acceptWord "export" then exportRest rules decorators
  else
    set before
    classStatement rules []

/-- The label that a `break` or a `continue` goes to. -/
def jumpRest : Reading Node := do
  let token ← current
  if token.isAnyWord && !token.afterLineBreak then
    let _ ← bindingName
  semicolon
  return parts []

/-- An expression as a statement, or a statement with a label. -/
def expressionStatement : Reading Node := do
  let token ← current
  let isLabel := token.isAnyWord && (← next).isPunctuator ":"
  if isLabel then
    let _ ← bindingName
    expect ":"
    rules.statement
  else
    let node ← rules.expression
    semicolon
    return parts [node]

/-- A statement that opens with a word of its own. -/
def wordStatement (name : String) : Reading Node := do
  let token ← current
  let following ← next
  match name with
  | "var" | "const" =>
    advance
    let bindings ← variableList rules
    semicolon
    return parts bindings
  | "if" => ifStatement rules
  | "for" => forStatement rules
  | "while" =>
    advance
    return parts [← condition rules, ← rules.statement]
  | "do" => doStatement rules
  | "switch" => switchStatement rules
  | "try" => tryStatement rules
  | "with" =>
    advance
    return parts [← condition rules, ← rules.statement]
  | "return" =>
    advance
    let token ← current
    if token.isPunctuator ";" || token.isPunctuator closeBrace || token.isFinish ||
        token.afterLineBreak then
      semicolon
      return parts []
    else
      let value ← rules.expression
      semicolon
      return parts [value]
  | "throw" =>
    advance
    let value ← rules.expression
    semicolon
    return parts [value]
  | "break" | "continue" => advance; jumpRest
  | "debugger" => advance; semicolon; return parts []
  | "function" => functionStatement rules false
  | "class" => classStatement rules []
  | "export" => advance; exportRest rules []
  | "import" =>
    if following.isPunctuator "(" || following.isPunctuator "." then expressionStatement rules
    else
      advance
      importRest rules
  | _ =>
    let words ← variableWords
    if 0 < words then
      advanceBy words
      let bindings ← variableList rules
      semicolon
      return parts bindings
    else if name == "async" && following.isWord "function" && !following.afterLineBreak then
      functionStatement rules false
    else if (← hasTypes) && opensClass token then classStatement rules []
    else expressionStatement rules

def statement : Reading Node := do
  let token ← current
  match token.lexeme with
  | .punctuator ";" => advance; return parts []
  | .punctuator "@" => decoratedStatement rules
  | .word name false =>
    let declaration ← if ← hasTypes then typedDeclaration? rules else pure none
    match declaration with
    | some node => return node
    | none => wordStatement rules name
  | _ => if ← sees openBrace then return parts (← rules.block) else expressionStatement rules

end Listeners.Script.Grammar
