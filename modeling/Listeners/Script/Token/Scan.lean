/-
Reading tokens off a text.

`Cursor.token` skips blanks and comments and reads the token that follows, taking a slash
for an operator and a closing brace for a punctuator.  Where the grammar expects something
else there, it reads the same characters again: as a regular expression, as the rest of a
template, or as part of an element of markup.  A greater-than sign is always read alone,
because it may close a list of type arguments that another one closes around it; an
expression joins it with what follows.

Where the characters make no token, a reader fails at the byte offset of what is wrong
with them.  The token is then malformed, which is an error only if the grammar looks at it.
-/
import Listeners.Script.Identifier
import Listeners.Script.Token
import Listeners.Script.Token.Literal
namespace Listeners.Script

/-- How many bytes a list of characters takes. -/
def byteLength (cs : List Char) : Nat := cs.foldl (fun n c => n + c.utf8Size) 0

namespace Cursor

/-- The place behind characters that stand at the front. -/
def past (c : Cursor) (front : List Char) : Cursor :=
  ⟨c.rest.drop front.length, c.offset + byteLength front⟩

end Cursor

/-! ### Between tokens -/

/-- A character that separates tokens and does not end the line. -/
def isSpace (c : Char) : Bool :=
  let n := c.toNat
  n = 0x20 || n = 0x09 || n = 0x0B || n = 0x0C || n = 0x85 || n = 0xA0 || n = 0x1680 ||
    n = 0x180E || (0x2000 ≤ n && n ≤ 0x200B) || n = 0x202F || n = 0x205F || n = 0x3000 ||
    n = 0xFEFF

/-- What the reader is inside of between two tokens. -/
inductive Between where
  | blank
  | lineComment
  | blockComment (start : Cursor)

/-- The place of the next token, and whether a line ends before it; or the beginning of a
comment that is not closed. -/
def skipBetween : Between → Bool → List Char → Nat → Except Cursor (Cursor × Bool)
  | .blank, lineBreak, '/' :: '/' :: cs, n => skipBetween .lineComment lineBreak cs (n + 2)
  | .blank, lineBreak, '/' :: '*' :: cs, n =>
    skipBetween (.blockComment ⟨'/' :: '*' :: cs, n⟩) lineBreak cs (n + 2)
  | .blank, lineBreak, c :: cs, n =>
    if isLineBreak c then skipBetween .blank true cs (n + c.utf8Size)
    else if isSpace c then skipBetween .blank lineBreak cs (n + c.utf8Size)
    else .ok (⟨c :: cs, n⟩, lineBreak)
  | .lineComment, lineBreak, c :: cs, n =>
    if isLineBreak c then skipBetween .blank true cs (n + c.utf8Size)
    else skipBetween .lineComment lineBreak cs (n + c.utf8Size)
  | .blockComment _, lineBreak, '*' :: '/' :: cs, n => skipBetween .blank lineBreak cs (n + 2)
  | .blockComment start, lineBreak, c :: cs, n =>
    skipBetween (.blockComment start) (lineBreak || isLineBreak c) cs (n + c.utf8Size)
  | .blockComment start, _, [], _ => .error start
  | _, lineBreak, [], n => .ok (⟨[], n⟩, lineBreak)

/-! ### Words -/

/-- The rest of an identifier in which escapes may occur, and the place behind it. -/
def escapedWord? (fuel : Nat) (isFirst : Bool) (c : Cursor) : Option (List Char × Cursor) :=
  match fuel, c.rest with
  | 0, _ => none
  | fuel + 1, '\\' :: 'u' :: cs => do
    let (n, rest) ← unicodeEscape? cs
    let letter := Char.ofNat n
    let fits := if isFirst then isIdentifierStart letter else isIdentifierPart letter
    if !fits then none
    else
      let after : Cursor := ⟨rest, c.offset + 2 + (cs.length - rest.length)⟩
      let (letters, after) ← escapedWord? fuel false after
      return (letter :: letters, after)
  | _, '\\' :: _ => none
  | fuel + 1, letter :: cs =>
    if if isFirst then isIdentifierStart letter else isIdentifierPart letter then do
      let (letters, after) ← escapedWord? fuel false ⟨cs, c.offset + letter.utf8Size⟩
      return (letter :: letters, after)
    else if isFirst then none
    else some ([], c)
  | _, [] => if isFirst then none else some ([], c)

/-- The identifier or keyword at a place, whether it has an escape in it, and the place
behind it. -/
def word? (c : Cursor) : Option (String × Bool × Cursor) :=
  let plain := match c.rest with
    | letter :: cs =>
      if isIdentifierStart letter then letter :: cs.takeWhile isIdentifierPart else []
    | [] => []
  let after := c.past plain
  match after.rest with
  | '\\' :: _ =>
    (escapedWord? (c.rest.length + 1) true c).map fun (letters, after) =>
      (String.ofList letters, true, after)
  | _ => if plain.isEmpty then none else some (String.ofList plain, false, after)

/-! ### Literals -/

/-- What stands between the quotes of a string literal, and the place behind it. -/
def stringBody? (quote : Char) : List Char → List Char → Nat → Option (List Char × Cursor)
  | raw, '\\' :: '\r' :: '\n' :: cs, n =>
    stringBody? quote ('\n' :: '\r' :: '\\' :: raw) cs (n + 3)
  | raw, '\\' :: c :: cs, n => stringBody? quote (c :: '\\' :: raw) cs (n + 1 + c.utf8Size)
  | raw, c :: cs, n =>
    if c = quote then some (raw.reverse, ⟨cs, n + 1⟩)
    else if c = '\n' || c = '\r' then none
    else stringBody? quote (c :: raw) cs (n + c.utf8Size)
  | _, [], _ => none

/-- Past the text of a template: whether it ends there or goes on with a substitution, and
the place behind the mark that says so. -/
def templateBody? : List Char → Nat → Option (Bool × Cursor)
  | '\\' :: c :: cs, n => templateBody? cs (n + 1 + c.utf8Size)
  | '$' :: '{' :: cs, n => some (false, ⟨cs, n + 2⟩)
  | c :: cs, n =>
    if c = '\x60' then some (true, ⟨cs, n + 1⟩) else templateBody? cs (n + c.utf8Size)
  | [], _ => none

/-- Past the closing slash of a regular expression.  A slash inside a class does not close
it. -/
def regularExpressionBody? : Bool → List Char → Nat → Option Cursor
  | inClass, '\\' :: c :: cs, n =>
    if isLineBreak c then none else regularExpressionBody? inClass cs (n + 1 + c.utf8Size)
  | inClass, c :: cs, n =>
    if isLineBreak c then none
    else if c = '/' && !inClass then some ⟨cs, n + 1⟩
    else
      let inClass := if c = '[' then true else if c = ']' then false else inClass
      regularExpressionBody? inClass cs (n + c.utf8Size)
  | _, [], _ => none

/-- A run of digits and separators. -/
def digitRun (base : Nat) (cs : List Char) : List Char :=
  cs.takeWhile fun c => isDigitOf base c || c = '_'

/-- The exponent of a number, zero if none follows, and the place behind it. -/
def exponent (c : Cursor) : Except Nat (Int × Cursor) :=
  match c.rest with
  | e :: cs =>
    if e = 'e' || e = 'E' then
      let sign := match cs with
        | '+' :: _ => ['+']
        | '-' :: _ => ['-']
        | _ => []
      let afterSign := c.past (e :: sign)
      let digits := digitRun 10 afterSign.rest
      let size : Int := digitsValue 10 digits
      if digits.isEmpty then .error afterSign.offset
      else .ok (if sign = ['-'] then -size else size, afterSign.past digits)
    else .ok (0, c)
  | [] => .ok (0, c)

/-- A number in another base than ten, given the two characters that announce it. -/
def radixNumber (c : Cursor) (base : Nat) : Except Nat (Lexeme × Cursor) :=
  let digits := digitRun base (c.rest.drop 2)
  let after := c.past (c.rest.take 2 ++ digits)
  if digits.isEmpty then .error after.offset
  else match after.rest with
    | 'n' :: _ => .ok (.bigint, after.past ['n'])
    | _ => .ok (.number (Double.ofNat (digitsValue base digits)), after)

/-- A decimal number, or an octal one written with a leading zero. -/
def decimalNumber (c : Cursor) : Except Nat (Lexeme × Cursor) :=
  let whole := digitRun 10 c.rest
  let afterWhole := c.past whole
  let isOctal := 1 < whole.length && whole.head? = some '0' && whole.all (isDigitOf 8)
  if isOctal then .ok (.number (Double.ofNat (digitsValue 8 whole)), afterWhole)
  else match afterWhole.rest with
    | 'n' :: _ => .ok (.bigint, afterWhole.past ['n'])
    | _ =>
      let fraction := match afterWhole.rest with
        | '.' :: cs => '.' :: digitRun 10 cs
        | _ => []
      (exponent (afterWhole.past fraction)).map fun (exponent, after) =>
        (.number (decimalValue whole (fraction.drop 1) exponent), after)

/-- The number at a place.  No identifier may follow it at once. -/
def number (c : Cursor) : Except Nat (Lexeme × Cursor) := do
  let (lexeme, after) ← match c.rest with
    | '0' :: x :: _ =>
      if x = 'x' || x = 'X' then radixNumber c 16
      else if x = 'o' || x = 'O' then radixNumber c 8
      else if x = 'b' || x = 'B' then radixNumber c 2
      else decimalNumber c
    | _ => decimalNumber c
  if after.rest.head?.any fun next => isIdentifierStart next || next.isDigit then
    throw after.offset
  else return (lexeme, after)

/-! ### Punctuators -/

/-- The punctuators, each before those that begin it.  Of those that begin with a
greater-than sign only the sign itself is one. -/
def punctuators : List (String × List Char) :=
  ["...", "===", "!==", "**=", "<<=", "&&=", "||=", "??=",
    "=>", "==", "!=", "<=", "++", "--", "<<", "&&", "||", "??", "?.", "+=", "-=", "*=", "/=",
    "%=", "&=", "|=", "^=", "**", "\x7b", "\x7d", "(", ")", "[", "]", ";", ",", "<", ">", "+",
    "-", "*", "/", "%", "&", "|", "^", "!", "~", "?", ":", "=", ".", "@"].map
    fun text => (text, text.toList)

/-- The operators that begin with a greater-than sign, longest first. -/
def angleOperators : List (String × List Char) :=
  [">>>=", ">>>", ">>=", ">>", ">=", ">"].map fun text => (text, text.toList)

/-- The first entry whose characters stand at the front. -/
def matchFront (table : List (String × List Char)) (cs : List Char) :
    Option (String × List Char) :=
  table.find? fun (_, front) => front.isPrefixOf cs

/-- The punctuator at a place.  A question mark before a number stands alone. -/
def punctuator? (c : Cursor) : Option (Lexeme × Cursor) :=
  match c.rest with
  | '?' :: '.' :: d :: _ =>
    if d.isDigit then some (.punctuator "?", c.past ['?'])
    else some (.punctuator "?.", c.past ['?', '.'])
  | cs => (matchFront punctuators cs).map fun (text, front) => (.punctuator text, c.past front)

/-! ### Tokens -/

/-- What was found, or else a mistake at an offset. -/
def foundOr {α : Type} (offset : Nat) : Option α → Except Nat α
  | some found => .ok found
  | none => .error offset

/-- The token whose first character stands at a place that is not the end. -/
def lexeme (c : Cursor) : Except Nat (Lexeme × Cursor) :=
  match c.rest with
  | [] => .ok (.finish, c)
  | first :: cs =>
    if first = '"' || first = '\'' then foundOr c.offset do
      let (raw, after) ← stringBody? first [] cs (c.offset + 1)
      return (.string (← stringValue? raw), after)
    else if first = '\x60' then foundOr c.offset do
      let (complete, after) ← templateBody? cs (c.offset + 1)
      return (.template complete, after)
    else if first.isDigit || (first = '.' && cs.head?.any Char.isDigit) then number c
    else if first = '#' then foundOr (c.offset + 1) do
      let (name, _, after) ← word? ⟨cs, c.offset + 1⟩
      return (.privateName name, after)
    else match punctuator? c with
      | some found => .ok found
      | none => foundOr c.offset do
        let (name, escaped, after) ← word? c
        return (.word name escaped, after)

namespace Cursor

/-- The token after a place. -/
def token (c : Cursor) : Token :=
  match skipBetween .blank false c.rest c.offset with
  | .error start => ⟨.malformed start.offset, start, start, false⟩
  | .ok (start, lineBreak) =>
    match lexeme start with
    | .ok (lexeme, after) => ⟨lexeme, start, after, lineBreak⟩
    | .error mistake => ⟨.malformed mistake, start, start, lineBreak⟩

/-- The beginning of a source.  A first line that names an interpreter is passed over. -/
def ofSource (source : List Char) : Cursor :=
  match source with
  | '#' :: '!' :: _ =>
    let line := source.takeWhile fun c => !isLineBreak c
    Cursor.past ⟨source, 0⟩ line
  | _ => ⟨source, 0⟩

end Cursor

namespace Token

/-- Where the text goes on if the token, a slash, begins a regular expression. -/
def afterRegularExpression? (t : Token) : Option Cursor :=
  match t.start.rest with
  | '/' :: cs =>
    (regularExpressionBody? false cs (t.start.offset + 1)).map fun after =>
      after.past (after.rest.takeWhile isIdentifierPart)
  | _ => none

/-- Where the text goes on if the token, a closing brace, resumes a template, and whether
the template ends there. -/
def afterTemplatePart? (t : Token) : Option (Bool × Cursor) :=
  match t.start.rest with
  | '}' :: cs => templateBody? cs (t.start.offset + 1)
  | _ => none

/-- The longest operator that begins with the token, a greater-than sign. -/
def joined (t : Token) : Token :=
  match matchFront angleOperators t.start.rest with
  | some (text, front) => { t with lexeme := .punctuator text, after := t.start.past front }
  | none => t

/-- The less-than sign alone, if the token begins with one. -/
def firstAngle? (t : Token) : Option Token :=
  match t.lexeme, t.start.rest with
  | .punctuator _, '<' :: _ =>
    some { t with lexeme := .punctuator "<", after := t.start.past ['<'] }
  | _, _ => none

end Token

/-! ### Markup -/

/-- Past the text between two tags: the place of the brace or angle that ends it, or of a
character that may not stand there. -/
def markupText : List Char → Nat → Except Nat Cursor
  | [], n => .ok ⟨[], n⟩
  | c :: cs, n =>
    if c = '{' || c = '<' then .ok ⟨c :: cs, n⟩
    else if c = '}' || c = '>' then .error n
    else markupText cs (n + c.utf8Size)

/-- The name at a token, in which hyphens may occur, and the place behind it. -/
def Token.markupName? (t : Token) : Option (String × Cursor) :=
  (word? t.start).map fun (name, _, after) =>
    let more := after.rest.takeWhile fun c => isIdentifierPart c || c = '-'
    (name ++ String.ofList more, after.past more)

/-- Past the quoted value of an attribute, in which there are no escapes. -/
def Token.afterMarkupString? (t : Token) : Option Cursor :=
  match t.start.rest with
  | quote :: cs =>
    if quote = '"' || quote = '\'' then
      let body := cs.takeWhile (· != quote)
      let after := t.start.past (quote :: body)
      if after.rest.isEmpty then none else some (after.past [quote])
    else none
  | [] => none

end Listeners.Script
