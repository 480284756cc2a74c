/-
Views of the classes of a program.

A decorator is an annotation if it is a name or a call of a name; decorators of other forms
and those of the class itself are not seen.  A member has a name if it is written as an
identifier or as a string.  A property of an object literal has a key if it is written as
an identifier, a string or a number, and then the number's shortest decimal text is the
key.

Parentheses around the value of a property make no difference, and a minus sign directly
before a number makes a number.  Nothing else is computed.
-/
import Listeners.Number.Shortest
import Listeners.Script.Classes
import Listeners.View
namespace Listeners.Script

/-- The description of a construct as an expression. -/
def Construct.kind : Construct → String
  | .construction => "call expression"
  | .arrow | .function => "function"
  | .array => "array"
  | .template | .taggedTemplate => "template literal"
  | .unary => "unary expression"
  | .binary | .logical => "binary expression"
  | .conditional => "conditional expression"
  | .member => "member expression"
  | .regularExpression => "regular expression"
  | .bigint => "bigint"
  | _ => "expression"

/-- The description of an expression that is not seen through. -/
def Node.kind : Node → String
  | .identifier _ => "identifier"
  | .call .. => "call expression"
  | .object _ => "object"
  | .negation _ => "unary expression"
  | .compound construct _ => construct.kind
  | _ => "expression"

/-- The text of the key of a property, if it is written out. -/
def Key.text? : Key → Option String
  | .identifier name => some name
  | .string value => some value
  | .number value => some value.toText
  | .bigint | .privateName _ | .computed _ => none

/-- The name of a member, if it is written out. -/
def Key.memberName? : Key → Option String
  | .identifier name => some name
  | .string value => some value
  | .number _ | .bigint | .privateName _ | .computed _ => none

mutual

/-- The value of a property. -/
def Node.literal : Node → View.Literal
  | .null => .null
  | .boolean value => .boolean value
  | .number value => .number value
  | .string value => .string value
  | .object properties => .object (viewProperties properties)
  | .parenthesized inner => inner.literal
  | .negation (.number value) => .number value.neg
  | .negation operand => .other (Node.negation operand).kind
  | .identifier name => .other (Node.identifier name).kind
  | .call callee types arguments => .other (Node.call callee types arguments).kind
  | .ofClass declaration => .other (Node.ofClass declaration).kind
  | .compound construct parts => .other (Node.compound construct parts).kind

def Property.view : Property → View.Property
  | .spread _ => .unsupported "spread property"
  | .accessor .. => .unsupported "accessor"
  | .method .. => .unsupported "method"
  | .entry key value =>
    match key.text? with
    | some text => .entry text value.literal
    | none => .unsupported "computed key"

/-- The properties of an object literal. -/
def viewProperties : List Property → List View.Property
  | [] => []
  | property :: properties => property.view :: viewProperties properties

end

/-- An argument of an annotation in a source. -/
def Argument.view (source : List Char) : Argument → View.Argument
  | .mk start true _ => .other "spread element" (.ofOffset source start)
  | .mk start false (.string value) => .string value (.ofOffset source start)
  | .mk start false (.object properties) =>
    .object (viewProperties properties) (.ofOffset source start)
  | .mk start false value => .other value.kind (.ofOffset source start)

/-- A decorator as an annotation, if it is one. -/
def Decorator.view? (source : List Char) : Decorator → Option View.Annotation
  | .mk start (.identifier name) => some ⟨name, .ofOffset source start, []⟩
  | .mk start (.call (.identifier name) _ arguments) =>
    some ⟨name, .ofOffset source start, arguments.map (Argument.view source)⟩
  | _ => none

/-- An element of a class as a member, if it is one. -/
def Element.view? (source : List Char) : Element → Option View.Member
  | .member start _ decorators key _ =>
    some ⟨key.memberName?, .ofOffset source start,
      decorators.filterMap (Decorator.view? source)⟩
  | .staticBlock _ | .indexSignature _ => none

/-- A class of a source. -/
def Class.view (source : List Char) : Class → View
  | .mk start name _ _ elements =>
    ⟨name, .ofOffset source start, elements.filterMap (Element.view? source)⟩

/-- All classes of a program. -/
def Program.views (source : List Char) (program : Program) : List View :=
  program.classes.map (Class.view source)

end Listeners.Script
