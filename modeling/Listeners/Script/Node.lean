/-
Programs as trees.

The tree of a program tells apart what the library has to: literals, object literals with
their properties, calls with their arguments, parentheses, a minus sign, and classes with
their decorators, keys and elements.  Every other construct is a `compound`: it says what
it is and has its parts in the order in which they are written.  Nothing that may hold a
class is left out, so the classes of a program are those of its tree.  Types are not left
out either: the key of a member of an object type may be computed, and a parameter of a
function type may have a value, and in both a class may stand.

Places are byte offsets, of the first character.
-/
import Listeners.Number.Double
namespace Listeners.Script

/-- The constructs of which the tree keeps the sort and the parts. -/
inductive Construct where
  | array
  | arrow
  | assignment
  | await
  | bigint
  | binary
  | cast
  | conditional
  | construction
  | function
  | importCall
  | instantiation
  | logical
  | markup
  | member
  /-- A test whether an object has a member with a private name. -/
  | membership
  | metaProperty
  | nonNull
  | optionalChain
  /-- The private name in a test for membership. -/
  | privateName
  | regularExpression
  | sequence
  | superReference
  | taggedTemplate
  | template
  | thisReference
  | unary
  | update
  | yield
  /-- The parts of a destructured variable. -/
  | pattern
  /-- An element that stands for the elements of a value. -/
  | spread
  | statement
  /-- A type, with the types and the expressions in it. -/
  | type
  deriving DecidableEq, Repr

/-- The elements of a class that have a key. -/
inductive MemberSort where
  | method
  | field
  /-- A field that is declared with its accessors. -/
  | accessor
  deriving DecidableEq, Repr

mutual

/-- An expression, a statement, a pattern or a piece of markup. -/
inductive Node where
  | null
  | boolean (value : Bool)
  | number (value : Double)
  | string (value : String)
  | identifier (name : String)
  | object (properties : List Property)
  | parenthesized (inner : Node)
  /-- A minus sign and its operand. -/
  | negation (operand : Node)
  /-- A call, with the type arguments that may stand before its arguments. -/
  | call (callee : Node) (types : List Node) (arguments : List Argument)
  | ofClass (declaration : Class)
  | compound (construct : Construct) (parts : List Node)

/-- A property of an object literal.  One that is only a name has itself for a value. -/
inductive Property where
  | entry (key : Key) (value : Node)
  | method (key : Key) (parts : List Node)
  | accessor (key : Key) (parts : List Node)
  | spread (value : Node)

/-- What a property or a class element is called. -/
inductive Key where
  | identifier (name : String)
  | string (value : String)
  | number (value : Double)
  | bigint
  | privateName (name : String)
  | computed (expression : Node)

inductive Argument where
  | mk (start : Nat) (isSpread : Bool) (value : Node)

/-- A class declaration or expression.  Its heritage is what stands between its name and
its elements: type parameters, the expression for the class that it extends, the type
arguments of that, and the interfaces that it implements. -/
inductive Class where
  | mk (start : Nat) (name : Option String) (decorators : List Decorator)
      (heritage : List Node) (elements : List Element)

inductive Decorator where
  | mk (start : Nat) (expression : Node)

inductive Element where
  | member (start : Nat) (sort : MemberSort) (decorators : List Decorator) (key : Key)
      (parts : List Node)
  | staticBlock (body : List Node)
  | indexSignature (parts : List Node)

end

instance : Inhabited Node := ⟨.null⟩

/-- A whole source. -/
structure Program where
  statements : List Node

end Listeners.Script
