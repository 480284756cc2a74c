/-
The classes of a program.

A class may stand wherever an expression or a statement may, so also in the body of a
method, the value of a field, an argument of a decorator, the heritage of another class or
the computed key of a member of a type.
The classes of a tree are listed in the order in which they begin, hence each before those
inside of it.
-/
import Listeners.Script.Node
namespace Listeners.Script

mutual

/-- The classes in a node. -/
def Node.classes : Node → List Class
  | .object properties => classesOfProperties properties
  | .parenthesized inner => inner.classes
  | .negation operand => operand.classes
  | .call callee types arguments =>
    callee.classes ++ classesOfNodes types ++ classesOfArguments arguments
  | .ofClass declaration => declaration.classes
  | .compound _ parts => classesOfNodes parts
  | .null | .boolean _ | .number _ | .string _ | .identifier _ => []

def classesOfNodes : List Node → List Class
  | [] => []
  | node :: nodes => node.classes ++ classesOfNodes nodes

def Property.classes : Property → List Class
  | .entry key value => key.classes ++ value.classes
  | .method key parts | .accessor key parts => key.classes ++ classesOfNodes parts
  | .spread value => value.classes

def classesOfProperties : List Property → List Class
  | [] => []
  | property :: properties => property.classes ++ classesOfProperties properties

def Key.classes : Key → List Class
  | .computed expression => expression.classes
  | .identifier _ | .string _ | .number _ | .bigint | .privateName _ => []

def Argument.classes : Argument → List Class
  | .mk _ _ value => value.classes

def classesOfArguments : List Argument → List Class
  | [] => []
  | argument :: arguments => argument.classes ++ classesOfArguments arguments

/-- The class itself and the classes in it. -/
def Class.classes : Class → List Class
  | .mk start name decorators heritage elements =>
    .mk start name decorators heritage elements ::
      (classesOfDecorators decorators ++ classesOfNodes heritage ++ classesOfElements elements)

def Decorator.classes : Decorator → List Class
  | .mk _ expression => expression.classes

def classesOfDecorators : List Decorator → List Class
  | [] => []
  | decorator :: decorators => decorator.classes ++ classesOfDecorators decorators

def Element.classes : Element → List Class
  | .member _ _ decorators key parts =>
    classesOfDecorators decorators ++ key.classes ++ classesOfNodes parts
  | .staticBlock parts | .indexSignature parts => classesOfNodes parts

def classesOfElements : List Element → List Class
  | [] => []
  | element :: elements => element.classes ++ classesOfElements elements

end

/-- The classes of a program. -/
def Program.classes (program : Program) : List Class := classesOfNodes program.statements

end Listeners.Script
