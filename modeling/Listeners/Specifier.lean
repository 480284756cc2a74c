/-
Listener names: `[target:]event[.key]`.

A name says which event to listen to, and may say on what and for which key.  At most one
colon and at most one period are allowed, a period before the colon not counted.  Blanks
around the parts and the case of their letters do not matter, but the name is kept as it
was written, for it is what the listener is registered under.

A name can be rejected for one reason only: the reasons are looked for in the order of the
constructors of `Rejection`, except that a bad target is noticed before the periods of the
rest are counted.
-/
import Listeners.Rule
import Listeners.Text.Blank
import Listeners.Text.Lowercase
namespace Listeners

/-- What a listener may be attached to instead of its own element. -/
inductive Target where
  | child
  | parent
  | body
  | document
  | window
  deriving DecidableEq, Repr

namespace Target

def all : List Target := [child, parent, body, document, window]

def name : Target → String
  | child => "child"
  | parent => "parent"
  | body => "body"
  | document => "document"
  | window => "window"

/-- The target with a name, which has to be given in lowercase and without blanks. -/
def ofName? (name : String) : Option Target := all.find? (·.name == name)

theorem mem_all (target : Target) : target ∈ all := by cases target <;> decide

@[simp] theorem ofName?_name (target : Target) : ofName? target.name = some target := by
  cases target <;> decide

end Target

/-- The key that a listener for keyboard events may wait for. -/
inductive KeyFilter where
  | enter
  | escape
  | space
  | tab
  | up
  | right
  | down
  | left
  deriving DecidableEq, Repr

namespace KeyFilter

def all : List KeyFilter := [enter, escape, space, tab, up, right, down, left]

def name : KeyFilter → String
  | enter => "enter"
  | escape => "escape"
  | space => "space"
  | tab => "tab"
  | up => "up"
  | right => "right"
  | down => "down"
  | left => "left"

/-- The key with a name, which has to be given in lowercase and without blanks. -/
def ofName? (name : String) : Option KeyFilter := all.find? (·.name == name)

theorem mem_all (key : KeyFilter) : key ∈ all := by cases key <;> decide

@[simp] theorem ofName?_name (key : KeyFilter) : ofName? key.name = some key := by
  cases key <;> decide

end KeyFilter

/-- A listener name, taken apart. -/
structure Specifier where
  /-- The name as it was written, without blanks around it. -/
  eventName : String
  target : Option Target
  /-- The event in lowercase, without target and key. -/
  coreName : String
  key : Option KeyFilter
  deriving DecidableEq, Repr

/-- Why a name is no listener name.  The token is the name without blanks around it. -/
inductive Rejection where
  | severalColons (token : String)
  | severalPeriods (token : String)
  | unknownTarget (target token : String)
  | unknownKey (key token : String)
  deriving DecidableEq, Repr

namespace Rejection

def token : Rejection → String
  | severalColons token | severalPeriods token | unknownTarget _ token | unknownKey _ token =>
    token

/-- The part of the name that is to blame, if it is a single one. -/
def part? : Rejection → Option String
  | unknownTarget part _ | unknownKey part _ => some part
  | severalColons _ | severalPeriods _ => none

def rule : Rejection → Rule
  | severalColons _ => .colons
  | severalPeriods _ => .periods
  | unknownTarget .. => .target
  | unknownKey .. => .key

def message : Rejection → String
  | severalColons token => "@Listen \"" ++ token ++ "\" is invalid: at most one colon allowed"
  | severalPeriods token => "@Listen \"" ++ token ++ "\" is invalid: at most one period allowed"
  | unknownTarget target token =>
    "invalid @Listen prefix \"" ++ target ++ "\" for \"" ++ token ++ "\""
  | unknownKey key token => "invalid @Listen suffix \"" ++ key ++ "\" for \"" ++ token ++ "\""

end Rejection

namespace Specifier

/-- A part of a name in the form in which it is compared. -/
def canonical (part : String) : String := Text.lowercase (Text.trim part)

/-- The part of a listener name behind its target. -/
def parseEvent (token : String) (target : Option Target) (rest : String) :
    Except Rejection Specifier :=
  match Text.split '.' rest with
  | [event] => .ok ⟨token, target, canonical event, none⟩
  | [event, key] =>
    match KeyFilter.ofName? (canonical key) with
    | some filter => .ok ⟨token, target, canonical event, some filter⟩
    | none => .error (.unknownKey (canonical key) token)
  | _ => .error (.severalPeriods token)

/-- Takes a listener name apart. -/
def parse (name : String) : Except Rejection Specifier :=
  let token := Text.trim name
  match Text.split ':' token with
  | [rest] => parseEvent token none rest
  | [target, rest] =>
    match Target.ofName? (canonical target) with
    | some target => parseEvent token (some target) rest
    | none => .error (.unknownTarget (canonical target) token)
  | _ => .error (.severalColons token)

/-- The name that says the same in its shortest form. -/
def render (s : Specifier) : String :=
  (s.target.elim "" fun target => target.name ++ ":") ++ s.coreName ++
    (s.key.elim "" fun key => "." ++ key.name)

end Specifier

end Listeners
