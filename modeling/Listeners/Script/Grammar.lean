/-
The grammar of scripts.

`rule` says how each goal is read, given a reading of every goal.  `read` supplies the
rules with themselves, to a depth that no source of the given length exceeds: a goal takes
a token before it asks for another more than a few times.

`parse` is a parser for all of it, in every dialect, that stops at the first fault.  It
checks less than the language demands: what matters is where the classes of a program are.
-/
import Listeners.Script.Grammar.Markup
import Listeners.Script.Grammar.Statement
import Listeners.Script.Parser
namespace Listeners.Script

namespace Grammar

/-- How each goal is read. -/
def rule (rules : Rules) : Rules
  | .expression => expression rules
  | .assignment arrowTypes => assignment rules arrowTypes
  | .binary level => binary rules level
  | .unary => unary rules
  | .leftHand => leftHand rules
  | .statement => statement rules
  | .block => block rules
  | .type => type rules
  | .pattern => pattern rules
  | .decorators => decorators rules
  | .classFrom start found => classFrom rules start found
  | .functionFrom isAsync isGenerator => functionFrom rules isAsync isGenerator
  | .markup => markup rules

/-- A reading of every goal, to a depth of nested constructs. -/
def rulesToDepth : Nat → Rules
  | 0, _ => Reading.refuse
  | depth + 1, goal => rule (rulesToDepth depth) goal

/-- All the statements of a source. -/
def program (rules : Rules) : Reading Program := do
  let statements ← Reading.many do
    if (← Reading.current).isFinish then return none else return some (← rules.statement)
  match (← get).defaults with
  | [] => return ⟨statements⟩
  | offset :: _ => Reading.failAt offset

end Grammar

/-- The tree of a source, or the byte offset at which it cannot be read further. -/
def Program.ofSource (dialect : Dialect) (source : List Char) : Except Nat Program :=
  let size := source.length
  let context : Context :=
    { dialect, bound := size + 1, inOperator := true, awaiting := true, yielding := false
      decorating := false, inferring := false }
  let place : Place :=
    { token := (Cursor.ofSource source).token, previousEnd := 0, defaults := [] }
  let rules := Grammar.rulesToDepth (12 * size + 100)
  ((Grammar.program rules).run context).run place |>.map (·.1)

/-- The parser that reads by this grammar. -/
def parse : Parser := fun path source =>
  match Program.ofSource (.ofPath path) source with
  | .ok program => ⟨program, []⟩
  | .error offset => ⟨⟨[]⟩, [⟨"Unexpected token", [offset]⟩]⟩

end Listeners.Script
