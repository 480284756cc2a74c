/-
The rules that listener annotations are held to.

Every diagnostic names a rule by its code, and the text of the rule is the first hint that
it gives.  Codes are texts, because a diagnostic may come from elsewhere; one that belongs
to no rule here gives a hint that says so.
-/
namespace Listeners

inductive Rule where
  /-- Options are read without running the program. -/
  | options
  | colons
  | periods
  | target
  | key
  | parsable
  | readable
  deriving DecidableEq, Repr

namespace Rule

def all : List Rule := [options, colons, periods, target, key, parsable, readable]

def code : Rule → String
  | options => "L-ERR-OPTIONS"
  | colons => "L-ERR-COLON"
  | periods => "L-ERR-PERIOD"
  | target => "L-ERR-PREFIX"
  | key => "L-ERR-SUFFIX"
  | parsable => "L-ERR-SYNTAX"
  | readable => "L-ERR-IO"

def text : Rule → String
  | options =>
    "Listener options must be a flat object of boolean, number, string or null literals."
  | colons => "A listener name may carry at most one `target:` prefix."
  | periods => "A listener name may carry at most one `.key` suffix."
  | target => "Listener prefixes are: child, parent, body, document, window."
  | key => "Listener suffixes are: enter, escape, space, tab, up, right, down, left."
  | parsable => "Listener metadata is only extracted from parsable sources."
  | readable => "Listener metadata is only extracted from readable sources."

/-- The rule with a given code. -/
def ofCode? (code : String) : Option Rule := all.find? (·.code == code)

/-- What a diagnostic with a given code hints at. -/
def hint (code : String) : String :=
  match ofCode? code with
  | some rule => rule.text
  | none => "Unknown rule."

theorem mem_all (rule : Rule) : rule ∈ all := by cases rule <;> decide

/-- Different rules have different codes. -/
theorem code_injective {r s : Rule} (h : r.code = s.code) : r = s := by
  cases r <;> cases s <;> first | rfl | exact absurd h (by decide)

@[simp] theorem hint_code (rule : Rule) : hint rule.code = rule.text := by
  cases rule <;> decide

end Rule

end Listeners
