/-
Names taken apart, and verdicts on names, as JSON.
-/
import Listeners.Json.Basic
import Listeners.Verdict
namespace Listeners

def Specifier.encode (s : Specifier) : Json :=
  .object [
    ("eventName", .string s.eventName),
    ("prefix", .ofOption (fun target => .string (Target.name target)) s.target),
    ("coreName", .string s.coreName),
    ("suffix", .ofOption (fun key => .string (KeyFilter.name key)) s.key)]

def Verdict.encode : Verdict → Json
  | accepted specifier => .object [("ok", .boolean true), ("specifier", specifier.encode)]
  | rejected code message =>
    .object [("ok", .boolean false), ("code", .string code), ("message", .string message)]

end Listeners
