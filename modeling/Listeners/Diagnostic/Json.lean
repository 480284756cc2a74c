/-
Diagnostics as JSON.

The line and the column of a diagnostic are fields of its own.
-/
import Listeners.Diagnostic
import Listeners.Json.Decode
namespace Listeners

open Json (Decoder Outcome)

namespace Severity

def name : Severity → String
  | recoverable => "recoverable"
  | fatal => "fatal"

def encode (severity : Severity) : Json := .string severity.name

def decode : Decoder Severity := fun json => do
  let name ← Decoder.variant [recoverable.name, fatal.name] json
  .ok (if name = fatal.name then fatal else recoverable)

end Severity

namespace Diagnostic

def encode (d : Diagnostic) : Json :=
  .object [
    ("code", .string d.code),
    ("severity", d.severity.encode),
    ("message", .string d.message),
    ("file", .string d.file),
    ("line", .integer d.location.line.toNat),
    ("column", .integer d.location.column.toNat),
    ("context", .ofOption .string d.context),
    ("hints", .array (d.hints.map .string))]

def decode : Decoder Diagnostic :=
  .record false "struct Diagnostic" 8 fun parts =>
    let location : Outcome Location :=
      Location.mk <$> parts.required 4 "line" .word <*> parts.required 5 "column" .word
    mk <$> parts.required 0 "code" .text
      <*> parts.required 1 "severity" Severity.decode
      <*> parts.required 2 "message" .text
      <*> parts.required 3 "file" .text
      <*> location
      <*> parts.nullable 6 "context" .text
      <*> parts.required 7 "hints" (.items .text)

end Diagnostic

end Listeners
