/-
Bindings and written options as JSON.
-/
import Listeners.Binding
import Listeners.Json.Decode
namespace Listeners

open Json (Decoder)

namespace WrittenOptions

def encode (options : WrittenOptions) : Json :=
  .object [
    ("capture", .ofOption .boolean options.capture),
    ("passive", .ofOption .boolean options.passive),
    ("enabled", .ofOption .boolean options.enabled)]

def decode : Decoder WrittenOptions :=
  .record false "struct RawListenOptions" 3 fun parts =>
    mk <$> parts.nullable 0 "capture" .flag
      <*> parts.nullable 1 "passive" .flag
      <*> parts.nullable 2 "enabled" .flag

end WrittenOptions

namespace Binding

def encode (b : Binding) : Json :=
  .object [
    ("eventName", .string b.eventName),
    ("methodName", .string b.methodName),
    ("capture", .boolean b.capture),
    ("passive", .boolean b.passive),
    ("disabled", .boolean b.disabled)]

def decode : Decoder Binding :=
  .record false "struct ListenerBinding" 5 fun parts =>
    mk <$> parts.required 0 "eventName" .text
      <*> parts.required 1 "methodName" .text
      <*> parts.required 2 "capture" .flag
      <*> parts.required 3 "passive" .flag
      <*> parts.required 4 "disabled" .flag

end Binding

end Listeners
