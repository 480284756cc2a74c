/-
Sources as JSON.
-/
import Listeners.Json.Decode
import Listeners.Source
namespace Listeners

open Json (Decoder)

namespace Source

def decode : Decoder Source :=
  .record false "struct SourceUnit" 2 fun parts =>
    mk <$> parts.required 0 "filePath" .text <*> parts.required 1 "source" .text

end Source

end Listeners
