import ModemMux.Json.Reader
import ModemMux.Json.Schema
import ModemMux.Loopback

/-!
# The set-up of a loopback as JSON
-/

namespace ModemMux.LoopbackConfig

/-- Reads a set-up. What is missing has its default. -/
def ofJson? (document : Json) : Option LoopbackConfig :=
  match document.fields? ["max_channels", "queue_depth"] true with
  | some [maxChannels, queueDepth] => do
    let default : LoopbackConfig := {}
    let number := Json.unsigned? Json.most64
    let maxChannels ← Json.fieldOr? default.maxChannels number maxChannels
    let queueDepth ← Json.fieldOr? default.queueDepth (Json.nullable? number) queueDepth
    return { maxChannels, queueDepth }
  | _ => none

def parse? (text : String) : Option LoopbackConfig := (Json.parse? text).bind ofJson?

end ModemMux.LoopbackConfig
