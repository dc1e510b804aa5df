import ModemMux.Config
import ModemMux.Json.Reader
import ModemMux.Json.Schema

/-!
# The set-up of a root device as JSON
-/

namespace ModemMux.Config

/-- Reads a set-up. What is missing has its default. -/
def ofJson? (document : Json) : Option Config :=
  match document.fields? ["name", "max_sessions", "mtu", "mac_address"] true with
  | some [name, maxSessions, mtu, macAddress] => do
    let default : Config := {}
    let name ← Json.fieldOr? default.name Json.string? name
    let maxSessions ← Json.fieldOr? default.maxSessions (Json.unsigned? Json.most64) maxSessions
    let mtu ← Json.fieldOr? default.mtu (Json.unsigned? Json.most64) mtu
    let macAddress ← Json.fieldOr? default.macAddress (Json.nullable? Json.string?) macAddress
    return { name, maxSessions, mtu, macAddress }
  | _ => none

def parse? (text : String) : Option Config := (Json.parse? text).bind ofJson?

end ModemMux.Config
