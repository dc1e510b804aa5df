import ModemMux.Config.Document
import ModemMux.Loopback.Document
import ModemMux.Scenario

/-!
# Scenarios as JSON

A step is written as an object whose member `op` is the word for it, or as an array that starts
with that word. `Step.ofJson?` reads the fields that the word calls for.
-/

namespace ModemMux

open Json (bool? field? fieldOr? fields? unsigned?)

/-- Reads a payload: an object with one member, whose name tells how it is written. -/
def PayloadSource.ofJson? : Json → Option PayloadSource
  | .object [(key, value)] =>
    match key.string?, value.string? with
    | some "hex", some digits => some (.hex digits)
    | some "text", some content => some (.text content)
    | _, _ => none
  | _ => none

namespace Step

def tag? (value : Json) : Option Tag := (unsigned? (UInt16.size - 1) value).map UInt16.ofNat

def sessionId? (value : Json) : Option SessionId :=
  (unsigned? (UInt32.size - 1) value).map UInt32.ofNat

def ofTag? (make : Tag → Step) (fields : Json) : Option Step :=
  match fields? ["tag"] true fields with
  | some [tag] => (field? tag? tag).map make
  | _ => none

/-- Reads a step that has no fields. In an array nothing may follow its word. -/
def bare? (step : Step) : Json → Option Step
  | .array [] | .object _ => some step
  | _ => none

/-- Reads the fields of the step with a given word. -/
def ofFields? (word : String) (fields : Json) : Option Step :=
  match word with
  | "add" => ofTag? .add fields
  | "remove" => ofTag? .remove fields
  | "drain" => ofTag? .drain fields
  | "transmit" =>
    match fields? ["tag", "payload", "in_band"] true fields with
    | some [tag, payload, inBand] => do
      let tag ← field? tag? tag
      let payload ← field? PayloadSource.ofJson? payload
      let inBand ← fieldOr? false bool? inBand
      return .transmit tag payload inBand
    | _ => none
  | "receive" =>
    match fields? ["session_id", "payload", "control"] true fields with
    | some [id, payload, control] => do
      let id ← field? sessionId? id
      let payload ← field? PayloadSource.ofJson? payload
      let control ← fieldOr? false bool? control
      return .receive id payload control
    | _ => none
  | "flow_control" =>
    match fields? ["session_id", "engage"] true fields with
    | some [id, engage] => do
      let id ← field? sessionId? id
      let engage ← field? bool? engage
      return .flowControl id engage
    | _ => none
  | "mtu" =>
    match fields? ["mtu"] true fields with
    | some [unit] => (field? (unsigned? Json.most64) unit).map .mtu
    | _ => none
  | "open" => bare? .openUp fields
  | "stop" => bare? .stop fields
  | _ => none

/-- Whether a member of an object is the word of a step. -/
def isWord (member : JsonText × Json) : Bool := member.1.string? == some "op"

/-- How deep the value of a step may be nested. -/
def depth : Nat := 125

/-- Reads a step. All of it must be readable, also what no step has a use for. -/
def ofJson? (value : Json) : Option Step :=
  if value.isReadable depth then
    match value with
    | .array (word :: fields) => word.string?.bind (ofFields? · (.array fields))
    | .object members =>
      match members.filter isWord with
      | [word] => word.2.string?.bind (ofFields? · (.object (members.filter (!isWord ·))))
      | _ => none
    | _ => none
  else none

end Step

namespace Scenario

def steps? : Json → Option (List Step)
  | .array items => items.mapM Step.ofJson?
  | _ => none

/-- Reads a scenario, which has no members but its own. -/
def ofJson? (document : Json) : Option Scenario :=
  match fields? ["config", "loopback", "steps"] false document with
  | some [config, loopback, steps] => do
    let config ← fieldOr? {} Config.ofJson? config
    let loopback ← fieldOr? {} LoopbackConfig.ofJson? loopback
    let steps ← fieldOr? [] steps? steps
    return { config, loopback, steps }
  | _ => none

def parse? (text : String) : Option Scenario := (Json.parse? text).bind ofJson?

end Scenario

end ModemMux
