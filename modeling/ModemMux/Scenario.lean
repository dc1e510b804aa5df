import ModemMux.Config
import ModemMux.Loopback
import ModemMux.Text.Blank
import ModemMux.Text.Hex

/-!
# Scenarios

A scenario is a device, a modem and the steps to be taken with them. The payload of a step is given
as text, or in hexadecimal digits with blanks anywhere among them.
-/

namespace ModemMux

/-- A payload as a scenario gives it. -/
inductive PayloadSource where
  /-- Hexadecimal digits; blanks do not count. -/
  | hex (digits : String)
  /-- Text, to be sent in UTF-8. -/
  | text (content : String)
  deriving DecidableEq, Repr

def PayloadSource.bytes : PayloadSource → Except Hex.Fault Bytes
  | .hex digits => Hex.decode (Text.removeBlanks digits.toList)
  | .text content => .ok (Text.utf8 content.toList)

inductive Step where
  | add (tag : Tag)
  | remove (tag : Tag)
  /-- Hands down a frame whose tag is in band or out of band. -/
  | transmit (tag : Tag) (payload : PayloadSource) (inBand : Bool)
  /-- Hands up a payload, marked as a control payload or not. -/
  | receive (id : SessionId) (payload : PayloadSource) (control : Bool)
  | flowControl (id : SessionId) (engage : Bool)
  /-- Completes every payload that waits on the channel of a session. -/
  | drain (tag : Tag)
  | mtu (mtu : Nat)
  | openUp
  | stop
  deriving DecidableEq, Repr

def Step.label : Step → String
  | .add _ => "add"
  | .remove _ => "remove"
  | .transmit _ _ _ => "transmit"
  | .receive _ _ _ => "receive"
  | .flowControl _ _ => "flow_control"
  | .drain _ => "drain"
  | .mtu _ => "mtu"
  | .openUp => "open"
  | .stop => "stop"

structure Scenario where
  config : Config := {}
  loopback : LoopbackConfig := {}
  steps : List Step := []
  deriving DecidableEq, Repr

end ModemMux
