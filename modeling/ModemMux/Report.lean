import ModemMux.Channel.Table
import ModemMux.Device
import ModemMux.Json.Printer
import ModemMux.Text.Table

/-!
# What reports say of a device and its sessions

A report is written as one JSON document, as a table, or as lines for a reader.
-/

namespace ModemMux

inductive OutputFormat where
  | json
  | table
  | pretty
  deriving DecidableEq, Repr

namespace Report

/-- Where the schemas of reports are kept. -/
def schemaBase : String := "https://schemas.3leaps.dev/wwanmux/cli/v1"

/-- The member that names the schema of a report. -/
def schemaMember (name : String) : String × Json :=
  ("schema_id", .string s!"{schemaBase}/{name}.schema.json")

def unlines (lines : List String) : String := String.join (lines.map (· ++ "\n"))

/-- What stands in a report for a number that may be missing. -/
def natOrDash : Option Nat → String
  | some n => toString n
  | none => "-"

end Report

/-- A channel's role in JSON: a word, or the tag that the channel belongs to. -/
def ChannelRole.toJson : ChannelRole → Json
  | .flash => .string "flash"
  | .mbim => .string "mbim"
  | .control tag => .record [("control", .nat tag.toNat)]
  | .ipMux => .string "ip_mux"

/-- The members of a report that give counters. -/
def Counters.members (c : Counters) : List (String × Json) :=
  [("tx_packets", .nat c.txPackets.toNat), ("tx_bytes", .nat c.txBytes.toNat),
    ("rx_packets", .nat c.rxPackets.toNat), ("rx_bytes", .nat c.rxBytes.toNat)]

namespace Session

def toJson (s : Session) : Json :=
  .record ([("tag", .nat s.tag.toNat), ("class", .string s.tagClass.label),
    ("channel", .int s.channel.raw), ("state", .string s.state.label)] ++ s.counters.members)

def cells (s : Session) : List String :=
  [toString s.tag, s.tagClass.heading, s.channel.display, s.state.title,
    toString s.counters.txPackets, toString s.counters.txBytes,
    toString s.counters.rxPackets, toString s.counters.rxBytes]

def table (sessions : List Session) : Text.Table where
  head := ["TAG", "CLASS", "CHANNEL", "STATE", "TX PKTS", "TX BYTES", "RX PKTS", "RX BYTES"]
  rows := sessions.map cells

end Session

namespace DeviceStats

def toJson (d : DeviceStats) : Json :=
  .record ([("name", .string d.name), ("mac_address", .string d.mac.display), ("mtu", .nat d.mtu),
    ("up", .bool d.up), ("sessions", .nat d.sessions), ("capacity", .nat d.capacity)] ++
      d.totals.members)

def lines (d : DeviceStats) : List String :=
  let t := d.totals
  ["Device:",
    s!"  Name:      {d.name}",
    s!"  MAC:       {d.mac.display}",
    s!"  MTU:       {d.mtu}",
    s!"  Up:        {d.up}",
    s!"  Sessions:  {d.sessions}/{d.capacity}",
    s!"  TX:        {t.txPackets} packets, {t.txBytes} bytes",
    s!"  RX:        {t.rxPackets} packets, {t.rxBytes} bytes"]

end DeviceStats

end ModemMux
