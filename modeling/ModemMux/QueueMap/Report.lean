import ModemMux.QueueMap
import ModemMux.Report

/-!
# The queue map as a report
-/

namespace ModemMux

open Report (natOrDash)

def ChannelRole.heading : ChannelRole → String
  | .flash => "flash"
  | .mbim => "mbim"
  | .control tag => s!"control-{tag}"
  | .ipMux => "ip-mux"

namespace QueueRow

/-- A number of the channel's set-up, if there is a channel. -/
def setUp (field : ChannelConfig → Nat) (r : QueueRow) : Option Nat := r.channel.map field

def toJson (r : QueueRow) : Json :=
  let number (n? : Option Nat) : Json := .nullable (n?.map .nat)
  .record [("tag", .nat r.tag.toNat), ("class", .string r.tag.classify.label),
    ("queue", number (r.queue.map (·.toNat))),
    ("channel", .nullable (r.channel.map (·.role.toJson))),
    ("ul_pipe", number (r.setUp (·.uplinkPipe))), ("dl_pipe", number (r.setUp (·.downlinkPipe))),
    ("ul_tds", number (r.setUp (·.uplinkDescriptors))),
    ("dl_tds", number (r.setUp (·.downlinkDescriptors)))]

def cells (r : QueueRow) : List String :=
  [toString r.tag, r.tag.classify.heading, natOrDash (r.queue.map (·.toNat)),
    (r.channel.map (·.role.heading)).getD "-", natOrDash (r.setUp (·.uplinkPipe)),
    natOrDash (r.setUp (·.downlinkPipe)), natOrDash (r.setUp (·.uplinkDescriptors)),
    natOrDash (r.setUp (·.downlinkDescriptors))]

def line (r : QueueRow) : String :=
  let tag := String.ofList ((toString r.tag).toList.leftpad 3 ' ')
  let name := String.ofList (r.tag.classify.heading.toList.rightpad 7 ' ')
  let queue := natOrDash (r.queue.map (·.toNat))
  s!"  tag {tag} ({name}) -> queue {queue}"

end QueueRow

namespace QueueMap

def toJson (m : QueueMap) : Json :=
  .record [Report.schemaMember "queue-map", ("max_sessions", .nat m.maxSessions),
    ("tx_queues", .nat m.txQueues), ("queues", .array (m.rows.map (·.toJson)))]

def table (m : QueueMap) : Text.Table where
  head := ["TAG", "CLASS", "QUEUE", "CHANNEL", "UL PIPE", "DL PIPE", "UL TDS", "DL TDS"]
  rows := m.rows.map (·.cells)

def render (format : OutputFormat) (m : QueueMap) : String :=
  Report.unlines <| match format with
    | .json => [m.toJson.render]
    | .table => m.table.lines
    | .pretty =>
      s!"{m.txQueues} TX queues for {m.maxSessions} IP sessions:" :: m.rows.map (·.line)

end QueueMap

end ModemMux
