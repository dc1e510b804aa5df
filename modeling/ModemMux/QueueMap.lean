import ModemMux.Channel.Table
import ModemMux.Device.Queues

/-!
# The queue map

For each tag the map shows the transmit queue and the channel that serve it.
-/

namespace ModemMux

/-- What serves a tag. -/
structure QueueRow where
  tag : Tag
  /-- The transmit queue, if one carries the tag. -/
  queue : Option UInt16
  /-- The channel, if the tag is a session's. -/
  channel : Option ChannelConfig
  deriving DecidableEq, Repr

structure QueueMap where
  maxSessions : Nat
  rows : List QueueRow
  deriving DecidableEq, Repr

namespace QueueMap

/-- What serves a tag among so many IP sessions. -/
def row (maxSessions : Nat) (tag : Tag) : QueueRow where
  tag := tag
  queue := (some (selectQueue (some tag) maxSessions)).filter (· != invalidQueue)
  channel := if tag.isSession then some (.ofTag tag) else none

/-- The tags that have a channel of their own. -/
def controlTags : List Tag :=
  ChannelConfig.table.filterMap fun c ↦
    match c.role with
    | .control tag => some tag
    | .flash | .mbim | .ipMux => none

/-- The tags that a map shows unless others are asked for: that of the root device, those of the
IP sessions, and those that have a channel of their own. -/
def usualTags (maxSessions : Nat) : List Tag :=
  0 :: ((List.range (min maxSessions Tag.dataEnd)).map fun n ↦ UInt16.ofNat (n + 1)) ++ controlTags

def ofTags (maxSessions : Nat) (tags : List Tag) : QueueMap :=
  ⟨maxSessions, tags.map (row maxSessions)⟩

def txQueues (m : QueueMap) : Nat := 1 + m.maxSessions

end QueueMap

end ModemMux
