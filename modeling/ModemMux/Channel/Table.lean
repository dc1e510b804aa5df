import ModemMux.Tag

/-!
# The modem's channels

A fixed table says what the modem's channels are for and how they are set up. The first is the
flash channel, five control tags have a channel of their own, and all other sessions share the
last, the IP multiplexer.
-/

namespace ModemMux

inductive ChannelRole where
  | flash
  | mbim
  /-- The control session with this tag. -/
  | control (tag : Tag)
  /-- Every IP session, and every control session without a channel of its own. -/
  | ipMux
  deriving DecidableEq, Repr

structure ChannelConfig where
  role : ChannelRole
  /-- The pipe from the host to the modem. -/
  uplinkPipe : Nat
  /-- The pipe from the modem to the host. -/
  downlinkPipe : Nat
  /-- The number of transfer descriptors towards the modem: how many payloads can wait. -/
  uplinkDescriptors : Nat
  /-- The number of transfer descriptors towards the host. -/
  downlinkDescriptors : Nat
  /-- The size of a buffer for the downlink. -/
  downlinkBuffer : Nat
  deriving DecidableEq, Repr

namespace ChannelConfig

/-- How long the modem gathers transfers before it interrupts the host, in microseconds. -/
def backoff (c : ChannelConfig) : Nat :=
  match c.role with
  | .ipMux => 1000
  | .flash | .mbim | .control _ => 0

def flash : ChannelConfig := ⟨.flash, 0, 1, 6, 3, 16 * 1024⟩

/-- The channel of the broadband interface model. -/
def mbim : ChannelConfig := ⟨.mbim, 12, 13, 4, 4, 32 * 1024⟩

/-- The channels that belong to one control tag each: remote procedure calls, two command
terminals, the loopback and the trace. -/
def controls : List ChannelConfig :=
  [⟨.control 257, 2, 3, 4, 4, 32 * 1024⟩, ⟨.control 258, 4, 5, 4, 4, 2 * 1024⟩,
    ⟨.control 259, 8, 9, 4, 4, 2 * 1024⟩, ⟨.control 260, 10, 11, 11, 11, 1024 * 1024⟩,
    ⟨.control 261, 6, 7, 32, 32, 8 * 1024⟩]

/-- The channel that sessions share. -/
def ipMux : ChannelConfig := ⟨.ipMux, 0, 1, 800, 1200, 2 * 1024⟩

/-- Every channel, in the modem's order. -/
def table : List ChannelConfig := [flash, mbim] ++ controls ++ [ipMux]

/-- The number of channels the modem has besides those of IP sessions. -/
def reserved : Nat := table.length

/-- The channel that serves a tag: its own, else the shared one. -/
def ofTag (tag : Tag) : ChannelConfig :=
  (table.find? fun c ↦ c.role == .control tag).getD ipMux

end ChannelConfig

end ModemMux
