import ModemMux.Device.Queues
import ModemMux.Device.Receive
import ModemMux.Device.Transmit
import ModemMux.Loopback

/-!
# A device between a modem in memory and a host

A testbed is a loopback below and a host stack above, by default a collector. On a rig a device runs
over a testbed, and the signals of the loopback reach the device if the rig is hooked up.
-/

namespace ModemMux

structure Testbed (η : Type := Collector) where
  modem : Loopback := {}
  host : η
  deriving DecidableEq, Repr, Inhabited

variable {η : Type}

instance : Transport (Testbed η) where
  openChannel tag t :=
    match t.modem.openChannel tag with
    | (answer, modem) => (answer, { t with modem })
  closeChannel tag id t :=
    match t.modem.closeChannel tag id with
    | (answer, modem) => (answer, { t with modem })
  submit tag id payload t :=
    match t.modem.submit tag id payload with
    | (answer, signals, modem) => (answer, signals, { t with modem })

instance [HostStack η] : HostStack (Testbed η) where
  attach info t :=
    match HostStack.attach info t.host with
    | (answer, host) => (answer, { t with host })
  detach t := { t with host := HostStack.detach t.host }
  deliver frame t :=
    match HostStack.deliver frame t.host with
    | (verdict, host) => (verdict, { t with host })

structure Rig (η : Type := Collector) where
  device : Device (Testbed η)
  /-- Whether the signals of the modem reach the device. -/
  hooked : Bool := true

namespace Rig

variable (rig : Rig η)

def modem : Loopback := rig.device.peers.modem

def host : η := rig.device.peers.host

def withModem (modem : Loopback) : Rig η :=
  { rig with device := { rig.device with peers := { rig.device.peers with modem } } }

def withHost (host : η) : Rig η :=
  { rig with device := { rig.device with peers := { rig.device.peers with host } } }

/-- Lets signals of the modem reach the device. -/
def heed (signals : List Signal) : Rig η :=
  if rig.hooked then { rig with device := (rig.device.heed signals).2 } else rig

def apply {α : Type} (operation : Device (Testbed η) → α × Device (Testbed η)) : α × Rig η :=
  match operation rig.device with
  | (answer, device) => (answer, { rig with device })

/-- Hands a frame down, and lets the modem's signals reach the device. -/
def transmit (memory : Memory) (frame : Frame) : Except MuxError TxStatus × Rig η :=
  match rig.device.transmit memory frame with
  | (answer, signals, device) => (answer, { rig with device }.heed signals)

/-- Takes all payloads off a channel, and lets the modem's signals reach the device. -/
def drain (channel : ChannelId) : List Bytes × Rig η :=
  match rig.modem.drain channel with
  | (payloads, signals, modem) => (payloads, (rig.withModem modem).heed signals)

/-- Takes all frames off a host that keeps them. -/
def takeFrames (rig : Rig) : List Frame × Rig :=
  match rig.host.takeFrames with
  | (frames, host) => (frames, rig.withHost host)

end Rig

end ModemMux
