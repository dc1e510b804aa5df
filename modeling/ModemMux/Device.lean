import ModemMux.Channel.Table
import ModemMux.Config
import ModemMux.Host
import ModemMux.Registry.Membership

/-!
# The root device

One Ethernet device carries all sessions. It stands between a transport below and a host stack
above; the state of both is its `peers`. Here are its parts, its life from `init` to `shutdown` and
what an administrator asks of it; traffic is in the modules below this one.
-/

namespace ModemMux

/-- A root device among its peers. -/
structure Device (ω : Type) where
  name : String
  maxSessions : Nat
  mtu : Nat
  mac : Mac
  up : Bool
  /-- Whether the host stack has the device. -/
  registered : Bool
  registry : Registry
  /-- The transport below and the host stack above. -/
  peers : ω

structure DeviceStats where
  name : String
  mac : Mac
  mtu : Nat
  up : Bool
  sessions : Nat
  capacity : Nat
  totals : Counters
  deriving DecidableEq, Repr

namespace Device

variable {ω : Type}

def txQueueCount (d : Device ω) : Nat := 1 + d.maxSessions

def info (d : Device ω) : DeviceInfo := ⟨d.name, d.mac, d.mtu, d.txQueueCount⟩

def stats (d : Device ω) : DeviceStats where
  name := d.name
  mac := d.mac
  mtu := d.mtu
  up := d.up
  sessions := d.registry.length
  capacity := d.registry.capacity
  totals := d.registry.totals

/-! ## Life -/

/-- A device that no host has yet: down and without sessions. There is room for the IP sessions
and for the channels the modem has besides. -/
def blank (config : Config) (mac : Mac) (peers : ω) : Device ω where
  name := config.name
  maxSessions := config.maxSessions
  mtu := config.mtu
  mac := mac
  up := false
  registered := false
  registry := .empty (config.maxSessions + ChannelConfig.reserved)
  peers := peers

/-- Sets up a device and attaches it to the host stack. Without an address of its own it gets
`spare`. A failure comes with the peers as they were left. -/
def init [HostStack ω] (config : Config) (spare : Mac) (peers : ω) :
    Except (MuxError × ω) (Device ω) :=
  match config.validate with
  | .error e => .error (e, peers)
  | .ok () =>
    match config.address? with
    | .error e => .error (e, peers)
    | .ok mac =>
      let d := blank config (mac.getD spare) peers
      match HostStack.attach d.info peers with
      | (.error reason, peers) => .error (.hostRejected reason, peers)
      | (.ok (), peers) => .ok { d with registered := true, peers := peers }

/-- Ends the life of a device: it goes down, leaves the host stack and closes its channels. A
device that has ended already is left alone. -/
def shutdown [Transport ω] [HostStack ω] (d : Device ω) : Device ω :=
  if d.registered then
    match d.registry.removeAll (HostStack.detach d.peers) with
    | (_, registry, peers) => { d with registered := false, up := false, registry, peers }
  else d

/-- Gives the device up: what it leaves undone is done. -/
def drop [Transport ω] [HostStack ω] (d : Device ω) : Device ω := d.shutdown

/-- Ends the device at its owner's wish, after which it is given up. -/
def deinit [Transport ω] [HostStack ω] (d : Device ω) : Device ω := d.shutdown.drop

/-! ## Administration -/

def addSession [Transport ω] (tag : Tag) (d : Device ω) : Except MuxError ChannelId × Device ω :=
  match d.registry.add tag d.peers with
  | (answer, registry, peers) => (answer, { d with registry, peers })

def removeSession [Transport ω] (tag : Tag) (d : Device ω) : Except MuxError Unit × Device ω :=
  match d.registry.remove tag d.peers with
  | (answer, registry, peers) => (answer, { d with registry, peers })

/-- Removes every session that can be removed, and says how many went. -/
def removeSessions [Transport ω] (d : Device ω) : Nat × Device ω :=
  match d.registry.removeAll d.peers with
  | (removed, registry, peers) => (removed, { d with registry, peers })

def changeMtu (mtu : Nat) (d : Device ω) : Except MuxError Unit × Device ω :=
  match Config.checkMtu mtu with
  | .error e => (.error e, d)
  | .ok () => (.ok (), { d with mtu })

/-- Changes the address. The address of zeros takes it away, at any time; another address is
refused while the device is up, and a group address always. -/
def setMac (mac : Mac) (d : Device ω) : Except MuxError Unit × Device ω :=
  if mac.isZero = false ∧ d.up then (.error (.deviceBusy d.name), d)
  else if mac.isMulticast then (.error (.invalidAddress mac), d)
  else (.ok (), { d with mac })

/-- Starts all transmit queues. -/
def openUp (d : Device ω) : Except MuxError Unit × Device ω :=
  if d.mac.isValidUnicast then (.ok (), { d with up := true })
  else (.error (.invalidAddress d.mac), d)

/-- Stops all transmit queues. -/
def stop (d : Device ω) : Device ω := { d with up := false }

/-- Counts one packet for the session with an id and for the device. -/
def updateStats (id : SessionId) (bytes : UInt64) (direction : Direction) (d : Device ω) :
    Except MuxError Unit × Device ω :=
  match Tag.ofSession? id with
  | none => (.error (.invalidSessionId id), d)
  | some tag =>
    match d.registry.count tag bytes direction with
    | (answer, registry) => (answer, { d with registry })

end Device

end ModemMux
