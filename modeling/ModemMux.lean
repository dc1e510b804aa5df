import ModemMux.Bench
import ModemMux.Main
import ModemMux.Proofs.Registry.Ledger
import ModemMux.Proofs.Rig.Backpressure
import ModemMux.Proofs.Rig.Uplink
import ModemMux.Proofs.Counters
import ModemMux.Proofs.Registry.Evolution
import ModemMux.Proofs.Device.Life
import ModemMux.Proofs.Device.Conservation
import ModemMux.Proofs.Device.Echo
import ModemMux.Proofs.Rig.Resubmission
import ModemMux.Proofs.Registry.Perspective
import ModemMux.Proofs.Rig.Perspective
import ModemMux.Proofs.Device.Lifecycle
import ModemMux.Proofs.Device.Limits
import ModemMux.Proofs.Rig.Isolation
import ModemMux.Proofs.Simulation.Failure
import ModemMux.Proofs.Simulation.Strictness
import ModemMux.Proofs.Loopback.Waiting
import ModemMux.Proofs.Simulation.Steps
import ModemMux.Proofs.Simulation.Accounting
import ModemMux.Proofs.Soak.Interleaving
import ModemMux.Proofs.Device.Settings
import ModemMux.Proofs.Device.Calls
import ModemMux.Proofs.Device.Decision
import ModemMux.Proofs.Device.Reception
import ModemMux.Proofs.Device.Tagging
import ModemMux.Proofs.Frame.Header
import ModemMux.Proofs.Registry.Admission
import ModemMux.Proofs.Device.Flow
import ModemMux.Proofs.Device.Stopping
import ModemMux.Proofs.Device.Collection
import ModemMux.Proofs.Loopback.Allocation
import ModemMux.Proofs.Frame.Address
import ModemMux.Proofs.Text.Blank
import ModemMux.Proofs.Frame.Alignment
import ModemMux.Proofs.Soak.Timeout
import ModemMux.Proofs.Simulation.Payload
