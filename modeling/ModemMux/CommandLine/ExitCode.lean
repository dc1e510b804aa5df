import ModemMux.Error

/-!
# How the program ends

Every error has an exit code by its kind of cause: the request, the data, the modem, the state of
the device, or the system.
-/

namespace ModemMux

inductive ExitCode where
  | success
  /-- The device is in no state for the request, or a soak met something unexpected. -/
  | failure
  /-- The arguments are none that the program has. -/
  | misuse
  /-- The modem failed. -/
  | transport
  /-- The data is malformed. -/
  | invalidData
  /-- The request is one that is never granted. -/
  | usage
  /-- Time ran out. -/
  | timeout
  /-- The system failed. -/
  | internal
  deriving DecidableEq, Repr

/-- The number that the system is given. -/
def ExitCode.toNat : ExitCode → Nat
  | .success => 0
  | .failure => 1
  | .misuse => 2
  | .transport => 3
  | .invalidData => 60
  | .usage => 64
  | .timeout => 124
  | .internal => 125

def MuxError.exitCode : MuxError → ExitCode
  | .invalidTag _ | .invalidSessionId _ | .invalidConfig _ | .invalidAddress _
  | .outOfRange _ _ _ => .usage
  | .protocolMismatch _ _ _ | .headerError _ | .malformedFrame _ => .invalidData
  | .channelOpenFailed _ _ | .channelCloseFailed _ _ _ | .io _ _ => .transport
  | .unknownSession _ | .sessionExists _ | .capacityExceeded _ | .invalidChannel _
  | .deviceBusy _ => .failure
  | .outOfMemory _ | .hostRejected _ => .internal

/-- No error is a success. -/
theorem MuxError.exitCode_ne_success (e : MuxError) : e.exitCode ≠ .success := by
  cases e <;> nofun

/-- An error that ends the program. -/
structure Failure where
  code : ExitCode
  message : String
  deriving DecidableEq, Repr

def MuxError.failure (context : String) (e : MuxError) : Failure :=
  ⟨e.exitCode, s!"{context}: {e.message}"⟩

inductive ReadCause where
  | notFound
  | permissionDenied
  | timedOut
  | wouldBlock
  | invalidData
  | other
  deriving DecidableEq, Repr

def ReadCause.exitCode : ReadCause → ExitCode
  | .notFound | .permissionDenied => .usage
  | .timedOut | .wouldBlock => .timeout
  | .invalidData => .invalidData
  | .other => .internal

/-- A file that could not be read, in the system's words. -/
structure ReadFault where
  cause : ReadCause
  message : String
  deriving DecidableEq, Repr

def ReadFault.failure (context : String) (fault : ReadFault) : Failure :=
  ⟨fault.cause.exitCode, s!"{context}: {fault.message}"⟩

end ModemMux
