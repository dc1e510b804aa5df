import ModemMux.CommandLine

/-!
# The executable

Here is what the program does outside itself: it looks at the environment, reads the file that its
arguments name, draws an address, prints and ends.
-/

namespace ModemMux

def ReadFault.ofError : IO.Error → ReadFault
  | .noFileOrDirectory .. => ⟨.notFound, "No such file or directory (os error 2)"⟩
  | .permissionDenied .. => ⟨.permissionDenied, "Permission denied (os error 13)"⟩
  | .inappropriateType .. => ⟨.other, "Is a directory (os error 21)"⟩
  | .timeExpired .. => ⟨.timedOut, "Connection timed out (os error 110)"⟩
  | .resourceBusy .. => ⟨.wouldBlock, "Resource temporarily unavailable (os error 11)"⟩
  | e => ⟨.other, e.toString⟩

def readContents (path : String) : IO (Except ReadFault ByteArray) := do
  try
    return .ok (← IO.FS.readBinFile path)
  catch e =>
    return .error (.ofError e)

/-- An address that no other device is likely to have. -/
def drawMac : IO Mac := do
  let octets ← IO.getRandomBytes 6
  return ((Mac.ofOctets? octets.toList).getD .zero).toLocal

def readEnvironment : IO Environment := do
  let logLevel ← IO.getEnv Command.logLevelVariable
  let maxSessions ← IO.getEnv Command.maxSessionsVariable
  return fun name ↦
    if name = Command.logLevelVariable then logLevel
    else if name = Command.maxSessionsVariable then maxSessions
    else none

end ModemMux

open ModemMux

def main (arguments : List String) : IO UInt32 := do
  let env ← readEnvironment
  let contents ← match CommandLine.file? env arguments with
    | some path => readContents path
    | none => pure (.ok .empty)
  let transcript := CommandLine.run env arguments (← drawMac) contents
  IO.print transcript.output
  IO.eprint transcript.errors
  return UInt32.ofNat transcript.code.toNat
