import ModemMux.CommandLine.Command
import ModemMux.CommandLine.ExitCode
import ModemMux.QueueMap.Report
import ModemMux.Scenario.Document
import ModemMux.Simulation.Report
import ModemMux.Soak.Report

/-!
# The program

`CommandLine.run` is the program: from the arguments, the environment, the file that the command
names and an address for a device that has none, to what is printed and the exit code.
-/

namespace ModemMux

/-- What the program prints, and how it ends. -/
structure Transcript where
  code : ExitCode
  output : String := ""
  /-- The lines for the error stream. -/
  errors : String := ""
  deriving DecidableEq, Repr

namespace Transcript

def ofFailure (failure : Failure) : Transcript where
  code := failure.code
  errors := s!"error: {failure.message}\n"

end Transcript

namespace CommandLine

/-- What a command comes to: what it prints, or the error that ends the program. -/
abbrev Run := Except Failure Transcript

def version : String := "0.1.0"

def versionLine : String := s!"wwanmux {version}"

def buildLines : List String :=
  ["name: wwanmux", s!"version: {version}", "build_target: x86_64-unknown-linux-gnu",
    "target_os: linux", "target_arch: x86_64", "git_hash: unknown",
    s!"reserved_channels: {ChannelConfig.reserved}"]

def usageLines : List String :=
  ["Usage: wwanmux [OPTIONS] <COMMAND>", "", "Commands:",
    "  queues    Print the VLAN tag to transmit queue and channel map",
    "  simulate  Replay a JSON scenario against an in-memory modem",
    "  soak      Run concurrent session churn against live traffic",
    "  version   Show version information"]

def finished (output : String) : Transcript := { code := .success, output }

/-- Refuses a number of IP sessions for which there are no tags. -/
def checkSessions (option : String) (sessions : Nat) : Except Failure Unit :=
  if sessions = 0 ∨ Config.mostSessions < sessions then
    .error ⟨.usage, s!"{option} must be in 1..={Config.mostSessions}"⟩
  else .ok ()

def queues (format : OutputFormat) (maxSessions : Nat) (tags : Option (List Tag)) : Run :=
  match checkSessions "--max-sessions" maxSessions with
  | .error failure => .error failure
  | .ok () =>
    let tags := tags.getD (QueueMap.usualTags maxSessions)
    .ok (finished ((QueueMap.ofTags maxSessions tags).render format))

/-! ## Simulations -/

/-- The fault of a file that is no text. -/
def notText : ReadFault := ⟨.invalidData, "stream did not contain valid UTF-8"⟩

def text (contents : Except ReadFault ByteArray) : Except ReadFault String :=
  match contents with
  | .error fault => .error fault
  | .ok bytes =>
    match String.fromUTF8? bytes with
    | some text => .ok text
    | none => .error notText

def simulationFailure : SimulationError → Failure
  | .initFailed source => source.failure "device init failed"
  | .openFailed source => source.failure "device open failed"
  | .stepFailed failed =>
    let context := s!"step {failed.index} ({failed.step.label})"
    match failed.failure with
    | .refused source => source.failure context
    | .badPayload fault => ⟨.invalidData, s!"{context}: invalid hex: {fault.message}"⟩

/-- Runs a scenario: up to the first step that fails if the run is strict, or else to its end. -/
def play (format : OutputFormat) (strict : Bool) (memory : Memory) (spare : Mac) (s : Scenario) :
    Run :=
  match if strict then s.runStrict memory spare else s.run memory spare with
  | .error e => .error (simulationFailure e)
  | .ok report => .ok (finished (report.render format))

/-- Runs the scenario in a file. Of a text that is no scenario the message says no more than that;
what the reader of JSON found wrong with it, which would follow the colon, is left out. -/
def simulate (format : OutputFormat) (path : String) (strict : Bool) (memory : Memory) (spare : Mac)
    (contents : Except ReadFault ByteArray) : Run :=
  match text contents with
  | .error fault => .error (fault.failure s!"read {path}")
  | .ok text =>
    match Scenario.parse? text with
    | none => .error ⟨.invalidData, "invalid scenario:"⟩
    | some scenario => play format strict memory spare scenario

/-! ## Soaks -/

def soakFailure : SoakError → Failure
  | .initFailed source => source.failure "device init failed"
  | .openFailed source => source.failure "device open failed"
  | .sessionFailed source => source.failure "session setup failed"

/-- Soaks a device, unless that takes too long by the clock. -/
def soak (format : OutputFormat) (sessions frames : Nat) (timeout : String) (memory : Memory)
    (spare : Mac) (clock : Soak.Clock) : Run :=
  match checkSessions "--sessions" sessions, Duration.parse timeout with
  | .error failure, _ => .error failure
  | .ok (), .error fault => .error ⟨.usage, fault.message⟩
  | .ok (), .ok limit =>
    match Soak.start sessions spare with
    | .error e => .error (soakFailure e)
    | .ok start =>
      if clock.exceeds limit then
        .error ⟨.timeout, s!"soak did not finish within {limit.display}"⟩
      else
        let s := (start.takeTurns memory frames).finish memory
        let report := s.report frames clock.elapsed
        let code := if report.tally.unexpected = 0 then ExitCode.success else .failure
        .ok { code, output := report.render format }

/-! ## The program as a whole -/

/-- Carries out a command. The contents are those of the file that the command names, and the clock
shows how long so many frames take. -/
def carryOut (memory : Memory) (clock : Nat → Soak.Clock) (spare : Mac)
    (contents : Except ReadFault ByteArray) (i : Invocation) : Run :=
  match i.command with
  | .queues maxSessions tags => queues i.format maxSessions tags
  | .simulate path strict => simulate i.format path strict memory spare contents
  | .soak sessions frames timeout =>
    soak i.format sessions frames timeout memory spare (clock frames)
  | .version extended =>
    .ok (finished (Report.unlines (if extended then buildLines else [versionLine])))

/-- What the program prints in place of a command's report. -/
def halted : ArgumentStop → Transcript
  | .misuse => { code := .misuse, errors := Report.unlines usageLines }
  | .help => finished (Report.unlines usageLines)
  | .version => finished (Report.unlines [versionLine])

/-- The file that the arguments name, if they name one. -/
def file? (env : Environment) (arguments : List String) : Option String :=
  match Invocation.parse env arguments with
  | .ok ⟨_, .simulate path _⟩ => some path
  | _ => none

/-- The program. Unless told otherwise it has all the memory that it asks for and a steady clock. -/
def run (env : Environment) (arguments : List String) (spare : Mac)
    (contents : Except ReadFault ByteArray) (memory : Memory := .ample)
    (clock : Nat → Soak.Clock := .steady) : Transcript :=
  match Invocation.parse env arguments with
  | .error stop => halted stop
  | .ok invocation =>
    match carryOut memory clock spare contents invocation with
    | .ok transcript => transcript
    | .error failure => .ofFailure failure

end CommandLine

end ModemMux
