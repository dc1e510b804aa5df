import ModemMux.CommandLine.Arguments
import ModemMux.Report
import ModemMux.Tag
import ModemMux.Text.Digits

/-!
# Commands

The program has four commands. `Invocation.parse` reads one of them, with its options and those of
the program, from the arguments and the environment.
-/

namespace ModemMux

abbrev Environment := String → Option String

inductive Command where
  /-- Shows the queues and channels of the usual tags or of those given. -/
  | queues (maxSessions : Nat) (tags : Option (List Tag))
  /-- Runs the scenario in a file, up to the first failure if it is to be strict. -/
  | simulate (path : String) (strict : Bool)
  /-- Soaks a device with so many sessions and frames. -/
  | soak (sessions frames : Nat) (timeout : String)
  /-- Shows the version, with all that is known of the build if asked for. -/
  | version (extended : Bool)
  deriving DecidableEq, Repr

/-- A command and how its report is to be written. -/
structure Invocation where
  format : OutputFormat
  command : Command
  deriving DecidableEq, Repr

namespace OutputFormat

def ofName? : String → Option OutputFormat
  | "json" => some .json
  | "table" => some .table
  | "pretty" => some .pretty
  | _ => none

end OutputFormat

namespace Command

/-! ## The options -/

def logFormats : List String := ["text", "json"]

def logLevels : List String := ["off", "error", "warn", "info", "debug", "trace"]

def logLevelVariable : String := "WWANMUX_LOG_LEVEL"

def maxSessionsVariable : String := "WWANMUX_MAX_SESSIONS"

def number? (text : String) : Option Nat := Text.unsigned? (UInt64.size - 1) text.toList

/-- Reads a number of 16 bits, where zero may have a minus sign. -/
def word? (text : String) : Option Nat := Text.signed? (UInt16.size - 1) text.toList

/-- Reads tags between commas. -/
def tags? (text : String) : Option (List Tag) :=
  (Text.fields (· == ',') text.toList).mapM fun cs ↦
    (word? (String.ofList cs)).map UInt16.ofNat

def programOptions : List (String × OptionShape) :=
  [("format", .single fun v ↦ (OutputFormat.ofName? v).isSome),
    ("log-format", .single logFormats.contains), ("log-level", .single logLevels.contains)]

/-- What may stand before the word for a command. -/
def programShape : LevelShape := ⟨programOptions, [], true, true⟩

/-- What may stand behind the word for a command that has options and words of its own. -/
def shapeWith (options : List (String × OptionShape)) (words : List (String → Bool)) : LevelShape :=
  ⟨options ++ programOptions, words, false, false⟩

def queuesShape : LevelShape :=
  shapeWith [("max-sessions", .single fun v ↦ (number? v).isSome),
    ("tags", .repeated fun v ↦ (tags? v).isSome)] []

/-- The options of `simulate`, and the path, which has to say something. -/
def simulateShape : LevelShape := shapeWith [("strict", .flag)] [(!·.isEmpty)]

def soakShape : LevelShape :=
  shapeWith [("sessions", .single fun v ↦ (word? v).isSome),
    ("frames", .single fun v ↦ (number? v).isSome), ("timeout", .single fun _ ↦ true)] []

def versionShape : LevelShape := shapeWith [("extended", .flag)] []

/-! ## The commands -/

/-- Whether the environment, where a level does not overrule it, says how much to log in a way that
makes sense. -/
def logLevelMakesSense (env : Environment) (l : Level) : Bool :=
  (l.value? "log-level").isSome || (env logLevelVariable).all logLevels.contains

/-- What the environment, unless the option overrules it, says of the number of IP sessions. -/
def maxSessions? (env : Environment) (l : Level) : Option Nat :=
  match l.value? "max-sessions", env maxSessionsVariable with
  | some value, _ | none, some value => number? value
  | none, none => some 8

def tagsOf (l : Level) : Option (List Tag) :=
  match l.all "tags" with
  | [] => none
  | values => some (values.flatMap fun v ↦ (tags? v).getD [])

/-- Reads the number that an option gives, or what it is without the option. -/
def numberOf (read : String → Option Nat) (name : String) (default : Nat) (l : Level) : Nat :=
  ((l.value? name).bind read).getD default

/-- The level behind the word for a command, and the command. -/
def ofLevel? (env : Environment) (name : String) (l : Level) : Option Command :=
  match name, l.words with
  | "queues", [] => (maxSessions? env l).map (.queues · (tagsOf l))
  | "simulate", [path] => some (.simulate path (l.has "strict"))
  | "soak", [] =>
    let timeout := (l.value? "timeout").getD "60s"
    some (.soak (numberOf word? "sessions" 8 l) (numberOf number? "frames" 10000 l) timeout)
  | "version", [] => some (.version (l.has "extended"))
  | _, _ => none

def shape? : String → Option LevelShape
  | "queues" => some queuesShape
  | "simulate" => some simulateShape
  | "soak" => some soakShape
  | "version" => some versionShape
  | _ => none

/-- What the word `help` asks for, with what stands behind it. -/
def helpWith : List String → ArgumentStop
  | [] => .help
  | [name] => if (shape? name).isSome ∨ name = "help" then .help else .misuse
  | _ => .misuse

end Command

namespace Invocation

open Command

/-- The format that is asked for, at the command rather than before it. -/
def formatOf (outer inner : Level) : OutputFormat :=
  let name := (inner.value? "format").or (outer.value? "format")
  (name.bind OutputFormat.ofName?).getD .json

def parse (env : Environment) (arguments : List String) : Except ArgumentStop Invocation :=
  match Level.read programShape arguments with
  | .error stop => .error stop
  | .ok (_, []) => .error .misuse
  | .ok (outer, name :: rest) =>
    if name = "help" then .error (helpWith rest)
    else match shape? name with
      | none => .error .misuse
      | some shape =>
        match Level.read shape rest with
        | .error stop => .error stop
        | .ok (inner, _) =>
          if outer.fits programShape && logLevelMakesSense env outer &&
              logLevelMakesSense env inner then
            match ofLevel? env name inner with
            | none => .error .misuse
            | some command => .ok ⟨formatOf outer inner, command⟩
          else .error .misuse

end Invocation

end ModemMux
