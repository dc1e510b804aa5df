import ModemMux.Report
import ModemMux.Soak
import ModemMux.Soak.Timeout

/-!
# A soak as a report

A soak is over when the sender is done, or when its time limit is found to be over, which is looked
at every ten milliseconds. `Soak.Clock` is all that a soak learns of the time.
-/

namespace ModemMux

structure SoakReport where
  sessions : Nat
  framesRequested : Nat
  tally : Tally
  interrupted : Bool
  elapsed : Duration
  device : DeviceStats
  deriving DecidableEq, Repr

namespace Soak

/-- What the clock shows in the course of a soak. -/
structure Clock where
  /-- At the last look at the time limit before the sender was done, if there was one. -/
  lastLook : Option Duration
  /-- At the end. -/
  elapsed : Duration
  deriving DecidableEq, Repr

namespace Clock

/-- Whether the sender was still at work when the limit was found to be over. Time goes forward, so
the last look tells. -/
def exceeds (clock : Clock) (limit : Duration) : Bool :=
  clock.lastLook.any (limit.milliseconds ≤ ·.milliseconds)

/-- The clock of a sender that hands down a thousand frames in a millisecond. -/
def steady (frames : Nat) : Clock :=
  let pollInterval := 10
  let busy := (frames + 999) / 1000
  { lastLook := if busy = 0 then none else some ⟨(busy - 1) / pollInterval * pollInterval⟩
    elapsed := ⟨(busy + (pollInterval - 1)) / pollInterval * pollInterval⟩ }

end Clock

/-- The report on a soak that was not interrupted. -/
def report (framesRequested : Nat) (elapsed : Duration) (s : Soak) : SoakReport where
  sessions := s.sessions
  framesRequested := framesRequested
  tally := s.tally
  interrupted := false
  elapsed := elapsed
  device := s.rig.device.stats

end Soak

namespace SoakReport

variable (r : SoakReport)

def toJson : Json :=
  let t := r.tally
  .record [Report.schemaMember "soak-report", ("sessions", .nat r.sessions),
    ("frames_requested", .nat r.framesRequested), ("sent", .nat t.sent), ("busy", .nat t.busy),
    ("rejected", .nat t.rejected), ("completed", .nat t.completed), ("received", .nat t.received),
    ("churn_cycles", .nat t.churnCycles), ("unexpected", .nat t.unexpected),
    ("interrupted", .bool r.interrupted), ("elapsed_ms", .nat r.elapsed.milliseconds),
    ("device", r.device.toJson)]

def table : Text.Table where
  head := ["METRIC", "VALUE"]
  rows :=
    let t := r.tally
    [("sessions", r.sessions), ("frames requested", r.framesRequested), ("sent", t.sent),
      ("busy", t.busy), ("rejected", t.rejected), ("completed", t.completed),
      ("received", t.received), ("churn cycles", t.churnCycles),
      ("unexpected", t.unexpected)].map fun row ↦ [row.1, toString row.2]

def line : String :=
  let t := r.tally
  let interruption := if r.interrupted then ", interrupted" else ""
  s!"Soak: sent={t.sent} busy={t.busy} rejected={t.rejected} received={t.received} " ++
    s!"churn={t.churnCycles} unexpected={t.unexpected} " ++
      s!"({r.elapsed.milliseconds} ms{interruption})"

def render (format : OutputFormat) : String :=
  Report.unlines <| match format with
    | .json => [r.toJson.render]
    | .table => r.table.lines
    | .pretty => r.device.lines ++ [r.line]

end SoakReport

end ModemMux
