import ModemMux.Report
import ModemMux.Simulation

/-!
# A simulation as a report
-/

namespace ModemMux

namespace Outcome

def toJson (o : Outcome) : Json :=
  .record [("index", .nat o.index), ("op", .string o.step.label), ("ok", .bool o.isOk),
    ("result", .string o.message)]

def cells (o : Outcome) : List String :=
  [toString o.index, o.step.label, toString o.isOk, o.message]

def line (o : Outcome) : String :=
  let mark := if o.isOk then "ok " else "ERR"
  let index := String.ofList ((toString o.index).toList.leftpad 3 ' ')
  let label := String.ofList (o.step.label.toList.rightpad 12 ' ')
  s!"  [{mark}] {index} {label} {o.message}"

end Outcome

namespace SimulationReport

variable (r : SimulationReport)

def toJson : Json :=
  .record [Report.schemaMember "simulation-report", ("device", r.device.toJson),
    ("sessions", .array (r.sessions.map (·.toJson))),
    ("steps", .array (r.outcomes.map (·.toJson))), ("delivered", .nat r.delivered),
    ("failed_steps", .nat r.failedSteps)]

def table : Text.Table where
  head := ["#", "OP", "OK", "RESULT"]
  rows := r.outcomes.map (·.cells)

def render (format : OutputFormat) : String :=
  Report.unlines <| match format with
    | .json => [r.toJson.render]
    | .table => r.table.lines ++ (Session.table r.sessions).lines
    | .pretty =>
      r.device.lines ++ s!"  Delivered: {r.delivered}" :: r.outcomes.map (·.line)

end SimulationReport

end ModemMux
