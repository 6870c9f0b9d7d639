import AccessControl.Decimal.Positional
import AccessControl.Json.Basic
import AccessControl.Metrics.Report

/-!
# Report documents

The JSON form of a report. Counters are written as integers and floating-point figures as their
positional text. A report whose counters overflow when they are summed up has no such form.
-/

set_option autoImplicit false

namespace AccessControl.Report

def figureJson (x : Float) : Json := .text (Decimal.floatText x)

/-- The members of a report that count checks, unless the share of allowed ones cannot be told. -/
def counterMembers? (c : Counters) : Option (List (String × Json)) := do
  let rate ← c.allowRate?
  return c.entries.map (fun (name, n) => (name, Json.ofUInt64 n)) ++
    [("allow_rate", figureJson rate)]

/-- The members of a report that tell of latencies. -/
def latencyMembers (r : Report) : List (String × Json) :=
  (Quantile.all.map fun q => ("latency_" ++ q.name ++ "_ms", figureJson (r.quantile q))) ++
    [("avg_latency_ms", figureJson r.average)]

/-- The counters of a report as a document, unless the share of allowed checks cannot be told. -/
def countersJson? (r : Report) : Option Json :=
  (counterMembers? r.counters).map .object

/-- A report as a document, unless the share of allowed checks cannot be told. -/
def toJson? (r : Report) : Option Json :=
  (counterMembers? r.counters).map fun members => .object (members ++ latencyMembers r)

end AccessControl.Report
