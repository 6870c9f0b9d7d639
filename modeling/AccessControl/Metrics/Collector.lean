import AccessControl.Metrics.Report

/-!
# Collectors

A collector counts checks and keeps the latencies of the most recent ones. Recording only moves
counters and the window; figures are drawn when a report is asked for.
-/

set_option autoImplicit false

namespace AccessControl

/-- The counters and the latencies of the checks since the last reset. -/
structure Collector where
  counters : Counters
  window : LatencyWindow

namespace Collector

/-- The number of latencies that a collector keeps by default. -/
def defaultCapacity : Nat := 10000

def ofCapacity (n : Nat) : Collector := ⟨.zero, .ofCapacity n⟩

/-- The collector after one more check, which was denied for a reason or else allowed. -/
def record (c : Collector) (denial : Option Denial) (latency : Latency) : Collector :=
  ⟨c.counters.count denial, c.window.push latency⟩

/-- The collector after checks of one outcome whose latencies follow each other at equal steps; they
are unsigned 64-bit numbers of nanoseconds. -/
def recordSeries (c : Collector) (denial : Option Denial) (start step : UInt64) (count : Nat) :
    Collector :=
  (List.range count).foldl
    (fun c i => c.record denial (.ofNanoseconds (start + UInt64.ofNat i * step))) c

/-- The collector after a reset, which keeps only the capacity. -/
def reset (c : Collector) : Collector := ⟨.zero, c.window.clear⟩

def report (c : Collector) : Report := .ofWindow c.counters c.window

end Collector

end AccessControl
