import AccessControl.Metrics.Counters
import AccessControl.Metrics.LatencyWindow

/-!
# Reports

What a window of latencies is summed up as: five quantiles and the average. The quantiles are
latencies of the window, picked by rank from the sorted window; both ranks and sorting are exact,
and only the values that are reported become floating-point milliseconds.
-/

set_option autoImplicit false

namespace AccessControl

/-- The quantiles that a report tells. -/
inductive Quantile
  | p50
  | p90
  | p95
  | p99
  | p999
  deriving DecidableEq

namespace Quantile

def all : List Quantile := [.p50, .p90, .p95, .p99, .p999]

/-- The share of latencies below a quantile, in thousandths. -/
def perMille : Quantile → Nat
  | .p50 => 500
  | .p90 => 900
  | .p95 => 950
  | .p99 => 990
  | .p999 => 999

/-- The share of latencies below a quantile, as a decimal. -/
def label : Quantile → String
  | .p50 => "0.5"
  | .p90 => "0.9"
  | .p95 => "0.95"
  | .p99 => "0.99"
  | .p999 => "0.999"

def name : Quantile → String
  | .p50 => "p50"
  | .p90 => "p90"
  | .p95 => "p95"
  | .p99 => "p99"
  | .p999 => "p999"

/-- The rank of a quantile among `n` sorted latencies, counted from zero and never past the last. -/
def rank (q : Quantile) (n : Nat) : Nat :=
  min (n * q.perMille / 1000) (n - 1)

/-- The rank of a quantile is one of the ranks there are. -/
theorem rank_lt (q : Quantile) (n : Nat) (h : 0 < n) : q.rank n < n := by
  rw [rank]
  omega

end Quantile

namespace Latency

/-- The number of nanoseconds in a second. -/
def second : Nat := 1000000000

def ofSeconds (seconds : UInt64) : Latency :=
  ⟨seconds.toNat * second, by have := seconds.toNat_lt; unfold second; omega⟩

def ofNanoseconds (nanoseconds : UInt64) : Latency :=
  ⟨nanoseconds.toNat, by have := nanoseconds.toNat_lt; omega⟩

/-- A latency in milliseconds: the whole seconds and the fraction of the last second are added as
floating-point numbers before they are scaled. -/
def milliseconds (latency : Latency) : Float :=
  let seconds := (UInt64.ofNat (latency.val / second)).toFloat
  let fraction := (UInt64.ofNat (latency.val % second)).toFloat / 1e9
  (seconds + fraction) * 1000

end Latency

namespace LatencyWindow

/-- The latencies in a window, in ascending order. -/
def sorted (w : LatencyWindow) : List Latency :=
  w.toList.mergeSort fun a b => a.val ≤ b.val

/-- A quantile of ascending latencies, if there are any. -/
def quantile? (ascending : List Latency) (q : Quantile) : Option Latency :=
  ascending[q.rank ascending.length]?

/-- The average of ascending latencies in milliseconds, summed up in that order. -/
def averageMilliseconds (ascending : List Latency) : Float :=
  let sum := ascending.foldl (fun sum latency => sum + Latency.milliseconds latency) 0
  sum / (UInt64.ofNat ascending.length).toFloat

/-- A sorted window ascends. -/
theorem pairwise_sorted (w : LatencyWindow) : w.sorted.Pairwise (· ≤ ·) := by
  have htrans (a b c : Latency) : decide (a.val ≤ b.val) → decide (b.val ≤ c.val) →
      decide (a.val ≤ c.val) := by
    intro hab hbc
    exact decide_eq_true (Nat.le_trans (of_decide_eq_true hab) (of_decide_eq_true hbc))
  have htotal (a b : Latency) : (decide (a.val ≤ b.val) || decide (b.val ≤ a.val)) = true := by
    rw [Bool.or_eq_true]
    exact (Nat.le_total a.val b.val).imp decide_eq_true decide_eq_true
  have hsorted := List.pairwise_mergeSort htrans htotal w.toList
  exact hsorted.imp fun hle => of_decide_eq_true hle

/-- Sorting a window neither adds nor loses a latency. -/
theorem sorted_perm (w : LatencyWindow) : w.sorted.Perm w.toList :=
  List.mergeSort_perm _ _

/-- The order of a window, and so every figure drawn from it, depends on its latencies alone. -/
theorem sorted_eq_of_perm
    (v w : LatencyWindow) (h : v.toList.Perm w.toList) :
    v.sorted = w.sorted := by
  apply List.Perm.eq_of_pairwise (fun a b _ _ hab hba => Fin.le_antisymm hab hba)
    v.pairwise_sorted w.pairwise_sorted
  exact v.sorted_perm.trans (h.trans w.sorted_perm.symm)

end LatencyWindow

/-- The counters and the figures of the window, in milliseconds; all figures of an empty window are
zero. -/
structure Report where
  counters : Counters
  quantile : Quantile → Float
  average : Float

namespace Report

/-- The report on some counters and a window. -/
def ofWindow (counters : Counters) (w : LatencyWindow) : Report :=
  let ascending := w.sorted
  if ascending.isEmpty then ⟨counters, fun _ => 0, 0⟩
  else
    ⟨counters,
      fun q => ((LatencyWindow.quantile? ascending q).map Latency.milliseconds).getD 0,
      LatencyWindow.averageMilliseconds ascending⟩

/-- Latencies have no part in what was counted. -/
theorem counters_ofWindow (counters : Counters) (w : LatencyWindow) :
    (ofWindow counters w).counters = counters := by
  unfold ofWindow
  simp only
  split <;> rfl

end Report

end AccessControl
