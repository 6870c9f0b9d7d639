import Mathlib.Data.List.DropRight
import Mathlib.Data.List.Induction
import AccessControl.Metrics.Collector

/-!
# What a window keeps

A collector is told of checks one after another and is reset now and then. However many checks there
were, its window is the end of what it was told since the last reset, up to the capacity, so the
oldest latency is the first to go; the total counts on when latencies are dropped. Main statement:
`window_after_exact`.
-/

set_option autoImplicit false

namespace AccessControl

/-- A window that holds the end of a list still does after one more latency. -/
theorem LatencyWindow.toList_push_eq_rtake (w : LatencyWindow) (latency : Latency)
    (before : List Latency) (h : w.toList = before.rtake w.capacity) :
    (w.push latency).toList = (before ++ [latency]).rtake w.capacity := by
  have hlength : w.toList.length = before.length - (before.length - w.capacity) := by
    rw [h, List.rtake, List.length_drop]
  have hdropped : before.length - w.capacity + (w.toList.length + 1 - w.capacity) =
      (before ++ [latency]).length - w.capacity := by
    rw [List.length_append, List.length_singleton]
    omega
  have happend : w.toList ++ [latency] =
      (before ++ [latency]).drop (before.length - w.capacity) := by
    rw [List.drop_append_of_le_length (Nat.sub_le _ _), h, List.rtake]
  rw [toList_push, happend, List.drop_drop, hdropped, List.rtake]

namespace Collector

/-- What a collector is told: that a check was made, or that it is to begin again. -/
inductive Call
  | record (denial : Option Denial) (latency : Latency)
  | reset

def Call.latency? : Call → Option Latency
  | .record _ latency => some latency
  | .reset => none

def step (c : Collector) : Call → Collector
  | .record denial latency => c.record denial latency
  | .reset => c.reset

/-- The collector after some calls. -/
def after (c : Collector) (calls : List Call) : Collector :=
  calls.foldl step c

/-- The latencies recorded since the last reset, in order of recording. -/
def recorded (calls : List Call) : List Latency :=
  (calls.rtakeWhile (·.latency?.isSome)).filterMap Call.latency?

/-- The last call is made to what the calls before it have led to. -/
theorem after_snoc (c : Collector) (calls : List Call) (call : Call) :
    c.after (calls ++ [call]) = (c.after calls).step call := by
  unfold after
  rw [List.foldl_append]
  rfl

/-- A record adds its latency behind the others. -/
theorem recorded_snoc_record (calls : List Call) (denial : Option Denial) (latency : Latency) :
    recorded (calls ++ [.record denial latency]) = recorded calls ++ [latency] := by
  unfold recorded
  rw [List.rtakeWhile_concat_pos _ _ _ rfl, List.filterMap_append]
  rfl

/-- A reset forgets all latencies. -/
theorem recorded_snoc_reset (calls : List Call) : recorded (calls ++ [.reset]) = [] := by
  unfold recorded
  rw [List.rtakeWhile_concat_neg _ _ _ Bool.false_ne_true, List.filterMap_nil]

/-- The collector keeps the end of the latencies, up to a capacity, and has counted all of them, as
far as a 64-bit counter goes. -/
structure Keeps (c : Collector) (capacity : Nat) (latencies : List Latency) : Prop where
  capacity_eq : c.window.capacity = capacity
  window_eq : c.window.toList = latencies.rtake capacity
  total_eq : c.counters.total.toNat = latencies.length % UInt64.size

/-- A new collector keeps nothing yet. -/
theorem keeps_ofCapacity (n : Nat) : (ofCapacity n).Keeps (max n 1) [] where
  capacity_eq := LatencyWindow.capacity_ofCapacity n
  window_eq := (LatencyWindow.toList_ofCapacity n).trans (List.rtake_nil _).symm
  total_eq := rfl

section

variable {c : Collector} {capacity : Nat} {latencies : List Latency}

/-- Recording a latency adds it to what is kept. -/
theorem Keeps.record (h : c.Keeps capacity latencies) (denial : Option Denial)
    (latency : Latency) : (c.record denial latency).Keeps capacity (latencies ++ [latency]) where
  capacity_eq := (c.window.capacity_push latency).trans h.capacity_eq
  window_eq := by
    obtain ⟨rfl, hwindow, -⟩ := h
    exact c.window.toList_push_eq_rtake latency latencies hwindow
  total_eq := by
    have hnext : (c.counters.total + 1).toNat = (c.counters.total.toNat + 1) % UInt64.size :=
      UInt64.toNat_add _ _
    show (c.counters.count denial).total.toNat = _
    rw [Counters.total_count, hnext, h.total_eq, List.length_append, List.length_singleton,
      Nat.mod_add_mod]

/-- A reset leaves nothing to keep. -/
theorem Keeps.reset (h : c.Keeps capacity latencies) : c.reset.Keeps capacity [] where
  capacity_eq := c.window.capacity_clear.trans h.capacity_eq
  window_eq := c.window.toList_clear.trans (List.rtake_nil _).symm
  total_eq := rfl

end

/-- One call after another, a collector keeps what it was told since the last reset. -/
theorem keeps_after (n : Nat) (calls : List Call) :
    ((ofCapacity n).after calls).Keeps (max n 1) (recorded calls) := by
  -- What was recorded since the last reset is read from the end, so the run grows there as well.
  induction calls using List.reverseRecOn with
  | nil => exact keeps_ofCapacity n
  | append_singleton calls call ih =>
      rw [after_snoc]
      cases call with
      | record denial latency =>
          rw [recorded_snoc_record]
          exact ih.record denial latency
      | reset =>
          rw [recorded_snoc_reset]
          exact ih.reset

/-- After any calls, the window of a collector made for `n` latencies, but at least one, holds
exactly the last of the latencies recorded since the last reset, as many as there are and fit, in
order of recording. So it never holds more than fit, is empty only if nothing was recorded, and gives
up the oldest latency for the next one once it is full; and all of them remain counted. -/
theorem window_after_exact (n : Nat) (calls : List Call) :
    let c := (ofCapacity n).after calls
    let kept := c.window.toList
    let count := (recorded calls).length
    kept = (recorded calls).rtake (min count (max n 1)) ∧
      kept.length = min count (max n 1) ∧ kept.length ≤ max n 1 ∧
      (kept = [] ↔ recorded calls = []) ∧
      (∀ denial latency, (c.record denial latency).window.toList =
        (if kept.length < max n 1 then kept else kept.tail) ++ [latency]) ∧
      c.counters.total.toNat = count % UInt64.size := by
  intro c kept count
  obtain ⟨hcapacity, hwindow, htotal⟩ := keeps_after n calls
  have hmin : (recorded calls).rtake (max n 1) = (recorded calls).rtake (min count (max n 1)) := by
    have hsame : count - max n 1 = count - min count (max n 1) := by omega
    unfold List.rtake
    rw [hsame]
  have hkept : kept = (recorded calls).rtake (min count (max n 1)) := hwindow.trans hmin
  have hlength : kept.length = min count (max n 1) := by
    rw [hkept, List.rtake, List.length_drop]
    omega
  refine ⟨hkept, hlength, ?_, ?_, ?_, htotal⟩
  · rw [hlength]
    exact Nat.min_le_right _ _
  · rw [← List.length_eq_zero_iff, ← List.length_eq_zero_iff, hlength]
    show min count (max n 1) = 0 ↔ count = 0
    omega
  · intro denial latency
    have hsize : kept.length = c.window.size := c.window.length_toList
    show (c.window.push latency).toList = _
    rw [hsize, ← hcapacity]
    split
    next hroom => exact c.window.toList_push_of_lt latency hroom
    next hfull => exact c.window.toList_push_of_full latency hfull

end Collector

end AccessControl
