/-!
# Latency windows

The most recent latencies, up to a fixed number of them. A window is a queue of two lists: the older
latencies in order and the newer ones in reverse, so that adding a latency and dropping the oldest
take constant time on average. Main statement: adding a latency to a window appends it and keeps the
last `capacity` of the result.
-/

set_option autoImplicit false

namespace AccessControl

/-- A latency in nanoseconds. Its whole seconds are an unsigned 64-bit number. -/
abbrev Latency := Fin 18446744073709551616000000000

/-- The most recent latencies, at most `capacity` of them. -/
structure LatencyWindow where
  capacity : Nat
  size : Nat
  older : List Latency
  newer : List Latency
  capacity_pos : 0 < capacity
  size_eq : size = older.length + newer.length
  size_le : size ≤ capacity

namespace LatencyWindow

/-- The latencies in a window, oldest first. -/
def toList (w : LatencyWindow) : List Latency :=
  w.older ++ w.newer.reverse

/-- The empty window for some number of latencies; there is always room for one. -/
def ofCapacity (n : Nat) : LatencyWindow where
  capacity := max n 1
  size := 0
  older := []
  newer := []
  capacity_pos := by omega
  size_eq := rfl
  size_le := by omega

/-- The window with the same capacity and no latency. -/
def clear (w : LatencyWindow) : LatencyWindow where
  capacity := w.capacity
  size := 0
  older := []
  newer := []
  capacity_pos := w.capacity_pos
  size_eq := rfl
  size_le := by omega

/-- The window after one more latency, which takes the place of the oldest one if the window was
full. -/
def push (w : LatencyWindow) (latency : Latency) : LatencyWindow :=
  if hroom : w.size < w.capacity then
    { w with
      size := w.size + 1
      newer := latency :: w.newer
      size_eq := by simp [w.size_eq]; omega
      size_le := by omega }
  else
    match holder : w.older with
    | _ :: rest =>
      { w with
        older := rest
        newer := latency :: w.newer
        size_eq := by simp [w.size_eq, holder]; omega }
    | [] =>
      { w with
        older := w.newer.reverse.tail ++ [latency]
        newer := []
        size_eq := by
          have hsize := w.size_eq
          have hpos := w.capacity_pos
          simp only [holder, List.length_nil, Nat.zero_add] at hsize
          simp only [List.length_append, List.length_tail, List.length_reverse,
            List.length_singleton, List.length_nil]
          omega }

/-- There is room for at least one latency. -/
@[simp] theorem capacity_ofCapacity (n : Nat) : (ofCapacity n).capacity = max n 1 := rfl

/-- A new window holds nothing. -/
@[simp] theorem toList_ofCapacity (n : Nat) : (ofCapacity n).toList = [] := rfl

/-- Clearing a window keeps its capacity. -/
@[simp] theorem capacity_clear (w : LatencyWindow) : w.clear.capacity = w.capacity := rfl

/-- A window that was cleared holds nothing. -/
@[simp] theorem toList_clear (w : LatencyWindow) : w.clear.toList = [] := rfl

/-- The size of a window is the number of latencies in it. -/
theorem length_toList (w : LatencyWindow) : w.toList.length = w.size := by
  simp [toList, w.size_eq]

/-- Adding a latency keeps the capacity. -/
@[simp] theorem capacity_push (w : LatencyWindow) (latency : Latency) :
    (w.push latency).capacity = w.capacity := by
  rw [push]
  split
  · rfl
  · split <;> rfl

/-- A window with room keeps everything. -/
theorem toList_push_of_lt (w : LatencyWindow) (latency : Latency) (h : w.size < w.capacity) :
    (w.push latency).toList = w.toList ++ [latency] := by
  simp [push, h, toList]

/-- A full window drops the oldest latency. -/
theorem toList_push_of_full (w : LatencyWindow) (latency : Latency) (h : ¬ w.size < w.capacity) :
    (w.push latency).toList = w.toList.tail ++ [latency] := by
  rw [push, dif_neg h]
  split
  next rest holder => simp [toList, holder]
  next holder => simp [toList, holder]

/-- Adding a latency keeps the last `capacity` of the latencies. -/
theorem toList_push (w : LatencyWindow) (latency : Latency) :
    (w.push latency).toList =
      (w.toList ++ [latency]).drop (w.toList.length + 1 - w.capacity) := by
  have hlength := w.length_toList
  have hle := w.size_le
  have hpos := w.capacity_pos
  by_cases h : w.size < w.capacity
  · rw [toList_push_of_lt w latency h, show w.toList.length + 1 - w.capacity = 0 by omega,
      List.drop_zero]
  · have hone : w.toList.length + 1 - w.capacity = 1 := by omega
    rw [toList_push_of_full w latency h, hone]
    cases hlist : w.toList with
    | nil => simp [hlist] at hlength; omega
    | cons first rest => simp

end LatencyWindow

end AccessControl
