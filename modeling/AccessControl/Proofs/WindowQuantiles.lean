import Mathlib.Data.List.Pairwise
import Mathlib.Data.Nat.Basic
import Mathlib.Order.Lattice
import AccessControl.Metrics.Collector
import AccessControl.Proofs.LatencyFigures

/-!
# Quantiles of a window

The figures of a report are those of latencies of the window, picked by rank. At the rank of a
quantile stands a latency with the right share of the window on either side of it, itself included,
in whatever order the latencies arrived. Since figures ascend with the latencies, the figures that
are reported have the same shares of the figures of the window on either side of them. Main
statement: `report_quantiles_exact`.
-/

set_option autoImplicit false

namespace AccessControl

/-! ## Shares of samples -/

section

variable {α β : Type} [LE α] [DecidableLE α] [LE β] [DecidableLE β]

/-- A value is a quantile of some samples: it is one of them, at least so many thousandths of them
are no greater, and at least the remaining thousandths are no smaller. -/
structure IsQuantile (samples : List α) (perMille : Nat) (value : α) : Prop where
  mem : value ∈ samples
  below : perMille * samples.length ≤ 1000 * samples.countP (· ≤ value)
  above : (1000 - perMille) * samples.length ≤ 1000 * samples.countP (value ≤ ·)

/-- Five values are the quantiles of some samples that a report tells, in ascending order. -/
structure Percentiles (samples : List α) (value : Quantile → α) : Prop where
  p50 : IsQuantile samples 500 (value .p50)
  p90 : IsQuantile samples 900 (value .p90)
  p95 : IsQuantile samples 950 (value .p95)
  p99 : IsQuantile samples 990 (value .p99)
  p999 : IsQuantile samples 999 (value .p999)
  p50_le_p90 : value .p50 ≤ value .p90
  p90_le_p95 : value .p90 ≤ value .p95
  p95_le_p99 : value .p95 ≤ value .p99
  p99_le_p999 : value .p99 ≤ value .p999

/-- Whether a value is a quantile has nothing to do with the order of the samples. -/
theorem IsQuantile.of_perm {samples others : List α} {perMille : Nat} {value : α}
    (h : IsQuantile samples perMille value) (hperm : samples.Perm others) :
    IsQuantile others perMille value where
  mem := hperm.mem_iff.mp h.mem
  below := by
    rw [← hperm.length_eq, ← hperm.countP_eq]
    exact h.below
  above := by
    rw [← hperm.length_eq, ← hperm.countP_eq]
    exact h.above

/-- Nor have the five quantiles anything to do with the order of the samples. -/
theorem Percentiles.of_perm {samples others : List α} {value : Quantile → α}
    (h : Percentiles samples value) (hperm : samples.Perm others) : Percentiles others value where
  p50 := h.p50.of_perm hperm
  p90 := h.p90.of_perm hperm
  p95 := h.p95.of_perm hperm
  p99 := h.p99.of_perm hperm
  p999 := h.p999.of_perm hperm
  p50_le_p90 := h.p50_le_p90
  p90_le_p95 := h.p90_le_p95
  p95_le_p99 := h.p95_le_p99
  p99_le_p999 := h.p99_le_p999

/-- A reading of the samples that keeps their order keeps their quantiles. -/
theorem IsQuantile.map {samples : List α} {perMille : Nat} {value : α}
    (h : IsQuantile samples perMille value) (figure : α → β)
    (hfigure : ∀ a b, a ≤ b → figure a ≤ figure b) :
    IsQuantile (samples.map figure) perMille (figure value) where
  mem := List.mem_map_of_mem h.mem
  below := by
    have hcount : samples.countP (· ≤ value) ≤ (samples.map figure).countP (· ≤ figure value) := by
      rw [List.countP_map]
      apply List.countP_mono_left
      intro sample _ hle
      exact decide_eq_true (hfigure sample value (of_decide_eq_true hle))
    rw [List.length_map]
    exact h.below.trans (Nat.mul_le_mul_left 1000 hcount)
  above := by
    have hcount : samples.countP (value ≤ ·) ≤ (samples.map figure).countP (figure value ≤ ·) := by
      rw [List.countP_map]
      apply List.countP_mono_left
      intro sample _ hle
      exact decide_eq_true (hfigure value sample (of_decide_eq_true hle))
    rw [List.length_map]
    exact h.above.trans (Nat.mul_le_mul_left 1000 hcount)

/-- A reading of the samples that keeps their order keeps all five quantiles. -/
theorem Percentiles.map {samples : List α} {value : Quantile → α} (h : Percentiles samples value)
    (figure : α → β) (hfigure : ∀ a b, a ≤ b → figure a ≤ figure b) :
    Percentiles (samples.map figure) (fun q => figure (value q)) where
  p50 := h.p50.map figure hfigure
  p90 := h.p90.map figure hfigure
  p95 := h.p95.map figure hfigure
  p99 := h.p99.map figure hfigure
  p999 := h.p999.map figure hfigure
  p50_le_p90 := hfigure _ _ h.p50_le_p90
  p90_le_p95 := hfigure _ _ h.p90_le_p95
  p95_le_p99 := hfigure _ _ h.p95_le_p99
  p99_le_p999 := hfigure _ _ h.p99_le_p999

end

/-! ## Samples by rank -/

section

variable {α : Type} [Preorder α] (ascending : List α) (hsorted : ascending.Pairwise (· ≤ ·))

include hsorted

/-- Greater ranks have greater samples. -/
theorem le_of_getElem? (i j : Nat) (value other : α) (hle : i ≤ j)
    (hvalue : ascending[i]? = some value) (hother : ascending[j]? = some other) :
    value ≤ other := by
  obtain ⟨hi, rfl⟩ := List.getElem?_eq_some_iff.mp hvalue
  obtain ⟨hj, rfl⟩ := List.getElem?_eq_some_iff.mp hother
  exact hsorted.rel_get_of_le (a := ⟨i, hi⟩) (b := ⟨j, hj⟩) hle

variable (i : Nat) (value other : α) (hvalue : ascending[i]? = some value)

include hvalue

/-- No sample from a rank on is smaller than the one at the rank. -/
theorem le_of_mem_drop (h : other ∈ ascending.drop i) : value ≤ other := by
  obtain ⟨j, hj⟩ := List.mem_iff_getElem?.mp h
  rw [List.getElem?_drop] at hj
  exact le_of_getElem? ascending hsorted i (i + j) value other (Nat.le_add_right i j) hvalue hj

/-- No sample up to a rank is greater than the one at the rank. -/
theorem le_of_mem_take (h : other ∈ ascending.take (i + 1)) : other ≤ value := by
  obtain ⟨j, hj, rfl⟩ := List.mem_iff_getElem.mp h
  rw [List.length_take] at hj
  rw [List.getElem_take]
  have hji : j ≤ i := by omega
  exact le_of_getElem? ascending hsorted j i _ value hji (List.getElem?_eq_getElem _) hvalue

variable [DecidableLE α]

/-- All samples up to the one at a rank are no greater than it. -/
theorem rank_lt_countP_le : i < ascending.countP (· ≤ value) := by
  obtain ⟨hi, -⟩ := List.getElem?_eq_some_iff.mp hvalue
  have hfront : (ascending.take (i + 1)).countP (· ≤ value) =
      (ascending.take (i + 1)).length := by
    rw [List.countP_eq_length]
    intro other hother
    exact decide_eq_true (le_of_mem_take ascending hsorted i value other hvalue hother)
  have hpart := (List.take_sublist (i + 1) ascending).countP_le (p := (· ≤ value))
  rw [hfront, List.length_take] at hpart
  omega

/-- All samples from the one at a rank on are no smaller than it. -/
theorem length_le_rank_add_countP_ge : ascending.length ≤ i + ascending.countP (value ≤ ·) := by
  have hend : (ascending.drop i).countP (value ≤ ·) = (ascending.drop i).length := by
    rw [List.countP_eq_length]
    intro other hother
    exact decide_eq_true (le_of_mem_drop ascending hsorted i value other hvalue hother)
  have hpart := (List.drop_sublist i ascending).countP_le (p := (value ≤ ·))
  rw [hend, List.length_drop] at hpart
  omega

end

/-- In ascending order, the sample at a share of the samples, rounded down, is a quantile for this
share: with it there are more samples than the share up to it, and no fewer than the rest from it
on. -/
theorem isQuantile_of_getElem? {α : Type} [Preorder α] [DecidableLE α] (ascending : List α)
    (hsorted : ascending.Pairwise (· ≤ ·)) (perMille : Nat) (value : α)
    (h : ascending[ascending.length * perMille / 1000]? = some value) :
    IsQuantile ascending perMille value := by
  have hle := rank_lt_countP_le ascending hsorted _ value h
  have hge := length_le_rank_add_countP_ge ascending hsorted _ value h
  have hcomm : perMille * ascending.length = ascending.length * perMille := Nat.mul_comm _ _
  -- The rank is rounded down: it is no greater than the share, and the next rank exceeds it.
  refine ⟨List.mem_of_getElem? h, by omega, ?_⟩
  rw [Nat.sub_mul]
  omega

/-! ## Latencies by rank -/

/-- Five latencies stand at the ranks of the quantiles, counted from zero, among ascending ones. -/
structure AtRanks (ascending : List Latency) (picked : Quantile → Latency) : Prop where
  p50 : ascending[ascending.length * 500 / 1000]? = some (picked .p50)
  p90 : ascending[ascending.length * 900 / 1000]? = some (picked .p90)
  p95 : ascending[ascending.length * 950 / 1000]? = some (picked .p95)
  p99 : ascending[ascending.length * 990 / 1000]? = some (picked .p99)
  p999 : ascending[ascending.length * 999 / 1000]? = some (picked .p999)

/-- What stands at the ranks of the quantiles are the quantiles. -/
theorem AtRanks.percentiles {ascending : List Latency} {picked : Quantile → Latency}
    (h : AtRanks ascending picked) (hsorted : ascending.Pairwise (· ≤ ·)) :
    Percentiles ascending picked where
  p50 := isQuantile_of_getElem? ascending hsorted 500 _ h.p50
  p90 := isQuantile_of_getElem? ascending hsorted 900 _ h.p90
  p95 := isQuantile_of_getElem? ascending hsorted 950 _ h.p95
  p99 := isQuantile_of_getElem? ascending hsorted 990 _ h.p99
  p999 := isQuantile_of_getElem? ascending hsorted 999 _ h.p999
  p50_le_p90 := le_of_getElem? ascending hsorted _ _ _ _ (by omega) h.p50 h.p90
  p90_le_p95 := le_of_getElem? ascending hsorted _ _ _ _ (by omega) h.p90 h.p95
  p95_le_p99 := le_of_getElem? ascending hsorted _ _ _ _ (by omega) h.p95 h.p99
  p99_le_p999 := le_of_getElem? ascending hsorted _ _ _ _ (by omega) h.p99 h.p999

/-- The share of a quantile is less than the whole, so its rank is never cut off. -/
theorem Quantile.rank_eq (q : Quantile) (n : Nat) (h : 0 < n) :
    q.rank n = n * q.perMille / 1000 := by
  unfold rank
  cases q <;> simp only [perMille] <;> omega

namespace LatencyWindow

variable (w : LatencyWindow)

/-- A sorted window has as many latencies as the window. -/
theorem length_sorted : w.sorted.length = w.size :=
  w.sorted_perm.length_eq.trans w.length_toList

/-- A window that is not empty has a latency at the rank of each quantile. -/
theorem exists_atRanks (hsome : w.toList ≠ []) :
    ∃ picked : Quantile → Latency, (∀ q, quantile? w.sorted q = some (picked q)) ∧
      AtRanks w.sorted picked := by
  have hpos : 0 < w.sorted.length := by
    rw [w.sorted_perm.length_eq]
    exact List.length_pos_iff.mpr hsome
  obtain ⟨picked, hpicked⟩ :
      ∃ picked : Quantile → Latency, ∀ q, quantile? w.sorted q = some (picked q) := by
    refine ⟨fun q => w.sorted.get ⟨_, q.rank_lt w.sorted.length hpos⟩, ?_⟩
    intro q
    exact List.getElem?_eq_getElem _
  have hrank (q : Quantile) : w.sorted[w.sorted.length * q.perMille / 1000]? = some (picked q) := by
    rw [← q.rank_eq _ hpos]
    exact hpicked q
  exact ⟨picked, hpicked, hrank .p50, hrank .p90, hrank .p95, hrank .p99, hrank .p999⟩

end LatencyWindow

/-! ## Reports -/

namespace Report

/-- A report tells the latencies at the ranks of the quantiles, in milliseconds. -/
theorem quantile_ofWindow (counters : Counters) (w : LatencyWindow) (q : Quantile)
    (value : Latency) (h : LatencyWindow.quantile? w.sorted q = some value) :
    (ofWindow counters w).quantile q = value.milliseconds := by
  have hsome : w.sorted.isEmpty = false := by
    obtain ⟨hrank, -⟩ := List.getElem?_eq_some_iff.mp h
    rw [List.isEmpty_eq_false_iff_exists_mem]
    exact ⟨_, List.getElem_mem hrank⟩
  unfold ofWindow
  simp only [hsome, Bool.false_eq_true, if_false, h, Option.map_some, Option.getD_some]

/-- A report tells the average of the sorted window. -/
theorem average_ofWindow (counters : Counters) (w : LatencyWindow) (hsome : w.sorted ≠ []) :
    (ofWindow counters w).average = LatencyWindow.averageMilliseconds w.sorted := by
  have hfilled : w.sorted.isEmpty = false := List.isEmpty_eq_false_iff.mpr hsome
  unfold ofWindow
  simp only [hfilled, Bool.false_eq_true, if_false]

/-- What a report tells of latencies does not depend on the order in which they arrived, nor on the
counters. -/
theorem figures_ofWindow_of_perm (counters others : Counters) (v w : LatencyWindow)
    (h : v.toList.Perm w.toList) :
    (ofWindow counters v).quantile = (ofWindow others w).quantile ∧
      (ofWindow counters v).average = (ofWindow others w).average := by
  unfold ofWindow
  rw [v.sorted_eq_of_perm w h]
  simp only
  split <;> exact ⟨rfl, rfl⟩

end Report

open Binary in
/-- The report of a collector tells of five latencies of its window: they stand at the ranks of the
quantiles in the sorted window, they are quantiles of the window, and so are the floating-point
numbers that are reported for them among the figures of the window. What is reported is a number of
milliseconds, off by three roundings for a quantile and, in a window of moderate size, by four more
roundings than there are latencies for the average. -/
structure Collector.Tells (c : Collector) (picked : Quantile → Latency) : Prop where
  ranks : AtRanks c.window.sorted picked
  latencies : Percentiles c.window.toList picked
  reported : ∀ q, c.report.quantile q = (picked q).milliseconds
  figures : Percentiles (c.window.toList.map Latency.milliseconds) c.report.quantile
  quantile : ∀ q, ∃ figure : ℚ, Denotes (c.report.quantile q) figure ∧
    |figure - (picked q).val / 1000000| ≤ ((picked q).val / 1000000 : ℚ) * (3 / 2 ^ 52)
  average : c.window.size ≤ 2 ^ 50 → ∃ mean : ℚ, Denotes c.report.average mean ∧
    |mean - LatencyWindow.total c.window.toList / (1000000 * c.window.size)| ≤
      (LatencyWindow.total c.window.toList / (1000000 * c.window.size) : ℚ) *
        ((c.window.size + 4) / 2 ^ 52)

section

variable (c : Collector)

/-- The average of a window is that of its latencies but for roundings. -/
theorem Collector.exists_denotes_average (hsome : c.window.sorted ≠ [])
    (hsize : c.window.size ≤ 2 ^ 50) :
    ∃ mean : ℚ, Binary.Denotes c.report.average mean ∧
      |mean - LatencyWindow.total c.window.toList / (1000000 * c.window.size)| ≤
        (LatencyWindow.total c.window.toList / (1000000 * c.window.size) : ℚ) *
          ((c.window.size + 4) / 2 ^ 52) := by
  have hlength := c.window.length_sorted
  obtain ⟨mean, hdenotes, hwithin⟩ :=
    LatencyWindow.exists_denotes_averageMilliseconds c.window.sorted hsome (by omega)
  rw [LatencyWindow.total_of_perm c.window.sorted_perm, hlength] at hwithin
  refine ⟨mean, ?_, ?_⟩
  · unfold report
    rwa [Report.average_ofWindow c.counters c.window hsome]
  · exact_mod_cast hwithin.error (by positivity) (by omega)

/-- A collector whose window is not empty tells of latencies in it. -/
theorem Collector.exists_tells (hsome : c.window.toList ≠ []) : ∃ picked, c.Tells picked := by
  obtain ⟨picked, hpicked, hranks⟩ := c.window.exists_atRanks hsome
  have hpercentiles := (hranks.percentiles c.window.pairwise_sorted).of_perm c.window.sorted_perm
  have hreported (q : Quantile) : c.report.quantile q = (picked q).milliseconds :=
    Report.quantile_ofWindow c.counters c.window q (picked q) (hpicked q)
  have hsorted : c.window.sorted ≠ [] := by
    rwa [← List.length_pos_iff, c.window.sorted_perm.length_eq, List.length_pos_iff]
  refine ⟨picked, hranks, hpercentiles, hreported, ?_, ?_, c.exists_denotes_average hsorted⟩
  · rw [funext hreported]
    exact hpercentiles.map Latency.milliseconds fun a b hle => Latency.milliseconds_mono hle
  · intro q
    rw [hreported]
    exact (picked q).exists_denotes_milliseconds_error

end

/-- The quantiles that a collector reports are quantiles of its window. Whenever the window holds
anything, the report tells of the latencies at the ranks of the quantiles, as quantiles of the
latencies in the window and as floating-point quantiles of their figures. Collectors whose windows
hold the same latencies, in whatever order, report the same quantiles and average. -/
theorem report_quantiles_exact :
    (∀ c : Collector, c.window.toList ≠ [] → ∃ picked, c.Tells picked) ∧
    ∀ c d : Collector, c.window.toList.Perm d.window.toList →
      c.report.quantile = d.report.quantile ∧ c.report.average = d.report.average := by
  refine ⟨Collector.exists_tells, ?_⟩
  intro c d hperm
  exact Report.figures_ofWindow_of_perm c.counters d.counters c.window d.window hperm

/-- Three checks of 15, 5 and 10 ms, and the same three in another order: the median is 10 ms and
the highest quantile 15 ms, and nothing in the reports tells the two apart. -/
theorem report_quantiles_exact_three :
    let told (latencies : List Latency) : Collector :=
      latencies.foldl (fun c latency => c.record none latency) (.ofCapacity 100)
    let c := told [15000000, 5000000, 10000000]
    let d := told [5000000, 10000000, 15000000]
    c.window.toList ≠ [] ∧ c.window.toList.Perm d.window.toList ∧
      c.report.quantile .p50 = Latency.milliseconds 10000000 ∧
      c.report.quantile .p999 = Latency.milliseconds 15000000 ∧
      IsQuantile c.window.toList 500 10000000 ∧
      c.report.quantile = d.report.quantile ∧ c.report.average = d.report.average := by
  intro told c d
  have hsome : c.window.toList ≠ [] := by decide
  have hperm : c.window.toList.Perm d.window.toList := by decide
  obtain ⟨picked, htells⟩ := report_quantiles_exact.1 c hsome
  obtain ⟨hreported, haverage⟩ := report_quantiles_exact.2 c d hperm
  have hsorted : c.window.sorted = [5000000, 10000000, 15000000] := by
    have hascending : List.Pairwise (· ≤ ·) [(5000000 : Latency), 10000000, 15000000] := by decide
    have hsame : c.window.toList.Perm [5000000, 10000000, 15000000] := by decide
    apply List.Perm.eq_of_pairwise (fun a b _ _ => Fin.le_antisymm) c.window.pairwise_sorted
      hascending
    exact c.window.sorted_perm.trans hsame
  have hranks := htells.ranks
  rw [hsorted] at hranks
  have hmedian : 10000000 = picked .p50 := Option.some.inj hranks.p50
  have hhighest : 15000000 = picked .p999 := Option.some.inj hranks.p999
  refine ⟨hsome, hperm, ?_, ?_, ?_, hreported, haverage⟩
  · rw [htells.reported, hmedian]
  · rw [htells.reported, hhighest]
  · rw [hmedian]
    exact htells.latencies.p50

end AccessControl
