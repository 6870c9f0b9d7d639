import Std.Data.String.ToNat
import AccessControl.Proofs.CheckCounts
import AccessControl.Proofs.ExpositionLines
import AccessControl.Proofs.LatencyHistory

/-!
# What a monitoring system learns

The exposition of a report is read back as eleven series, and the values of those that count checks
are the counters themselves, each reason under its own label. Of a collector that was told of fewer
checks than a counter can count, a reader learns how the checks since the last reset came out, and
that their parts add up. Main statement: `values_readBack`.
-/

set_option autoImplicit false

namespace AccessControl

/-! ## Outcomes that a collector is told of -/

namespace Collector

def Call.outcome? : Call → Option (Option Denial)
  | .record denial _ => some denial
  | .reset => none

/-- How the checks recorded since the last reset came out, in order of recording. -/
def outcomes (calls : List Call) : List (Option Denial) :=
  (calls.rtakeWhile (·.outcome?.isSome)).filterMap Call.outcome?

/-- A record adds its outcome behind the others. -/
theorem outcomes_snoc_record (calls : List Call) (denial : Option Denial) (latency : Latency) :
    outcomes (calls ++ [.record denial latency]) = outcomes calls ++ [denial] := by
  unfold outcomes
  rw [List.rtakeWhile_concat_pos _ _ _ rfl, List.filterMap_append]
  rfl

/-- A reset forgets all outcomes. -/
theorem outcomes_snoc_reset (calls : List Call) : outcomes (calls ++ [.reset]) = [] := by
  unfold outcomes
  rw [List.rtakeWhile_concat_neg _ _ _ Bool.false_ne_true, List.filterMap_nil]

/-- There are no more outcomes since the last reset than records in the whole run. -/
theorem length_outcomes_le (calls : List Call) :
    (outcomes calls).length ≤ calls.countP (·.outcome?.isSome) := by
  unfold outcomes
  rw [List.length_filterMap_eq_countP]
  exact (List.rtakeWhile_suffix _ _).sublist.countP_le

/-- One call after another, the counters tell of the checks recorded since the last reset. -/
theorem tell_after (n : Nat) (calls : List Call)
    (hfew : calls.countP (·.outcome?.isSome) < UInt64.size) :
    ((ofCapacity n).after calls).counters.Tell (outcomes calls) := by
  -- The bound on the whole run is one on each of its beginnings, so no counter wraps on the way.
  induction calls using List.reverseRecOn with
  | nil => exact Counters.tell_zero
  | append_singleton calls call ih =>
      rw [List.countP_append, List.countP_singleton] at hfew
      have htell := ih (by omega)
      have hlength := length_outcomes_le calls
      rw [after_snoc]
      cases call with
      | record denial latency =>
          rw [outcomes_snoc_record]
          have hone : (Call.record denial latency).outcome?.isSome = true := rfl
          rw [if_pos hone] at hfew
          exact Counters.tell_count _ _ _ (by omega) htell
      | reset =>
          rw [outcomes_snoc_reset]
          exact Counters.tell_zero

/-- A report tells of the checks recorded since the last reset. -/
theorem tell_report_after (n : Nat) (calls : List Call)
    (hfew : calls.countP (·.outcome?.isSome) < UInt64.size) :
    ((ofCapacity n).after calls).report.counters.Tell (outcomes calls) := by
  unfold report
  rw [Report.counters_ofWindow]
  exact tell_after n calls hfew

end Collector

/-- Checks are denied for reasons with one label exactly if they are counted by one counter. -/
theorem Denial.any_label_eq (outcome : Option Denial) (reason : Denial) :
    outcome.any (·.label = reason.label) =
      match reason with
      | .unauthenticated => outcome == some .unauthenticated
      | .noPolicyRegistered _ => outcome.any Denial.isNoPolicyRegistered
      | .noMatchingRule => outcome == some .noMatchingRule
      | .contextUnavailable => outcome == some .contextUnavailable := by
  cases outcome with
  | none => cases reason <;> rfl
  | some denial => cases denial <;> cases reason <;> rfl

/-- The number of checks that were denied under the label of a reason. -/
def Denial.countUnder (reason : Denial) (outcomes : List (Option Denial)) : Nat :=
  outcomes.countP fun outcome => outcome.any (·.label = reason.label)

/-- The counter of a reason counts the checks that were denied under the label of that reason. -/
theorem Counters.Tell.toNat_deniedFor {c : Counters} {outcomes : List (Option Denial)}
    (h : c.Tell outcomes) (reason : Denial) :
    (c.deniedFor reason).toNat = reason.countUnder outcomes := by
  simp only [Denial.countUnder, Denial.any_label_eq]
  cases reason with
  | unauthenticated => exact h.unauthenticated
  | noPolicyRegistered t => exact h.missingPolicy
  | noMatchingRule => exact h.noMatchingRule
  | contextUnavailable => exact h.contextFailures

/-- Each check was allowed, or denied under one of the four labels. -/
theorem Denial.length_eq_sum_labels (outcomes : List (Option Denial)) (t : EntityType) :
    outcomes.length = outcomes.count none +
      (countUnder .unauthenticated outcomes + countUnder (.noPolicyRegistered t) outcomes +
        countUnder .noMatchingRule outcomes + countUnder .contextUnavailable outcomes) := by
  simp only [countUnder, any_label_eq]
  rw [Counters.length_eq_allowed_add_denied, Counters.countP_isSome_eq_sum]
  rfl

namespace Exposition

/-! ## The families of a report -/

/-- A text made of characters of numbers can be a value. -/
theorem canValue_of_all (text : String) (h : text.toList.all Decimal.isNumberChar = true) :
    CanValue text := by
  rw [List.all_eq_true] at h
  exact ⟨fun hmem => absurd (h _ hmem) (by decide), fun hmem => absurd (h _ hmem) (by decide)⟩

/-- Whatever a latency comes to, its text can be a value. -/
theorem canValue_floatText (x : Float) : CanValue (Decimal.floatText x) :=
  canValue_of_all _ (Decimal.all_floatText x)

/-- A counter can be a value. -/
theorem canValue_toString (n : UInt64) : CanValue (toString n) := by
  have hdigits : (toString n).toList = Nat.toDigits 10 n.toNat := Nat.toList_repr
  apply canValue_of_all
  rw [hdigits]
  exact Decimal.all_toDigits n.toNat

/-- The names of the series of every exposition. -/
def seriesNames : List String :=
  ["authz_requests_total",
    "authz_allowed_total",
    "authz_denied_total\x7breason=\"unauthenticated\"\x7d",
    "authz_denied_total\x7breason=\"no_policy_registered\"\x7d",
    "authz_denied_total\x7breason=\"no_matching_rule\"\x7d",
    "authz_denied_total\x7breason=\"context_unavailable\"\x7d",
    "authz_latency_seconds\x7bquantile=\"0.5\"\x7d",
    "authz_latency_seconds\x7bquantile=\"0.9\"\x7d",
    "authz_latency_seconds\x7bquantile=\"0.95\"\x7d",
    "authz_latency_seconds\x7bquantile=\"0.99\"\x7d",
    "authz_latency_seconds\x7bquantile=\"0.999\"\x7d"]

/-- Every report has the same names of series, in the same order. -/
theorem names_families (r : Report) : (families r).flatMap Family.names = seriesNames := rfl

/-- No comment of a report breaks its line. -/
theorem newline_not_mem_comments (r : Report) :
    ∀ f ∈ families r, '\n' ∉ (f.name ++ f.help ++ f.kind).toList := by
  simp only [families, requests, allowed, denied, latencies, List.forall_mem_cons]
  decide +kernel

/-- The names of the series can be names. -/
theorem canName_of_mem_seriesNames : ∀ name ∈ seriesNames, CanName name := by
  decide +kernel

/-- The values of a report can be values. -/
theorem canValue_of_mem_families (r : Report) :
    ∀ f ∈ families r, ∀ s ∈ f.series, CanValue s.value := by
  simp only [families, List.forall_mem_cons]
  refine ⟨?_, ?_, ?_, ?_, fun _ hnil => absurd hnil List.not_mem_nil⟩
  · exact List.forall_mem_singleton.mpr (canValue_toString _)
  · exact List.forall_mem_singleton.mpr (canValue_toString _)
  · simp only [denied, deniedSeries, List.forall_mem_cons]
    exact ⟨canValue_toString _, canValue_toString _, canValue_toString _, canValue_toString _,
      fun _ hnil => absurd hnil List.not_mem_nil⟩
  · unfold latencies
    rw [List.forall_mem_map]
    exact fun q _ => canValue_floatText _

/-- The families of a report can be read back. -/
theorem readable_of_mem_families (r : Report) (f : Family) (hf : f ∈ families r) :
    f.Readable where
  comments := newline_not_mem_comments r f hf
  names := by
    intro name hname
    apply canName_of_mem_seriesNames
    rw [← names_families r]
    exact List.mem_flatMap.mpr ⟨f, hf, hname⟩
  values := canValue_of_mem_families r f hf

/-- A reader finds the names of the series of every exposition. -/
theorem map_fst_read_text (r : Report) :
    (read (text (families r))).map Prod.fst = seriesNames := by
  rw [read_text _ (readable_of_mem_families r)]
  rfl

/-! ## The counters of a report -/

/-- The number that a text gives for a series. -/
def value? (text name : String) : Option Nat :=
  ((read text).lookup name).bind String.toNat?

/-- The name of the series that counts the checks denied for a reason. -/
def deniedName (reason : Denial) : String :=
  "authz_denied_total\x7breason=\"" ++ reason.label ++ "\"\x7d"

section

variable (r : Report)

/-- A reader finds the value that the families of a report list under a name. -/
theorem value?_text (name : String) :
    value? (text (families r)) name =
      (((families r).flatMap Family.listing).lookup name).bind String.toNat? := by
  rw [value?, read_text _ (readable_of_mem_families r)]

/-- The first series counts all checks. -/
theorem value?_requests :
    value? (text (families r)) "authz_requests_total" = some r.counters.total.toNat := by
  rw [value?_text]
  exact Nat.toNat?_repr _

/-- The second series counts the checks allowed. -/
theorem value?_allowed :
    value? (text (families r)) "authz_allowed_total" = some r.counters.allowed.toNat := by
  rw [value?_text]
  exact Nat.toNat?_repr _

/-- The series of a reason counts the checks denied for it. -/
theorem value?_denied (reason : Denial) :
    value? (text (families r)) (deniedName reason) =
      some (r.counters.deniedFor reason).toNat := by
  rw [value?_text]
  cases reason <;> exact Nat.toNat?_repr _

end

/-- What a text shows of counters: it lists eleven series, no two of one name, and gives for those
that count checks the counters themselves, every reason under its own label. -/
structure ShowsCounters (c : Counters) (shown : String) : Prop where
  eleven : ((read shown).map Prod.fst).length = 11
  distinct : ((read shown).map Prod.fst).Nodup
  total : value? shown "authz_requests_total" = some c.total.toNat
  allowed : value? shown "authz_allowed_total" = some c.allowed.toNat
  unauthenticated : value? shown (deniedName .unauthenticated) = some c.unauthenticated.toNat
  missingPolicy : ∀ t, value? shown (deniedName (.noPolicyRegistered t)) =
    some c.missingPolicy.toNat
  noMatchingRule : value? shown (deniedName .noMatchingRule) = some c.noMatchingRule.toNat
  contextFailures : value? shown (deniedName .contextUnavailable) = some c.contextFailures.toNat

/-- What a text shows of checks: their number, the number of those allowed, and for each reason the
number of those denied under its label. The checks allowed and the checks denied for the four reasons
add up to all. -/
structure ShowsOutcomes (outcomes : List (Option Denial)) (shown : String) : Prop where
  total : value? shown "authz_requests_total" = some outcomes.length
  allowed : value? shown "authz_allowed_total" = some (outcomes.count none)
  denied : ∀ reason, value? shown (deniedName reason) = some (Denial.countUnder reason outcomes)
  sum : ∀ t, outcomes.length = outcomes.count none +
    (Denial.countUnder .unauthenticated outcomes +
      Denial.countUnder (.noPolicyRegistered t) outcomes +
      Denial.countUnder .noMatchingRule outcomes + Denial.countUnder .contextUnavailable outcomes)

/-- Any report can be read back. -/
theorem showsCounters_text (r : Report) : ShowsCounters r.counters (text (families r)) where
  eleven := by
    rw [map_fst_read_text]
    rfl
  distinct := by
    rw [map_fst_read_text]
    decide +kernel
  total := value?_requests r
  allowed := value?_allowed r
  unauthenticated := value?_denied r .unauthenticated
  missingPolicy t := value?_denied r (.noPolicyRegistered t)
  noMatchingRule := value?_denied r .noMatchingRule
  contextFailures := value?_denied r .contextUnavailable

/-- Where the counters tell of the outcomes of some checks, so does what is shown. -/
theorem showsOutcomes_text (r : Report) (outcomes : List (Option Denial))
    (h : r.counters.Tell outcomes) : ShowsOutcomes outcomes (text (families r)) where
  total := by
    rw [← h.total]
    exact value?_requests r
  allowed := by
    rw [← h.allowed]
    exact value?_allowed r
  denied reason := by
    rw [← h.toNat_deniedFor reason]
    exact value?_denied r reason
  sum := Denial.length_eq_sum_labels outcomes

/-- The exposition of any report shows its counters. After fewer records than a counter can count,
mixed with resets, it shows the outcomes of the checks since the last reset. -/
theorem values_readBack :
    (∀ r : Report, ShowsCounters r.counters (text (families r))) ∧
    ∀ (n : Nat) (calls : List Collector.Call),
      calls.countP (·.outcome?.isSome) < UInt64.size →
      ShowsOutcomes (Collector.outcomes calls)
        (text (families ((Collector.ofCapacity n).after calls).report)) := by
  refine ⟨showsCounters_text, ?_⟩
  intro n calls hfew
  exact showsOutcomes_text _ _ (Collector.tell_report_after n calls hfew)

/-- A denial before a reset is forgotten, and the oldest latency gives way, but of the three checks
since then every one is told of, under its own name. -/
theorem values_readBack_reset :
    let calls : List Collector.Call :=
      [.record (some .unauthenticated) 5, .reset, .record none 1,
        .record (some (.noPolicyRegistered .media)) 2, .record (some .contextUnavailable) 3]
    let shown := text (families ((Collector.ofCapacity 2).after calls).report)
    calls.countP (·.outcome?.isSome) < UInt64.size ∧
      value? shown "authz_requests_total" = some 3 ∧
      value? shown "authz_allowed_total" = some 1 ∧
      value? shown (deniedName .unauthenticated) = some 0 ∧
      value? shown (deniedName (.noPolicyRegistered .media)) = some 1 ∧
      value? shown (deniedName .noMatchingRule) = some 0 ∧
      value? shown (deniedName .contextUnavailable) = some 1 := by
  intro calls shown
  have hfew : calls.countP (·.outcome?.isSome) < UInt64.size := by decide
  have hshown := values_readBack.2 2 calls hfew
  exact ⟨hfew, hshown.total, hshown.allowed, hshown.denied .unauthenticated,
    hshown.denied (.noPolicyRegistered .media), hshown.denied .noMatchingRule,
    hshown.denied .contextUnavailable⟩

end Exposition

end AccessControl
