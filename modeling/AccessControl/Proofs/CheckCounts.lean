import Mathlib.Data.List.DropRight
import Mathlib.Data.List.Induction
import AccessControl.Deployment

/-!
# Every check is counted once

A service that keeps metrics counts its checks by what they came to, and a reset starts the count
again. Counters are 64-bit numbers, and none of them overflows in a run with no more checks than
such a number can count. Main statement: `counters_after`, the counters of a service are the numbers
of decisions that it has told its callers since the last reset, so the parts add up to the total.
-/

set_option autoImplicit false

namespace AccessControl

/-! ## Counters -/

/-- Whether the reason is that a type has no policy, whichever type it is. -/
def Denial.isNoPolicyRegistered : Denial → Bool
  | .noPolicyRegistered _ => true
  | _ => false

namespace Counters

/-- The counters tell, of a list of checks that each were denied for a reason or else allowed, how
many there were and how many came to what. -/
structure Tell (c : Counters) (outcomes : List (Option Denial)) : Prop where
  total : c.total.toNat = outcomes.length
  allowed : c.allowed.toNat = outcomes.count none
  denied : c.denied.toNat = outcomes.countP Option.isSome
  unauthenticated : c.unauthenticated.toNat = outcomes.count (some .unauthenticated)
  missingPolicy : c.missingPolicy.toNat =
    outcomes.countP fun outcome => outcome.any Denial.isNoPolicyRegistered
  noMatchingRule : c.noMatchingRule.toNat = outcomes.count (some .noMatchingRule)
  contextFailures : c.contextFailures.toNat = outcomes.count (some .contextUnavailable)

/-- Before any check all counters are zero. -/
theorem tell_zero : zero.Tell [] :=
  ⟨rfl, rfl, rfl, rfl, rfl, rfl, rfl⟩

/-- A counter after one more check, which it is meant to count or not. -/
def bump (counts : Bool) (n : UInt64) : UInt64 :=
  if counts then n + 1 else n

/-- One more check is counted in the total, among the allowed or the denied ones, and under its
reason if it was denied. -/
theorem count_eq (c : Counters) (outcome : Option Denial) :
    c.count outcome =
      ⟨bump true c.total, bump (outcome == none) c.allowed, bump outcome.isSome c.denied,
        bump (outcome == some .unauthenticated) c.unauthenticated,
        bump (outcome.any Denial.isNoPolicyRegistered) c.missingPolicy,
        bump (outcome == some .noMatchingRule) c.noMatchingRule,
        bump (outcome == some .contextUnavailable) c.contextFailures⟩ := by
  cases outcome with
  | none => rfl
  | some reason => cases reason <;> rfl

/-- A counter that has counted what it is meant to count does so once more, without overflow. -/
theorem toNat_bump (n : UInt64) (outcomes : List (Option Denial)) (outcome : Option Denial)
    (counts : Option Denial → Bool) (hfew : outcomes.length + 1 < UInt64.size)
    (h : n.toNat = outcomes.countP counts) :
    (bump (counts outcome) n).toNat = (outcomes ++ [outcome]).countP counts := by
  have hle := List.countP_le_length (p := counts) (l := outcomes)
  have hone : (1 : UInt64).toNat = 1 := rfl
  unfold UInt64.size at hfew
  rw [List.countP_append, List.countP_singleton, bump]
  split
  · rw [UInt64.toNat_add, hone]
    omega
  · exact h

/-- Counting one more check keeps the counters true, as long as there is room for it. -/
theorem tell_count (c : Counters) (outcomes : List (Option Denial)) (outcome : Option Denial)
    (hfew : outcomes.length + 1 < UInt64.size) (h : c.Tell outcomes) :
    (c.count outcome).Tell (outcomes ++ [outcome]) := by
  have hnext (n : UInt64) (counts : Option Denial → Bool) (hn : n.toNat = outcomes.countP counts) :=
    toNat_bump n outcomes outcome counts hfew hn
  have htotal := hnext c.total (fun _ => true) (by rw [h.total, List.countP_true])
  rw [List.countP_true] at htotal
  rw [count_eq]
  exact ⟨htotal, hnext _ _ h.allowed, hnext _ _ h.denied, hnext _ _ h.unauthenticated,
    hnext _ _ h.missingPolicy, hnext _ _ h.noMatchingRule, hnext _ _ h.contextFailures⟩

/-- Every check was allowed or denied. -/
theorem length_eq_allowed_add_denied (outcomes : List (Option Denial)) :
    outcomes.length = outcomes.count none + outcomes.countP Option.isSome := by
  induction outcomes with
  | nil => rfl
  | cons outcome outcomes ih => cases outcome <;> simp [ih] <;> omega

/-- Each denial has one of four reasons. -/
theorem countP_isSome_eq_sum (outcomes : List (Option Denial)) :
    outcomes.countP Option.isSome =
      outcomes.count (some .unauthenticated) +
        (outcomes.countP fun outcome => outcome.any Denial.isNoPolicyRegistered) +
        outcomes.count (some .noMatchingRule) + outcomes.count (some .contextUnavailable) := by
  induction outcomes with
  | nil => rfl
  | cons outcome outcomes ih =>
      cases outcome with
      | none => simpa using ih
      | some reason =>
          cases reason <;> simp [ih, List.countP_cons, Denial.isNoPolicyRegistered] <;> omega

namespace Tell

variable {c : Counters} {outcomes : List (Option Denial)}

/-- The checks allowed and the checks denied add up to all. -/
theorem toNat_total_eq (h : c.Tell outcomes) :
    c.total.toNat = c.allowed.toNat + c.denied.toNat := by
  rw [h.total, h.allowed, h.denied]
  exact length_eq_allowed_add_denied outcomes

/-- The checks denied for the four reasons add up to all that were denied. -/
theorem toNat_denied_eq (h : c.Tell outcomes) :
    c.denied.toNat = c.unauthenticated.toNat + c.missingPolicy.toNat + c.noMatchingRule.toNat +
      c.contextFailures.toNat := by
  rw [h.denied, h.unauthenticated, h.missingPolicy, h.noMatchingRule, h.contextFailures]
  exact countP_isSome_eq_sum outcomes

/-- The sum of the allowed and the denied checks does not overflow. -/
theorem decided?_eq_total (h : c.Tell outcomes) : c.decided? = some c.total := by
  have htotal := h.toNat_total_eq
  have hlt : c.total.toNat < UInt64.size := c.total.toNat_lt
  have hsum : c.allowed + c.denied = c.total := by
    apply UInt64.toNat_inj.mp
    rw [UInt64.toNat_add, ← htotal]
    exact Nat.mod_eq_of_lt hlt
  rw [decided?, if_pos (htotal ▸ hlt), hsum]

end Tell

end Counters

/-! ## Runs of a service -/

namespace Request

/-- Whether the request is for a check, of one action or of several. -/
def isCheck : Request → Bool
  | .ask _ (.authorize _ _) => true
  | .ask _ (.canAny _ _) => true
  | _ => false

def isReset : Request → Bool
  | .resetMetrics => true
  | _ => false

end Request

def Answer.decision? : Answer → Option Decision
  | .ruling r => some r.decision
  | _ => none

/-- A request and the answer to it. -/
structure Exchange where
  request : Request
  answer : Answer

/-- The exchanges after the last reset. -/
def sinceReset (exchanges : List Exchange) : List Exchange :=
  exchanges.rtakeWhile fun x => !x.request.isReset

/-- The decisions that callers have been told. -/
def decisions (exchanges : List Exchange) : List Decision :=
  exchanges.filterMap (·.answer.decision?)

namespace Service

/-- A request made of a service, with where tokens and memberships are read at that time, and how
long the answer takes. -/
structure Call where
  source : Source
  request : Request
  elapsed : Latency

def exchange (s : Service) (call : Call) : Exchange :=
  ⟨call.request, (s.serve call.source call.elapsed call.request).1⟩

/-- The service after a call. -/
def step (s : Service) (call : Call) : Service :=
  (s.serve call.source call.elapsed call.request).2

/-- The service after some calls. -/
def after (s : Service) (calls : List Call) : Service :=
  calls.foldl step s

/-- What is said in a run. -/
def exchanges (s : Service) : List Call → List Exchange
  | [] => []
  | call :: calls => s.exchange call :: (s.step call).exchanges calls

/-- A call is a check, whose decision is recorded, or a reset, or it leaves the service alone. -/
theorem step_cases (s : Service) (call : Call) :
    (call.request.isCheck = true ∧ call.request.isReset = false ∧
      ∃ decision, (s.exchange call).answer.decision? = some decision ∧
        s.step call = s.recorded decision call.elapsed) ∨
    (call.request.isCheck = false ∧ call.request.isReset = true ∧
      (s.exchange call).answer.decision? = none ∧ s.step call = s.resetMetrics) ∨
    (call.request.isCheck = false ∧ call.request.isReset = false ∧
      (s.exchange call).answer.decision? = none ∧ s.step call = s) := by
  obtain ⟨source, request, elapsed⟩ := call
  cases request with
  | ask actor question =>
      cases question with
      | authorize action subject => exact Or.inl ⟨rfl, rfl, _, rfl, rfl⟩
      | canAny actions subject => exact Or.inl ⟨rfl, rfl, _, rfl, rfl⟩
      | permissions => exact Or.inr (Or.inr ⟨rfl, rfl, rfl, rfl⟩)
  | metrics => exact Or.inr (Or.inr ⟨rfl, rfl, rfl, rfl⟩)
  | exportMetrics => exact Or.inr (Or.inr ⟨rfl, rfl, rfl, rfl⟩)
  | resetMetrics => exact Or.inr (Or.inl ⟨rfl, rfl, rfl, rfl⟩)

/-- A reset is the only thing that a reset does. -/
theorem step_of_isReset (s : Service) (call : Call) (hreset : call.request.isReset = true) :
    s.step call = s.resetMetrics := by
  rcases s.step_cases call with ⟨-, hother, -⟩ | ⟨-, -, -, hstep⟩ | ⟨-, hother, -⟩
  · simp [hreset] at hother
  · exact hstep
  · simp [hreset] at hother

/-- What is neither a check nor a reset leaves the service as it is. -/
theorem step_of_quiet (s : Service) (call : Call) (hcheck : call.request.isCheck = false)
    (hreset : call.request.isReset = false) : s.step call = s := by
  rcases s.step_cases call with ⟨hother, -⟩ | ⟨-, hother, -⟩ | ⟨-, -, -, hstep⟩
  · simp [hcheck] at hother
  · simp [hreset] at hother
  · exact hstep

/-- The last exchange starts where the calls before it have led. -/
theorem exchanges_snoc (s : Service) (calls : List Call) (call : Call) :
    s.exchanges (calls ++ [call]) = s.exchanges calls ++ [(s.after calls).exchange call] := by
  induction calls generalizing s with
  | nil => rfl
  | cons first calls ih =>
      have hrest := ih (s.step first)
      rw [List.cons_append, exchanges, exchanges, hrest]
      rfl

/-- The last call is made to what the calls before it have led to. -/
theorem after_snoc (s : Service) (calls : List Call) (call : Call) :
    s.after (calls ++ [call]) = (s.after calls).step call := by
  unfold after
  rw [List.foldl_append]
  rfl

/-- The exchanges of a run are about its requests. -/
theorem map_request_exchanges (s : Service) (calls : List Call) :
    (s.exchanges calls).map (·.request) = calls.map (·.request) := by
  induction calls generalizing s with
  | nil => rfl
  | cons call calls ih => exact congrArg (call.request :: ·) (ih (s.step call))

/-- A decision is told in answer to a check, and to nothing else. -/
theorem isCheck_of_mem_exchanges (s : Service) (calls : List Call) :
    ∀ x ∈ s.exchanges calls, x.request.isCheck = x.answer.decision?.isSome := by
  induction calls generalizing s with
  | nil => simp [exchanges]
  | cons call calls ih =>
      have hfirst :
          (s.exchange call).request.isCheck = (s.exchange call).answer.decision?.isSome := by
        rcases s.step_cases call with ⟨hcheck, -, decision, htold, -⟩ | ⟨hcheck, -, hnone, -⟩ |
          ⟨hcheck, -, hnone, -⟩
        · exact hcheck.trans (by rw [htold, Option.isSome_some])
        · exact hcheck.trans (by rw [hnone, Option.isSome_none])
        · exact hcheck.trans (by rw [hnone, Option.isSome_none])
      rw [exchanges, List.forall_mem_cons]
      exact ⟨hfirst, ih (s.step call)⟩

/-- There is one decision for each check since the last reset. -/
theorem length_decisions_sinceReset (s : Service) (calls : List Call) :
    (decisions (sinceReset (s.exchanges calls))).length =
      (sinceReset (s.exchanges calls)).countP (·.request.isCheck) := by
  unfold decisions
  rw [List.length_filterMap_eq_countP]
  apply List.countP_congr
  intro x hx
  have hmem : x ∈ s.exchanges calls := (List.rtakeWhile_suffix _ _).subset hx
  rw [s.isCheck_of_mem_exchanges calls x hmem]

/-- There are no more decisions since the last reset than checks in the whole run. -/
theorem length_decisions_sinceReset_le (s : Service) (calls : List Call) :
    (decisions (sinceReset (s.exchanges calls))).length ≤ calls.countP (·.request.isCheck) := by
  have hsublist : (sinceReset (s.exchanges calls)).Sublist (s.exchanges calls) :=
    (List.rtakeWhile_suffix _ _).sublist
  have hcalls : (s.exchanges calls).countP (·.request.isCheck) =
      calls.countP (·.request.isCheck) := by
    have hrequests := congrArg (List.countP Request.isCheck) (s.map_request_exchanges calls)
    rw [List.countP_map, List.countP_map] at hrequests
    exact hrequests
  rw [length_decisions_sinceReset, ← hcalls]
  exact hsublist.countP_le

/-! ## What a run keeps -/

/-- The service has the settings and the policies that it was started with, a window of the default
capacity, and counters that tell of the checks with these outcomes. -/
def Keeps (settings : Settings) (registry : Registry) (outcomes : List (Option Denial))
    (s : Service) : Prop :=
  ∃ counters window, s = ⟨settings, registry, some ⟨counters, window⟩⟩ ∧
    window.capacity = Collector.defaultCapacity ∧ counters.Tell outcomes

section

variable (settings : Settings) (registry : Registry)

/-- With metrics a service starts with a collector of the default capacity. -/
theorem start_eq_of_metrics (hmetrics : settings.metrics = true) :
    start settings registry =
      ⟨settings, registry, some (.ofCapacity Collector.defaultCapacity)⟩ := by
  unfold start
  rw [if_pos hmetrics]

/-- A service that was just started has counted nothing. -/
theorem keeps_start (hmetrics : settings.metrics = true) :
    Keeps settings registry [] (start settings registry) :=
  ⟨.zero, .ofCapacity Collector.defaultCapacity, start_eq_of_metrics settings registry hmetrics,
    rfl, Counters.tell_zero⟩

/-- Recording a decision counts it. -/
theorem keeps_recorded (outcomes : List (Option Denial)) (s : Service) (decision : Decision)
    (elapsed : Latency) (hfew : outcomes.length + 1 < UInt64.size)
    (h : Keeps settings registry outcomes s) :
    Keeps settings registry (outcomes ++ [decision.denial?]) (s.recorded decision elapsed) := by
  obtain ⟨counters, window, rfl, hcapacity, htell⟩ := h
  refine ⟨counters.count decision.denial?, window.push elapsed, rfl, ?_, ?_⟩
  · rw [LatencyWindow.capacity_push, hcapacity]
  · exact Counters.tell_count counters outcomes decision.denial? hfew htell

/-- A reset brings a service back to where it was started. -/
theorem resetMetrics_eq_start (outcomes : List (Option Denial)) (s : Service)
    (hmetrics : settings.metrics = true) (h : Keeps settings registry outcomes s) :
    s.resetMetrics = start settings registry := by
  obtain ⟨counters, window, rfl, hcapacity, -⟩ := h
  have hcleared : window.clear = .ofCapacity Collector.defaultCapacity := by
    unfold LatencyWindow.clear LatencyWindow.ofCapacity
    simp only [hcapacity]
    rfl
  rw [start_eq_of_metrics settings registry hmetrics]
  simp only [resetMetrics, Option.map_some, Collector.reset, hcleared]
  rfl

/-- After a run, the service has counted the decisions since the last reset. -/
theorem keeps_after (hmetrics : settings.metrics = true) (calls : List Call)
    (hfew : calls.countP (·.request.isCheck) < UInt64.size) :
    Keeps settings registry
      ((decisions (sinceReset ((start settings registry).exchanges calls))).map Decision.denial?)
      ((start settings registry).after calls) := by
  induction calls using List.reverseRecOn with
  | nil => exact keeps_start settings registry hmetrics
  | append_singleton calls call ih =>
      rw [List.countP_append, List.countP_singleton] at hfew
      have hkeeps := ih (by omega)
      have hlength := (start settings registry).length_decisions_sinceReset_le calls
      rw [exchanges_snoc, after_snoc]
      generalize (start settings registry).after calls = s at hkeeps ⊢
      generalize (start settings registry).exchanges calls = before at hkeeps hlength ⊢
      have hafter (h : call.request.isReset = false) :
          sinceReset (before ++ [s.exchange call]) = sinceReset before ++ [s.exchange call] :=
        List.rtakeWhile_concat_pos _ _ _ (by simpa [exchange] using h)
      rcases s.step_cases call with ⟨hcheck, hreset, decision, htold, hstep⟩ |
        ⟨hcheck, hreset, hnone, hstep⟩ | ⟨hcheck, hreset, hnone, hstep⟩
      · -- The decision joins those that were told before.
        rw [if_pos hcheck] at hfew
        have htold' : decisions (sinceReset before ++ [s.exchange call]) =
            decisions (sinceReset before) ++ [decision] := by
          simp [decisions, htold]
        rw [hafter hreset, htold', hstep, List.map_append, List.map_singleton]
        apply keeps_recorded settings registry _ s decision call.elapsed _ hkeeps
        rw [List.length_map]
        omega
      · -- Nothing has been told since the reset that has just been made.
        have hnothing : sinceReset (before ++ [s.exchange call]) = [] :=
          List.rtakeWhile_concat_neg _ _ _ (by simpa [exchange] using hreset)
        rw [hnothing, hstep, resetMetrics_eq_start settings registry _ s hmetrics hkeeps]
        exact keeps_start settings registry hmetrics
      · have hsame : decisions (sinceReset before ++ [s.exchange call]) =
            decisions (sinceReset before) := by
          simp [decisions, hnone]
        rw [hafter hreset, hsame, hstep]
        exact hkeeps

/-- What a service has counted is what it reports. -/
theorem report?_of_keeps (outcomes : List (Option Denial)) (s : Service)
    (h : Keeps settings registry outcomes s) :
    ∃ report, s.report? = some report ∧ report.counters.Tell outcomes := by
  obtain ⟨counters, window, rfl, -, htell⟩ := h
  refine ⟨.ofWindow counters window, rfl, ?_⟩
  rw [Report.counters_ofWindow]
  exact htell

end

/-- After any run with fewer checks than a counter can count, the counters of a service tell of
exactly the decisions since the last reset: each check is among the total, among the allowed or the
denied ones, and if denied under its reason. The parts add up to the total, in 64 bits as well.
Requests other than checks and resets leave the service as it was, and a reset makes it what it was
at its start. -/
theorem counters_after (settings : Settings) (registry : Registry)
    (hmetrics : settings.metrics = true) (calls : List Call)
    (hfew : calls.countP (·.request.isCheck) < UInt64.size) :
    let initial := start settings registry
    let recent := sinceReset (initial.exchanges calls)
    ∃ report, (initial.after calls).report? = some report ∧
      let c := report.counters
      c.Tell ((decisions recent).map Decision.denial?) ∧
      c.total.toNat = recent.countP (·.request.isCheck) ∧
      c.total.toNat = c.allowed.toNat + c.denied.toNat ∧
      c.denied.toNat = c.unauthenticated.toNat + c.missingPolicy.toNat + c.noMatchingRule.toNat +
        c.contextFailures.toNat ∧
      c.decided? = some c.total ∧
      (∀ call : Call, call.request.isCheck = false → call.request.isReset = false →
        (initial.after calls).step call = initial.after calls) ∧
      ∀ call : Call, call.request.isReset = true → (initial.after calls).step call = initial := by
  intro initial recent
  have hkeeps := keeps_after settings registry hmetrics calls hfew
  obtain ⟨report, hreport, htell⟩ := report?_of_keeps settings registry _ _ hkeeps
  refine ⟨report, hreport, htell, ?_, htell.toNat_total_eq, htell.toNat_denied_eq,
    htell.decided?_eq_total, ?_, ?_⟩
  · rw [htell.total, List.length_map]
    exact initial.length_decisions_sinceReset calls
  · intro call hcheck hreset
    exact (initial.after calls).step_of_quiet call hcheck hreset
  · intro call hreset
    have hstep := (initial.after calls).step_of_isReset call hreset
    exact hstep.trans (resetMetrics_eq_start settings registry _ _ hmetrics hkeeps)

/-- A reset, then a check of no action at all, one during an outage, one that is allowed, and a look
at the metrics: three checks are counted, two of them as denied, and the one before the reset is not
among them. -/
theorem counters_after_three :
    let source : Source := ⟨fun _ => .ok {"users-manage"}, fun _ => .ok ∅, fun _ _ => .ok ∅⟩
    let down : Source := { source with tokens := fun _ => .error (.database "down") }
    let users : Subject := .wholeType .user
    let calls : List Call :=
      [⟨source, .ask .anonymous (.authorize "read" users), 5⟩,
        ⟨source, .resetMetrics, 5⟩,
        ⟨source, .ask (.authenticated 7) (.canAny [] users), 5⟩,
        ⟨down, .ask (.authenticated 7) (.authorize "create" users), 5⟩,
        ⟨source, .ask (.authenticated 7) (.authorize "create" users), 5⟩,
        ⟨source, .metrics, 5⟩]
    Settings.defaults.metrics = true ∧ calls.countP (·.request.isCheck) < UInt64.size ∧
      ∃ report, ((start .defaults .standard).after calls).report? = some report ∧
        report.counters.total.toNat = 3 ∧ report.counters.allowed.toNat = 1 ∧
        report.counters.denied.toNat = 2 ∧ report.counters.unauthenticated.toNat = 0 ∧
        report.counters.noMatchingRule.toNat = 1 ∧ report.counters.contextFailures.toNat = 1 ∧
        report.counters.decided? = some report.counters.total := by
  intro source down users calls
  have hmetrics : Settings.defaults.metrics = true := rfl
  have hfew : calls.countP (·.request.isCheck) < UInt64.size := by decide
  obtain ⟨report, hreport, htell, -, -, -, hdecided, -⟩ :=
    counters_after .defaults .standard hmetrics calls hfew
  have houtcomes : (decisions (sinceReset ((start .defaults .standard).exchanges calls))).map
      Decision.denial? = [some .noMatchingRule, some .contextUnavailable, none] := by
    decide +kernel
  rw [houtcomes] at htell
  exact ⟨hmetrics, hfew, report, hreport, htell.total, htell.allowed, htell.denied,
    htell.unauthenticated, htell.noMatchingRule, htell.contextFailures, hdecided⟩

end Service

end AccessControl
