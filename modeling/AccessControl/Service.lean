import AccessControl.Metrics.Collector
import AccessControl.Metrics.Exposition
import AccessControl.Settings

/-!
# Services

An access-control service: settings, the policies in force and, where the settings ask for it, a
collector of metrics. A check reads its context from the source it is given, keeps nothing of it,
and touches only the collector.
-/

set_option autoImplicit false

namespace AccessControl

/-- A service with its policies and its metrics. -/
structure Service where
  settings : Settings
  registry : Registry
  collector : Option Collector

namespace Service

def version : String := "0.1.0"

def start (settings : Settings) (registry : Registry) : Service where
  settings := settings
  registry := registry
  collector := if settings.metrics then some (.ofCapacity Collector.defaultCapacity) else none

/-- The service after a check that came to a decision within some time. -/
def recorded (s : Service) (decision : Decision) (elapsed : Latency) : Service :=
  { s with collector := s.collector.map (·.record decision.denial? elapsed) }

/-- The check whether an actor may perform an action on a subject. -/
def authorize (s : Service) (source : Source) (actor : Actor) (action : String) (subject : Subject)
    (elapsed : Latency) : Ruling × Service :=
  let ruling := s.registry.judge source actor action subject
  (ruling, s.recorded ruling.decision elapsed)

/-- The check whether an actor may perform any of some actions on a subject. -/
def canAny (s : Service) (source : Source) (actor : Actor) (actions : List String)
    (subject : Subject) (elapsed : Latency) : Ruling × Service :=
  let ruling := s.registry.judgeAny source actor actions subject
  (ruling, s.recorded ruling.decision elapsed)

/-- The tokens of an actor; a request that does not tell who asks has none. -/
def permissions (source : Source) (actor : Actor) : Except Fault TokenSet :=
  match actor.user with
  | some user => source.tokens user
  | none => .ok ∅

/-- The report on the checks since the last reset. -/
def report? (s : Service) : Option Report :=
  s.collector.map (·.report)

/-- The report as the text that a monitoring system reads. -/
def exposition? (s : Service) : Option String :=
  s.report?.map fun r => Exposition.text (Exposition.families r)

def resetMetrics (s : Service) : Service :=
  { s with collector := s.collector.map (·.reset) }

end Service

end AccessControl
