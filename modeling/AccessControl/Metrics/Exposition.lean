import AccessControl.Decimal.Positional
import AccessControl.Metrics.Collector

/-!
# Exposition

The text in which a monitoring system reads metrics: families of series, each family with its help
and its type, each series with a name, possibly a label, and a value. Latencies are given in
seconds.
-/

set_option autoImplicit false

namespace AccessControl.Exposition

/-- One value of a family, with at most one label. -/
structure Series where
  label : Option (String × String)
  value : String
  deriving DecidableEq

/-- Series under one name, with what is said of all of them. -/
structure Family where
  name : String
  help : String
  kind : String
  series : List Series
  deriving DecidableEq

/-- The name of a series: that of its family, with the label in braces behind it. -/
def Series.identity (s : Series) (family : String) : String :=
  match s.label with
  | none => family
  | some (key, value) => family ++ "\x7b" ++ key ++ "=\"" ++ value ++ "\"\x7d"

def Series.line (s : Series) (family : String) : String :=
  s.identity family ++ " " ++ s.value ++ "\n"

def Family.text (f : Family) : String :=
  "# HELP " ++ f.name ++ " " ++ f.help ++ "\n" ++
    "# TYPE " ++ f.name ++ " " ++ f.kind ++ "\n" ++ String.join (f.series.map (·.line f.name))

/-- The family with every value hidden behind a star. -/
def Family.masked (f : Family) : Family :=
  { f with series := f.series.map fun s => { s with value := "*" } }

/-- The text of families, separated by empty lines. -/
def text (families : List Family) : String :=
  "\n".intercalate (families.map Family.text)

def requests (c : Counters) : Family where
  name := "authz_requests_total"
  help := "Total number of authorization requests"
  kind := "counter"
  series := [⟨none, toString c.total⟩]

def allowed (c : Counters) : Family where
  name := "authz_allowed_total"
  help := "Number of allowed decisions"
  kind := "counter"
  series := [⟨none, toString c.allowed⟩]

/-- The number of checks that were denied, for one reason. -/
def deniedSeries (label : String) (count : UInt64) : Series :=
  ⟨some ("reason", label), toString count⟩

/-- The numbers of checks that were denied, by reason. -/
def denied (c : Counters) : Family where
  name := "authz_denied_total"
  help := "Number of denied decisions by reason"
  kind := "counter"
  series :=
    [deniedSeries "unauthenticated" c.unauthenticated,
      deniedSeries "no_policy_registered" c.missingPolicy,
      deniedSeries "no_matching_rule" c.noMatchingRule,
      deniedSeries "context_unavailable" c.contextFailures]

def latencies (quantile : Quantile → Float) : Family where
  name := "authz_latency_seconds"
  help := "Request latency percentiles"
  kind := "summary"
  series := Quantile.all.map fun q =>
    ⟨some ("quantile", q.label), Decimal.floatText (quantile q / 1000)⟩

/-- Everything that a report has to say. -/
def families (r : Report) : List Family :=
  [requests r.counters, allowed r.counters, denied r.counters, latencies r.quantile]

/-- Everything that a report has to say, with the measured latencies hidden. -/
def maskedFamilies (r : Report) : List Family :=
  [requests r.counters, allowed r.counters, denied r.counters, (latencies r.quantile).masked]

end AccessControl.Exposition
