import AccessControl.Json.Reader
import AccessControl.Settings

/-!
# Settings documents

The JSON form of settings. Absent fields take their defaults, except that a database needs its
address; only the database may be null. A document is not checked for conflicts between its values.
-/

set_option autoImplicit false

namespace AccessControl

def DatabaseSettings.toJson (d : DatabaseSettings) : Json :=
  .object
    [("url", .text d.url),
      ("max_connections", .integer d.maxConnections.toNat),
      ("min_connections", .integer d.minConnections.toNat),
      ("acquire_timeout_secs", .integer d.acquireTimeoutSeconds.toNat),
      ("idle_timeout_secs", .integer d.idleTimeoutSeconds.toNat)]

def DatabaseSettings.ofJson? (value : Json) : Option DatabaseSettings := do
  let [url, max, min, acquire, idle] ← value.fields?
    ["url", "max_connections", "min_connections", "acquire_timeout_secs", "idle_timeout_secs"] 1
    | none
  let pool := DatabaseSettings.ofUrl (← Json.required? Json.asText? url)
  let asUInt32? := fun (v : Json) => (v.asBelow? UInt32.size).map UInt32.ofNat
  return {
    url := pool.url
    maxConnections := ← Json.defaulted? pool.maxConnections asUInt32? max
    minConnections := ← Json.defaulted? pool.minConnections asUInt32? min
    acquireTimeoutSeconds := ← Json.defaulted? pool.acquireTimeoutSeconds Json.asUInt64? acquire
    idleTimeoutSeconds := ← Json.defaulted? pool.idleTimeoutSeconds Json.asUInt64? idle }

namespace Settings

def toJson (s : Settings) : Json :=
  .object
    [("enable_metrics", .bool s.metrics),
      ("database", Json.ofOption DatabaseSettings.toJson s.database)]

def ofJson? (value : Json) : Option Settings := do
  let [metrics, database] ← value.fields? ["enable_metrics", "database"] 0
    | none
  return {
    metrics := ← Json.defaulted? Settings.defaults.metrics Json.asBool? metrics
    database := ← Json.optional? DatabaseSettings.ofJson? database }

def ofText? (text : String) : Option Settings := do
  ofJson? (← Json.ofString? text)

end Settings

end AccessControl
