import AccessControl.Settings
import AccessControl.Text.Blank

/-!
# Settings from the environment

Settings are read from named variables, each a text or absent. Blanks around a value are ignored,
and a database address that is blank counts as absent. The variables for the pool are looked at only
where there is an address. The first malformed variable is reported, and a conflict between values
only when no variable is malformed.
-/

set_option autoImplicit false

namespace AccessControl.Settings

def metricsVariable : String := "AUTHZ_ENABLE_METRICS"

def urlVariable : String := "DATABASE_URL"

def maxConnectionsVariable : String := "AUTHZ_DB_MAX_CONNECTIONS"

def minConnectionsVariable : String := "AUTHZ_DB_MIN_CONNECTIONS"

def acquireTimeoutVariable : String := "AUTHZ_DB_ACQUIRE_TIMEOUT_SECS"

def idleTimeoutVariable : String := "AUTHZ_DB_IDLE_TIMEOUT_SECS"

/-- Named variables, each a text or absent. -/
abbrev Variables := String → Option String

/-- The truth value of a variable, or the fallback where it is absent. -/
def readFlag (env : Variables) (name : String) (fallback : Bool) : Except SettingsError Bool :=
  match env name with
  | none => .ok fallback
  | some raw =>
    let value := Text.trim raw.toList
    if value = "true".toList then .ok true
    else if value = "false".toList then .ok false
    else .error (.malformedFlag name raw)

/-- The number below `bound` of a variable, or the fallback where it is absent. -/
def readNumber (bound : Nat) (env : Variables) (name : String) (fallback : Nat) :
    Except SettingsError Nat :=
  match env name with
  | none => .ok fallback
  | some raw =>
    match Text.readUnsigned bound (Text.trim raw.toList) with
    | .ok n => .ok n
    | .error cause => .error (.malformedNumber name raw cause)

/-- The pool for an address, with the limits that the variables give. -/
def readPool (env : Variables) (url : String) : Except SettingsError DatabaseSettings := do
  let pool := DatabaseSettings.ofUrl url
  let max ← readNumber UInt32.size env maxConnectionsVariable pool.maxConnections.toNat
  let min ← readNumber UInt32.size env minConnectionsVariable pool.minConnections.toNat
  let acquire ← readNumber UInt64.size env acquireTimeoutVariable pool.acquireTimeoutSeconds.toNat
  let idle ← readNumber UInt64.size env idleTimeoutVariable pool.idleTimeoutSeconds.toNat
  return ⟨url, UInt32.ofNat max, UInt32.ofNat min, UInt64.ofNat acquire, UInt64.ofNat idle⟩

/-- The address of the database, unless it is absent or blank. It keeps the blanks around it. -/
def databaseUrl? (env : Variables) : Option String :=
  (env urlVariable).filter fun url => !(Text.trim url.toList).isEmpty

/-- The settings that the variables give, before their values are checked against each other. -/
def readVariables (env : Variables) : Except SettingsError Settings := do
  let metrics ← readFlag env metricsVariable Settings.defaults.metrics
  match databaseUrl? env with
  | none => return ⟨metrics, none⟩
  | some url => return ⟨metrics, some (← readPool env url)⟩

/-- The settings that the variables give, if they are valid. -/
def ofVariables (env : Variables) : Except SettingsError Settings := do
  let settings ← readVariables env
  settings.validate
  return settings

end AccessControl.Settings
