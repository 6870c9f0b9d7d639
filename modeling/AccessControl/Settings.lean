import AccessControl.Fault
import AccessControl.Text.Numeral
import AccessControl.Text.Quoted

/-!
# Settings

Whether metrics are kept, and how to reach the account database. Settings are valid when the pool of
database connections can hold at least one and the number kept open does not exceed the number
allowed.
-/

set_option autoImplicit false

namespace AccessControl

/-- How to reach the account database, and the limits of the pool of connections to it. -/
structure DatabaseSettings where
  url : String
  maxConnections : UInt32
  minConnections : UInt32
  acquireTimeoutSeconds : UInt64
  idleTimeoutSeconds : UInt64
  deriving DecidableEq

/-- The pool with the default limits. -/
def DatabaseSettings.ofUrl (url : String) : DatabaseSettings := ⟨url, 25, 5, 3, 600⟩

/-- What a service is told when it is started. -/
structure Settings where
  metrics : Bool
  database : Option DatabaseSettings
  deriving DecidableEq

/-- The settings of a service that is told nothing: metrics are kept, and there is no database. -/
def Settings.defaults : Settings := ⟨true, none⟩

/-- What can be wrong with settings. -/
inductive SettingsError
  | malformedFlag (name raw : String)
  | malformedNumber (name raw : String) (cause : Text.NumeralError)
  | noConnections
  | minimumAboveMaximum (minimum maximum : UInt32)
  | databaseMissing
  deriving DecidableEq

namespace SettingsError

/-- A malformed value of a variable, shown between quotes as it was given. -/
def malformed (name raw cause : String) : String :=
  name ++ "=" ++ Text.quote raw ++ ": " ++ cause

def message : SettingsError → String
  | .malformedFlag name raw => malformed name raw "provided string was not `true` or `false`"
  | .malformedNumber name raw cause => malformed name raw cause.message
  | .noConnections => "max_connections must be at least 1"
  | .minimumAboveMaximum minimum maximum =>
    "min_connections (" ++ toString minimum ++ ") exceeds max_connections (" ++
      toString maximum ++ ")"
  | .databaseMissing => "DATABASE_URL is not set"

/-- What is wrong with settings, as a fault of the configuration. -/
def fault (e : SettingsError) : Fault := .configuration e.message

end SettingsError

namespace Settings

/-- The settings, if the limits of the database pool agree with each other. -/
def validate (s : Settings) : Except SettingsError Unit :=
  match s.database with
  | none => .ok ()
  | some d =>
    if d.maxConnections = 0 then .error .noConnections
    else if d.maxConnections < d.minConnections then
      .error (.minimumAboveMaximum d.minConnections d.maxConnections)
    else .ok ()

/-- The database to connect to. -/
def requireDatabase (s : Settings) : Except SettingsError DatabaseSettings :=
  match s.database with
  | some d => .ok d
  | none => .error .databaseMissing

end Settings

end AccessControl
