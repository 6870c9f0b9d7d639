/-!
# Faults

What can go wrong outside the rules: bad input, the account database, the configuration, or the
program itself. A fault carries the account of whoever noticed it.
-/

set_option autoImplicit false

namespace AccessControl

/-- A failure that is reported with a message. -/
inductive Fault
  | invalidInput (details : String)
  | database (details : String)
  | configuration (details : String)
  | internal (details : String)
  deriving DecidableEq

namespace Fault

/-- The name of the kind of a fault. -/
def kind : Fault → String
  | .invalidInput _ => "InvalidInput"
  | .database _ => "DatabaseError"
  | .configuration _ => "Configuration"
  | .internal _ => "Internal"

/-- The fault of a kind, named with letter case included. -/
def ofKind? (kind : String) (details : String) : Option Fault :=
  [.invalidInput details, .database details, .configuration details, .internal details].find?
    fun fault => fault.kind == kind

def message : Fault → String
  | .invalidInput details => "Invalid input: " ++ details
  | .database details => "Database error: " ++ details
  | .configuration details => "Configuration error: " ++ details
  | .internal details => "Internal error: " ++ details

end Fault

end AccessControl
