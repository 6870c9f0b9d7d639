import AccessControl.Decision
import AccessControl.Record.Document

/-!
# Decision documents

The JSON forms of actors, reasons of denial, decisions, faults and outages.
-/

set_option autoImplicit false

namespace AccessControl

def Actor.toJson (a : Actor) : Json := .object [("user_id", identifierField a.user)]

def Actor.ofJson? (value : Json) : Option Actor := do
  let [user] ← recordFields? ["user_id"] value | none
  return ⟨← optionalIdentifier? user⟩

namespace Denial

def toJson (d : Denial) : Json :=
  match d with
  | .noPolicyRegistered t => .object [("type", .text d.name), ("subject_type", t.toJson)]
  | _ => .object [("type", .text d.name)]

def ofJson? (value : Json) : Option Denial := do
  match ← (← value.member? "type").asText? with
  | "Unauthenticated" => return .unauthenticated
  | "NoPolicyRegistered" =>
    return .noPolicyRegistered (← EntityType.ofJson? (← value.member? "subject_type"))
  | "NoMatchingRule" => return .noMatchingRule
  | "ContextUnavailable" => return .contextUnavailable
  | _ => none

end Denial

def Decision.toJson (d : Decision) (id : String) : Json :=
  .object
    [("id", .text id),
      ("matched_rule", Json.ofOption Json.ofNat d.matchedRule?),
      ("denial", Json.ofOption Denial.toJson d.denial?),
      ("rule_count", .ofNat d.ruleCount)]

/-- The members that tell a caller of a denial. -/
def AccessDenied.members (d : AccessDenied) : List (String × Json) :=
  [("error", .text "AccessDenied"), ("message", .text d.message)]

def AccessDenied.toJson (d : AccessDenied) : Json := .object d.members

def Fault.toJson (f : Fault) : Json :=
  .object [("error", .text f.kind), ("message", .text f.message)]

/-- The fault of a JSON value, which holds the kind and the details. -/
def Fault.ofJson? (value : Json) : Option Fault := do
  let kind ← (← value.member? "kind").asText?
  Fault.ofKind? kind (← (← value.member? "message").asText?)

/-- The outage of a JSON object, which gives each read that fails a fault. Every member has to be a
fault, but those that name no read fail nothing. -/
def Outage.ofJson? (value : Json) : Option Outage := do
  let .object members := value | none
  let faults ← members.mapM fun (name, fault) => (Fault.ofJson? fault).map (name, ·)
  return ⟨faults.lookup "tokens", faults.lookup "organisation_ids", faults.lookup "managing",
    faults.lookup "monitoring"⟩

end AccessControl
