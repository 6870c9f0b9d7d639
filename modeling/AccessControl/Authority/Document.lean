import AccessControl.Authority
import AccessControl.Record.Document

/-!
# Authority documents

The JSON forms of sets of tokens, of standings and of memberships.
-/

set_option autoImplicit false

namespace AccessControl

def textsToJson (texts : Std.ExtTreeSet String) : Json := Json.ofTexts texts.toList

/-- The set of tokens that a JSON array lists, in any order and with any repetitions. -/
def TokenSet.ofJson? (value : Json) : Option TokenSet :=
  (value.asListOf? Json.asText?).map fun texts => Std.ExtTreeSet.ofList texts

/-- The set of identifiers that a JSON array lists, in any order and with any repetitions. -/
def IdentifierSet.ofJson? (value : Json) : Option IdentifierSet :=
  (value.asListOf? Json.asInt64?).map fun ids => Std.ExtTreeSet.ofList ids

def MembershipStatus.ofJson? (value : Json) : Option MembershipStatus :=
  value.asName?.bind MembershipStatus.ofName?

def MembershipStatus.toJson (status : MembershipStatus) : Json := .text status.name

/-- The membership of a JSON object, in which every set may be absent. -/
def Membership.ofJson? (value : Json) : Option Membership := do
  let .object _ := value | none
  let ids := fun (name : String) =>
    (Json.optional? IdentifierSet.ofJson? (value.given? name)).map (·.getD ∅)
  return {
    organisations := ← ids "organisation_ids"
    managing := ← ids "managing_project_ids"
    monitoring := ← ids "monitoring_project_ids" }

end AccessControl
