import AccessControl.Attribute

/-!
# Memberships

How a user relates to organisations and projects: the standing of a request to join an organisation,
the roles in a project, and the three sets of identifiers that a check reads from them.
-/

set_option autoImplicit false

namespace AccessControl

/-- The standing of a request to join an organisation. Only an approved one confers authority. -/
inductive MembershipStatus
  | requested
  | approved
  | rejected
  deriving DecidableEq

namespace MembershipStatus

def all : List MembershipStatus := [.requested, .approved, .rejected]

def name : MembershipStatus → String
  | .requested => "requested"
  | .approved => "approved"
  | .rejected => "rejected"

/-- The standing of a name, letter case included. -/
def ofName? (name : String) : Option MembershipStatus :=
  all.find? fun status => status.name == name

/-- Every name is read back as the standing that it names. -/
theorem ofName?_name (status : MembershipStatus) : ofName? status.name = some status := by
  cases status <;> rfl

end MembershipStatus

/-- The roles that a user has in a project, or that a query asks for. -/
structure ProjectRoles where
  monitoring : Bool
  managing : Bool
  deriving DecidableEq

namespace ProjectRoles

/-- The query for projects that a user monitors. -/
def monitors : ProjectRoles := ⟨true, false⟩

/-- The query for projects that a user manages. -/
def manages : ProjectRoles := ⟨false, true⟩

/-- The query for projects in which a user has any role. -/
def any : ProjectRoles := ⟨true, true⟩

/-- Whether some role that the query asks for is among the roles held. -/
def admits (query held : ProjectRoles) : Bool :=
  (query.monitoring && held.monitoring) || (query.managing && held.managing)

end ProjectRoles

/-- The organisations and projects of one user, as read for one check. -/
structure Membership where
  organisations : IdentifierSet
  managing : IdentifierSet
  monitoring : IdentifierSet

def Membership.empty : Membership := ⟨∅, ∅, ∅⟩

end AccessControl
