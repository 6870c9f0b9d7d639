import AccessControl.Action
import AccessControl.Membership
import AccessControl.Rule
import AccessControl.Token

/-!
# Authority

What one user brings to a check, namely tokens and memberships, and the rules that each part of it
confers. A rule that could never match, because the user belongs to no organisation or project, is
not built at all.
-/

set_option autoImplicit false

namespace AccessControl

/-- A user with the tokens and memberships that were read for one check. -/
structure Authority where
  user : Identifier
  tokens : TokenSet
  membership : Membership

namespace Authority

def holds (a : Authority) (token : String) : Bool :=
  a.tokens.contains token

/-- The keys of the frameworks that the tokens grant. -/
def frameworks (a : Authority) : Std.ExtTreeSet String :=
  Token.frameworkKeys a.tokens

/-- One rule for each framework key, in ascending order, for the entities of that framework. -/
def frameworkRules (a : Authority) (actions : List String) (t : EntityType) : List Rule :=
  a.frameworks.toList.map fun key => ⟨actions, t, some (.equals .frameworkKey (.text key)), false⟩

/-- A rule for the entities of one of some organisations or projects, unless there are none. -/
def amongRule? (token : String) (a : Authority) (actions : List String) (t : EntityType)
    (attr : Attribute) (ids : IdentifierSet) : Option Rule :=
  if a.holds token && !ids.isEmpty then
    some ⟨actions, t, some (.isIn attr (ids.toList.map .number)), false⟩
  else none

/-- The rule for entities of the user's organisations. -/
def organisationRule? (a : Authority) (actions : List String) (t : EntityType) : Option Rule :=
  amongRule? Token.manageOwn a actions t .organisationId a.membership.organisations

/-- The rule to read entities of projects that the user monitors. -/
def monitoringRule? (a : Authority) (t : EntityType) : Option Rule :=
  amongRule? Token.manageOwn a [Action.read] t .projectId a.membership.monitoring

/-- The rule for entities of projects that the user manages. -/
def managingRule? (a : Authority) (actions : List String) (t : EntityType) : Option Rule :=
  amongRule? Token.projectsManage a actions t .projectId a.membership.managing

/-- The rule for all entities of a type that any of some tokens confers. -/
def holderRule? (a : Authority) (tokens : List String) (actions : List String) (t : EntityType) :
    Option Rule :=
  if tokens.any a.holds then some ⟨actions, t, none, false⟩ else none

/-- The rule to read all entities of a type that any of some tokens confers. -/
def readerRule? (a : Authority) (tokens : List String) (t : EntityType) : Option Rule :=
  a.holderRule? tokens [Action.read] t

/-- The rule for entities that the user created. -/
def authorRule (a : Authority) (actions : List String) (t : EntityType) : Rule :=
  ⟨actions, t, some (.equals .createdBy (.number a.user)), true⟩

/-- The rule for the entity that is the user. -/
def selfRule (a : Authority) (actions : List String) (t : EntityType) : Rule :=
  ⟨actions, t, some (.equals .id (.number a.user)), true⟩

end Authority

end AccessControl
