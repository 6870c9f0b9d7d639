import AccessControl.Authority
import AccessControl.Directory
import AccessControl.Fault

/-!
# Sources

Where the tokens and memberships of users are read. A source answers three questions, one of them
about projects in which the user has some of the roles that are asked for; a check asks this one
twice, for the projects that the user manages and for those that the user monitors. Each of these
four reads may fail, and then there is no authority at all.
-/

set_option autoImplicit false

namespace AccessControl

/-- Where the tokens and memberships of users are read; each read may fail. -/
structure Source where
  tokens : Identifier → Except Fault TokenSet
  organisations : Identifier → Except Fault IdentifierSet
  /-- The projects in which a user has some role that the query asks for. -/
  projects : Identifier → ProjectRoles → Except Fault IdentifierSet

/-- The authority of a user, if all four reads that a check makes succeeded. -/
def Source.authority (source : Source) (user : Identifier) : Except Fault Authority := do
  let tokens ← source.tokens user
  let organisations ← source.organisations user
  let managing ← source.projects user .manages
  let monitoring ← source.projects user .monitors
  return ⟨user, tokens, ⟨organisations, managing, monitoring⟩⟩

/-- A directory as a source, whose reads never fail. -/
def Directory.source (d : Directory) : Source where
  tokens user := .ok (d.account user).tokens
  organisations user := .ok (d.account user).organisations
  projects user query := .ok ((d.account user).projects query)

/-- An authority is complete: it is never put together when one of the reads failed. -/
theorem Source.authority_eq_ok_iff (source : Source) (user : Identifier) (a : Authority) :
    source.authority user = .ok a ↔
      a.user = user ∧ source.tokens user = .ok a.tokens ∧
        source.organisations user = .ok a.membership.organisations ∧
        source.projects user .manages = .ok a.membership.managing ∧
        source.projects user .monitors = .ok a.membership.monitoring := by
  obtain ⟨owner, held, ⟨inOrganisations, manages, monitors⟩⟩ := a
  unfold authority
  cases source.tokens user <;> cases source.organisations user <;>
    cases source.projects user .manages <;> cases source.projects user .monitors <;>
    simp [bind, Except.bind, pure, Except.pure, eq_comm]

/-- Reads that are out of order, each with the fault that it fails with. -/
structure Outage where
  tokens : Option Fault
  organisations : Option Fault
  managing : Option Fault
  monitoring : Option Fault

namespace Outage

def clear : Outage := ⟨none, none, none, none⟩

/-- The fault of a read of projects. Only the two queries that a check makes can be out of order. -/
def projects (outage : Outage) (query : ProjectRoles) : Option Fault :=
  if query = .manages then outage.managing
  else if query = .monitors then outage.monitoring
  else none

end Outage

/-- A source some of whose reads fail. -/
def Source.during (source : Source) (outage : Outage) : Source where
  tokens user := outage.tokens.elim (source.tokens user) .error
  organisations user := outage.organisations.elim (source.organisations user) .error
  projects user query := (outage.projects query).elim (source.projects user query) .error

end AccessControl
