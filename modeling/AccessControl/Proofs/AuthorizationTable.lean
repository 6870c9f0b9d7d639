import Mathlib.Data.List.Basic
import Mathlib.Tactic.Tauto
import AccessControl.Proofs.Grants
import AccessControl.Registry

/-!
# The authorization table

Who may do what with an entity, one row for each entity type. The rows speak of tokens by their
texts, of actions by their names, and of the attributes that the entity resolves; neither rules nor
grants occur in them. Main statement: `firstMatch_standard_iff_tableRow`, the standard policy of a
type allows an action on an entity exactly when the row of the type holds.
-/

set_option autoImplicit false

namespace AccessControl

namespace Authority

/-- The user administers the framework that the entity names. -/
def AdministersFrameworkOf (a : Authority) (e : Entity) : Prop :=
  ∃ key, key ≠ "" ∧ "framework-" ++ key ∈ a.tokens ∧ e.attr .frameworkKey = some (.text key)

/-- The user administers some framework, whichever the entity names. -/
def AdministersAny (a : Authority) : Prop :=
  ∃ key, key ≠ "" ∧ "framework-" ++ key ∈ a.tokens

/-- The user holds one of some tokens. -/
def HoldsAnyOf (a : Authority) (tokens : List String) : Prop :=
  ∃ token ∈ tokens, token ∈ a.tokens

/-- The user acts for the organisation that the entity belongs to. -/
def BelongsToOrganisationOf (a : Authority) (e : Entity) : Prop :=
  "manage-own" ∈ a.tokens ∧
    ∃ id ∈ a.membership.organisations, e.attr .organisationId = some (.number id)

/-- The user monitors the project that the entity belongs to. -/
def MonitorsProjectOf (a : Authority) (e : Entity) : Prop :=
  "manage-own" ∈ a.tokens ∧
    ∃ id ∈ a.membership.monitoring, e.attr .projectId = some (.number id)

/-- The user manages the project that the entity belongs to. -/
def ManagesProjectOf (a : Authority) (e : Entity) : Prop :=
  "projects-manage" ∈ a.tokens ∧
    ∃ id ∈ a.membership.managing, e.attr .projectId = some (.number id)

/-- The user created the entity. -/
def Created (a : Authority) (e : Entity) : Prop :=
  e.attr .createdBy = some (.number a.user)

end Authority

namespace Action

def readUpdate : List String := ["read", "update"]

def readUpdateDelete : List String := readUpdate ++ ["delete"]

def ownerActions : List String := readUpdateDelete ++ ["uploadFiles", "deleteFiles"]

def adminActions : List String := ownerActions ++ ["approve"]

end Action

open AccessControl.Action in
/-- The row of an entity type: what has to be true for a user to perform an action on an entity of
the type. -/
def TableRow (a : Authority) (action : String) (e : Entity) : EntityType → Prop
  | .project | .site =>
    (action ∈ adminActions ∧ a.AdministersFrameworkOf e) ∨
    (action = "read" ∧ a.HoldsAnyOf ["projects-read", "view-dashboard"]) ∨
    (action ∈ ownerActions ∧ a.BelongsToOrganisationOf e) ∨
    (action = "read" ∧ a.MonitorsProjectOf e) ∨
    (action ∈ ownerActions ∧ a.ManagesProjectOf e)
  | .nursery =>
    (action ∈ adminActions ∧ a.AdministersFrameworkOf e) ∨
    (action = "read" ∧ a.HoldsAnyOf ["projects-read"]) ∨
    (action ∈ ownerActions ∧ a.BelongsToOrganisationOf e) ∨
    (action = "read" ∧ a.MonitorsProjectOf e) ∨
    (action ∈ ownerActions ∧ a.ManagesProjectOf e)
  | .projectReport | .siteReport | .nurseryReport =>
    (action ∈ adminActions ∧ a.AdministersFrameworkOf e) ∨
    (action = "read" ∧ a.HoldsAnyOf ["projects-read"]) ∨
    (action ∈ ownerActions ∧ a.BelongsToOrganisationOf e) ∨
    (action ∈ ownerActions ∧ a.ManagesProjectOf e)
  | .organisation =>
    (action ∈ ["read", "create", "update", "delete", "approve"] ∧
      a.HoldsAnyOf ["users-manage"]) ∨
    (action = "read" ∧ (a.AdministersAny ∨ a.HoldsAnyOf ["view-dashboard"])) ∨
    (action ∈ readUpdate ∧ a.BelongsToOrganisationOf e)
  | .application =>
    (action ∈ readUpdate ++ ["approve"] ∧ a.AdministersFrameworkOf e) ∨
    (action ∈ readUpdate ∧ a.BelongsToOrganisationOf e)
  | .formSubmission =>
    (action ∈ readUpdate ++ ["approve"] ∧ a.AdministersFrameworkOf e) ∨
    (action ∈ readUpdateDelete ∧ a.BelongsToOrganisationOf e) ∨
    (action ∈ readUpdate ∧ a.HoldsAnyOf ["manage-own"] ∧ a.Created e)
  | .projectPitch =>
    (action = "read" ∧ a.AdministersAny) ∨
    (action ∈ readUpdateDelete ∧ a.BelongsToOrganisationOf e)
  | .fundingProgramme => action ∈ readUpdate ∧ a.AdministersFrameworkOf e
  | .disturbance | .trackingEntry =>
    (action ∈ readUpdateDelete ∧ a.AdministersFrameworkOf e) ∨
    (action = "read" ∧ a.HoldsAnyOf ["projects-read"]) ∨
    (action ∈ readUpdateDelete ∧ a.BelongsToOrganisationOf e) ∨
    (action ∈ readUpdateDelete ∧ a.ManagesProjectOf e)
  | .projectPolygon =>
    (action ∈ readUpdateDelete ∧ a.AdministersFrameworkOf e) ∨
    (action = "read" ∧ a.HoldsAnyOf ["projects-read", "view-dashboard"]) ∨
    (action ∈ readUpdateDelete ∧ a.BelongsToOrganisationOf e) ∨
    (action ∈ readUpdateDelete ∧ a.ManagesProjectOf e)
  | .task =>
    (action ∈ readUpdateDelete ++ ["approve"] ∧ a.AdministersFrameworkOf e) ∨
    (action = "read" ∧ a.HoldsAnyOf ["projects-read"]) ∨
    (action ∈ readUpdate ∧ a.BelongsToOrganisationOf e) ∨
    (action ∈ readUpdate ∧ a.ManagesProjectOf e)
  | .media =>
    (action ∈ readUpdateDelete ∧ a.AdministersFrameworkOf e) ∨
    (action = "read" ∧ a.HoldsAnyOf ["projects-read"]) ∨
    (action ∈ readUpdateDelete ∧ a.BelongsToOrganisationOf e) ∨
    (action ∈ readUpdateDelete ∧ a.ManagesProjectOf e) ∨
    (action = "deleteBulk" ∧ a.HoldsAnyOf ["media-manage"] ∧ a.Created e)
  | .user =>
    (action = "read" ∧ e.attr .id = some (.number a.user)) ∨
    (action ∈ ["read", "create", "update", "delete"] ∧ a.HoldsAnyOf ["users-manage"])

/-! ## Columns -/

namespace Grant

section Columns

variable (a : Authority) (action : String) (e : Entity) (actions held : List String)

/-- The grant to those who administer the framework of an entity. -/
theorem confers_framework_iff :
    (framework actions).Confers a action (.entity e) ↔
      action ∈ actions ∧ a.AdministersFrameworkOf e := by
  simp only [Confers, Authority.Administers, Authority.AdministersFrameworkOf, Subject.MayHave,
    Token.frameworkMark, and_assoc]

/-- The grant to read, to those who administer any framework or hold one of some tokens. -/
theorem confers_frameworkReader_iff :
    (frameworkReader held).Confers a action (.entity e) ↔
      action = "read" ∧ (a.AdministersAny ∨ a.HoldsAnyOf held) := Iff.rfl

/-- The grant to the holders of one of some tokens. -/
theorem confers_holder_iff :
    (holder held actions).Confers a action (.entity e) ↔ action ∈ actions ∧ a.HoldsAnyOf held :=
  Iff.rfl

/-- The grant to those who belong to the organisation of an entity. -/
theorem confers_organisation_iff :
    (organisation actions).Confers a action (.entity e) ↔
      action ∈ actions ∧ a.BelongsToOrganisationOf e := Iff.rfl

/-- The grant to read, to those who monitor the project of an entity. -/
theorem confers_monitor_iff :
    monitor.Confers a action (.entity e) ↔ action = "read" ∧ a.MonitorsProjectOf e := Iff.rfl

/-- The grant to those who manage the project of an entity. -/
theorem confers_manager_iff :
    (manager actions).Confers a action (.entity e) ↔ action ∈ actions ∧ a.ManagesProjectOf e :=
  Iff.rfl

/-- The grant to the holders of a token for what they created. -/
theorem confers_author_iff (token : String) :
    (author token actions).Confers a action (.entity e) ↔
      action ∈ actions ∧ a.HoldsAnyOf [token] ∧ a.Created e := by
  simp only [Confers, Authority.HoldsAnyOf, Authority.Created, Subject.Has, List.mem_singleton,
    exists_eq_left]

/-- The grant to users for themselves. -/
theorem confers_self_iff :
    (self actions).Confers a action (.entity e) ↔
      action ∈ actions ∧ e.attr .id = some (.number a.user) := Iff.rfl

end Columns

end Grant

/-! ## Rows -/

/-- The order in which actions are listed does not matter. -/
theorem Action.mem_adminActions_iff (action : String) :
    action ∈ adminActions ↔ action ∈ [read, update, delete, approve, uploadFiles, deleteFiles] := by
  simp only [adminActions, ownerActions, readUpdateDelete, readUpdate, read, update, delete,
    approve, uploadFiles, deleteFiles, List.mem_append, List.mem_cons, List.not_mem_nil, or_false]
  tauto

/-- Nobody holds one of no tokens. -/
theorem Authority.not_holdsAnyOf_nil (a : Authority) : ¬ a.HoldsAnyOf [] := by
  rintro ⟨token, hmem, -⟩
  exact List.not_mem_nil hmem

/-- Some grant on a type confers an action on an entity exactly when the row of the type holds. -/
theorem EntityType.exists_grant_confers_iff (t : EntityType) (a : Authority) (action : String)
    (e : Entity) :
    (∃ g ∈ t.grants, g.Confers a action (.entity e)) ↔ TableRow a action e t := by
  have hadmin := Action.mem_adminActions_iff action
  have hnone := a.not_holdsAnyOf_nil
  unfold grants clauses
  -- Each row lists its grants in their order, so once the list is a disjunction of columns the two
  -- sides are the same up to the names of tokens and actions.
  cases t
  all_goals simp only [List.map_cons, List.map_nil, List.exists_mem_cons_iff, List.mem_singleton,
    exists_eq_left, Grant.confers_framework_iff, Grant.confers_frameworkReader_iff,
    Grant.confers_holder_iff, Grant.confers_organisation_iff, Grant.confers_monitor_iff,
    Grant.confers_manager_iff, Grant.confers_author_iff, Grant.confers_self_iff, ← hadmin, hnone,
    or_false]
  all_goals exact Iff.rfl

/-- The standard policy of a type allows an action on an entity, built-in record or not, exactly
when the row of the type holds. -/
theorem firstMatch_standard_iff_tableRow (user : Identifier) (tokens : TokenSet)
    (membership : Membership) (action : String) (e : Entity) :
    ∃ policy, Registry.standard.policy? e.type = some policy ∧
      ((Rule.firstMatch (policy.rules ⟨user, tokens, membership⟩) action (.entity e)).index.isSome ↔
        TableRow ⟨user, tokens, membership⟩ action e e.type) := by
  refine ⟨.standard e.type, Registry.policy?_standard e.type, ?_⟩
  have hallowed := isSome_firstMatch_standard_iff ⟨user, tokens, membership⟩ action (.entity e)
  have hrow := e.type.exists_grant_confers_iff ⟨user, tokens, membership⟩ action e
  exact hallowed.trans hrow

end AccessControl
