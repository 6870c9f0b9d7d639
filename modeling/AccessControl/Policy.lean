import AccessControl.Authority

/-!
# Policies

A policy turns the authority of a user into the rules that this authority confers on one entity
type. The standard policy of a type is a list of clauses. Each of them names a type of its own and a
grant on it: a part of the authority and the actions that it confers. The rules of the clauses follow
each other in that order. Main statement: `subject_of_mem_standard`, all of these rules are about the
type that the policy governs, since no clause names another one.
-/

set_option autoImplicit false

namespace AccessControl

/-- Rules for one entity type, built from the authority of a user. -/
structure Policy where
  /-- The entity type that the rules are about. -/
  governs : EntityType
  rules : Authority → List Rule

/-- A part of a standard policy: who is granted which actions. -/
inductive Grant
  /-- Administrators of a framework, on the entities of that framework. -/
  | framework (actions : List String)
  /-- Administrators of any framework, and holders of any of some tokens, reading everything. -/
  | frameworkReader (tokens : List String)
  /-- Holders of any of some tokens, on everything. -/
  | holder (tokens : List String) (actions : List String)
  /-- Members of an organisation, on the entities of that organisation. -/
  | organisation (actions : List String)
  /-- Monitors of a project, reading the entities of that project. -/
  | monitor
  /-- Managers of a project, on the entities of that project. -/
  | manager (actions : List String)
  /-- Holders of a token, on the entities that they created. -/
  | author (token : String) (actions : List String)
  /-- Everybody, on the entity that is themselves. -/
  | self (actions : List String)

/-- The rules that a grant comes to for a user. -/
def Grant.rules (a : Authority) (t : EntityType) : Grant → List Rule
  | .framework actions => a.frameworkRules actions t
  | .frameworkReader tokens =>
    if !a.frameworks.isEmpty || tokens.any a.holds then [⟨[Action.read], t, none, false⟩] else []
  | .holder tokens actions => (a.holderRule? tokens actions t).toList
  | .organisation actions => (a.organisationRule? actions t).toList
  | .monitor => (a.monitoringRule? t).toList
  | .manager actions => (a.managingRule? actions t).toList
  | .author token actions => if a.holds token then [a.authorRule actions t] else []
  | .self actions => [a.selfRule actions t]

/-- A grant on the entities of one type. -/
structure Clause where
  type : EntityType
  grant : Grant

/-- The rules that a clause comes to for a user. -/
def Clause.rules (a : Authority) (c : Clause) : List Rule :=
  c.grant.rules a c.type

open AccessControl.Action AccessControl.Token in
/-- The clauses of the standard policy of a type, in the order of their rules. Each clause says for
itself which type it is on. -/
def EntityType.clauses : EntityType → List Clause
  | .project =>
    [⟨.project, .framework [read, update, delete, approve, uploadFiles, deleteFiles]⟩,
      ⟨.project, .holder [projectsRead, viewDashboard] [read]⟩,
      ⟨.project, .organisation [read, update, delete, uploadFiles, deleteFiles]⟩,
      ⟨.project, .monitor⟩,
      ⟨.project, .manager [read, update, delete, uploadFiles, deleteFiles]⟩]
  | .site =>
    [⟨.site, .framework [read, update, delete, approve, uploadFiles, deleteFiles]⟩,
      ⟨.site, .holder [projectsRead, viewDashboard] [read]⟩,
      ⟨.site, .organisation [read, update, delete, uploadFiles, deleteFiles]⟩,
      ⟨.site, .monitor⟩,
      ⟨.site, .manager [read, update, delete, uploadFiles, deleteFiles]⟩]
  | .nursery =>
    [⟨.nursery, .framework [read, update, delete, approve, uploadFiles, deleteFiles]⟩,
      ⟨.nursery, .holder [projectsRead] [read]⟩,
      ⟨.nursery, .organisation [read, update, delete, uploadFiles, deleteFiles]⟩,
      ⟨.nursery, .monitor⟩,
      ⟨.nursery, .manager [read, update, delete, uploadFiles, deleteFiles]⟩]
  | .projectReport =>
    [⟨.projectReport, .framework [read, update, delete, approve, uploadFiles, deleteFiles]⟩,
      ⟨.projectReport, .holder [projectsRead] [read]⟩,
      ⟨.projectReport, .organisation [read, update, delete, uploadFiles, deleteFiles]⟩,
      ⟨.projectReport, .manager [read, update, delete, uploadFiles, deleteFiles]⟩]
  | .siteReport =>
    [⟨.siteReport, .framework [read, update, delete, approve, uploadFiles, deleteFiles]⟩,
      ⟨.siteReport, .holder [projectsRead] [read]⟩,
      ⟨.siteReport, .organisation [read, update, delete, uploadFiles, deleteFiles]⟩,
      ⟨.siteReport, .manager [read, update, delete, uploadFiles, deleteFiles]⟩]
  | .nurseryReport =>
    [⟨.nurseryReport, .framework [read, update, delete, approve, uploadFiles, deleteFiles]⟩,
      ⟨.nurseryReport, .holder [projectsRead] [read]⟩,
      ⟨.nurseryReport, .organisation [read, update, delete, uploadFiles, deleteFiles]⟩,
      ⟨.nurseryReport, .manager [read, update, delete, uploadFiles, deleteFiles]⟩]
  | .organisation =>
    [⟨.organisation, .holder [usersManage] [read, create, update, delete, approve]⟩,
      ⟨.organisation, .frameworkReader [viewDashboard]⟩,
      ⟨.organisation, .organisation [read, update]⟩]
  | .application =>
    [⟨.application, .framework [read, update, approve]⟩,
      ⟨.application, .organisation [read, update]⟩]
  | .formSubmission =>
    [⟨.formSubmission, .framework [read, update, approve]⟩,
      ⟨.formSubmission, .organisation [read, update, delete]⟩,
      ⟨.formSubmission, .author manageOwn [read, update]⟩]
  | .projectPitch =>
    [⟨.projectPitch, .frameworkReader []⟩,
      ⟨.projectPitch, .organisation [read, update, delete]⟩]
  | .fundingProgramme =>
    [⟨.fundingProgramme, .framework [read, update]⟩]
  | .disturbance =>
    [⟨.disturbance, .framework [read, update, delete]⟩,
      ⟨.disturbance, .holder [projectsRead] [read]⟩,
      ⟨.disturbance, .organisation [read, update, delete]⟩,
      ⟨.disturbance, .manager [read, update, delete]⟩]
  | .trackingEntry =>
    [⟨.trackingEntry, .framework [read, update, delete]⟩,
      ⟨.trackingEntry, .holder [projectsRead] [read]⟩,
      ⟨.trackingEntry, .organisation [read, update, delete]⟩,
      ⟨.trackingEntry, .manager [read, update, delete]⟩]
  | .projectPolygon =>
    [⟨.projectPolygon, .framework [read, update, delete]⟩,
      ⟨.projectPolygon, .holder [projectsRead, viewDashboard] [read]⟩,
      ⟨.projectPolygon, .organisation [read, update, delete]⟩,
      ⟨.projectPolygon, .manager [read, update, delete]⟩]
  | .task =>
    [⟨.task, .framework [read, update, delete, approve]⟩,
      ⟨.task, .holder [projectsRead] [read]⟩,
      ⟨.task, .organisation [read, update]⟩,
      ⟨.task, .manager [read, update]⟩]
  | .media =>
    [⟨.media, .framework [read, update, delete]⟩,
      ⟨.media, .holder [projectsRead] [read]⟩,
      ⟨.media, .organisation [read, update, delete]⟩,
      ⟨.media, .manager [read, update, delete]⟩,
      ⟨.media, .author mediaManage [deleteBulk]⟩]
  | .user =>
    [⟨.user, .self [read]⟩,
      ⟨.user, .holder [usersManage] [read, create, update, delete]⟩]

/-- The grants of a type, in the order of their rules. -/
def EntityType.grants (t : EntityType) : List Grant :=
  t.clauses.map (·.grant)

/-- The standard policy of a type, which emits the rules of its clauses. -/
def Policy.standard (t : EntityType) : Policy where
  governs := t
  rules a := t.clauses.flatMap (·.rules a)

/-- No clause of a standard policy is on another type than the one that the policy governs. -/
theorem EntityType.type_of_mem_clauses (t : EntityType) : ∀ c ∈ t.clauses, c.type = t := by
  cases t <;> simp [clauses]

/-- The rules of a standard policy are those of its grants, all on the type that it governs. -/
theorem Policy.rules_standard (t : EntityType) (a : Authority) :
    (standard t).rules a = t.grants.flatMap (·.rules a t) := by
  have hrules : t.clauses.map (·.rules a) = t.clauses.map fun c => c.grant.rules a t := by
    apply List.map_congr_left
    intro c hc
    rw [Clause.rules, t.type_of_mem_clauses c hc]
  show t.clauses.flatMap (·.rules a) = (t.clauses.map (·.grant)).flatMap (·.rules a t)
  rw [List.flatMap_map, List.flatMap_def, List.flatMap_def, hrules]

/-- A standard policy emits the rules of the grants of its type, and no others. -/
theorem Policy.mem_rules_standard_iff (t : EntityType) (a : Authority) (r : Rule) :
    r ∈ (standard t).rules a ↔ ∃ g ∈ t.grants, r ∈ g.rules a t := by
  rw [rules_standard, List.mem_flatMap]

/-- The actions that a grant confers. -/
def Grant.actions : Grant → List String
  | .framework actions => actions
  | .frameworkReader _ => [Action.read]
  | .holder _ actions => actions
  | .organisation actions => actions
  | .monitor => [Action.read]
  | .manager actions => actions
  | .author _ actions => actions
  | .self actions => actions

/-- Whether a grant is on single entities, so that it says nothing about their type as a whole. -/
def Grant.instanceOnly : Grant → Bool
  | .author _ _ => true
  | .self _ => true
  | _ => false

/-- The rule for some identifiers of a user, if there is one, has the form that its arguments say.
-/
theorem Authority.eq_of_mem_amongRule
    (token : String) (a : Authority) (actions : List String) (t : EntityType) (attr : Attribute)
    (ids : IdentifierSet) (r : Rule) (h : r ∈ (amongRule? token a actions t attr ids).toList) :
    r = ⟨actions, t, some (.isIn attr (ids.toList.map .number)), false⟩ := by
  rw [amongRule?] at h
  split at h
  · exact List.mem_singleton.mp h
  · cases h

/-- The rules of a grant are about the entity type that the grant is on, and confer its actions.
They differ from each other in their conditions alone. -/
theorem Grant.eq_of_mem_rules
    (a : Authority) (t : EntityType) (g : Grant) (r : Rule) (h : r ∈ g.rules a t) :
    ∃ condition, r = ⟨g.actions, t, condition, g.instanceOnly⟩ := by
  cases g with
  | framework actions =>
    rw [rules, Authority.frameworkRules, List.mem_map] at h
    obtain ⟨key, -, rfl⟩ := h
    exact ⟨_, rfl⟩
  | frameworkReader tokens =>
    rw [rules] at h
    split at h
    · exact ⟨none, List.mem_singleton.mp h⟩
    · cases h
  | holder tokens actions =>
    rw [rules, Authority.holderRule?] at h
    split at h
    · exact ⟨none, List.mem_singleton.mp h⟩
    · cases h
  | organisation actions => exact ⟨_, Authority.eq_of_mem_amongRule _ a actions t _ _ r h⟩
  | monitor => exact ⟨_, Authority.eq_of_mem_amongRule _ a _ t _ _ r h⟩
  | manager actions => exact ⟨_, Authority.eq_of_mem_amongRule _ a actions t _ _ r h⟩
  | author token actions =>
    rw [rules] at h
    split at h
    · exact ⟨_, List.mem_singleton.mp h⟩
    · cases h
  | self actions => exact ⟨_, List.mem_singleton.mp h⟩

/-- Every rule of a grant is about the entity type that the grant is on. -/
theorem Grant.subject_of_mem_rules
    (a : Authority) (t : EntityType) (g : Grant) (r : Rule) (h : r ∈ g.rules a t) :
    r.subject = t := by
  obtain ⟨condition, rfl⟩ := g.eq_of_mem_rules a t r h
  rfl

/-- Every rule of a standard policy is about the entity type that the policy governs. -/
theorem Policy.subject_of_mem_standard
    (a : Authority) (t : EntityType) (r : Rule) (h : r ∈ (Policy.standard t).rules a) :
    r.subject = t := by
  obtain ⟨g, -, hr⟩ := (mem_rules_standard_iff t a r).mp h
  exact g.subject_of_mem_rules a t r hr

end AccessControl
