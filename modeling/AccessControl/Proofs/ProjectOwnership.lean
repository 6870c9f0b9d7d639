import AccessControl.Proofs.AuthorityUnion
import AccessControl.Proofs.AuthorizationTable
import AccessControl.Record

/-!
# Ownership passes down from projects

Sites, nurseries, reports and whatever is attached to them belong to a project at the end of their
parent chain, and their owners are the owners of that project: its organisation, and those who manage
it. Main statement: `allowed_iff_project_allowed`, as far as ownership goes, a user may do to such a
record exactly what the user may do to its project, and nothing if a link of the chain is missing.
-/

set_option autoImplicit false

namespace AccessControl

/-- The parent chain of a record leads to a project, and no link of it is missing. -/
inductive Record.BelongsTo : Record → ProjectRef → Prop
  | site (id : Identifier) (framework : Option String) (p : ProjectRef) :
      BelongsTo (.site id framework (some p)) p
  | nursery (id : Identifier) (framework : Option String) (p : ProjectRef) :
      BelongsTo (.nursery id framework (some p)) p
  | projectReport (id : Identifier) (framework : Option String) (p : ProjectRef) :
      BelongsTo (.projectReport id framework (some p)) p
  | siteReport (id : Identifier) (framework : Option String) (site : Identifier) (p : ProjectRef) :
      BelongsTo (.siteReport id framework (some ⟨site, some p⟩)) p
  | nurseryReport (id : Identifier) (framework : Option String) (nursery : Identifier)
      (p : ProjectRef) : BelongsTo (.nurseryReport id framework (some ⟨nursery, some p⟩)) p
  | disturbance (id : Identifier) (framework : Option String) (p : ProjectRef) :
      BelongsTo (.disturbance id (some ⟨framework, some p⟩)) p
  | trackingEntry (id : Identifier) (framework : Option String) (p : ProjectRef) :
      BelongsTo (.trackingEntry id (some ⟨framework, some p⟩)) p
  | projectPolygon (id : Identifier) (p : ProjectRef) (author : Option Identifier) :
      BelongsTo (.projectPolygon id (some p) author) p
  | task (id : Identifier) (p : ProjectRef) : BelongsTo (.task id (some p)) p
  | media (id : Identifier) (framework : Option String) (p : ProjectRef)
      (author : Option Identifier) : BelongsTo (.media id (some ⟨framework, some p⟩) author) p

/-- The project itself, as a record. -/
def ProjectRef.record (p : ProjectRef) : Record :=
  .project p.id p.organisation p.framework

/-- What the owners of a project may do to an entity of a type that belongs to the project, apart
from reading it. -/
def EntityType.ownership : EntityType → List String
  | .project | .site | .nursery | .projectReport | .siteReport | .nurseryReport =>
    ["update", "delete", "uploadFiles", "deleteFiles"]
  | .disturbance | .trackingEntry | .projectPolygon | .media => ["update", "delete"]
  | .task => ["update"]
  | _ => []

/-- The user owns the entity: as a member of its organisation, or as a manager of its project. -/
def Authority.Owns (a : Authority) (e : Entity) : Prop :=
  a.BelongsToOrganisationOf e ∨ a.ManagesProjectOf e

/-! ## Parent chains -/

namespace Record

/-- A record belongs to the project that its parents lead to. -/
theorem belongsTo_iff (r : Record) (p : ProjectRef) :
    r.BelongsTo p ↔ r.parentProject = some p := by
  constructor
  · intro h
    cases h <;> rfl
  · intro h
    cases r with
    | site _ _ project | nursery _ _ project | projectReport _ _ project
    | projectPolygon _ project _ | task _ project =>
        obtain rfl : project = some p := h
        constructor
    | siteReport _ _ parent | nurseryReport _ _ parent | disturbance _ parent
    | trackingEntry _ parent | media _ parent _ =>
        obtain ⟨⟨_, project⟩, rfl, hproject⟩ := Option.bind_eq_some_iff.mp h
        obtain rfl : project = some p := hproject
        constructor
    | _ => cases h

variable (r : Record) (hrecord : r.type ≠ .project) (howned : r.type.ownership ≠ [])

include hrecord in
/-- Other records than projects have the identifier of the project that they belong to. -/
theorem projectId_of_not_project : r.projectId = r.parentProject.map (·.id) := by
  cases r with
  | project _ _ _ => exact absurd rfl hrecord
  | _ => rfl

include hrecord howned in
/-- Records that follow their project name no organisation themselves. -/
theorem ownOrganisation_of_ownership : r.ownOrganisation = none := by
  cases r with
  | project _ _ _ => exact absurd rfl hrecord
  | organisation _ | application _ _ _ | formSubmission _ _ _ _ | projectPitch _ _ | user _ _ =>
      exact absurd rfl howned
  | _ => rfl

include hrecord howned in
/-- What makes a user an owner is resolved at the project to which a record belongs. -/
theorem attr_eq_attr_of_project (attr : Attribute)
    (hattr : attr = .organisationId ∨ attr = .projectId) :
    r.attr attr = r.parentProject.bind fun p => p.record.attr attr := by
  have hproject := projectId_of_not_project r hrecord
  have horganisation :=
    r.organisationId_of_own_none (ownOrganisation_of_ownership r hrecord howned)
  rcases hattr with rfl | rfl
  · unfold Record.attr
    simp only [horganisation]
    cases r.parentProject with
    | none => rfl
    | some p =>
        have hown : p.record.organisationId = p.organisation := by
          unfold ProjectRef.record organisationId
          cases hfound : p.organisation <;> rfl
        simp only [Option.bind_some, hown]
  · unfold Record.attr
    simp only [hproject]
    cases r.parentProject with
    | none => rfl
    | some p => rfl

include hrecord howned in
/-- Who owns such a record owns the project that it belongs to. -/
theorem owns_iff_owns_project (a : Authority) :
    a.Owns r.entity ↔ ∃ p, r.BelongsTo p ∧ a.Owns p.record.entity := by
  have horganisation := attr_eq_attr_of_project r hrecord howned .organisationId (Or.inl rfl)
  have hproject := attr_eq_attr_of_project r hrecord howned .projectId (Or.inr rfl)
  simp only [belongsTo_iff]
  unfold Authority.Owns Authority.BelongsToOrganisationOf Authority.ManagesProjectOf
  simp only [attr_entity, horganisation, hproject]
  cases r.parentProject with
  | none => simp
  | some p => simp

end Record

/-! ## Rows -/

/-- Owners of a project have every action that owners of its records have. -/
theorem EntityType.mem_ownership_project (t : EntityType) (action : String)
    (h : action ∈ t.ownership) : action ∈ EntityType.project.ownership := by
  have hsublist : t.ownership.Sublist EntityType.project.ownership := by
    cases t <;> decide
  exact hsublist.subset h

/-- Without a framework to administer, ownership decides over the actions that come with it. -/
theorem tableRow_iff_owns (t : EntityType) (a : Authority) (action : String) (e : Entity)
    (hkeys : ¬ a.AdministersAny) (haction : action ∈ t.ownership) :
    TableRow a action e t ↔ a.Owns e := by
  have hframework : ¬ a.AdministersFrameworkOf e := by
    rintro ⟨key, hkey, hheld, -⟩
    exact hkeys ⟨key, hkey, hheld⟩
  have hproject := t.mem_ownership_project action haction
  have hread : action ≠ "read" := by
    rintro rfl
    exact absurd hproject (by decide)
  have hbulk : action ≠ "deleteBulk" := by
    rintro rfl
    exact absurd hproject (by decide)
  unfold Authority.Owns
  -- All that is left of a row is membership in the organisation and management of the project.
  cases t with
  | project | site | nursery | projectReport | siteReport | nurseryReport =>
      have hlisted : EntityType.project.ownership.Sublist Action.ownerActions := by decide
      have hmem : action ∈ Action.ownerActions := hlisted.subset haction
      simp only [TableRow, hframework, hread, hmem, and_false, false_and, true_and, false_or]
  | disturbance | trackingEntry | projectPolygon | media =>
      have hlisted : EntityType.media.ownership.Sublist Action.readUpdateDelete := by decide
      have hmem : action ∈ Action.readUpdateDelete := hlisted.subset haction
      simp only [TableRow, hframework, hread, hbulk, hmem, and_false, false_and, true_and,
        false_or, or_false]
  | task =>
      have hlisted : EntityType.task.ownership.Sublist Action.readUpdate := by decide
      have hmem : action ∈ Action.readUpdate := hlisted.subset haction
      simp only [TableRow, hframework, hread, hmem, and_false, false_and, true_and, false_or]
  | _ => cases haction

/-- Who holds no framework token administers no framework. -/
theorem not_administersAny_of_frameworkKeys_eq_empty (a : Authority)
    (h : Token.frameworkKeys a.tokens = ∅) : ¬ a.AdministersAny := by
  rintro ⟨key, hkey, hheld⟩
  have hmem : key ∈ Token.frameworkKeys a.tokens :=
    (Token.mem_frameworkKeys a.tokens key).mpr ⟨hkey, hheld⟩
  rw [h] at hmem
  exact Std.ExtTreeSet.not_mem_empty hmem

/-- On the actions of its owners, the standard policies allow what ownership of an entity allows. -/
theorem allowed_iff_owns (user : Identifier) (tokens : TokenSet) (m : Membership) (action : String)
    (e : Entity) (hkeys : Token.frameworkKeys tokens = ∅) (haction : action ∈ e.type.ownership) :
    Allowed user tokens m action (.entity e) ↔ Authority.Owns ⟨user, tokens, m⟩ e := by
  have hgrants := allowed_iff_exists_grant user tokens m action (.entity e)
  have hrow := e.type.exists_grant_confers_iff ⟨user, tokens, m⟩ action e
  have howns := tableRow_iff_owns e.type ⟨user, tokens, m⟩ action e
    (not_administersAny_of_frameworkKeys_eq_empty ⟨user, tokens, m⟩ hkeys) haction
  exact hgrants.trans (hrow.trans howns)

/-- Whoever administers no framework may perform an action of owners on a record exactly when its
parent chain leads to a project on which the action is allowed too; so a missing link denies it. -/
theorem allowed_iff_project_allowed (user : Identifier) (tokens : TokenSet) (m : Membership)
    (r : Record) (action : String) (hkeys : Token.frameworkKeys tokens = ∅)
    (hrecord : r.type ≠ .project) (haction : action ∈ r.type.ownership) :
    (Allowed user tokens m action (.entity r.entity) ↔
      ∃ p, r.BelongsTo p ∧ Allowed user tokens m action (.entity p.record.entity)) ∧
    ((∀ p, ¬ r.BelongsTo p) → ¬ Allowed user tokens m action (.entity r.entity)) := by
  have howned : r.type.ownership ≠ [] := List.ne_nil_of_mem haction
  have hproject := r.type.mem_ownership_project action haction
  have hiff : Allowed user tokens m action (.entity r.entity) ↔
      ∃ p, r.BelongsTo p ∧ Allowed user tokens m action (.entity p.record.entity) := by
    have hparents (p : ProjectRef) :=
      allowed_iff_owns user tokens m action p.record.entity hkeys hproject
    rw [allowed_iff_owns user tokens m action r.entity hkeys haction,
      Record.owns_iff_owns_project r hrecord howned]
    simp only [hparents]
  refine ⟨hiff, ?_⟩
  intro hbroken hallowed
  obtain ⟨p, hbelongs, -⟩ := hiff.mp hallowed
  exact hbroken p hbelongs

/-- A member of organisation 42 may delete a report on a site of a project of the organisation, and
may not when the site has lost its project. -/
theorem allowed_siteReport_of_member :
    let tokens : TokenSet := {"manage-own", "view-dashboard"}
    let m : Membership := ⟨{42}, ∅, ∅⟩
    let report (project : Option ProjectRef) : Record := .siteReport 1 (some "ppc") (some ⟨2, project⟩)
    Token.frameworkKeys tokens = ∅ ∧ (report none).type ≠ .project ∧
      "delete" ∈ (report none).type.ownership ∧
      Allowed 7 tokens m "delete" (.entity (report (some ⟨5, some 42, none⟩)).entity) ∧
      ¬ Allowed 7 tokens m "delete" (.entity (report none).entity) := by
  intro tokens m report
  have hkeys : Token.frameworkKeys tokens = ∅ := by decide
  have hrecord : (report none).type ≠ .project := by decide
  have haction : "delete" ∈ (report none).type.ownership := by decide
  refine ⟨hkeys, hrecord, haction, ?_, ?_⟩
  · have hproject : Allowed 7 tokens m "delete"
        (.entity (ProjectRef.record ⟨5, some 42, none⟩).entity) := by
      unfold Allowed
      decide
    have hiff := (allowed_iff_project_allowed 7 tokens m (report (some ⟨5, some 42, none⟩)) "delete"
      hkeys hrecord haction).1
    exact hiff.mpr ⟨_, Record.BelongsTo.siteReport _ _ _ _, hproject⟩
  · have hbroken : ∀ p, ¬ (report none).BelongsTo p := by
      intro p h
      cases h
    exact (allowed_iff_project_allowed 7 tokens m (report none) "delete" hkeys hrecord haction).2
      hbroken

end AccessControl
