import AccessControl.Proofs.FailClosed
import AccessControl.Proofs.RuleAttributes
import AccessControl.Record

/-!
# Which fields decide

All identifiers are numbers, so nothing but the policies keeps the identifier of a report from being
taken for that of a project, or the author of a polygon for an owner. A standard policy looks at few
attributes, and the records resolve these from few of their fields. Two records are alike when they
agree on those fields; in any other field they may have whatever they like, also what would matter
elsewhere. Main statement: `decision_eq_of_alike`, the standard policies decide alike on records that
are alike.
-/

set_option autoImplicit false

namespace AccessControl

/-! ## Records that are alike -/

/-- The framework of a project does not count for what belongs to it. -/
structure ProjectRef.Alike (p q : ProjectRef) : Prop where
  id_eq : p.id = q.id
  organisation_eq : p.organisation = q.organisation

/-- A site that a report is on counts through its project alone. -/
def SiteRef.Alike (s t : SiteRef) : Prop :=
  Option.Rel ProjectRef.Alike s.project t.project

/-- A nursery that a report is on counts through its project alone. -/
def NurseryRef.Alike (s t : NurseryRef) : Prop :=
  Option.Rel ProjectRef.Alike s.project t.project

/-- What something is attached to counts through its own framework and its project. -/
structure Attachment.Alike (a b : Attachment) : Prop where
  framework_eq : a.framework = b.framework
  project_alike : Option.Rel ProjectRef.Alike a.project b.project

namespace Record

/-- Two records of one kind that agree on the fields that decide. The identifier of a record is one
of them only for projects, organisations and users. -/
inductive Alike : Record → Record → Prop
  | project (id : Identifier) (organisation : Option Identifier) (framework : Option String) :
      Alike (.project id organisation framework) (.project id organisation framework)
  | site (id other : Identifier) (framework : Option String) (p q : Option ProjectRef)
      (h : Option.Rel ProjectRef.Alike p q) :
      Alike (.site id framework p) (.site other framework q)
  | nursery (id other : Identifier) (framework : Option String) (p q : Option ProjectRef)
      (h : Option.Rel ProjectRef.Alike p q) :
      Alike (.nursery id framework p) (.nursery other framework q)
  | projectReport (id other : Identifier) (framework : Option String) (p q : Option ProjectRef)
      (h : Option.Rel ProjectRef.Alike p q) :
      Alike (.projectReport id framework p) (.projectReport other framework q)
  | siteReport (id other : Identifier) (framework : Option String) (s t : Option SiteRef)
      (h : Option.Rel SiteRef.Alike s t) :
      Alike (.siteReport id framework s) (.siteReport other framework t)
  | nurseryReport (id other : Identifier) (framework : Option String) (s t : Option NurseryRef)
      (h : Option.Rel NurseryRef.Alike s t) :
      Alike (.nurseryReport id framework s) (.nurseryReport other framework t)
  | organisation (id : Identifier) : Alike (.organisation id) (.organisation id)
  | application (id other : Identifier) (organisation : Option Identifier)
      (framework : Option String) :
      Alike (.application id organisation framework) (.application other organisation framework)
  | formSubmission (id other : Identifier) (organisation : Option Identifier)
      (framework : Option String) (author : Option Identifier) :
      Alike (.formSubmission id organisation framework author)
        (.formSubmission other organisation framework author)
  | projectPitch (id other : Identifier) (organisation : Option Identifier) :
      Alike (.projectPitch id organisation) (.projectPitch other organisation)
  | fundingProgramme (id other : Identifier) (framework : Option String) :
      Alike (.fundingProgramme id framework) (.fundingProgramme other framework)
  | disturbance (id other : Identifier) (a b : Option Attachment)
      (h : Option.Rel Attachment.Alike a b) : Alike (.disturbance id a) (.disturbance other b)
  | trackingEntry (id other : Identifier) (a b : Option Attachment)
      (h : Option.Rel Attachment.Alike a b) : Alike (.trackingEntry id a) (.trackingEntry other b)
  /-- The author of a polygon does not count. -/
  | projectPolygon (id other : Identifier) (p : Option ProjectRef)
      (author another : Option Identifier) :
      Alike (.projectPolygon id p author) (.projectPolygon other p another)
  | task (id other : Identifier) (p : Option ProjectRef) : Alike (.task id p) (.task other p)
  | media (id other : Identifier) (a b : Option Attachment) (author : Option Identifier)
      (h : Option.Rel Attachment.Alike a b) :
      Alike (.media id a author) (.media other b author)
  /-- The organisation of a user does not count. -/
  | user (id : Identifier) (organisation another : Option Identifier) :
      Alike (.user id organisation) (.user id another)

/-! ## What records that are alike resolve -/

section

variable {p q : Option ProjectRef}

/-- Projects that are alike have the same identifier. -/
theorem map_id_eq_of_alike (h : Option.Rel ProjectRef.Alike p q) : p.map (·.id) = q.map (·.id) := by
  cases h with
  | none => rfl
  | some halike => exact congrArg some halike.id_eq

/-- Projects that are alike have the same organisation. -/
theorem bind_organisation_eq_of_alike (h : Option.Rel ProjectRef.Alike p q) :
    p.bind (·.organisation) = q.bind (·.organisation) := by
  cases h with
  | none => rfl
  | some halike => exact halike.organisation_eq

/-- Attachments that are alike have the same framework. -/
theorem bind_framework_eq_of_alike {a b : Option Attachment} (h : Option.Rel Attachment.Alike a b) :
    a.bind (·.framework) = b.bind (·.framework) := by
  cases h with
  | none => rfl
  | some halike => exact halike.framework_eq

/-- Where each of two links may be missing, so may what is behind them. -/
theorem rel_bind_of_rel {α : Type} {linked : α → α → Prop} {project : α → Option ProjectRef}
    (hproject : ∀ x y, linked x y → Option.Rel ProjectRef.Alike (project x) (project y))
    {x y : Option α} (h : Option.Rel linked x y) :
    Option.Rel ProjectRef.Alike (x.bind project) (y.bind project) := by
  cases h with
  | none => exact .none
  | some hlinked => exact hproject _ _ hlinked

end

variable {r s : Record}

/-- Records that are alike have the same type. -/
theorem type_eq_of_alike (h : r.Alike s) : r.type = s.type := by
  cases h <;> rfl

/-- Records that are alike belong to projects that are alike, or to none. -/
theorem parentProject_alike (h : r.Alike s) :
    Option.Rel ProjectRef.Alike r.parentProject s.parentProject := by
  have hself (p : Option ProjectRef) : Option.Rel ProjectRef.Alike p p := by
    cases p with
    | none => exact .none
    | some p => exact .some ⟨rfl, rfl⟩
  cases h with
  | site _ _ _ _ _ hlink | nursery _ _ _ _ _ hlink | projectReport _ _ _ _ _ hlink => exact hlink
  | siteReport _ _ _ _ _ hlink | nurseryReport _ _ _ _ _ hlink =>
      exact rel_bind_of_rel (fun _ _ hlinked => hlinked) hlink
  | disturbance _ _ _ _ hlink | trackingEntry _ _ _ _ hlink | media _ _ _ _ _ hlink =>
      exact rel_bind_of_rel (fun _ _ hlinked => hlinked.project_alike) hlink
  | projectPolygon _ _ p _ _ | task _ _ p => exact hself p
  | _ => exact .none

/-- Records that are alike have the same framework. -/
theorem framework_eq_of_alike (h : r.Alike s) : r.framework = s.framework := by
  cases h with
  | disturbance _ _ _ _ hlink | trackingEntry _ _ _ _ hlink | media _ _ _ _ _ hlink =>
      exact bind_framework_eq_of_alike hlink
  | _ => rfl

/-- Records that are alike belong to the same project. -/
theorem projectId_eq_of_alike (h : r.Alike s) : r.projectId = s.projectId := by
  have hproject := map_id_eq_of_alike (parentProject_alike h)
  cases h with
  | project _ _ _ => rfl
  | _ => exact hproject

/-- Records that are alike belong to the same organisation; of users it does not count. -/
theorem organisationId_eq_of_alike (h : r.Alike s) (huser : r.type ≠ .user) :
    r.organisationId = s.organisationId := by
  have hown : r.ownOrganisation = s.ownOrganisation := by
    cases h with
    | user _ _ _ => exact absurd rfl huser
    | _ => rfl
  have hproject := bind_organisation_eq_of_alike (parentProject_alike h)
  rw [organisationId, organisationId, hown, hproject]

/-- Records that are alike have the same author; of polygons it does not count. -/
theorem author_eq_of_alike (h : r.Alike s) (hpolygon : r.type ≠ .projectPolygon) :
    r.author = s.author := by
  cases h with
  | projectPolygon _ _ _ _ _ => exact absurd rfl hpolygon
  | _ => rfl

/-- Users that are alike are the same user. -/
theorem id_eq_of_alike (h : r.Alike s) (huser : r.type = .user) : r.id = s.id := by
  cases h with
  | user _ _ _ => rfl
  | _ => cases huser

end Record

/-! ## What the standard policies look at -/

/-- The attributes that the standard policy of a type looks at. -/
def EntityType.decidingAttributes (t : EntityType) : List Attribute :=
  t.grants.filterMap Grant.attribute?

/-- The identifier is looked at in users alone, the organisation not in users, and the author not in
polygons. -/
theorem EntityType.of_mem_decidingAttributes (t : EntityType) :
    (.id ∈ t.decidingAttributes → t = .user) ∧
      (.organisationId ∈ t.decidingAttributes → t ≠ .user) ∧
      (.createdBy ∈ t.decidingAttributes → t ≠ .projectPolygon) := by
  cases t <;> decide

/-- Records that are alike resolve alike whatever their standard policy looks at. -/
theorem Record.attr_eq_of_alike (r s : Record) (h : r.Alike s) (attr : Attribute)
    (hattr : attr ∈ r.type.decidingAttributes) : r.attr attr = s.attr attr := by
  obtain ⟨hid, horganisation, hauthor⟩ := r.type.of_mem_decidingAttributes
  cases attr with
  | id => exact congrArg (some ∘ AttributeValue.number) (id_eq_of_alike h (hid hattr))
  | organisationId =>
      have howner := organisationId_eq_of_alike h (horganisation hattr)
      exact congrArg (Option.map AttributeValue.number) howner
  | projectId => exact congrArg (Option.map AttributeValue.number) (projectId_eq_of_alike h)
  | frameworkKey => exact congrArg (Option.map AttributeValue.text) (framework_eq_of_alike h)
  | createdBy =>
      have hauthor := author_eq_of_alike h (hauthor hattr)
      exact congrArg (Option.map AttributeValue.number) hauthor

/-- Entities of one type that agree on what its standard policy looks at are decided on by the same
rule. -/
theorem index_firstMatch_standard_congr (a : Authority) (action : String) (e f : Entity)
    (htype : e.type = f.type)
    (hagree : ∀ attr ∈ e.type.decidingAttributes, e.attr attr = f.attr attr) :
    (Rule.firstMatch ((Policy.standard e.type).rules a) action (.entity e)).index =
      (Rule.firstMatch ((Policy.standard e.type).rules a) action (.entity f)).index := by
  apply Rule.index_firstMatch_congr
  intro rule hrule
  obtain ⟨g, hg, hmem⟩ := (Policy.mem_rules_standard_iff e.type a rule).mp hrule
  apply rule.covers_congr_of_attributes action e f htype
  intro attr hattr
  rw [g.attributes_of_mem_rules a e.type rule hmem, Option.mem_toList] at hattr
  exact hagree attr (List.mem_filterMap.mpr ⟨g, hg, hattr⟩)

/-- Searches of the same rules that find the same come to the same decision. -/
theorem Registry.decision_rulingBy_congr (registry : Registry) (source : Source) (actor : Actor)
    (s t : Subject) (find search : List Rule → Finding) (htype : s.type = t.type)
    (hfind : ∀ rules, registry.Builds source actor s rules →
      (find rules).index = (search rules).index) :
    (registry.rulingBy source actor s find).decision =
      (registry.rulingBy source actor t search).decision := by
  have hrules : registry.rulesFor source actor s = registry.rulesFor source actor t := by
    unfold rulesFor resolve?
    rw [htype]
  unfold rulingBy
  rw [← hrules]
  cases hbuilt : registry.rulesFor source actor s with
  | error reason => rfl
  | ok rules =>
      simp only [hfind rules ((rulesFor_eq_ok_iff _ _ _ _ _).mp hbuilt)]
      cases (search rules).index <;> rfl

/-- The standard policies decide alike on records that are alike, and name the same rule, whoever
asks for whatever action. -/
theorem decision_eq_of_alike (r s : Record) (h : r.Alike s) :
    s.type = r.type ∧
    (∀ (a : Authority) (action : String),
      (Rule.firstMatch ((Policy.standard s.type).rules a) action (.entity s.entity)).index =
        (Rule.firstMatch ((Policy.standard r.type).rules a) action (.entity r.entity)).index) ∧
    ∀ (source : Source) (actor : Actor) (action : String),
      (Registry.standard.judge source actor action (.entity s.entity)).decision =
        (Registry.standard.judge source actor action (.entity r.entity)).decision := by
  have htype := Record.type_eq_of_alike h
  have hindex (a : Authority) (action : String) :
      (Rule.firstMatch ((Policy.standard r.type).rules a) action (.entity r.entity)).index =
        (Rule.firstMatch ((Policy.standard r.type).rules a) action (.entity s.entity)).index :=
    index_firstMatch_standard_congr a action r.entity s.entity htype (r.attr_eq_of_alike s h)
  refine ⟨htype.symm, ?_, ?_⟩
  · intro a action
    rw [← htype]
    exact (hindex a action).symm
  · intro source actor action
    refine (Registry.decision_rulingBy_congr Registry.standard source actor (.entity r.entity)
      (.entity s.entity) _ _ htype ?_).symm
    rintro rules ⟨user, policy, a, -, hpolicy, -, rfl⟩
    rw [Registry.policy?_standard, Option.some.injEq] at hpolicy
    exact hpolicy ▸ hindex a action

/-- A report on a site whose project names no owner. To a user who administers `ppc`, belongs to
organisation 42 and manages project 5 it makes no difference that the report or the site has the
number 5, nor that the project is in `ppc`: updating the report is denied, as it was before. -/
theorem decision_eq_of_alike_siteReport :
    let report (id site : Identifier) (framework : Option String) : Record :=
      .siteReport id none (some ⟨site, some ⟨8, none, framework⟩⟩)
    let manager : Authority := ⟨7, {"framework-ppc", "manage-own", "projects-manage"}, ⟨{42}, {5}, ∅⟩⟩
    (report 1 2 none).Alike (report 5 5 (some "ppc")) ∧
      (Rule.firstMatch ((Policy.standard .siteReport).rules manager) "update"
        (.entity (report 5 5 (some "ppc")).entity)).index = none := by
  intro report manager
  have halike : (report 1 2 none).Alike (report 5 5 (some "ppc")) :=
    .siteReport _ _ _ _ _ (.some (.some ⟨rfl, rfl⟩))
  have hbefore : (Rule.firstMatch ((Policy.standard .siteReport).rules manager) "update"
      (.entity (report 1 2 none).entity)).index = none := by decide +kernel
  exact ⟨halike, ((decision_eq_of_alike _ _ halike).2.1 manager "update").trans hbefore⟩

end AccessControl
