/-!
# Entity types

The kinds of resource that a rule can name, in their fixed order.
-/

set_option autoImplicit false

namespace AccessControl

/-- A kind of resource that a rule can name. -/
inductive EntityType
  | project
  | site
  | nursery
  | projectReport
  | siteReport
  | nurseryReport
  | organisation
  | application
  | formSubmission
  | projectPitch
  | fundingProgramme
  | disturbance
  | trackingEntry
  | projectPolygon
  | task
  | media
  | user
  deriving DecidableEq

namespace EntityType

def all : List EntityType :=
  [.project, .site, .nursery, .projectReport, .siteReport, .nurseryReport, .organisation,
    .application, .formSubmission, .projectPitch, .fundingProgramme, .disturbance, .trackingEntry,
    .projectPolygon, .task, .media, .user]

def name : EntityType → String
  | .project => "Project"
  | .site => "Site"
  | .nursery => "Nursery"
  | .projectReport => "ProjectReport"
  | .siteReport => "SiteReport"
  | .nurseryReport => "NurseryReport"
  | .organisation => "Organisation"
  | .application => "Application"
  | .formSubmission => "FormSubmission"
  | .projectPitch => "ProjectPitch"
  | .fundingProgramme => "FundingProgramme"
  | .disturbance => "Disturbance"
  | .trackingEntry => "TrackingEntry"
  | .projectPolygon => "ProjectPolygon"
  | .task => "Task"
  | .media => "Media"
  | .user => "User"

/-- The entity type of a name, letter case included. -/
def ofName? (name : String) : Option EntityType :=
  all.find? fun t => t.name == name

/-- The place of an entity type in the list of all of them. -/
def position (t : EntityType) : Nat :=
  all.idxOf t

/-- The list of types lacks none. -/
theorem mem_all (t : EntityType) : t ∈ all := by
  cases t <;> decide

/-- The list of all entity types has each at its position. -/
theorem getElem?_position (t : EntityType) : all[t.position]? = some t := by
  cases t <;> rfl

/-- No two types have one position. -/
theorem position_injective {s t : EntityType} (h : s.position = t.position) : s = t := by
  have hs := getElem?_position s
  rw [h, getElem?_position t] at hs
  exact (Option.some.inj hs).symm

/-- Every name is read back as the type that it names. -/
theorem ofName?_name (t : EntityType) : ofName? t.name = some t := by
  cases t <;> rfl

/-- Entity types compare by position. -/
instance : Ord EntityType where
  compare s t := compare s.position t.position

/-- Types are compared by their positions. -/
theorem compare_eq (s t : EntityType) : compare s t = compare s.position t.position := rfl

instance : Std.TransOrd EntityType where
  eq_swap {s t} := by
    simp only [compare_eq]
    exact Std.OrientedCmp.eq_swap
  isLE_trans {s t u} hst htu := by
    simp only [compare_eq] at hst htu ⊢
    exact Std.TransCmp.isLE_trans hst htu

instance : Std.LawfulEqOrd EntityType where
  eq_of_compare {s t} h := by
    rw [compare_eq] at h
    exact position_injective (Std.LawfulEqCmp.eq_of_compare h)

end EntityType

end AccessControl
