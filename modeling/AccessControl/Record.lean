import AccessControl.Subject

/-!
# Records

The built-in kinds of record and the attributes that each of them resolves. A record either holds an
attribute itself or finds it on the project at the end of its parent chain: a report of a site, for
instance, belongs to the organisation of the project of the site. A missing link ends the chain, and
the attributes behind it stay without a value.
-/

set_option autoImplicit false

namespace AccessControl

/-- A project, as records under it know it. -/
structure ProjectRef where
  id : Identifier
  organisation : Option Identifier
  framework : Option String
  deriving DecidableEq

/-- A site, as its reports know it. -/
structure SiteRef where
  id : Identifier
  project : Option ProjectRef
  deriving DecidableEq

/-- A nursery, as its reports know it. -/
structure NurseryRef where
  id : Identifier
  project : Option ProjectRef
  deriving DecidableEq

/-- The record that a disturbance, a tracking entry or a media item is attached to. -/
structure Attachment where
  framework : Option String
  project : Option ProjectRef
  deriving DecidableEq

/-- A record of one of the built-in kinds. -/
inductive Record
  | project (id : Identifier) (organisation : Option Identifier) (framework : Option String)
  | site (id : Identifier) (framework : Option String) (project : Option ProjectRef)
  | nursery (id : Identifier) (framework : Option String) (project : Option ProjectRef)
  | projectReport (id : Identifier) (framework : Option String) (project : Option ProjectRef)
  | siteReport (id : Identifier) (framework : Option String) (site : Option SiteRef)
  | nurseryReport (id : Identifier) (framework : Option String) (nursery : Option NurseryRef)
  | organisation (id : Identifier)
  | application (id : Identifier) (organisation : Option Identifier) (framework : Option String)
  | formSubmission (id : Identifier) (organisation : Option Identifier) (framework : Option String)
      (author : Option Identifier)
  | projectPitch (id : Identifier) (organisation : Option Identifier)
  | fundingProgramme (id : Identifier) (framework : Option String)
  | disturbance (id : Identifier) (parent : Option Attachment)
  | trackingEntry (id : Identifier) (parent : Option Attachment)
  | projectPolygon (id : Identifier) (project : Option ProjectRef) (author : Option Identifier)
  | task (id : Identifier) (project : Option ProjectRef)
  | media (id : Identifier) (parent : Option Attachment) (author : Option Identifier)
  | user (id : Identifier) (organisation : Option Identifier)
  deriving DecidableEq

namespace Record

def type : Record → EntityType
  | .project .. => .project
  | .site .. => .site
  | .nursery .. => .nursery
  | .projectReport .. => .projectReport
  | .siteReport .. => .siteReport
  | .nurseryReport .. => .nurseryReport
  | .organisation .. => .organisation
  | .application .. => .application
  | .formSubmission .. => .formSubmission
  | .projectPitch .. => .projectPitch
  | .fundingProgramme .. => .fundingProgramme
  | .disturbance .. => .disturbance
  | .trackingEntry .. => .trackingEntry
  | .projectPolygon .. => .projectPolygon
  | .task .. => .task
  | .media .. => .media
  | .user .. => .user

def id : Record → Identifier
  | .project id .. => id
  | .site id .. => id
  | .nursery id .. => id
  | .projectReport id .. => id
  | .siteReport id .. => id
  | .nurseryReport id .. => id
  | .organisation id .. => id
  | .application id .. => id
  | .formSubmission id .. => id
  | .projectPitch id .. => id
  | .fundingProgramme id .. => id
  | .disturbance id .. => id
  | .trackingEntry id .. => id
  | .projectPolygon id .. => id
  | .task id .. => id
  | .media id .. => id
  | .user id .. => id

/-- The framework that a record names itself. -/
def ownFramework : Record → Option String
  | .project _ _ framework => framework
  | .site _ framework _ => framework
  | .nursery _ framework _ => framework
  | .projectReport _ framework _ => framework
  | .siteReport _ framework _ => framework
  | .nurseryReport _ framework _ => framework
  | .application _ _ framework => framework
  | .formSubmission _ _ framework _ => framework
  | .fundingProgramme _ framework => framework
  | _ => none

/-- The organisation that a record names itself. -/
def ownOrganisation : Record → Option Identifier
  | .project _ o _ => o
  | .organisation id => some id
  | .application _ o _ => o
  | .formSubmission _ o _ _ => o
  | .projectPitch _ o => o
  | .user _ o => o
  | _ => none

/-- The user who created a record, where the record keeps it. -/
def author : Record → Option Identifier
  | .formSubmission _ _ _ author => author
  | .projectPolygon _ _ author => author
  | .media _ _ author => author
  | _ => none

/-- The project at the end of the parent chain of a record. -/
def parentProject : Record → Option ProjectRef
  | .site _ _ p => p
  | .nursery _ _ p => p
  | .projectReport _ _ p => p
  | .siteReport _ _ parent => parent.bind (·.project)
  | .nurseryReport _ _ parent => parent.bind (·.project)
  | .disturbance _ parent => parent.bind (·.project)
  | .trackingEntry _ parent => parent.bind (·.project)
  | .projectPolygon _ p _ => p
  | .task _ p => p
  | .media _ parent _ => parent.bind (·.project)
  | _ => none

/-- The framework that decides over a record. A site, a nursery and their reports name it
themselves, what is attached to a record takes it from that record, and a polygon or a task from its
project. -/
def framework : Record → Option String
  | .disturbance _ parent => parent.bind (·.framework)
  | .trackingEntry _ parent => parent.bind (·.framework)
  | .media _ parent _ => parent.bind (·.framework)
  | .projectPolygon _ p _ => p.bind (·.framework)
  | .task _ p => p.bind (·.framework)
  | r => r.ownFramework

/-- The organisation that a record belongs to, by itself or through its project. -/
def organisationId (r : Record) : Option Identifier :=
  r.ownOrganisation <|> r.parentProject.bind (·.organisation)

/-- The project that a record is, or belongs to. -/
def projectId : Record → Option Identifier
  | .project id .. => some id
  | r => r.parentProject.map (·.id)

def attr (r : Record) : Attribute → Option AttributeValue
  | .id => some (.number r.id)
  | .organisationId => r.organisationId.map .number
  | .projectId => r.projectId.map .number
  | .frameworkKey => r.framework.map .text
  | .createdBy => r.author.map .number

def entity (r : Record) : Entity := ⟨r.type, r.attr⟩

/-- A task of a project of which nothing but the identifier is known. -/
def taskOf (id : Identifier) (project : Identifier) : Record :=
  .task id (some ⟨project, none, none⟩)

/-- A record as an entity keeps its type. -/
@[simp] theorem type_entity (r : Record) : r.entity.type = r.type := rfl

/-- A record as an entity keeps its attributes. -/
@[simp] theorem attr_entity (r : Record) (a : Attribute) :
    r.entity.attr a = r.attr a := rfl

/-- A record that names no organisation itself belongs to the organisation of its project. -/
theorem organisationId_of_own_none (r : Record) (h : r.ownOrganisation = none) :
    r.organisationId = r.parentProject.bind (·.organisation) := by
  simp [organisationId, h]

end Record

end AccessControl
