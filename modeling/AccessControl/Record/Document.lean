import AccessControl.Json.Basic
import AccessControl.Record

/-!
# Record documents

The JSON forms of entity types, attributes and their values, records and subjects. A record is
written with all its fields, and read with those that may be missing left out or null. A host
application can describe an entity by itself, as an entity type and the attributes that it resolves.
-/

set_option autoImplicit false

namespace AccessControl

def EntityType.ofJson? (value : Json) : Option EntityType :=
  value.asName?.bind EntityType.ofName?

def EntityType.toJson (t : EntityType) : Json := .text t.name

def Attribute.ofJson? (value : Json) : Option Attribute :=
  value.asName?.bind Attribute.ofName?

def Attribute.toJson (a : Attribute) : Json := .text a.name

def Identifier.toJson (id : Identifier) : Json := .integer id.toInt

def IdentifierSet.toJson (ids : IdentifierSet) : Json :=
  .array (ids.toList.map Identifier.toJson)

namespace AttributeValue

def ofJson? : Json → Option AttributeValue
  | .text value => some (.text value)
  | value => value.asInt64?.map .number

def toJson : AttributeValue → Json
  | .number value => Identifier.toJson value
  | .text value => .text value

end AttributeValue

def identifierField (id : Option Identifier) : Json := Json.ofOption Identifier.toJson id

def textField (content : Option String) : Json := Json.ofOption .text content

def identifier? (field : Option Json) : Option Identifier := Json.required? Json.asInt64? field

def optionalIdentifier? (field : Option Json) : Option (Option Identifier) :=
  Json.optional? Json.asInt64? field

def optionalText? (field : Option Json) : Option (Option String) :=
  Json.optional? Json.asText? field

/-- The fields of a record, in order, with nothing left out where they are written as an array. -/
def recordFields? (names : List String) (value : Json) : Option (List (Option Json)) :=
  value.fields? names names.length

namespace ProjectRef

def ofJson? (value : Json) : Option ProjectRef := do
  let [i, o, f] ← recordFields? ["id", "organisation_id", "framework_key"] value | none
  return ⟨← identifier? i, ← optionalIdentifier? o, ← optionalText? f⟩

def toJson (p : ProjectRef) : Json :=
  .object
    [("id", Identifier.toJson p.id),
      ("organisation_id", identifierField p.organisation),
      ("framework_key", textField p.framework)]

end ProjectRef

def projectField (p : Option ProjectRef) : Json := Json.ofOption ProjectRef.toJson p

def optionalProject? (field : Option Json) : Option (Option ProjectRef) :=
  Json.optional? ProjectRef.ofJson? field

def SiteRef.ofJson? (value : Json) : Option SiteRef := do
  let [id, project] ← recordFields? ["id", "project"] value | none
  return ⟨← identifier? id, ← optionalProject? project⟩

def SiteRef.toJson (s : SiteRef) : Json :=
  .object [("id", Identifier.toJson s.id), ("project", projectField s.project)]

def NurseryRef.ofJson? (value : Json) : Option NurseryRef := do
  let [id, project] ← recordFields? ["id", "project"] value | none
  return ⟨← identifier? id, ← optionalProject? project⟩

def NurseryRef.toJson (n : NurseryRef) : Json :=
  .object [("id", Identifier.toJson n.id), ("project", projectField n.project)]

def Attachment.ofJson? (value : Json) : Option Attachment := do
  let [framework, project] ← recordFields? ["framework_key", "project"] value | none
  return ⟨← optionalText? framework, ← optionalProject? project⟩

def Attachment.toJson (parent : Attachment) : Json :=
  .object [("framework_key", textField parent.framework), ("project", projectField parent.project)]

def optionalSite? (field : Option Json) : Option (Option SiteRef) :=
  Json.optional? SiteRef.ofJson? field

def optionalNursery? (field : Option Json) : Option (Option NurseryRef) :=
  Json.optional? NurseryRef.ofJson? field

def optionalParent? (field : Option Json) : Option (Option Attachment) :=
  Json.optional? Attachment.ofJson? field

def parentField (parent : Option Attachment) : Json := Json.ofOption Attachment.toJson parent

namespace Record

def ofJson? (t : EntityType) (value : Json) : Option Record :=
  match t with
  | .project => do
    let [i, o, f] ← recordFields? ["id", "organisation_id", "framework_key"] value | none
    return .project (← identifier? i) (← optionalIdentifier? o) (← optionalText? f)
  | .site => do
    let [i, f, p] ← recordFields? ["id", "framework_key", "project"] value | none
    return .site (← identifier? i) (← optionalText? f) (← optionalProject? p)
  | .nursery => do
    let [i, f, p] ← recordFields? ["id", "framework_key", "project"] value | none
    return .nursery (← identifier? i) (← optionalText? f) (← optionalProject? p)
  | .projectReport => do
    let [i, f, p] ← recordFields? ["id", "framework_key", "project"] value | none
    return .projectReport (← identifier? i) (← optionalText? f) (← optionalProject? p)
  | .siteReport => do
    let [i, f, s] ← recordFields? ["id", "framework_key", "site"] value | none
    return .siteReport (← identifier? i) (← optionalText? f) (← optionalSite? s)
  | .nurseryReport => do
    let [i, f, n] ← recordFields? ["id", "framework_key", "nursery"] value | none
    return .nurseryReport (← identifier? i) (← optionalText? f) (← optionalNursery? n)
  | .organisation => do
    let [i] ← recordFields? ["id"] value | none
    return .organisation (← identifier? i)
  | .application => do
    let [i, o, f] ← recordFields? ["id", "organisation_id", "framework_key"] value | none
    return .application (← identifier? i) (← optionalIdentifier? o) (← optionalText? f)
  | .formSubmission => do
    let names := ["id", "organisation_id", "framework_key", "created_by"]
    let [i, o, f, a] ← recordFields? names value | none
    return .formSubmission (← identifier? i) (← optionalIdentifier? o) (← optionalText? f)
      (← optionalIdentifier? a)
  | .projectPitch => do
    let [i, o] ← recordFields? ["id", "organisation_id"] value | none
    return .projectPitch (← identifier? i) (← optionalIdentifier? o)
  | .fundingProgramme => do
    let [i, f] ← recordFields? ["id", "framework_key"] value | none
    return .fundingProgramme (← identifier? i) (← optionalText? f)
  | .disturbance => do
    let [i, p] ← recordFields? ["id", "parent"] value | none
    return .disturbance (← identifier? i) (← optionalParent? p)
  | .trackingEntry => do
    let [i, p] ← recordFields? ["id", "parent"] value | none
    return .trackingEntry (← identifier? i) (← optionalParent? p)
  | .projectPolygon => do
    let [i, p, a] ← recordFields? ["id", "project", "created_by"] value | none
    return .projectPolygon (← identifier? i) (← optionalProject? p) (← optionalIdentifier? a)
  | .task => do
    let [i, p] ← recordFields? ["id", "project"] value | none
    return .task (← identifier? i) (← optionalProject? p)
  | .media => do
    let [i, p, a] ← recordFields? ["id", "parent", "created_by"] value | none
    return .media (← identifier? i) (← optionalParent? p) (← optionalIdentifier? a)
  | .user => do
    let [i, o] ← recordFields? ["id", "organisation_id"] value | none
    return .user (← identifier? i) (← optionalIdentifier? o)

/-- The fields of a record beside its identifier. -/
def linkFields : Record → List (String × Json)
  | .project _ o f => [("organisation_id", identifierField o), ("framework_key", textField f)]
  | .site _ f p => [("framework_key", textField f), ("project", projectField p)]
  | .nursery _ f p => [("framework_key", textField f), ("project", projectField p)]
  | .projectReport _ f p => [("framework_key", textField f), ("project", projectField p)]
  | .siteReport _ f s => [("framework_key", textField f), ("site", Json.ofOption SiteRef.toJson s)]
  | .nurseryReport _ f n =>
    [("framework_key", textField f), ("nursery", Json.ofOption NurseryRef.toJson n)]
  | .organisation _ => []
  | .application _ o f => [("organisation_id", identifierField o), ("framework_key", textField f)]
  | .formSubmission _ o f a =>
    [("organisation_id", identifierField o), ("framework_key", textField f),
      ("created_by", identifierField a)]
  | .projectPitch _ o => [("organisation_id", identifierField o)]
  | .fundingProgramme _ f => [("framework_key", textField f)]
  | .disturbance _ p => [("parent", parentField p)]
  | .trackingEntry _ p => [("parent", parentField p)]
  | .projectPolygon _ p a => [("project", projectField p), ("created_by", identifierField a)]
  | .task _ p => [("project", projectField p)]
  | .media _ p a => [("parent", parentField p), ("created_by", identifierField a)]
  | .user _ o => [("organisation_id", identifierField o)]

def toJson (r : Record) : Json :=
  .object (("id", Identifier.toJson r.id) :: r.linkFields)

end Record

/-- A resource to check: a record of a built-in kind, or an entity described by the host. -/
inductive Resource
  | builtIn (record : Record)
  | described (entity : Entity)

namespace Resource

def entity : Resource → Entity
  | .builtIn r => r.entity
  | .described e => e

/-- The attributes that a JSON object lists, each by its name. -/
def attributes? : Json → Option (List (Attribute × AttributeValue))
  | .object members =>
    members.mapM fun (name, value) => do
      return (← Attribute.ofName? name, ← AttributeValue.ofJson? value)
  | _ => none

/-- The entity that a host describes; an attribute that is not listed has no value. -/
def described? (value : Json) : Option Entity := do
  let t ← EntityType.ofJson? (← value.member? "subject_type")
  let listed ← ((value.given? "attrs").map attributes?).getD (some [])
  return ⟨t, fun a => listed.lookup a⟩

/-- The resource of a JSON value, which names the kind of the resource beside its fields. -/
def ofJson? (value : Json) : Option Resource := do
  let kind ← (← value.member? "type").asText?
  let fields ← value.member? "data"
  if kind = "Custom" then (described? fields).map .described
  else (Record.ofJson? (← EntityType.ofName? kind) fields).map .builtIn

/-- The JSON form of the fields of a resource; a described entity has none of its own. -/
def fieldsJson : Resource → Json
  | .builtIn r => r.toJson
  | .described _ => .null

def attributesJson (r : Resource) : Json :=
  .object (Attribute.all.map fun a =>
    (a.name, Json.ofOption AttributeValue.toJson (r.entity.attr a)))

end Resource

/-- A subject as it is named in a request. -/
inductive SubjectRef
  | wholeType (type : EntityType)
  | resource (resource : Resource)

namespace SubjectRef

def subject : SubjectRef → Subject
  | .wholeType t => .wholeType t
  | .resource r => .entity r.entity

/-- Whether the host wants to know which attributes were resolved, as it does for an entity that it
describes itself. -/
def isDescribed : SubjectRef → Bool
  | .resource (.described _) => true
  | _ => false

/-- The subject of a JSON value: a whole type where one is named, and else a resource. -/
def ofJson? (value : Json) : Option SubjectRef :=
  match value.given? "class" with
  | some t => (EntityType.ofJson? t).map .wholeType
  | none => ((value.member? "record").bind Resource.ofJson?).map .resource

end SubjectRef

end AccessControl
