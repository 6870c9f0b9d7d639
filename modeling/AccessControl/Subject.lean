import AccessControl.Attribute
import AccessControl.EntityType

/-!
# Subjects

What an action is performed on: one entity, of which rules see the type and the attributes that it
can resolve, or an entity type as a whole, as when something is about to be created.
-/

set_option autoImplicit false

namespace AccessControl

/-- What rules can see of one resource. An attribute that the resource cannot resolve, for instance
because a link of its parent chain is missing, has no value. -/
structure Entity where
  type : EntityType
  attr : Attribute → Option AttributeValue

/-- What an action is performed on. -/
inductive Subject
  /-- One entity. -/
  | entity (entity : Entity)
  /-- An entity type as a whole. -/
  | wholeType (type : EntityType)

namespace Subject

/-- The entity type that decides which policy applies. -/
def type : Subject → EntityType
  | .entity e => e.type
  | .wholeType t => t

def isWholeType : Subject → Bool
  | .entity _ => false
  | .wholeType _ => true

def label : Subject → String
  | .entity e => "Instance(" ++ e.type.name ++ ")"
  | .wholeType t => "Class(" ++ t.name ++ ")"

end Subject

end AccessControl
