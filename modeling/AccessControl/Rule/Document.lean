import AccessControl.Record.Document
import AccessControl.Rule

/-!
# Rule documents

The JSON forms of conditions and rules. The kind of a condition is its field `op`; a rule without a
condition is written without that field.
-/

set_option autoImplicit false

namespace AccessControl

namespace Condition

mutual

def toJson : Condition → Json
  | .equals a value =>
    .object [("op", .text "eq"), ("attr", a.toJson), ("value", value.toJson)]
  | .oneOf a values =>
    .object
      [("op", .text "in"), ("attr", a.toJson),
        ("values", .array (values.toList.map AttributeValue.toJson))]
  | .all conditions =>
    .object [("op", .text "all"), ("conditions", .array (allToJson conditions))]

def allToJson : List Condition → List Json
  | [] => []
  | c :: cs => toJson c :: allToJson cs

end

/-- The attribute that a condition is about. -/
def attrField? (members : List (String × Json)) : Option Attribute :=
  (members.lookup "attr").bind Attribute.ofJson?

mutual

def ofJson? : Json → Option Condition
  | .object members =>
    match members.lookup "op" with
    | some (.text "eq") => do
      let value ← (members.lookup "value").bind AttributeValue.ofJson?
      return .equals (← attrField? members) value
    | some (.text "in") => do
      let values ← (members.lookup "values").bind (Json.asListOf? AttributeValue.ofJson?)
      return .isIn (← attrField? members) values
    | some (.text "all") => (conditionsOf? members).map .all
    | _ => none
  | _ => none

/-- The conditions listed by the member `conditions`. -/
def conditionsOf? : List (String × Json) → Option (List Condition)
  | [] => none
  | (name, value) :: members =>
    if name = "conditions" then itemsOf? value else conditionsOf? members

def itemsOf? : Json → Option (List Condition)
  | .array items => allOfJson? items
  | _ => none

def allOfJson? : List Json → Option (List Condition)
  | [] => some []
  | item :: items => do
    return (← ofJson? item) :: (← allOfJson? items)

end

end Condition

namespace Rule

def toJson (r : Rule) : Json :=
  .object
    ([("actions", Json.ofTexts r.actions), ("subject", r.subject.toJson)] ++
      (r.condition.map fun c => ("condition", c.toJson)).toList ++
      [("instance_only", .bool r.instanceOnly)])

/-- The rule of a JSON value; one that does not say so is about whole types too. -/
def ofJson? (value : Json) : Option Rule := do
  return {
    actions := ← Json.asListOf? Json.asText? (← value.member? "actions")
    subject := ← EntityType.ofJson? (← value.member? "subject")
    condition := ← Json.optional? Condition.ofJson? (value.given? "condition")
    instanceOnly := (← Json.optional? Json.asBool? (value.given? "instance_only")).getD false }

end Rule

def rulesToJson (rules : List Rule) : Json := .array (rules.map Rule.toJson)

end AccessControl
