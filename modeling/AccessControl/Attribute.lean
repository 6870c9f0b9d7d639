import Std.Data.ExtTreeSet

/-!
# Attributes and their values

The fields of a resource that take part in access decisions, and the two kinds of value that such a
field can have. An identifier and a text are never equal, not even when the text spells the
identifier.
-/

set_option autoImplicit false

namespace AccessControl

/-- The identifier of a user, an organisation, a project or any other record. -/
abbrev Identifier := Int64

/-- A finite set of identifiers, in ascending order. -/
abbrev IdentifierSet := Std.ExtTreeSet Identifier

/-- A set made of a list has the elements of the list. -/
theorem mem_ofList_iff {α : Type} [Ord α] [Std.TransOrd α] [Std.LawfulEqOrd α] [DecidableEq α]
    (xs : List α) (x : α) : x ∈ Std.ExtTreeSet.ofList xs ↔ x ∈ xs := by
  rw [Std.ExtTreeSet.mem_ofList, List.contains_eq_mem, decide_eq_true_eq]

/-- A field of a resource that takes part in access decisions. -/
inductive Attribute
  | id
  | organisationId
  | projectId
  | frameworkKey
  | createdBy
  deriving DecidableEq

namespace Attribute

def all : List Attribute := [.id, .organisationId, .projectId, .frameworkKey, .createdBy]

def name : Attribute → String
  | .id => "Id"
  | .organisationId => "OrganisationId"
  | .projectId => "ProjectId"
  | .frameworkKey => "FrameworkKey"
  | .createdBy => "CreatedBy"

/-- The attribute of a name, letter case included. -/
def ofName? (name : String) : Option Attribute :=
  all.find? fun a => a.name == name

/-- The list of attributes lacks none. -/
theorem mem_all (a : Attribute) : a ∈ all := by
  cases a <;> decide

/-- Every name is read back as the attribute that it names. -/
theorem ofName?_name (a : Attribute) : ofName? a.name = some a := by
  cases a <;> rfl

end Attribute

/-- The value of an attribute: an identifier or a text. -/
inductive AttributeValue
  | number (value : Identifier)
  | text (value : String)
  deriving DecidableEq

namespace AttributeValue

def asNumber? : AttributeValue → Option Identifier
  | .number value => some value
  | .text _ => none

def asText? : AttributeValue → Option String
  | .number _ => none
  | .text value => some value

/-- Only numbers are read as numbers. -/
theorem asNumber?_eq_some_iff (v : AttributeValue) (id : Identifier) :
    v.asNumber? = some id ↔ v = .number id := by
  cases v <;> simp [asNumber?]

/-- Only texts are read as texts. -/
theorem asText?_eq_some_iff (v : AttributeValue) (content : String) :
    v.asText? = some content ↔ v = .text content := by
  cases v <;> simp [asText?]

/-- Numbers come before texts; numbers compare as integers and texts by code points. -/
instance : Ord AttributeValue where
  compare
    | .number a, .number b => compare a b
    | .number _, .text _ => .lt
    | .text _, .number _ => .gt
    | .text a, .text b => compare a b

/-- Numbers are compared as numbers. -/
theorem compare_number (a b : Identifier) : compare (number a) (number b) = compare a b := rfl

/-- Texts are compared as texts. -/
theorem compare_text (a b : String) : compare (text a) (text b) = compare a b := rfl

/-- Every number stands before every text. -/
theorem compare_number_text (a : Identifier) (b : String) : compare (number a) (text b) = .lt := rfl

/-- Every text stands behind every number. -/
theorem compare_text_number (a : String) (b : Identifier) : compare (text a) (number b) = .gt := rfl

instance : Std.TransOrd AttributeValue where
  eq_swap {a b} := by
    cases a <;> cases b <;> simp only [compare_number, compare_text, compare_number_text,
      compare_text_number, Ordering.swap]
    · exact Std.OrientedCmp.eq_swap
    · exact Std.OrientedCmp.eq_swap
  isLE_trans {a b c} := by
    cases a <;> cases b <;> cases c <;> simp only [compare_number, compare_text,
      compare_number_text, compare_text_number, Ordering.isLE, implies_true, reduceCtorEq,
      false_implies]
    · exact Std.TransCmp.isLE_trans
    · exact Std.TransCmp.isLE_trans

instance : Std.LawfulEqOrd AttributeValue where
  eq_of_compare {a b} := by
    cases a <;> cases b <;> simp only [compare_number, compare_text, compare_number_text,
      compare_text_number, reduceCtorEq, false_implies, number.injEq, text.injEq]
    · exact Std.LawfulEqCmp.eq_of_compare
    · exact Std.LawfulEqCmp.eq_of_compare

end AttributeValue

/-- A finite set of attribute values, in ascending order. -/
abbrev ValueSet := Std.ExtTreeSet AttributeValue

end AccessControl
