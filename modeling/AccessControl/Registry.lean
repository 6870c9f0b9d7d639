import Std.Data.ExtTreeMap
import AccessControl.Policy

/-!
# Registries

Which policy is in force for each entity type. A type without a policy is denied every action, so
taking a policy away, or putting the policy of another type in its place, can only take authority
away.
-/

set_option autoImplicit false

namespace AccessControl

/-- The policies in force, by entity type. -/
structure Registry where
  policies : Std.ExtTreeMap EntityType Policy

namespace Registry

def empty : Registry := ⟨∅⟩

def policy? (r : Registry) (t : EntityType) : Option Policy :=
  r.policies[t]?

/-- The policy in force for a subject, which is that of its type. -/
def resolve? (r : Registry) (s : Subject) : Option Policy :=
  r.policy? s.type

/-- The registry with a policy put in force for a type, in place of any other. -/
def register (r : Registry) (t : EntityType) (p : Policy) : Registry :=
  ⟨r.policies.insert t p⟩

def unregister (r : Registry) (t : EntityType) : Registry :=
  ⟨r.policies.erase t⟩

/-- Putting a policy in force hands back the one whose place it takes. -/
def replace (r : Registry) (t : EntityType) (p : Policy) : Option Policy × Registry :=
  (r.policies[t]?, r.register t p)

/-- Taking the policy of a type away hands it back. -/
def withdraw (r : Registry) (t : EntityType) : Option Policy × Registry :=
  (r.policies[t]?, r.unregister t)

def contains (r : Registry) (t : EntityType) : Bool :=
  r.policies.contains t

/-- The types with a policy, in the order of entity types. -/
def types (r : Registry) : List EntityType :=
  r.policies.keys

def size (r : Registry) : Nat :=
  r.policies.size

def isEmpty (r : Registry) : Bool :=
  r.policies.isEmpty

/-- The registry with the standard policy of every type in force. -/
def standard : Registry :=
  EntityType.all.foldl (fun r t => r.register t (.standard t)) empty

def label (r : Registry) : String :=
  let names := ", ".intercalate (r.types.map EntityType.name)
  "PolicyRegistry \x7b subject_types: [" ++ names ++ "] \x7d"

/-- In the empty registry no type has a policy. -/
@[simp] theorem policy?_empty (t : EntityType) : empty.policy? t = none := by
  simp [policy?, empty]

/-- Registering decides the policy of one type and leaves the others. -/
theorem policy?_register (r : Registry) (t u : EntityType) (p : Policy) :
    (r.register t p).policy? u = if t = u then some p else r.policy? u := by
  simp [policy?, register, Std.ExtTreeMap.getElem?_insert]

/-- Unregistering takes the policy of one type and leaves the others. -/
theorem policy?_unregister (r : Registry) (t u : EntityType) :
    (r.unregister t).policy? u = if t = u then none else r.policy? u := by
  simp [policy?, unregister, Std.ExtTreeMap.getElem?_erase]

/-- The types listed are those with a policy. -/
theorem mem_types_iff (r : Registry) (t : EntityType) : t ∈ r.types ↔ (r.policy? t).isSome := by
  rw [types, policy?, Std.ExtTreeMap.mem_keys, Std.ExtTreeMap.mem_iff_isSome_getElem?]

/-- A registry contains the types that have a policy. -/
theorem contains_eq (r : Registry) (t : EntityType) : r.contains t = (r.policy? t).isSome :=
  Std.ExtTreeMap.contains_eq_isSome_getElem?

/-- The types are listed in their order, each once. -/
theorem pairwise_types (r : Registry) :
    r.types.Pairwise fun t u => t.position < u.position := by
  apply List.Pairwise.imp _ r.policies.ordered_keys
  intro t u hlt
  rwa [EntityType.compare_eq, Nat.compare_eq_lt] at hlt

/-- As many types are listed as there are policies. -/
theorem length_types (r : Registry) : r.types.length = r.size :=
  Std.ExtTreeMap.length_keys

/-- No types are listed exactly if there is no policy. -/
theorem isEmpty_types (r : Registry) : r.types.isEmpty = r.isEmpty :=
  Std.ExtTreeMap.isEmpty_keys

/-- Registering the standard policies of a list of types decides the policies of those types. -/
theorem policy?_foldl_register (ts : List EntityType) (r : Registry) (u : EntityType) :
    (ts.foldl (fun r t => r.register t (.standard t)) r).policy? u =
      if u ∈ ts then some (.standard u) else r.policy? u := by
  induction ts generalizing r with
  | nil => simp
  | cons t ts ih =>
    rw [List.foldl_cons, ih, policy?_register]
    by_cases hmem : u ∈ ts
    · simp [hmem]
    · by_cases heq : t = u
      · simp [heq]
      · simp [hmem, heq, Ne.symm heq]

/-- The standard registry has the standard policy of every type. -/
@[simp] theorem policy?_standard (t : EntityType) : standard.policy? t = some (.standard t) := by
  rw [standard, policy?_foldl_register, if_pos (EntityType.mem_all t)]

end Registry

end AccessControl
