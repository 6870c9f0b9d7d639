import AccessControl.Subject

/-!
# Snapshots

The attributes of one entity as one check has come to know them. An attribute is resolved when it is
first asked for and remembered from then on, also when it has no value, so that no parent chain is
walked twice. Beside this memory a snapshot keeps a log of what it made the entity resolve.
-/

set_option autoImplicit false

namespace AccessControl

/-- What is remembered of an entity, and what the entity was asked for. -/
structure Snapshot where
  entity : Entity
  /-- The attributes that are remembered, each with the value that it resolved to. -/
  resolved : List (Attribute × Option AttributeValue)
  /-- The attributes that the entity was made to resolve, in order. -/
  asked : List Attribute

namespace Snapshot

def start (e : Entity) : Snapshot := ⟨e, [], []⟩

/-- The value of an attribute, and the snapshot after it has been asked for. -/
def get (s : Snapshot) (a : Attribute) : Option AttributeValue × Snapshot :=
  match s.resolved.lookup a with
  | some value => (value, s)
  | none =>
    let value := s.entity.attr a
    (value, { s with resolved := s.resolved ++ [(a, value)], asked := s.asked ++ [a] })

/-- The number of attributes that are remembered. -/
def resolvedCount (s : Snapshot) : Nat :=
  s.resolved.length

/-- A snapshot is faithful when it remembers of its entity only what is true. -/
def Faithful (s : Snapshot) : Prop :=
  ∀ entry ∈ s.resolved, entry.2 = s.entity.attr entry.1

/-- A snapshot that was just started remembers nothing wrong. -/
theorem faithful_start (e : Entity) : (start e).Faithful := by
  simp [Faithful, start]

/-- Asking for an attribute does not change what entity is asked about. -/
@[simp] theorem entity_get (s : Snapshot) (a : Attribute) : (s.get a).2.entity = s.entity := by
  rw [get]
  split <;> rfl

/-- What is found in a list of pairs is one of them. -/
theorem mem_of_lookup_eq_some
    (a : Attribute) (value : Option AttributeValue)
    (entries : List (Attribute × Option AttributeValue)) (h : entries.lookup a = some value) :
    (a, value) ∈ entries := by
  induction entries with
  | nil => simp at h
  | cons entry entries ih =>
    obtain ⟨b, other⟩ := entry
    rw [List.lookup_cons] at h
    split at h
    next hab =>
      rw [beq_iff_eq] at hab
      rw [Option.some.injEq] at h
      simp [hab, h]
    next => exact List.mem_cons_of_mem _ (ih h)

/-- A faithful snapshot answers with the value that the entity resolves. -/
theorem get_fst (s : Snapshot) (a : Attribute) (h : s.Faithful) :
    (s.get a).1 = s.entity.attr a := by
  rw [get]
  split
  next value hfound => exact h _ (mem_of_lookup_eq_some a value s.resolved hfound)
  next => rfl

/-- Asking a faithful snapshot leaves it faithful. -/
theorem faithful_get (s : Snapshot) (a : Attribute) (h : s.Faithful) : (s.get a).2.Faithful := by
  rw [get]
  split
  · exact h
  · intro entry hentry
    rw [List.mem_append, List.mem_singleton] at hentry
    rcases hentry with hold | rfl
    · exact h entry hold
    · rfl

end Snapshot

end AccessControl
