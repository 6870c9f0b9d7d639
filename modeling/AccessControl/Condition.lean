import AccessControl.Snapshot

/-!
# Conditions

Restrictions of a rule to some of the entities of a type. A condition is evaluated from the left and
no further than its outcome requires, asking a snapshot for the attributes that it mentions. Main
statement: on a faithful snapshot, evaluation decides whether the condition holds of the entity.
-/

set_option autoImplicit false

namespace AccessControl

/-- A restriction to the entities whose attributes have certain values. -/
inductive Condition
  /-- The attribute has this value. -/
  | equals (attr : Attribute) (value : AttributeValue)
  /-- The attribute has one of these values. -/
  | oneOf (attr : Attribute) (values : ValueSet)
  /-- Every one of the conditions holds. -/
  | all (conditions : List Condition)

namespace Condition

/-- The condition that an attribute has a value of the list, whatever its order and repetitions. -/
def isIn (attr : Attribute) (values : List AttributeValue) : Condition :=
  .oneOf attr (Std.ExtTreeSet.ofList values)

mutual

/-- Whether a condition holds, and the snapshot after it has been evaluated. -/
def evaluate : Condition → Snapshot → Bool × Snapshot
  | .equals a value, s =>
    let (found, s) := s.get a
    (found == some value, s)
  | .oneOf a values, s =>
    let (found, s) := s.get a
    (found.any values.contains, s)
  | .all conditions, s => evaluateAll conditions s

/-- Whether all conditions hold, evaluated from the left up to the first that does not. -/
def evaluateAll : List Condition → Snapshot → Bool × Snapshot
  | [], s => (true, s)
  | c :: cs, s =>
    match evaluate c s with
    | (true, s) => evaluateAll cs s
    | (false, s) => (false, s)

end

mutual

/-- A condition holds of an entity when each of its leaves does: the attribute has a value, and that
value is the one required or one of those admitted. -/
def Holds (e : Entity) : Condition → Prop
  | .equals a value => e.attr a = some value
  | .oneOf a values => ∃ value ∈ values, e.attr a = some value
  | .all conditions => AllHold e conditions

/-- Every condition of the list holds of the entity. -/
def AllHold (e : Entity) : List Condition → Prop
  | [] => True
  | c :: cs => Holds e c ∧ AllHold e cs

end

mutual

/-- Evaluation keeps the entity and what is true of it, and its outcome is whether the condition
holds. -/
theorem evaluate_sound (s : Snapshot) (h : s.Faithful) :
    (c : Condition) → ((c.evaluate s).1 = true ↔ Holds s.entity c) ∧
      (c.evaluate s).2.Faithful ∧ (c.evaluate s).2.entity = s.entity
  | .equals a value => by
    simp only [evaluate, Holds, beq_iff_eq, s.get_fst a h, true_and]
    exact ⟨s.faithful_get a h, s.entity_get a⟩
  | .oneOf a values => by
    refine ⟨?_, s.faithful_get a h, s.entity_get a⟩
    simp only [evaluate, Holds, s.get_fst a h]
    cases s.entity.attr a with
    | none => simp
    | some value => simp [Option.any]
  | .all conditions => evaluateAll_sound s h conditions

/-- The same for conditions that are evaluated one after another, each with the snapshot that the
one before it has left. -/
theorem evaluateAll_sound (s : Snapshot) (h : s.Faithful) :
    (cs : List Condition) → ((evaluateAll cs s).1 = true ↔ AllHold s.entity cs) ∧
      (evaluateAll cs s).2.Faithful ∧ (evaluateAll cs s).2.entity = s.entity
  | [] => by simp [evaluateAll, AllHold, h]
  | c :: cs => by
    obtain ⟨hiff, hfaithful, hentity⟩ := evaluate_sound s h c
    rw [evaluateAll]
    split
    next t heq =>
      rw [heq] at hiff hfaithful hentity
      obtain ⟨hiff', hfaithful', hentity'⟩ := evaluateAll_sound t hfaithful cs
      simp only at hentity
      rw [hentity] at hiff' hentity'
      refine ⟨?_, hfaithful', hentity'⟩
      rw [hiff', AllHold, and_iff_right (hiff.mp rfl)]
    next t heq =>
      rw [heq] at hiff hfaithful hentity
      refine ⟨?_, hfaithful, hentity⟩
      rw [AllHold]
      simp only [Bool.false_eq_true, false_iff] at hiff ⊢
      exact fun hall => hiff hall.1

end

end Condition

end AccessControl
