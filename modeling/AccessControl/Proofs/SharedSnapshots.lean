import AccessControl.Proofs.FirstMatch

/-!
# Calls on a shared snapshot

One snapshot may serve any number of calls: attributes are asked for, conditions evaluated and rules
tried, in any order, and what one call resolves the later ones find remembered. None of them can
tell, because what is remembered is what the entity would resolve again. So every call is answered
as on a fresh snapshot, and there a condition holds exactly when each of its leaves does. Main
statement: `replies_eq_fresh`.
-/

set_option autoImplicit false

namespace AccessControl

/-! ## Leaves of a condition -/

namespace Condition

/-- A part of a condition that looks at one attribute. -/
inductive Leaf
  | equals (attr : Attribute) (value : AttributeValue)
  | oneOf (attr : Attribute) (values : ValueSet)

namespace Leaf

def attr : Leaf → Attribute
  | .equals attr _ => attr
  | .oneOf attr _ => attr

/-- The attribute has the value of the leaf, or one of its values. -/
def HoldsOf (e : Entity) : Leaf → Prop
  | .equals attr value => e.attr attr = some value
  | .oneOf attr values => ∃ value ∈ values, e.attr attr = some value

/-- A condition about an attribute that an entity lacks does not hold. -/
theorem not_holdsOf_of_unresolved (e : Entity) (leaf : Leaf) (h : e.attr leaf.attr = none) :
    ¬ leaf.HoldsOf e := by
  intro hholds
  cases leaf with
  | equals attr value =>
      rw [HoldsOf, show e.attr attr = none from h] at hholds
      cases hholds
  | oneOf attr values =>
      obtain ⟨value, -, hvalue⟩ := hholds
      rw [show e.attr attr = none from h] at hvalue
      cases hvalue

/-- Nothing is one of no values. -/
theorem not_holdsOf_oneOf_empty (e : Entity) (attr : Attribute) : ¬ (oneOf attr ∅).HoldsOf e := by
  rintro ⟨value, hmem, -⟩
  exact Std.ExtTreeSet.not_mem_empty hmem

end Leaf

mutual

/-- The leaves of a condition, from the left. -/
def leaves : Condition → List Leaf
  | .equals attr value => [.equals attr value]
  | .oneOf attr values => [.oneOf attr values]
  | .all conditions => leavesAll conditions

/-- The leaves of the conditions of a list. -/
def leavesAll : List Condition → List Leaf
  | [] => []
  | c :: cs => leaves c ++ leavesAll cs

end

variable (e : Entity)

mutual

/-- A condition of any depth holds exactly when each of its leaves does. -/
theorem holds_iff_leaves : (c : Condition) → (Holds e c ↔ ∀ leaf ∈ c.leaves, leaf.HoldsOf e)
  | .equals attr value => by
    rw [leaves, List.forall_mem_singleton]
    exact Iff.rfl
  | .oneOf attr values => by
    rw [leaves, List.forall_mem_singleton]
    exact Iff.rfl
  | .all conditions => by
    rw [Holds, leaves]
    exact allHold_iff_leaves conditions

/-- Conditions hold together exactly if all of their leaves hold. -/
theorem allHold_iff_leaves :
    (cs : List Condition) → (AllHold e cs ↔ ∀ leaf ∈ leavesAll cs, leaf.HoldsOf e)
  | [] => by simp [AllHold, leavesAll]
  | c :: cs => by
    have hfirst := holds_iff_leaves c
    have hrest := allHold_iff_leaves cs
    rw [AllHold, leavesAll, List.forall_mem_append, hfirst, hrest]

end

end Condition

/-- A rule fits an entity: it is of the entity's type, grants the action, and each leaf of its
condition, if it has one, holds. -/
def Rule.Fits (r : Rule) (action : String) (e : Entity) : Prop :=
  r.subject = e.type ∧ action ∈ r.actions ∧
    ∀ c ∈ r.condition, ∀ leaf ∈ c.leaves, leaf.HoldsOf e

/-- A rule applies exactly if it fits. -/
theorem Rule.applies_iff_fits (r : Rule) (action : String) (e : Entity) :
    r.Applies action e ↔ r.Fits action e := by
  unfold Applies Fits
  simp only [grants_iff, Condition.holds_iff_leaves]

/-! ## Calls -/

namespace Snapshot

/-- What can be asked of a snapshot. -/
inductive Call
  | get (attr : Attribute)
  | evaluate (condition : Condition)
  | tryRule (rule : Rule) (action : String)

/-- What a call is replied with. -/
inductive Reply
  | value (value : Option AttributeValue)
  | outcome (holds : Bool)

/-- A reply says that a condition holds exactly if it does. -/
theorem outcome_eq_true_iff (holds : Bool) :
    Reply.outcome holds = .outcome true ↔ holds = true := by
  rw [Reply.outcome.injEq]

/-- The reply to a call, and the snapshot after it. -/
def call (s : Snapshot) : Call → Reply × Snapshot
  | .get attr =>
    let (value, s) := s.get attr
    (.value value, s)
  | .evaluate condition =>
    let (holds, s) := condition.evaluate s
    (.outcome holds, s)
  | .tryRule rule action =>
    let (holds, s) := rule.matchesEntity action s
    (.outcome holds, s)

/-- The replies to calls that share a snapshot. -/
def replies (s : Snapshot) : List Call → List Reply
  | [] => []
  | c :: calls => (s.call c).1 :: (s.call c).2.replies calls

/-- A condition evaluates with a used snapshot as it does with a fresh one. -/
theorem evaluate_fst_eq_fresh (s : Snapshot) (h : s.Faithful) (c : Condition) :
    (c.evaluate s).1 = (c.evaluate (.start s.entity)).1 := by
  -- Both say whether the entity meets the condition, and neither snapshot takes part in that.
  have hshared := (c.evaluate_sound s h).1
  have hfresh := (c.evaluate_sound (.start s.entity) (faithful_start s.entity)).1
  exact Bool.eq_iff_iff.mpr (hshared.trans hfresh.symm)

/-- A rule matches with a used snapshot as it does with a fresh one. -/
theorem matchesEntity_fst_eq_fresh (s : Snapshot) (h : s.Faithful) (r : Rule) (action : String) :
    (r.matchesEntity action s).1 = (r.matchesEntity action (.start s.entity)).1 := by
  have hshared := (r.matchesEntity_sound action s h).1
  have hfresh := (r.matchesEntity_sound action (.start s.entity) (faithful_start s.entity)).1
  exact Bool.eq_iff_iff.mpr (hshared.trans hfresh.symm)

/-- A call on a faithful snapshot is answered as on a fresh one, and leaves a faithful snapshot of
the same entity. -/
theorem call_faithful (s : Snapshot) (h : s.Faithful) (c : Call) :
    (s.call c).1 = ((start s.entity).call c).1 ∧
      (s.call c).2.Faithful ∧ (s.call c).2.entity = s.entity := by
  cases c with
  | get attr =>
      have hshared := s.get_fst attr h
      have hfresh := (start s.entity).get_fst attr (faithful_start s.entity)
      exact ⟨congrArg Reply.value (hshared.trans hfresh.symm), s.faithful_get attr h,
        s.entity_get attr⟩
  | evaluate condition =>
      have hreply := s.evaluate_fst_eq_fresh h condition
      exact ⟨congrArg Reply.outcome hreply, (condition.evaluate_sound s h).2⟩
  | tryRule rule action =>
      have hreply := s.matchesEntity_fst_eq_fresh h rule action
      exact ⟨congrArg Reply.outcome hreply, (rule.matchesEntity_sound action s h).2⟩

/-- The replies to some calls are those that each call gets alone. -/
theorem replies_eq_map_of_faithful (s : Snapshot) (h : s.Faithful) (calls : List Call) :
    s.replies calls = calls.map fun c => ((start s.entity).call c).1 := by
  induction calls generalizing s with
  | nil => rfl
  | cons c calls ih =>
      obtain ⟨hreply, hfaithful, hentity⟩ := s.call_faithful h c
      have hrest := ih (s.call c).2 hfaithful
      rw [hentity] at hrest
      rw [replies, List.map_cons, hreply, hrest]

/-- What a shared snapshot replies about an entity, with no memory in sight. -/
structure RepliesLikeFresh (e : Entity) : Prop where
  /-- Each call is answered as if it had a fresh snapshot. -/
  replies : ∀ calls : List Call,
    (start e).replies calls = calls.map fun c => ((start e).call c).1
  get : ∀ attr, ((start e).call (.get attr)).1 = .value (e.attr attr)
  evaluate : ∀ c : Condition, ((start e).call (.evaluate c)).1 = .outcome true ↔
    ∀ leaf ∈ c.leaves, leaf.HoldsOf e
  tryRule : ∀ (r : Rule) (action : String),
    ((start e).call (.tryRule r action)).1 = .outcome true ↔ r.Fits action e
  /-- A search finds the first rule that fits. -/
  found : ∀ (rules : List Rule) (action : String) (i : Nat),
    (Rule.firstMatch rules action (.entity e)).index = some i ↔
      (∃ r, rules[i]? = some r ∧ r.Fits action e) ∧
        ∀ j r, j < i → rules[j]? = some r → ¬ r.Fits action e
  notFound : ∀ (rules : List Rule) (action : String),
    (Rule.firstMatch rules action (.entity e)).index = none ↔ ∀ r ∈ rules, ¬ r.Fits action e
  /-- Nothing is among no values. -/
  amongNone : ∀ attr, ¬ (Condition.Leaf.oneOf attr ∅).HoldsOf e
  unresolved : ∀ leaf : Condition.Leaf, e.attr leaf.attr = none → ¬ leaf.HoldsOf e
  /-- An identifier is never equal to a text. -/
  kinds : ∀ (id : Identifier) (text : String), AttributeValue.number id ≠ .text text

/-- Calls that share a snapshot are answered as if each had a fresh one, and a fresh one answers as
the entity itself would. -/
theorem replies_eq_fresh (e : Entity) : RepliesLikeFresh e := by
  have hfaithful := faithful_start e
  have hcovers (r : Rule) (action : String) : r.Covers action (.entity e) ↔ r.Fits action e :=
    r.applies_iff_fits action e
  constructor
  case replies =>
    intro calls
    exact replies_eq_map_of_faithful (start e) hfaithful calls
  case get =>
    intro attr
    exact congrArg Reply.value ((start e).get_fst attr hfaithful)
  case evaluate =>
    intro c
    have hsound := (c.evaluate_sound (start e) hfaithful).1
    exact (outcome_eq_true_iff _).trans (hsound.trans (c.holds_iff_leaves e))
  case tryRule =>
    intro r action
    have hmatches := r.matchesEntity_start_iff action e
    exact (outcome_eq_true_iff _).trans (hmatches.trans (hcovers r action))
  case found =>
    intro rules action i
    rw [Rule.index_firstMatch_eq_some_iff]
    unfold Rule.FirstCovers
    simp only [hcovers]
  case notFound =>
    intro rules action
    rw [Rule.index_firstMatch_eq_none_iff]
    simp only [hcovers]
  case amongNone =>
    intro attr
    exact Condition.Leaf.not_holdsOf_oneOf_empty e attr
  case unresolved =>
    intro leaf h
    exact leaf.not_holdsOf_of_unresolved e h
  case kinds =>
    intro id text h
    cases h

end Snapshot

end AccessControl
