import AccessControl.Condition

/-!
# Rules

A rule grants actions on one entity type, possibly only on entities that satisfy a condition. A list
of rules is searched from the front, and the index of the first rule that matches is the grant. Main
statement: the search of one entity finds the index of the first rule that applies to it.
-/

set_option autoImplicit false

namespace AccessControl

/-- A grant of actions on entities of one type. -/
structure Rule where
  actions : List String
  subject : EntityType
  /-- The restriction to some entities; without one the rule covers every entity of its type. -/
  condition : Option Condition
  /-- Whether the rule says nothing about its entity type as a whole. -/
  instanceOnly : Bool

/-- What a search came to: the index of the rule that matched, and the attributes that had to be
resolved on the way, in order. -/
structure Finding where
  index : Option Nat
  asked : List Attribute
  deriving DecidableEq

namespace Rule

/-- Whether a rule grants an action, letter by letter. -/
def grants (r : Rule) (action : String) : Bool :=
  r.actions.contains action

/-- Whether a rule allows an action on an entity type as a whole. Conditions are left aside, and
rules for single entities do not count. -/
def matchesType (r : Rule) (action : String) (t : EntityType) : Bool :=
  !r.instanceOnly && r.subject == t && r.grants action

/-- Whether a rule allows an action on an entity, and the snapshot after it has been tried. The
condition is evaluated only where the type and the action fit. -/
def matchesEntity (r : Rule) (action : String) (s : Snapshot) : Bool × Snapshot :=
  if r.subject = s.entity.type ∧ r.grants action then
    match r.condition with
    | some c => c.evaluate s
    | none => (true, s)
  else (false, s)

/-- A rule applies to an entity when it is of the entity's type, grants the action, and its
condition, if it has one, holds of the entity. -/
def Applies (r : Rule) (action : String) (e : Entity) : Prop :=
  r.subject = e.type ∧ r.grants action ∧ ∀ c ∈ r.condition, c.Holds e

/-- The index of the first rule that allows an action on an entity, and the snapshot after the
search. -/
def search (action : String) : List Rule → Snapshot → Option Nat × Snapshot
  | [], s => (none, s)
  | r :: rs, s =>
    match r.matchesEntity action s with
    | (true, s) => (some 0, s)
    | (false, s) =>
      let (found, s) := search action rs s
      (found.map (· + 1), s)

/-- The search for the actions one after another, all on one snapshot; the first action for which
any rule matches decides. -/
def searchAny (rules : List Rule) : List String → Snapshot → Option Nat × Snapshot
  | [], s => (none, s)
  | action :: actions, s =>
    match search action rules s with
    | (some i, s) => (some i, s)
    | (none, s) => searchAny rules actions s

/-- The first rule that allows an action on a subject. -/
def firstMatch (rules : List Rule) (action : String) : Subject → Finding
  | .wholeType t => ⟨rules.findIdx? (·.matchesType action t), []⟩
  | .entity e =>
    let (found, s) := search action rules (.start e)
    ⟨found, s.asked⟩

/-- The first rule that allows any of the actions on a subject, earlier actions first. -/
def firstMatchAny (rules : List Rule) (actions : List String) : Subject → Finding
  | .wholeType t => ⟨actions.findSome? fun action => rules.findIdx? (·.matchesType action t), []⟩
  | .entity e =>
    let (found, s) := searchAny rules actions (.start e)
    ⟨found, s.asked⟩

/-- On a faithful snapshot, a rule matches exactly when it applies to the entity. -/
theorem matchesEntity_sound (r : Rule) (action : String) (s : Snapshot) (h : s.Faithful) :
    ((r.matchesEntity action s).1 = true ↔ r.Applies action s.entity) ∧
      (r.matchesEntity action s).2.Faithful ∧ (r.matchesEntity action s).2.entity = s.entity := by
  rw [matchesEntity, Applies]
  split
  next hfits =>
    cases hc : r.condition with
    | none => simp [hfits, h]
    | some c =>
      obtain ⟨hiff, hrest⟩ := c.evaluate_sound s h
      exact ⟨by simpa [hfits] using hiff, hrest⟩
  next hfits =>
    refine ⟨?_, h, rfl⟩
    simp only [Bool.false_eq_true, false_iff]
    exact fun happlies => hfits ⟨happlies.1, happlies.2.1⟩

/-- On a faithful snapshot, the search finds the first rule that applies to the entity, and leaves a
faithful snapshot of the same entity. -/
theorem search_sound (action : String) (rules : List Rule) (s : Snapshot) (h : s.Faithful) :
    (∀ i, (search action rules s).1 = some i ↔
      ∃ r, rules[i]? = some r ∧ r.Applies action s.entity ∧
        ∀ q ∈ rules.take i, ¬ q.Applies action s.entity) ∧
      (search action rules s).2.Faithful ∧ (search action rules s).2.entity = s.entity := by
  induction rules generalizing s with
  | nil => exact ⟨by simp [search], h, rfl⟩
  | cons r rs ih =>
    obtain ⟨hiff, hfaithful, hentity⟩ := matchesEntity_sound r action s h
    rw [search]
    split
    next t heq =>
      rw [heq] at hiff hfaithful hentity
      have happlies := hiff.mp rfl
      refine ⟨fun i => ?_, hfaithful, hentity⟩
      cases i with
      | zero => simpa using happlies
      | succ i => simp [happlies]
    next t heq =>
      rw [heq] at hiff hfaithful hentity
      simp only [Bool.false_eq_true, false_iff] at hiff
      simp only at hentity
      obtain ⟨hsearch, hfaithful', hentity'⟩ := ih t hfaithful
      rw [hentity] at hsearch hentity'
      refine ⟨fun i => ?_, hfaithful', hentity'⟩
      cases i with
      | zero => simp [hiff]
      | succ i => simpa [hiff] using hsearch i

end Rule

end AccessControl
