import Mathlib.Data.Nat.Find
import AccessControl.Rule

/-!
# The first rule that covers a subject

A search goes through a list of rules and resolves attributes on its way. What it finds depends on
nothing but the rules and the subject. Main statement: `index_firstMatch_eq_some_iff`, the search
finds an index exactly when the rule there covers the action on the subject and no rule before it
does.
-/

set_option autoImplicit false

namespace AccessControl.Rule

/-- A rule covers an action on an entity when it applies to it. On an entity type as a whole the
condition is left aside, and a rule for single entities covers nothing. -/
def Covers (r : Rule) (action : String) : Subject → Prop
  | .entity e => r.Applies action e
  | .wholeType t => r.instanceOnly = false ∧ r.subject = t ∧ action ∈ r.actions

/-- The rule at an index covers an action on a subject, and no rule before it does. -/
def FirstCovers (rules : List Rule) (action : String) (s : Subject) (i : Nat) : Prop :=
  (∃ r, rules[i]? = some r ∧ r.Covers action s) ∧
    ∀ j, ∀ r, j < i → rules[j]? = some r → ¬ r.Covers action s

/-- A rule grants the actions that it lists. -/
theorem grants_iff (r : Rule) (action : String) : r.grants action = true ↔ action ∈ r.actions := by
  unfold grants
  exact List.contains_iff_mem

/-- A rule matches a whole type exactly if it covers the type. -/
theorem matchesType_iff (r : Rule) (action : String) (t : EntityType) :
    r.matchesType action t = true ↔ r.Covers action (.wholeType t) := by
  unfold matchesType Covers
  rw [Bool.and_eq_true, Bool.and_eq_true, grants_iff, beq_iff_eq, Bool.not_eq_true', and_assoc]

/-- A rule covers nothing of another type than its own. -/
theorem subject_eq_of_covers (r : Rule) (action : String) (s : Subject) (h : r.Covers action s) :
    r.subject = s.type := by
  cases s with
  | entity e => exact h.1
  | wholeType t => exact h.2.1

/-- A rule that covers an action on an entity covers it on the type of the entity, unless it is for
single entities. -/
theorem covers_wholeType_of_covers (r : Rule) (action : String) (e : Entity)
    (hshared : r.instanceOnly = false) (h : r.Covers action (.entity e)) :
    r.Covers action (.wholeType e.type) := by
  obtain ⟨hsubject, hgrants, -⟩ := h
  exact ⟨hshared, hsubject, (r.grants_iff action).mp hgrants⟩

/-- On a fresh snapshot a rule matches exactly when it covers the action on the entity. -/
theorem matchesEntity_start_iff (r : Rule) (action : String) (e : Entity) :
    (r.matchesEntity action (.start e)).1 = true ↔ r.Covers action (.entity e) :=
  (r.matchesEntity_sound action (.start e) (Snapshot.faithful_start e)).1

/-- Of the first rules one can speak by index. -/
theorem forall_mem_take_iff (rules : List Rule) (i : Nat) (P : Rule → Prop) :
    (∀ q ∈ rules.take i, ¬ P q) ↔ ∀ j, ∀ r, j < i → rules[j]? = some r → ¬ P r := by
  constructor
  · intro h j r hj hr
    apply h r
    rw [List.mem_iff_getElem?]
    exact ⟨j, by rw [List.getElem?_take_of_lt hj, hr]⟩
  · intro h q hq
    obtain ⟨j, hj⟩ := List.mem_iff_getElem?.mp hq
    rw [List.getElem?_take] at hj
    split at hj
    next hlt => exact h j q hlt hj
    next => cases hj

/-- The search finds the least index of a rule that covers the action on the subject. -/
theorem index_firstMatch_eq_some_iff (rules : List Rule) (action : String) (s : Subject) (i : Nat) :
    (firstMatch rules action s).index = some i ↔ FirstCovers rules action s i := by
  unfold FirstCovers
  cases s with
  | entity e =>
      -- The snapshot that the search starts from remembers nothing, so it is faithful.
      have hsearch := (search_sound action rules (.start e) (Snapshot.faithful_start e)).1 i
      have hindex : (firstMatch rules action (.entity e)).index =
          (search action rules (.start e)).1 := rfl
      have hbefore := forall_mem_take_iff rules i (fun q => q.Applies action e)
      rw [hindex, hsearch]
      constructor
      · rintro ⟨r, hr, happlies, hnone⟩
        exact ⟨⟨r, hr, happlies⟩, hbefore.mp hnone⟩
      · rintro ⟨⟨r, hr, happlies⟩, hnone⟩
        exact ⟨r, hr, happlies, hbefore.mpr hnone⟩
  | wholeType t =>
      have hindex : (firstMatch rules action (.wholeType t)).index =
          rules.findIdx? (·.matchesType action t) := rfl
      rw [hindex, List.findIdx?_eq_some_iff_getElem]
      constructor
      · rintro ⟨hi, hmatch, hnone⟩
        refine ⟨⟨rules[i], List.getElem?_eq_getElem hi, (matchesType_iff _ _ _).mp hmatch⟩, ?_⟩
        intro j r hj hr hcovers
        obtain ⟨hlt, rfl⟩ := List.getElem?_eq_some_iff.mp hr
        exact hnone j hj ((matchesType_iff _ _ _).mpr hcovers)
      · rintro ⟨⟨r, hr, hcovers⟩, hnone⟩
        obtain ⟨hi, rfl⟩ := List.getElem?_eq_some_iff.mp hr
        refine ⟨hi, (matchesType_iff _ _ _).mpr hcovers, ?_⟩
        intro j hj hmatch
        have hlt : j < rules.length := Nat.lt_trans hj hi
        exact hnone j rules[j] hj (List.getElem?_eq_getElem hlt) ((matchesType_iff _ _ _).mp hmatch)

/-- Among rules of which some covers the action on the subject there is a first one. -/
theorem exists_firstCovers (rules : List Rule) (action : String) (s : Subject) (r : Rule)
    (hmem : r ∈ rules) (hcovers : r.Covers action s) : ∃ i, FirstCovers rules action s i := by
  classical
  have hexists : ∃ i : Nat, ∃ r : Rule, rules[i]? = some r ∧ r.Covers action s := by
    obtain ⟨i, hi⟩ := List.mem_iff_getElem?.mp hmem
    exact ⟨i, r, hi, hcovers⟩
  refine ⟨Nat.find hexists, Nat.find_spec hexists, ?_⟩
  intro j q hj hq hqcovers
  exact Nat.find_min hexists hj ⟨q, hq, hqcovers⟩

/-- The search finds something exactly when some rule covers the action on the subject. -/
theorem isSome_index_firstMatch_iff (rules : List Rule) (action : String) (s : Subject) :
    (firstMatch rules action s).index.isSome ↔ ∃ r ∈ rules, r.Covers action s := by
  rw [Option.isSome_iff_exists]
  simp only [index_firstMatch_eq_some_iff]
  constructor
  · rintro ⟨i, ⟨r, hr, hcovers⟩, -⟩
    exact ⟨r, List.mem_of_getElem? hr, hcovers⟩
  · rintro ⟨r, hmem, hcovers⟩
    exact exists_firstCovers rules action s r hmem hcovers

/-- No rule is found exactly if none covers the subject. -/
theorem index_firstMatch_eq_none_iff (rules : List Rule) (action : String) (s : Subject) :
    (firstMatch rules action s).index = none ↔ ∀ r ∈ rules, ¬ r.Covers action s := by
  rw [← Option.not_isSome_iff_eq_none, isSome_index_firstMatch_iff]
  simp only [not_exists, not_and]

/-- Subjects that the same rules cover have the same first rule. -/
theorem firstCovers_of_covers_iff (rules : List Rule) (action : String) (s t : Subject) (i : Nat)
    (h : ∀ r ∈ rules, (r.Covers action s ↔ r.Covers action t))
    (hfirst : FirstCovers rules action s i) : FirstCovers rules action t i := by
  obtain ⟨⟨r, hr, hcovers⟩, hnone⟩ := hfirst
  constructor
  · have hmem : r ∈ rules := List.mem_of_getElem? hr
    exact ⟨r, hr, (h r hmem).mp hcovers⟩
  · intro j q hj hq hcovered
    have hmem : q ∈ rules := List.mem_of_getElem? hq
    exact hnone j q hj hq ((h q hmem).mpr hcovered)

/-- Two subjects that no rule tells apart are decided on by the same rule. -/
theorem index_firstMatch_congr (rules : List Rule) (action : String) (s t : Subject)
    (h : ∀ r ∈ rules, (r.Covers action s ↔ r.Covers action t)) :
    (firstMatch rules action s).index = (firstMatch rules action t).index := by
  apply Option.ext
  intro i
  rw [index_firstMatch_eq_some_iff, index_firstMatch_eq_some_iff]
  constructor
  · intro hfirst
    exact firstCovers_of_covers_iff rules action s t i h hfirst
  · intro hfirst
    have hback : ∀ r ∈ rules, (r.Covers action t ↔ r.Covers action s) := fun r hr => (h r hr).symm
    exact firstCovers_of_covers_iff rules action t s i hback hfirst

/-- The first rule is one of the rules. -/
theorem lt_length_of_firstCovers (rules : List Rule) (action : String) (s : Subject) (i : Nat)
    (h : FirstCovers rules action s i) : i < rules.length := by
  obtain ⟨⟨r, hr, -⟩, -⟩ := h
  exact (List.getElem?_eq_some_iff.mp hr).1

end AccessControl.Rule
