import AccessControl.Proofs.Grants

/-!
# What a rule looks at

A rule learns of an entity nothing but its type and the attributes that occur in its condition, and
each grant has one attribute at most that all of its rules look at. Main statements:
`covers_congr_of_attributes` and `attributes_of_mem_rules`.
-/

set_option autoImplicit false

namespace AccessControl

namespace Condition

mutual

/-- The attributes that occur in a condition, from the left. -/
def attributes : Condition → List Attribute
  | .equals attr _ => [attr]
  | .oneOf attr _ => [attr]
  | .all conditions => attributesAll conditions

/-- The attributes that occur in the conditions of a list. -/
def attributesAll : List Condition → List Attribute
  | [] => []
  | c :: cs => attributes c ++ attributesAll cs

end

variable (e f : Entity)

mutual

/-- A condition cannot tell apart entities that agree on its attributes. -/
theorem holds_congr :
    (c : Condition) → (∀ attr ∈ c.attributes, e.attr attr = f.attr attr) →
      (Holds e c ↔ Holds f c)
  | .equals attr value, h => by
    have hattr := h attr (List.mem_singleton.mpr rfl)
    rw [Holds, Holds, hattr]
  | .oneOf attr values, h => by
    have hattr := h attr (List.mem_singleton.mpr rfl)
    rw [Holds, Holds, hattr]
  | .all conditions, h => by
    rw [Holds, Holds]
    exact allHold_congr conditions h

/-- The same for conditions that hold together. -/
theorem allHold_congr :
    (cs : List Condition) → (∀ attr ∈ attributesAll cs, e.attr attr = f.attr attr) →
      (AllHold e cs ↔ AllHold f cs)
  | [], _ => Iff.rfl
  | c :: cs, h => by
    rw [attributesAll] at h
    have hfirst := holds_congr c fun attr hmem => h attr (List.mem_append_left _ hmem)
    have hrest := allHold_congr cs fun attr hmem => h attr (List.mem_append_right _ hmem)
    rw [AllHold, AllHold, hfirst, hrest]

end

end Condition

namespace Rule

/-- The attributes that a rule looks at. -/
def attributes (r : Rule) : List Attribute :=
  r.condition.elim [] Condition.attributes

/-- A rule cannot tell apart entities of one type that agree on the attributes it looks at. -/
theorem covers_congr_of_attributes (r : Rule) (action : String) (e f : Entity)
    (htype : e.type = f.type) (hagree : ∀ attr ∈ r.attributes, e.attr attr = f.attr attr) :
    r.Covers action (.entity e) ↔ r.Covers action (.entity f) := by
  have hcondition : (∀ c ∈ r.condition, c.Holds e) ↔ ∀ c ∈ r.condition, c.Holds f := by
    unfold attributes at hagree
    cases hc : r.condition with
    | none => simp
    | some c =>
        rw [hc] at hagree
        simpa using Condition.holds_congr e f c hagree
  show r.Applies action e ↔ r.Applies action f
  unfold Applies
  rw [htype, hcondition]

end Rule

namespace Grant

/-- The attribute that the rules of a grant look at, if they look at any. -/
def attribute? : Grant → Option Attribute
  | .framework _ => some .frameworkKey
  | .frameworkReader _ => none
  | .holder _ _ => none
  | .organisation _ => some .organisationId
  | .monitor => some .projectId
  | .manager _ => some .projectId
  | .author _ _ => some .createdBy
  | .self _ => some .id

/-- All rules of a grant look at its attribute, and at no other. -/
theorem attributes_of_mem_rules (a : Authority) (t : EntityType) (g : Grant) (r : Rule)
    (h : r ∈ g.rules a t) : r.attributes = g.attribute?.toList := by
  cases g with
  | framework actions =>
      rw [rules, Authority.frameworkRules, List.mem_map] at h
      obtain ⟨key, -, rfl⟩ := h
      rfl
  | frameworkReader held =>
      rw [rules] at h
      split at h
      · rw [List.mem_singleton.mp h]
        rfl
      · cases h
  | holder held actions =>
      rw [rules, Authority.holderRule?] at h
      split at h
      · rw [List.mem_singleton.mp h]
        rfl
      · cases h
  | organisation actions =>
      rw [Authority.eq_of_mem_amongRule _ a actions t _ _ r h]
      rfl
  | monitor =>
      rw [Authority.eq_of_mem_amongRule _ a _ t _ _ r h]
      rfl
  | manager actions =>
      rw [Authority.eq_of_mem_amongRule _ a actions t _ _ r h]
      rfl
  | author token actions =>
      rw [rules] at h
      split at h
      · rw [List.mem_singleton.mp h]
        rfl
      · cases h
  | self actions =>
      rw [rules] at h
      rw [List.mem_singleton.mp h]
      rfl

end Grant

end AccessControl
