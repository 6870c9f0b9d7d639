import AccessControl.Policy
import AccessControl.Proofs.FirstMatch

/-!
# What a grant confers

A grant turns into rules that come and go with the tokens and memberships of a user. Here each grant
is read without its rules: which part of the authority it takes, and which attribute of the subject
it looks at. An entity type as a whole may stand for an entity with any value, so there a grant on
the entities of some organisations asks for no more than one organisation. Main statement:
`isSome_firstMatch_standard_iff`, a standard policy allows exactly what one of its grants confers.
-/

set_option autoImplicit false

namespace AccessControl

namespace Subject

/-- The subject has the value, or is an entity type as a whole, of which some entity may have it. -/
def MayHave (attr : Attribute) (value : AttributeValue) : Subject → Prop
  | .entity e => e.attr attr = some value
  | .wholeType _ => True

/-- The subject is an entity that has the value. -/
def Has (attr : Attribute) (value : AttributeValue) : Subject → Prop
  | .entity e => e.attr attr = some value
  | .wholeType _ => False

end Subject

/-- The tokens make a user an administrator of the framework. -/
def Authority.Administers (a : Authority) (key : String) : Prop :=
  key ≠ "" ∧ Token.frameworkMark ++ key ∈ a.tokens

/-- A grant confers an action on a subject: the user holds what it asks for, and the subject has
what it looks at. -/
def Grant.Confers (a : Authority) (action : String) (s : Subject) : Grant → Prop
  | .framework actions =>
    action ∈ actions ∧ ∃ key, a.Administers key ∧ s.MayHave .frameworkKey (.text key)
  | .frameworkReader held =>
    action = Action.read ∧ ((∃ key, a.Administers key) ∨ ∃ token ∈ held, token ∈ a.tokens)
  | .holder held actions => action ∈ actions ∧ ∃ token ∈ held, token ∈ a.tokens
  | .organisation actions =>
    action ∈ actions ∧ Token.manageOwn ∈ a.tokens ∧
      ∃ id ∈ a.membership.organisations, s.MayHave .organisationId (.number id)
  | .monitor =>
    action = Action.read ∧ Token.manageOwn ∈ a.tokens ∧
      ∃ id ∈ a.membership.monitoring, s.MayHave .projectId (.number id)
  | .manager actions =>
    action ∈ actions ∧ Token.projectsManage ∈ a.tokens ∧
      ∃ id ∈ a.membership.managing, s.MayHave .projectId (.number id)
  | .author token actions =>
    action ∈ actions ∧ token ∈ a.tokens ∧ s.Has .createdBy (.number a.user)
  | .self actions => action ∈ actions ∧ s.Has .id (.number a.user)

/-! ## Single rules -/

namespace Rule

/-- A rule without a condition covers every action that it grants. -/
theorem covers_unconditional_iff (actions : List String) (action : String) (s : Subject) :
    (Rule.mk actions s.type none false).Covers action s ↔ action ∈ actions := by
  unfold Covers
  cases s with
  | entity e => simp [Applies, grants_iff, Subject.type]
  | wholeType t => simp [Subject.type]

/-- A rule for one value covers the entities that have it, and the type as a whole. -/
theorem covers_equals_iff (actions : List String) (attr : Attribute) (value : AttributeValue)
    (action : String) (s : Subject) :
    (Rule.mk actions s.type (some (.equals attr value)) false).Covers action s ↔
      action ∈ actions ∧ s.MayHave attr value := by
  unfold Covers
  cases s with
  | entity e => simp [Applies, grants_iff, Subject.type, Subject.MayHave, Condition.Holds]
  | wholeType t => simp [Subject.type, Subject.MayHave]

/-- A rule for single entities covers those that have its value. -/
theorem covers_instanceOnly_iff (actions : List String) (attr : Attribute) (value : AttributeValue)
    (action : String) (s : Subject) :
    (Rule.mk actions s.type (some (.equals attr value)) true).Covers action s ↔
      action ∈ actions ∧ s.Has attr value := by
  unfold Covers
  cases s with
  | entity e => simp [Applies, grants_iff, Subject.type, Subject.Has, Condition.Holds]
  | wholeType t => simp [Subject.Has]

/-- A rule for some identifiers, of which there is one, covers the entities that have one of them,
and the type as a whole. -/
theorem covers_isIn_iff (actions : List String) (attr : Attribute) (ids : IdentifierSet)
    (action : String) (s : Subject) (h : ∃ id, id ∈ ids) :
    (Rule.mk actions s.type (some (.isIn attr (ids.toList.map .number))) false).Covers action s ↔
      action ∈ actions ∧ ∃ id ∈ ids, s.MayHave attr (.number id) := by
  unfold Covers
  cases s with
  | entity e =>
      have hvalue (value : AttributeValue) :
          value ∈ Std.ExtTreeSet.ofList (ids.toList.map AttributeValue.number) ↔
            ∃ id ∈ ids, AttributeValue.number id = value := by
        simp only [mem_ofList_iff, List.mem_map, Std.ExtTreeSet.mem_toList]
      simp [Applies, grants_iff, Subject.type, Subject.MayHave, Condition.isIn, Condition.Holds,
        hvalue]
  | wholeType t => simpa [Subject.type, Subject.MayHave] using fun _ => h

end Rule

/-! ## The rules of one grant -/

/-- A set is not empty exactly if something is in it. -/
theorem isEmpty_eq_false_iff_exists_mem {α : Type} {cmp : α → α → Ordering} [Std.TransCmp cmp]
    (t : Std.ExtTreeSet α cmp) : t.isEmpty = false ↔ ∃ x, x ∈ t := by
  rw [Std.ExtTreeSet.isEmpty_eq_false_iff, Std.ExtTreeSet.eq_empty_iff_forall_not_mem]
  simp only [not_forall, not_not]

namespace Authority

/-- A user holds the tokens in the set. -/
theorem holds_iff (a : Authority) (token : String) : a.holds token = true ↔ token ∈ a.tokens := by
  unfold holds
  exact Std.ExtTreeSet.contains_iff_mem

/-- A user holds one of some tokens exactly if one of them is in the set. -/
theorem any_holds_iff (a : Authority) (held : List String) :
    held.any a.holds = true ↔ ∃ token ∈ held, token ∈ a.tokens := by
  simp only [List.any_eq_true, holds_iff]

/-- The frameworks of a user are those that the user administers. -/
theorem mem_frameworks_iff (a : Authority) (key : String) :
    key ∈ a.frameworks ↔ a.Administers key := by
  unfold frameworks Administers
  exact Token.mem_frameworkKeys a.tokens key

/-- A user has frameworks exactly if there is one that the user administers. -/
theorem frameworks_nonempty_iff (a : Authority) :
    (!a.frameworks.isEmpty) = true ↔ ∃ key, a.Administers key := by
  rw [Bool.not_eq_true', isEmpty_eq_false_iff_exists_mem]
  simp only [mem_frameworks_iff]

/-- The rule for some identifiers is built only for holders of its token, and only if there are
identifiers. -/
theorem exists_mem_amongRule_covers_iff (token : String) (a : Authority) (actions : List String)
    (attr : Attribute) (ids : IdentifierSet) (action : String) (s : Subject) :
    (∃ r ∈ (amongRule? token a actions s.type attr ids).toList, r.Covers action s) ↔
      action ∈ actions ∧ token ∈ a.tokens ∧ ∃ id ∈ ids, s.MayHave attr (.number id) := by
  have hbuilds : (a.holds token && !ids.isEmpty) = true ↔ token ∈ a.tokens ∧ ∃ id, id ∈ ids := by
    rw [Bool.and_eq_true, holds_iff, Bool.not_eq_true', isEmpty_eq_false_iff_exists_mem]
  unfold amongRule?
  split
  next hbuilt =>
    obtain ⟨htoken, hnonempty⟩ := hbuilds.mp hbuilt
    simp only [Option.toList_some, List.mem_singleton, exists_eq_left,
      Rule.covers_isIn_iff actions attr ids action s hnonempty, htoken, true_and]
  next hbuilt =>
    simp only [Option.toList_none, List.not_mem_nil, false_and, exists_false, false_iff]
    rintro ⟨-, htoken, id, hid, -⟩
    exact hbuilt (hbuilds.mpr ⟨htoken, id, hid⟩)

end Authority

/-- Some rule of a grant covers an action on a subject exactly when the grant confers it. -/
theorem Grant.exists_mem_rules_covers_iff (a : Authority) (action : String) (s : Subject)
    (g : Grant) : (∃ r ∈ g.rules a s.type, r.Covers action s) ↔ g.Confers a action s := by
  cases g with
  | framework actions =>
      simp only [rules, Authority.frameworkRules, Confers]
      simp only [List.mem_map, exists_exists_and_eq_and, Std.ExtTreeSet.mem_toList,
        Authority.mem_frameworks_iff, Rule.covers_equals_iff]
      constructor
      · rintro ⟨key, hkey, hmem, hhas⟩
        exact ⟨hmem, key, hkey, hhas⟩
      · rintro ⟨hmem, key, hkey, hhas⟩
        exact ⟨key, hkey, hmem, hhas⟩
  | frameworkReader held =>
      simp only [rules, Confers]
      rw [← Authority.frameworks_nonempty_iff, ← Authority.any_holds_iff, ← Bool.or_eq_true]
      split
      next hbuilt =>
        simp only [List.mem_singleton, exists_eq_left, Rule.covers_unconditional_iff, hbuilt,
          and_true]
      next hbuilt => simp [hbuilt]
  | holder held actions =>
      simp only [rules, Authority.holderRule?, Confers]
      rw [← Authority.any_holds_iff]
      split
      next hheld =>
        simp only [Option.toList_some, List.mem_singleton, exists_eq_left,
          Rule.covers_unconditional_iff, hheld, and_true]
      next hheld => simp [hheld]
  | organisation actions => exact Authority.exists_mem_amongRule_covers_iff _ a actions _ _ action s
  | monitor =>
      simp only [rules, Authority.monitoringRule?, Confers]
      rw [Authority.exists_mem_amongRule_covers_iff, List.mem_singleton]
  | manager actions => exact Authority.exists_mem_amongRule_covers_iff _ a actions _ _ action s
  | author token actions =>
      simp only [rules, Authority.authorRule, Confers]
      rw [← Authority.holds_iff]
      split
      next hheld =>
        simp only [List.mem_singleton, exists_eq_left, Rule.covers_instanceOnly_iff, hheld,
          true_and]
      next hheld => simp [hheld]
  | self actions =>
      simp only [rules, Authority.selfRule, Confers, List.mem_singleton, exists_eq_left,
        Rule.covers_instanceOnly_iff]

/-- The standard policy of a subject's type allows an action exactly when one of its grants confers
it. -/
theorem isSome_firstMatch_standard_iff (a : Authority) (action : String) (s : Subject) :
    (Rule.firstMatch ((Policy.standard s.type).rules a) action s).index.isSome ↔
      ∃ g ∈ s.type.grants, g.Confers a action s := by
  rw [Rule.isSome_index_firstMatch_iff]
  simp only [Policy.mem_rules_standard_iff]
  constructor
  · rintro ⟨r, ⟨g, hg, hr⟩, hcovers⟩
    exact ⟨g, hg, (g.exists_mem_rules_covers_iff a action s).mp ⟨r, hr, hcovers⟩⟩
  · rintro ⟨g, hg, hconfers⟩
    obtain ⟨r, hr, hcovers⟩ := (g.exists_mem_rules_covers_iff a action s).mpr hconfers
    exact ⟨r, ⟨g, hg, hr⟩, hcovers⟩

end AccessControl
