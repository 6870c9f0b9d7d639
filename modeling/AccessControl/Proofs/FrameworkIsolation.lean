import AccessControl.Proofs.AuthorityUnion
import AccessControl.Proofs.RuleAttributes
import AccessControl.Record

/-!
# Frameworks stay apart

A token for a framework concerns the entities of this framework alone, whatever other authority comes
with it. The exceptions are organisations and project pitches, which administrators of any framework
may read; there the first such token counts and no other. And for someone who does not administer
either of two frameworks it makes no difference which of the two an entity belongs to. Main
statement: `frameworks_isolated`.
-/

set_option autoImplicit false

namespace AccessControl

/-! ## One more framework token -/

/-- The tokens that a grant names. -/
def Grant.named : Grant → List String
  | .framework _ => []
  | .frameworkReader held => held
  | .holder held _ => held
  | .organisation _ => [Token.manageOwn]
  | .monitor => [Token.manageOwn]
  | .manager _ => [Token.projectsManage]
  | .author token _ => [token]
  | .self _ => []

namespace EntityType

/-- No standard policy names the token of a framework. -/
theorem frameworkKey?_of_named (t : EntityType) :
    ∀ g ∈ t.grants, ∀ token ∈ g.named, Token.frameworkKey? token = none := by
  cases t <;> decide

/-- Only organisations and pitches are open to those who administer any framework. -/
theorem eq_of_frameworkReader_mem_grants (t : EntityType) (held : List String)
    (h : Grant.frameworkReader held ∈ t.grants) : t = .organisation ∨ t = .projectPitch := by
  cases t with
  | organisation => exact Or.inl rfl
  | projectPitch => exact Or.inr rfl
  | _ => simp [grants, clauses] at h

/-- Neither organisations nor pitches are open to those who administer their framework. -/
theorem ne_of_framework_mem_grants (t : EntityType) (actions : List String)
    (h : Grant.framework actions ∈ t.grants) : t ≠ .organisation ∧ t ≠ .projectPitch := by
  constructor
  · rintro rfl
    simp [grants, clauses] at h
  · rintro rfl
    simp [grants, clauses] at h

end EntityType

section

variable (user : Identifier) (X : TokenSet) (m : Membership) (action : String)

/-- A token other than the framework's that is held with the framework's is held without it. -/
theorem mem_of_mem_insert_framework (key token : String) (hkey : key ≠ "")
    (hplain : Token.frameworkKey? token = none)
    (h : token ∈ X.insert (Token.frameworkMark ++ key)) : token ∈ X := by
  rw [Std.ExtTreeSet.mem_insert, Std.compare_eq_iff_eq] at h
  rcases h with rfl | hheld
  · have hgrants := (Token.frameworkKey?_eq_some_iff (Token.frameworkMark ++ key) key).mpr
      ⟨hkey, rfl⟩
    rw [hplain] at hgrants
    cases hgrants
  · exact hheld

/-- Besides the key itself, the token of a framework grants none that was not granted before. -/
theorem administers_insert_framework (key other : String)
    (h : Authority.Administers ⟨user, X.insert (Token.frameworkMark ++ key), m⟩ other) :
    other = key ∨ Authority.Administers ⟨user, X, m⟩ other := by
  obtain ⟨hother, hheld⟩ := h
  rw [Std.ExtTreeSet.mem_insert, Std.compare_eq_iff_eq] at hheld
  rcases hheld with hsame | hheld
  · left
    have hlists := congrArg String.toList hsame
    rw [String.toList_append, String.toList_append] at hlists
    exact (String.toList_inj.mp (List.append_cancel_left hlists)).symm
  · right
    exact ⟨hother, hheld⟩

/-- What the token of a framework adds to a grant: the entities of this framework, or reading for an
administrator where there was none. -/
theorem Grant.confers_insert_framework (s : Subject) (key : String) (hkey : key ≠ "") (g : Grant)
    (hplain : ∀ token ∈ g.named, Token.frameworkKey? token = none)
    (h : g.Confers ⟨user, X.insert (Token.frameworkMark ++ key), m⟩ action s) :
    g.Confers ⟨user, X, m⟩ action s ∨
      ((∃ actions, g = .framework actions) ∧ s.MayHave .frameworkKey (.text key)) ∨
      ((∃ held, g = .frameworkReader held) ∧ action = Action.read ∧
        ∀ other, ¬ Authority.Administers ⟨user, X, m⟩ other) := by
  have hkept (token : String) (hnamed : token ∈ g.named) :=
    mem_of_mem_insert_framework X key token hkey (hplain token hnamed)
  cases g with
  | framework actions =>
      obtain ⟨hmem, other, hadministers, hhas⟩ := h
      rcases administers_insert_framework user X m key other hadministers with rfl | hbefore
      · exact Or.inr (Or.inl ⟨⟨actions, rfl⟩, hhas⟩)
      · exact Or.inl ⟨hmem, other, hbefore, hhas⟩
  | frameworkReader held =>
      obtain ⟨hread, hadministers | ⟨token, hmem, hheld⟩⟩ := h
      · by_cases hbefore : ∃ other, Authority.Administers ⟨user, X, m⟩ other
        · exact Or.inl ⟨hread, Or.inl hbefore⟩
        · exact Or.inr (Or.inr ⟨⟨held, rfl⟩, hread, not_exists.mp hbefore⟩)
      · exact Or.inl ⟨hread, Or.inr ⟨token, hmem, hkept token hmem hheld⟩⟩
  | holder held actions =>
      obtain ⟨hmem, token, htoken, hheld⟩ := h
      exact Or.inl ⟨hmem, token, htoken, hkept token htoken hheld⟩
  | organisation _ | monitor | manager _ | author _ _ =>
      obtain ⟨hmem, hheld, hhas⟩ := h
      exact Or.inl ⟨hmem, hkept _ (List.mem_singleton.mpr rfl) hheld, hhas⟩
  | self actions => exact Or.inl h

/-- Another token takes nothing away. -/
theorem allowed_insert_of_allowed (token : String) (s : Subject)
    (h : Allowed user X m action s) : Allowed user (X.insert token) m action s := by
  rw [allowed_iff_exists_grant] at h ⊢
  obtain ⟨g, hg, hconfers⟩ := h
  refine ⟨g, hg, g.confers_of_subset user action s X (X.insert token) m ?_ hconfers⟩
  intro held hheld
  exact Std.ExtTreeSet.mem_insert.mpr (Or.inr hheld)

/-- If the token of a framework makes a difference to an action on an entity, it turns a denial into
a permission; the entity is of this framework, or it is read as any administrator may. -/
theorem allowed_insert_framework (key : String) (hkey : key ≠ "") (e : Entity)
    (hchanged : ¬ (Allowed user (X.insert (Token.frameworkMark ++ key)) m action (.entity e) ↔
      Allowed user X m action (.entity e))) :
    (¬ Allowed user X m action (.entity e) ∧
      Allowed user (X.insert (Token.frameworkMark ++ key)) m action (.entity e)) ∧
    (e.type ≠ .organisation ∧ e.type ≠ .projectPitch →
      e.attr .frameworkKey = some (.text key)) ∧
    (e.type = .organisation ∨ e.type = .projectPitch →
      action = Action.read ∧ Token.frameworkKeys X = ∅) := by
  have hmore := allowed_insert_of_allowed user X m action (Token.frameworkMark ++ key) (.entity e)
  have hbefore : ¬ Allowed user X m action (.entity e) := by
    intro hallowed
    exact hchanged ⟨fun _ => hallowed, hmore⟩
  have hafter : Allowed user (X.insert (Token.frameworkMark ++ key)) m action (.entity e) := by
    by_contra hdenied
    exact hchanged ⟨fun h => absurd h hdenied, hmore⟩
  refine ⟨⟨hbefore, hafter⟩, ?_⟩
  -- The grant that now allows the action did not do so before, which leaves two kinds of grants.
  rw [allowed_iff_exists_grant] at hbefore hafter
  obtain ⟨g, hg, hconfers⟩ := hafter
  have hplain := e.type.frameworkKey?_of_named g hg
  rcases g.confers_insert_framework user X m action (.entity e) key hkey hplain hconfers with
    hold | ⟨⟨actions, rfl⟩, hhas⟩ | ⟨⟨held, rfl⟩, hread, hnone⟩
  · exact absurd ⟨g, hg, hold⟩ hbefore
  · have htype := e.type.ne_of_framework_mem_grants actions hg
    refine ⟨fun _ => hhas, ?_⟩
    rintro (horganisation | hpitch)
    · exact absurd horganisation htype.1
    · exact absurd hpitch htype.2
  · have htype := e.type.eq_of_frameworkReader_mem_grants held hg
    constructor
    · rintro ⟨horganisation, hpitch⟩
      rcases htype with h | h
      · exact absurd h horganisation
      · exact absurd h hpitch
    · intro _
      refine ⟨hread, ?_⟩
      rw [Std.ExtTreeSet.eq_empty_iff_forall_not_mem]
      intro other hmem
      exact hnone other ((Token.mem_frameworkKeys X other).mp hmem)

end

/-! ## Frameworks that are not administered -/

section

variable (a : Authority) (action : String) (e f : Entity)

/-- A rule for the entities of a framework passes over those of any other. -/
theorem not_covers_of_mem_frameworkRules (actions : List String) (t : EntityType) (r : Rule)
    (hr : r ∈ a.frameworkRules actions t)
    (hforeign : ∀ key ∈ Token.frameworkKeys a.tokens, e.attr .frameworkKey ≠ some (.text key)) :
    ¬ r.Covers action (.entity e) := by
  rw [Authority.frameworkRules, List.mem_map] at hr
  obtain ⟨key, hkey, rfl⟩ := hr
  rintro ⟨-, -, hcondition⟩
  have hnamed : e.attr .frameworkKey = some (.text key) := hcondition _ rfl
  exact hforeign key (Std.ExtTreeSet.mem_toList.mp hkey) hnamed

variable (htype : e.type = f.type)
  (hagree : ∀ attr, attr ≠ .frameworkKey → e.attr attr = f.attr attr)
  (he : ∀ key ∈ Token.frameworkKeys a.tokens, e.attr .frameworkKey ≠ some (.text key))
  (hf : ∀ key ∈ Token.frameworkKeys a.tokens, f.attr .frameworkKey ≠ some (.text key))

include htype hagree he hf in
/-- To the rules of a grant, all foreign frameworks are the same. -/
theorem Grant.covers_iff_of_foreign (t : EntityType) (g : Grant) (r : Rule)
    (hr : r ∈ g.rules a t) : r.Covers action (.entity e) ↔ r.Covers action (.entity f) := by
  by_cases hframework : ∃ actions, g = .framework actions
  · obtain ⟨actions, rfl⟩ := hframework
    have hnone := not_covers_of_mem_frameworkRules a action e actions t r hr he
    have hother := not_covers_of_mem_frameworkRules a action f actions t r hr hf
    exact iff_of_false hnone hother
  · -- No other grant looks at the framework.
    apply r.covers_congr_of_attributes action e f htype
    intro attr hattr
    rw [g.attributes_of_mem_rules a t r hr, Option.mem_toList] at hattr
    apply hagree
    rintro rfl
    cases g with
    | framework actions => exact hframework ⟨actions, rfl⟩
    | _ => cases hattr

include htype hagree he hf in
/-- Entities of one type that differ in nothing but their framework, which the user administers for
neither of them, are decided on by the same rule. -/
theorem index_firstMatch_eq_of_foreign :
    (Rule.firstMatch ((Policy.standard e.type).rules a) action (.entity e)).index =
      (Rule.firstMatch ((Policy.standard f.type).rules a) action (.entity f)).index := by
  rw [← htype]
  apply Rule.index_firstMatch_congr
  intro r hr
  obtain ⟨g, -, hmem⟩ := (Policy.mem_rules_standard_iff e.type a r).mp hr
  exact Grant.covers_iff_of_foreign a action e f htype hagree he hf e.type g r hmem

end

/-- Frameworks stay apart. A token for one more framework allows nothing but actions on the entities
of this framework and, to someone who had no framework before, reading organisations and project
pitches; and it takes nothing away. To whomever administers neither of their frameworks, entities
that differ in nothing else are the same. -/
theorem frameworks_isolated (user : Identifier) (X : TokenSet) (m : Membership) (action : String) :
    (∀ (key : String) (e : Entity), key ≠ "" →
      ¬ (Allowed user (X.insert ("framework-" ++ key)) m action (.entity e) ↔
        Allowed user X m action (.entity e)) →
      (¬ Allowed user X m action (.entity e) ∧
        Allowed user (X.insert ("framework-" ++ key)) m action (.entity e)) ∧
      (e.type ≠ .organisation ∧ e.type ≠ .projectPitch →
        e.attr .frameworkKey = some (.text key)) ∧
      (e.type = .organisation ∨ e.type = .projectPitch →
        action = "read" ∧ Token.frameworkKeys X = ∅)) ∧
    ∀ e f : Entity, e.type = f.type →
      (∀ attr, attr ≠ .frameworkKey → e.attr attr = f.attr attr) →
      (∀ key ∈ Token.frameworkKeys X, e.attr .frameworkKey ≠ some (.text key)) →
      (∀ key ∈ Token.frameworkKeys X, f.attr .frameworkKey ≠ some (.text key)) →
      (Rule.firstMatch ((Policy.standard e.type).rules ⟨user, X, m⟩) action (.entity e)).index =
        (Rule.firstMatch ((Policy.standard f.type).rules ⟨user, X, m⟩) action (.entity f)).index := by
  constructor
  · intro key e hkey hchanged
    exact allowed_insert_framework user X m action key hkey e hchanged
  · intro e f htype hagree he hf
    exact index_firstMatch_eq_of_foreign ⟨user, X, m⟩ action e f htype hagree he hf

/-- Being made an administrator of `ppc` allows approving a project of `ppc`, and reading an
organisation to someone who administers nothing yet. A member of organisation 42 who administers
another framework meets the same rule on a project of `ppc` and on one without a framework. -/
theorem frameworks_isolated_ppc :
    let X : TokenSet := {"manage-own", "framework-terrafund"}
    let m : Membership := ⟨{42}, ∅, ∅⟩
    let project (framework : Option String) : Entity := (Record.project 5 (some 42) framework).entity
    let organisation : Entity := (Record.organisation 3).entity
    (¬ Allowed 7 X m "approve" (.entity (project (some "ppc"))) ∧
        (project (some "ppc")).attr .frameworkKey = some (.text "ppc")) ∧
      (¬ Allowed 7 {"manage-own"} m "read" (.entity organisation) ∧
        Token.frameworkKeys {"manage-own"} = ∅) ∧
      (Rule.firstMatch ((Policy.standard .project).rules ⟨7, X, m⟩) "update"
          (.entity (project (some "ppc")))).index =
        (Rule.firstMatch ((Policy.standard .project).rules ⟨7, X, m⟩) "update"
          (.entity (project none))).index := by
  intro X m project organisation
  refine ⟨?_, ?_, ?_⟩
  · have hchanged :
        ¬ (Allowed 7 (X.insert ("framework-" ++ "ppc")) m "approve" (.entity (project (some "ppc"))) ↔
          Allowed 7 X m "approve" (.entity (project (some "ppc")))) := by
      unfold Allowed
      decide +kernel
    have hisolated := (frameworks_isolated 7 X m "approve").1 "ppc" (project (some "ppc"))
      (by decide) hchanged
    exact ⟨hisolated.1.1, hisolated.2.1 (by decide)⟩
  · have hchanged :
        ¬ (Allowed 7 (({"manage-own"} : TokenSet).insert ("framework-" ++ "ppc")) m "read"
            (.entity organisation) ↔
          Allowed 7 {"manage-own"} m "read" (.entity organisation)) := by
      unfold Allowed
      decide +kernel
    have hisolated := (frameworks_isolated 7 {"manage-own"} m "read").1 "ppc" organisation
      (by decide) hchanged
    exact ⟨hisolated.1.1, (hisolated.2.2 (by decide)).2⟩
  · have hagree : ∀ attr, attr ≠ .frameworkKey →
        (project (some "ppc")).attr attr = (project none).attr attr := by
      intro attr hattr
      cases attr with
      | frameworkKey => exact absurd rfl hattr
      | _ => rfl
    have hforeign : ∀ key ∈ Token.frameworkKeys X,
        (project (some "ppc")).attr .frameworkKey ≠ some (.text key) := by
      intro key hkey hnamed
      obtain rfl : "ppc" = key := AttributeValue.text.inj (Option.some.inj hnamed)
      exact absurd hkey (by decide)
    have hnone : ∀ key ∈ Token.frameworkKeys X,
        (project none).attr .frameworkKey ≠ some (.text key) := by
      intro key _ hnamed
      cases hnamed
    exact (frameworks_isolated 7 X m "update").2 (project (some "ppc")) (project none) rfl hagree
      hforeign hnone

end AccessControl
