import AccessControl.Proofs.Grants
import AccessControl.Record
import AccessControl.Registry

/-!
# The rank of a framework

Where administrators of frameworks have a say, the rules for the frameworks of a user come first, one
for each key in ascending order, and no entity has more than one key. So a small index tells that a
framework decided and which one: it is the number of smaller keys that the user has. Main statement:
`firstMatch_framework_rank`.
-/

set_option autoImplicit false

namespace AccessControl

open AccessControl.Action in
/-- What administrators of a framework may do with the entities of a type in that framework. -/
def EntityType.frameworkActions : EntityType → List String
  | .project | .site | .nursery | .projectReport | .siteReport | .nurseryReport =>
    [read, update, delete, approve, uploadFiles, deleteFiles]
  | .task => [read, update, delete, approve]
  | .application | .formSubmission => [read, update, approve]
  | .disturbance | .trackingEntry | .projectPolygon | .media => [read, update, delete]
  | .fundingProgramme => [read, update]
  | .organisation | .projectPitch | .user => []

/-! ## Lists in two parts -/

namespace Rule

variable (front others : List Rule) (action : String) (s : Subject) (i : Nat)

/-- The first rule stays the first with more rules behind it. -/
theorem index_append_of_firstCovers (h : FirstCovers front action s i) :
    (firstMatch (front ++ others) action s).index = some i := by
  rw [index_firstMatch_eq_some_iff]
  have hi := lt_length_of_firstCovers front action s i h
  obtain ⟨⟨r, hr, hcovers⟩, hnone⟩ := h
  refine ⟨⟨r, by rwa [List.getElem?_append_left hi], hcovers⟩, ?_⟩
  intro j q hj hq
  rw [List.getElem?_append_left (Nat.lt_trans hj hi)] at hq
  exact hnone j q hj hq

/-- The rule that decides comes either from the front, where it is the first to cover as well, or
from the rest, and then no rule of the front covers. -/
theorem index_append_cases (h : (firstMatch (front ++ others) action s).index = some i) :
    (i < front.length ∧ FirstCovers front action s i) ∨
      (front.length ≤ i ∧ ∀ r ∈ front, ¬ r.Covers action s) := by
  rw [index_firstMatch_eq_some_iff] at h
  obtain ⟨⟨r, hr, hcovers⟩, hnone⟩ := h
  by_cases hi : i < front.length
  · left
    rw [List.getElem?_append_left hi] at hr
    refine ⟨hi, ⟨r, hr, hcovers⟩, ?_⟩
    intro j q hj hq
    have hsame : (front ++ others)[j]? = front[j]? :=
      List.getElem?_append_left (Nat.lt_trans hj hi)
    exact hnone j q hj (hsame.trans hq)
  · right
    refine ⟨Nat.le_of_not_lt hi, ?_⟩
    intro q hq
    obtain ⟨j, hj⟩ := List.mem_iff_getElem?.mp hq
    have hlt : j < front.length := (List.getElem?_eq_some_iff.mp hj).1
    have hsame : (front ++ others)[j]? = front[j]? := List.getElem?_append_left hlt
    exact hnone j q (by omega) (hsame.trans hj)

end Rule

/-- In a strictly ascending list every text has as many smaller ones as its index says. -/
theorem countP_lt_of_getElem? (keys : List String) (hascending : keys.Pairwise (· < ·)) (i : Nat)
    (key : String) (h : keys[i]? = some key) : keys.countP (· < key) = i := by
  induction keys generalizing i with
  | nil => cases h
  | cons first keys ih =>
      rw [List.pairwise_cons] at hascending
      obtain ⟨hfirst, hrest⟩ := hascending
      cases i with
      | zero =>
          obtain rfl : first = key := Option.some.inj h
          rw [List.countP_eq_zero]
          intro other hother hlt
          rw [decide_eq_true_eq] at hlt
          rcases List.mem_cons.mp hother with rfl | hmem
          · exact String.lt_irrefl _ hlt
          · exact String.lt_asymm hlt (hfirst other hmem)
      | succ i =>
          rw [List.getElem?_cons_succ] at h
          have hlt : first < key := hfirst key (List.mem_of_getElem? h)
          rw [List.countP_cons_of_pos (p := fun other => decide (other < key))
            (decide_eq_true hlt), ih hrest i h]

/-! ## The rules for frameworks -/

namespace Authority

variable (a : Authority) (actions : List String) (action : String)

/-- The frameworks of a user are listed in ascending order. -/
theorem pairwise_frameworks : a.frameworks.toList.Pairwise (· < ·) :=
  a.frameworks.ordered_toList.imp fun h => compareOfLessAndEq_eq_lt.mp h

/-- There is one rule for each framework. -/
theorem length_frameworkRules (t : EntityType) :
    (a.frameworkRules actions t).length = a.frameworks.size := by
  unfold frameworkRules
  rw [List.length_map, Std.ExtTreeSet.length_toList]

/-- The rule at an index is the one for the framework at this index. -/
theorem getElem?_frameworkRules_eq_some_iff (t : EntityType) (i : Nat) (r : Rule) :
    (a.frameworkRules actions t)[i]? = some r ↔ ∃ key, a.frameworks.toList[i]? = some key ∧
      ⟨actions, t, some (.equals .frameworkKey (.text key)), false⟩ = r := by
  unfold frameworkRules
  rw [List.getElem?_map, Option.map_eq_some_iff]

/-- Of the rules for frameworks, the first to cover an action on an entity is the one for the
framework that the entity names; its index is the rank of that framework. -/
theorem firstCovers_frameworkRules_iff (e : Entity) (i : Nat) :
    Rule.FirstCovers (a.frameworkRules actions e.type) action (.entity e) i ↔
      action ∈ actions ∧ ∃ key ∈ a.frameworks, e.attr .frameworkKey = some (.text key) ∧
        i = a.frameworks.toList.countP (· < key) := by
  have hcovers (key : String) :
      (Rule.mk actions e.type (some (.equals .frameworkKey (.text key))) false).Covers action
        (.entity e) ↔ action ∈ actions ∧ e.attr .frameworkKey = some (.text key) :=
    Rule.covers_equals_iff actions .frameworkKey (.text key) action (.entity e)
  have hrank (j : Nat) (key : String) (h : a.frameworks.toList[j]? = some key) :=
    countP_lt_of_getElem? _ a.pairwise_frameworks j key h
  constructor
  · rintro ⟨⟨r, hr, hfirst⟩, -⟩
    obtain ⟨key, hkey, rfl⟩ := (a.getElem?_frameworkRules_eq_some_iff actions e.type i r).mp hr
    obtain ⟨hmem, hnamed⟩ := (hcovers key).mp hfirst
    have hheld : key ∈ a.frameworks :=
      Std.ExtTreeSet.mem_toList.mp (List.mem_of_getElem? hkey)
    exact ⟨hmem, key, hheld, hnamed, (hrank i key hkey).symm⟩
  · rintro ⟨hmem, key, hheld, hnamed, hi⟩
    obtain ⟨j, hj⟩ := List.mem_iff_getElem?.mp (Std.ExtTreeSet.mem_toList.mpr hheld)
    obtain rfl : i = j := hi.trans (hrank j key hj)
    refine ⟨⟨_, (a.getElem?_frameworkRules_eq_some_iff actions e.type i _).mpr ⟨key, hj, rfl⟩,
      (hcovers key).mpr ⟨hmem, hnamed⟩⟩, ?_⟩
    -- A rule before this one is for another key, and the entity does not have two.
    intro k q hk hq hother
    obtain ⟨other, hotherKey, rfl⟩ :=
      (a.getElem?_frameworkRules_eq_some_iff actions e.type k q).mp hq
    obtain ⟨-, hotherNamed⟩ := (hcovers other).mp hother
    rw [hnamed, Option.some.injEq, AttributeValue.text.injEq] at hotherNamed
    subst hotherNamed
    have hsame : k = i := (hrank k key hotherKey).symm.trans (hrank i key hj)
    omega

/-- On an entity type as a whole the rule for the least framework is the first to cover. -/
theorem firstCovers_frameworkRules_wholeType (t : EntityType) (hmem : action ∈ actions)
    (hsome : a.frameworks.isEmpty = false) :
    Rule.FirstCovers (a.frameworkRules actions t) action (.wholeType t) 0 := by
  have hpos : 0 < (a.frameworkRules actions t).length := by
    rw [a.length_frameworkRules actions t, ← Std.ExtTreeSet.length_toList, List.length_pos_iff]
    exact List.isEmpty_eq_false_iff.mp (Std.ExtTreeSet.isEmpty_toList.trans hsome)
  have hfirst := List.getElem?_eq_getElem hpos
  obtain ⟨key, -, hrule⟩ := (a.getElem?_frameworkRules_eq_some_iff actions t 0 _).mp hfirst
  refine ⟨⟨_, hfirst, ?_⟩, fun j _ hj => absurd hj (Nat.not_lt_zero j)⟩
  rw [← hrule]
  exact ⟨rfl, rfl, hmem⟩

/-! ## Policies that begin with them -/

section

variable (others : List Rule) (e : Entity)

/-- What belongs to a framework is found by the rule whose index is the number of smaller
frameworks. -/
theorem index_of_framework (key : String) (hkey : key ∈ a.frameworks) (hmem : action ∈ actions)
    (hnamed : e.attr .frameworkKey = some (.text key)) :
    (Rule.firstMatch (a.frameworkRules actions e.type ++ others) action (.entity e)).index =
      some (a.frameworks.toList.countP (· < key)) := by
  have hfirst := (a.firstCovers_frameworkRules_iff actions action e _).mpr
    ⟨hmem, key, hkey, hnamed, rfl⟩
  exact Rule.index_append_of_firstCovers _ others action _ _ hfirst

/-- A small index says that administrators may perform the action and that the entity names one of
the frameworks. -/
theorem exists_index_lt_iff :
    (∃ i, (Rule.firstMatch (a.frameworkRules actions e.type ++ others) action (.entity e)).index =
        some i ∧ i < a.frameworks.size) ↔
      action ∈ actions ∧ ∃ key ∈ a.frameworks, e.attr .frameworkKey = some (.text key) := by
  rw [← a.length_frameworkRules actions e.type]
  constructor
  · rintro ⟨i, hi, hsmall⟩
    rcases Rule.index_append_cases _ others action _ i hi with ⟨-, hfirst⟩ | ⟨hlarge, -⟩
    · obtain ⟨hmem, key, hkey, hnamed, -⟩ :=
        (a.firstCovers_frameworkRules_iff actions action e i).mp hfirst
      exact ⟨hmem, key, hkey, hnamed⟩
    · omega
  · rintro ⟨hmem, key, hkey, hnamed⟩
    have hfirst := (a.firstCovers_frameworkRules_iff actions action e _).mpr
      ⟨hmem, key, hkey, hnamed, rfl⟩
    exact ⟨_, a.index_of_framework actions action others e key hkey hmem hnamed,
      Rule.lt_length_of_firstCovers _ action _ _ hfirst⟩

/-- What is found behind the rules for frameworks matches none of them. -/
theorem matchesEntity_eq_false_of_size_le (i : Nat)
    (h : (Rule.firstMatch (a.frameworkRules actions e.type ++ others) action (.entity e)).index =
      some i) (hlarge : a.frameworks.size ≤ i) (r : Rule)
    (hr : r ∈ a.frameworkRules actions e.type) :
    (r.matchesEntity action (.start e)).1 = false := by
  have hlength := a.length_frameworkRules actions e.type
  rcases Rule.index_append_cases _ others action _ i h with ⟨hsmall, -⟩ | ⟨-, hnone⟩
  · omega
  · rw [← Bool.not_eq_true, Rule.matchesEntity_start_iff]
    exact hnone r hr

end

end Authority

/-! ## Standard policies -/

/-- All but three types are first granted to those who administer the framework. -/
theorem EntityType.grants_eq_framework_cons (t : EntityType)
    (ht : t ∉ [.organisation, .projectPitch, .user]) :
    ∃ others, t.grants = .framework t.frameworkActions :: others := by
  cases t with
  | organisation | projectPitch | user => exact absurd (by decide) ht
  | _ => exact ⟨_, rfl⟩

/-- The rules of all but three types begin with one for each framework. -/
theorem Policy.frameworkRules_append_of_standard (a : Authority) (t : EntityType)
    (ht : t ∉ [.organisation, .projectPitch, .user]) :
    ∃ others, (Policy.standard t).rules a = a.frameworkRules t.frameworkActions t ++ others := by
  obtain ⟨others, hgrants⟩ := t.grants_eq_framework_cons ht
  refine ⟨others.flatMap (·.rules a t), ?_⟩
  rw [rules_standard, hgrants, List.flatMap_cons]
  rfl

/-- The index of the rule that decides tells a framework apart from all else. In a policy with grants
to administrators, the rules for the frameworks of a user come first. On an entity one of them
decides exactly when administrators may perform the action and the entity names a framework of the
user, whatever else would allow it; the index is then the number of smaller keys that the user has,
by code points. A greater index comes up only when none of them matches. On the type as a whole the
first of them decides. -/
theorem firstMatch_framework_rank (t : EntityType) (ht : t ∉ [.organisation, .projectPitch, .user])
    (user : Identifier) (tokens : TokenSet) (m : Membership) (action : String) :
    ∃ policy, Registry.standard.policy? t = some policy ∧
      let a : Authority := ⟨user, tokens, m⟩
      let keys := Token.frameworkKeys tokens
      let found (s : Subject) := (Rule.firstMatch (policy.rules a) action s).index
      a.frameworkRules t.frameworkActions t <+: policy.rules a ∧
      (∀ e : Entity, e.type = t →
        ((∃ i, found (.entity e) = some i ∧ i < keys.size) ↔
          action ∈ t.frameworkActions ∧
            ∃ key ∈ keys, e.attr .frameworkKey = some (.text key)) ∧
        (∀ key ∈ keys, action ∈ t.frameworkActions → e.attr .frameworkKey = some (.text key) →
          found (.entity e) = some (keys.toList.countP (· < key))) ∧
        ∀ i, found (.entity e) = some i → keys.size ≤ i →
          ∀ r ∈ a.frameworkRules t.frameworkActions t,
            (r.matchesEntity action (.start e)).1 = false) ∧
      (keys.isEmpty = false → action ∈ t.frameworkActions → found (.wholeType t) = some 0) := by
  refine ⟨.standard t, Registry.policy?_standard t, ?_⟩
  intro a keys found
  obtain ⟨others, hrules⟩ := Policy.frameworkRules_append_of_standard a t ht
  have hfound (s : Subject) : found s =
      (Rule.firstMatch (a.frameworkRules t.frameworkActions t ++ others) action s).index := by
    rw [← hrules]
  refine ⟨?_, ?_, ?_⟩
  · rw [hrules]
    exact List.prefix_append _ _
  · rintro e rfl
    rw [hfound]
    refine ⟨a.exists_index_lt_iff _ action others e, ?_, ?_⟩
    · intro key hkey hmem hnamed
      exact a.index_of_framework _ action others e key hkey hmem hnamed
    · intro i hi hlarge r hr
      exact a.matchesEntity_eq_false_of_size_le _ action others e i hi hlarge r hr
  · intro hsome hmem
    rw [hfound]
    have hfirst := a.firstCovers_frameworkRules_wholeType t.frameworkActions action t hmem hsome
    exact Rule.index_append_of_firstCovers _ others action _ _ hfirst

/-- An administrator of `hbf`, `ppc` and `terrafund` who may also read all projects, and works for
the organisation of two of them. A project of `ppc` is read by the second rule, for one key is
smaller. One without a framework is read by the fourth, and no rule for a framework matches it. To
the type as a whole the first rule applies. -/
theorem firstMatch_framework_rank_ppc :
    let tokens : TokenSet :=
      {"framework-terrafund", "projects-read", "framework-ppc", "manage-own", "framework-hbf"}
    let a : Authority := ⟨7, tokens, ⟨{42}, ∅, ∅⟩⟩
    let project (framework : Option String) : Entity :=
      (Record.project 5 (some 42) framework).entity
    let found (s : Subject) :=
      (Rule.firstMatch ((Policy.standard .project).rules a) Action.read s).index
    EntityType.project ∉ [.organisation, .projectPitch, .user] ∧
      found (.entity (project (some "ppc"))) = some 1 ∧
      found (.entity (project none)) = some 3 ∧
      (∀ r ∈ a.frameworkRules EntityType.project.frameworkActions .project,
        (r.matchesEntity Action.read (.start (project none))).1 = false) ∧
      found (.wholeType .project) = some 0 := by
  intro tokens a project found
  have ht : EntityType.project ∉ [.organisation, .projectPitch, .user] := by decide
  have hread : Action.read ∈ EntityType.project.frameworkActions := by decide
  obtain ⟨policy, hpolicy, -, hentity, htype⟩ :=
    firstMatch_framework_rank .project ht 7 tokens ⟨{42}, ∅, ∅⟩ Action.read
  obtain rfl : Policy.standard .project = policy :=
    Option.some.inj ((Registry.policy?_standard .project).symm.trans hpolicy)
  have hsize : (Token.frameworkKeys tokens).size = 3 := by decide +kernel
  have hrank : (Token.frameworkKeys tokens).toList.countP (· < "ppc") = 1 := by decide +kernel
  have hplain : found (.entity (project none)) = some 3 := by decide +kernel
  refine ⟨ht, ?_, hplain, ?_, htype (by decide +kernel) hread⟩
  · have hfound := (hentity (project (some "ppc")) rfl).2.1 "ppc" (by decide +kernel) hread rfl
    rw [hrank] at hfound
    exact hfound
  · exact (hentity (project none) rfl).2.2 3 hplain (by omega)

end AccessControl
