import AccessControl.Proofs.FailClosed

/-!
# What becomes of a registry

Policies are put in force and taken away one after another, and for each entity type the last change
about it counts. A standard policy allows nothing but actions on its own type. So wherever only
standard policies are ever put in force, a type has either its own policy, under which everything is
decided as in the standard registry, or none, or one of another type, under which nothing is
allowed. Main statements: `policy?_after` and `changes_only_restrict`.
-/

set_option autoImplicit false

namespace AccessControl

namespace Registry

/-- A change of a registry, which concerns one entity type. -/
inductive Change
  | register (type : EntityType) (policy : Policy)
  | unregister (type : EntityType)

namespace Change

def type : Change → EntityType
  | .register t _ => t
  | .unregister t => t

/-- The policy that is in force for the type after the change. -/
def policy? : Change → Option Policy
  | .register _ p => some p
  | .unregister _ => none

end Change

def change (r : Registry) : Change → Registry
  | .register t p => r.register t p
  | .unregister t => r.unregister t

/-- The registry after some changes. -/
def after (r : Registry) (changes : List Change) : Registry :=
  changes.foldl change r

/-- The policy that remains in force for a type after some changes: what the last change about the
type says, or what was in force before if there is no such change. -/
def remains (r : Registry) (changes : List Change) (t : EntityType) : Option Policy :=
  match (changes.filter (·.type = t)).getLast? with
  | some c => c.policy?
  | none => r.policy? t

/-! ## Changes one after another -/

/-- A change is one to its own type and to no other. -/
theorem policy?_change (r : Registry) (c : Change) (t : EntityType) :
    (r.change c).policy? t = if c.type = t then c.policy? else r.policy? t := by
  cases c with
  | register u p => exact r.policy?_register u t p
  | unregister u => exact r.policy?_unregister u t

/-- What remains after a change is what remains after the others of what it has left. -/
theorem remains_cons (r : Registry) (c : Change) (changes : List Change) (t : EntityType) :
    r.remains (c :: changes) t = (r.change c).remains changes t := by
  unfold remains
  rw [policy?_change]
  by_cases htype : c.type = t
  · rw [List.filter_cons_of_pos (by simpa using htype), List.getLast?_cons, if_pos htype]
    cases (changes.filter (·.type = t)).getLast? <;> rfl
  · rw [List.filter_cons_of_neg (by simpa using htype), if_neg htype]

/-- The last change about a type decides which policy is in force for it. -/
theorem policy?_after (r : Registry) (changes : List Change) (t : EntityType) :
    (r.after changes).policy? t = r.remains changes t := by
  induction changes generalizing r with
  | nil => rfl
  | cons c changes ih =>
      have hrest := ih (r.change c)
      rw [remains_cons, ← hrest]
      rfl

/-- Only standard policies are in force, if not all of them for their own types. -/
def OnlyStandard (r : Registry) : Prop :=
  ∀ t p, r.policy? t = some p → ∃ u, p = .standard u

/-- A change that puts no policy in force other than a standard one. -/
def Change.OnlyStandard (c : Change) : Prop :=
  ∀ p, c.policy? = some p → ∃ u, p = .standard u

/-- The standard registry has standard policies only. -/
theorem onlyStandard_standard : standard.OnlyStandard := by
  intro t p hp
  rw [policy?_standard] at hp
  exact ⟨t, (Option.some.inj hp).symm⟩

/-- The empty registry has no policy that is not standard. -/
theorem onlyStandard_empty : empty.OnlyStandard := by
  intro t p hp
  rw [policy?_empty] at hp
  cases hp

/-- Registering standard policies leaves standard policies only. -/
theorem onlyStandard_change (r : Registry) (c : Change) (hr : r.OnlyStandard)
    (hc : c.OnlyStandard) : (r.change c).OnlyStandard := by
  intro t p hp
  rw [policy?_change] at hp
  split at hp
  · exact hc p hp
  · exact hr t p hp

/-- So does any number of such changes. -/
theorem onlyStandard_after (r : Registry) (changes : List Change) (hr : r.OnlyStandard)
    (hchanges : ∀ c ∈ changes, c.OnlyStandard) : (r.after changes).OnlyStandard := by
  induction changes generalizing r with
  | nil => exact hr
  | cons c changes ih =>
      rw [List.forall_mem_cons] at hchanges
      exact ih (r.change c) (onlyStandard_change r c hr hchanges.1) hchanges.2

/-- Under standard changes a type remains without a policy, or with the policy of some type. -/
theorem remains_eq_none_or_standard (r : Registry) (hr : r.OnlyStandard) (changes : List Change)
    (hchanges : ∀ c ∈ changes, c.OnlyStandard) (t : EntityType) :
    r.remains changes t = none ∨ ∃ u, r.remains changes t = some (.standard u) := by
  have honly := onlyStandard_after r changes hr hchanges t
  rw [policy?_after] at honly
  cases h : r.remains changes t with
  | none => exact Or.inl rfl
  | some p =>
      obtain ⟨u, rfl⟩ := honly p h
      exact Or.inr ⟨u, rfl⟩

/-! ## Decisions -/

section

variable (r : Registry) (source : Source) (user : Identifier) (action : String) (s : Subject)

/-- Of the policies in force a check sees the one for the type of its subject. -/
theorem rulesFor_congr (q : Registry) (actor : Actor)
    (h : r.policy? s.type = q.policy? s.type) :
    r.rulesFor source actor s = q.rulesFor source actor s := by
  unfold rulesFor resolve?
  rw [h]

/-- Registries with the same policy for a type judge alike about it. -/
theorem judge_congr (q : Registry) (actor : Actor) (h : r.policy? s.type = q.policy? s.type) :
    r.judge source actor action s = q.judge source actor action s := by
  unfold judge rulingBy
  rw [rulesFor_congr r source s q actor h]

/-- Where a type has no policy, every action is denied for that reason. -/
theorem decision_judge_of_policy?_eq_none (h : r.policy? s.type = none) :
    (r.judge source (.authenticated user) action s).decision =
      .denied (.noPolicyRegistered s.type) 0 := by
  unfold judge rulingBy rulesFor resolve?
  simp only [Actor.authenticated, h]

/-- Where the policy of another type is in force, it builds its rules, and none of them matches. -/
theorem decision_judge_of_foreign (a : Authority) (hreads : source.Yields user a)
    (u : EntityType) (hforeign : u ≠ s.type) (h : r.policy? s.type = some (.standard u)) :
    (r.judge source (.authenticated user) action s).decision =
      .denied .noMatchingRule ((Policy.standard u).rules a).length := by
  have hauthority : source.authority user = .ok a :=
    (source.authority_eq_ok_iff_yields user a).mpr hreads
  have hnone : (Rule.firstMatch ((Policy.standard u).rules a) action s).index = none := by
    rw [Rule.index_firstMatch_eq_none_iff]
    intro rule hrule hcovers
    have hsubject := Policy.subject_of_mem_standard a u rule hrule
    exact hforeign (hsubject.symm.trans (rule.subject_eq_of_covers action s hcovers))
  unfold judge rulingBy rulesFor resolve?
  simp only [Actor.authenticated, h, hauthority, hnone]

end

/-- Where only standard policies are put in force, changes of a registry take authority away and
never add any: a type that keeps its own policy, or gets it back, is decided on as ever, one without
a policy is denied everything for this reason, and one with the policy of another type is denied
everything because no rule matches. -/
theorem changes_only_restrict (base : Registry) (hbase : base = standard ∨ base = empty)
    (changes : List Change) (hchanges : ∀ c ∈ changes, c.OnlyStandard) (source : Source)
    (user : Identifier) (a : Authority) (hreads : source.Yields user a) (action : String)
    (s : Subject) :
    let decision := ((base.after changes).judge source (.authenticated user) action s).decision
    let ordinary := (standard.judge source (.authenticated user) action s).decision
    (base.remains changes s.type = some (.standard s.type) → decision = ordinary) ∧
    (base.remains changes s.type = none → decision = .denied (.noPolicyRegistered s.type) 0) ∧
    (∀ u, u ≠ s.type → base.remains changes s.type = some (.standard u) →
      decision = .denied .noMatchingRule ((Policy.standard u).rules a).length) ∧
    (base.remains changes s.type = none ∨ ∃ u, base.remains changes s.type = some (.standard u)) ∧
    (decision.isAllowed = true → decision = ordinary) := by
  intro decision ordinary
  have hremains := base.policy?_after changes s.type
  have hown : base.remains changes s.type = some (.standard s.type) → decision = ordinary := by
    intro h
    have hpolicy : (base.after changes).policy? s.type = standard.policy? s.type := by
      rw [hremains, h, policy?_standard]
    exact congrArg Ruling.decision (judge_congr _ source action s standard _ hpolicy)
  have hnone : base.remains changes s.type = none →
      decision = .denied (.noPolicyRegistered s.type) 0 := by
    intro h
    exact decision_judge_of_policy?_eq_none _ source user action s (hremains.trans h)
  have hforeign : ∀ u, u ≠ s.type → base.remains changes s.type = some (.standard u) →
      decision = .denied .noMatchingRule ((Policy.standard u).rules a).length := by
    intro u hu h
    exact decision_judge_of_foreign _ source user action s a hreads u hu (hremains.trans h)
  have hstart : base.OnlyStandard := by
    rcases hbase with rfl | rfl
    · exact onlyStandard_standard
    · exact onlyStandard_empty
  have hcases := base.remains_eq_none_or_standard hstart changes hchanges s.type
  refine ⟨hown, hnone, hforeign, hcases, ?_⟩
  -- Of the three outcomes only the first is not a denial.
  intro hallowed
  rcases hcases with h | ⟨u, h⟩
  · rw [hnone h] at hallowed
    cases hallowed
  · by_cases hu : u = s.type
    · rw [hu] at h
      exact hown h
    · rw [hforeign u hu h] at hallowed
      cases hallowed

/-- To a reader of all projects, a registry in which projects got their own policy back answers
about projects as ever, about sites that they have no policy, and about tasks, which are under the
policy of media, that no rule matches. -/
theorem changes_only_restrict_reader :
    let changes : List Change :=
      [.register .project (.standard .site), .unregister .site,
        .register .project (.standard .project), .register .task (.standard .media)]
    let source : Source := ⟨fun _ => .ok {"projects-read"}, fun _ => .ok ∅, fun _ _ => .ok ∅⟩
    let decision (t : EntityType) : Decision :=
      ((standard.after changes).judge source (.authenticated 7) "read" (.wholeType t)).decision
    (∀ c ∈ changes, c.OnlyStandard) ∧ source.Yields 7 ⟨7, {"projects-read"}, .empty⟩ ∧
      decision .project = .allowed 0 1 ∧
      decision .site = .denied (.noPolicyRegistered .site) 0 ∧
      decision .task = .denied .noMatchingRule 1 := by
  intro changes source decision
  have hchanges : ∀ c ∈ changes, c.OnlyStandard := by
    intro c hc p hp
    simp only [changes, List.mem_cons, List.not_mem_nil, or_false] at hc
    rcases hc with rfl | rfl | rfl | rfl <;> cases hp <;> exact ⟨_, rfl⟩
  have hreads : source.Yields 7 ⟨7, {"projects-read"}, .empty⟩ := ⟨rfl, rfl, rfl, rfl, rfl⟩
  have hrestrict (t : EntityType) := changes_only_restrict standard (Or.inl rfl) changes hchanges
    source 7 ⟨7, {"projects-read"}, .empty⟩ hreads "read" (.wholeType t)
  refine ⟨hchanges, hreads, ?_, ?_, ?_⟩
  · have hordinary :
        (standard.judge source (.authenticated 7) "read" (.wholeType .project)).decision =
          .allowed 0 1 := by decide +kernel
    exact ((hrestrict .project).1 rfl).trans hordinary
  · exact (hrestrict .site).2.1 rfl
  · exact (hrestrict .task).2.2.1 .media (by decide) rfl

end Registry

end AccessControl
