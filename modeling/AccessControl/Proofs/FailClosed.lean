import AccessControl.Proofs.FirstMatch
import AccessControl.Service

/-!
# Checks fail closed

A check needs to know who asks, a policy for the subject and four reads of the account database. The
first of these that is missing, in this order, is the reason for denying, and no rule is looked at
before all of them are there. Main statement: `authorize_failsClosed`, which says for every source
and registry when a check is allowed, when it is denied for which reason, and what it counts.
-/

set_option autoImplicit false

namespace AccessControl

namespace Source

/-- At least one of the four reads of a user fails: the tokens, the organisations, the projects that
the user manages, or those that the user monitors. -/
def SomeFails (source : Source) (user : Identifier) : Prop :=
  (∃ fault, source.tokens user = .error fault) ∨
    (∃ fault, source.organisations user = .error fault) ∨
    (∃ fault, source.projects user ⟨false, true⟩ = .error fault) ∨
    ∃ fault, source.projects user ⟨true, false⟩ = .error fault

/-- All four reads of a user succeed, and together they make up the authority of the user. -/
structure Yields (source : Source) (user : Identifier) (a : Authority) : Prop where
  owner : a.user = user
  tokens : source.tokens user = .ok a.tokens
  organisations : source.organisations user = .ok a.membership.organisations
  /-- Projects are asked for by the role of manager alone, and again by that of monitor alone. -/
  managing : source.projects user { monitoring := false, managing := true } =
    .ok a.membership.managing
  monitoring : source.projects user { monitoring := true, managing := false } =
    .ok a.membership.monitoring

/-- The authority that a check puts together is what the four reads yield. -/
theorem authority_eq_ok_iff_yields (source : Source) (user : Identifier) (a : Authority) :
    source.authority user = .ok a ↔ source.Yields user a := by
  rw [authority_eq_ok_iff]
  constructor
  · rintro ⟨huser, htokens, horganisations, hmanaging, hmonitoring⟩
    exact ⟨huser, htokens, horganisations, hmanaging, hmonitoring⟩
  · rintro ⟨huser, htokens, horganisations, hmanaging, hmonitoring⟩
    exact ⟨huser, htokens, horganisations, hmanaging, hmonitoring⟩

/-- No authority is put together exactly when one of the four reads fails. -/
theorem authority_eq_error_iff (source : Source) (user : Identifier) :
    (∃ fault, source.authority user = .error fault) ↔ source.SomeFails user := by
  unfold SomeFails
  rw [show (⟨false, true⟩ : ProjectRoles) = .manages from rfl,
    show (⟨true, false⟩ : ProjectRoles) = .monitors from rfl]
  unfold authority
  cases source.tokens user <;> cases source.organisations user <;>
    cases source.projects user .manages <;> cases source.projects user .monitors <;>
    simp [bind, Except.bind, pure, Except.pure]

end Source

namespace Registry

/-- The rules of a check have been built: the actor is known, the type of the subject has a policy,
and the policy was given the whole authority of the user. -/
def Builds (registry : Registry) (source : Source) (actor : Actor) (subject : Subject)
    (rules : List Rule) : Prop :=
  ∃ user policy a, actor.user = some user ∧ registry.policy? subject.type = some policy ∧
    source.Yields user a ∧ rules = policy.rules a

/-- The rules of a check could not be built, for this reason. -/
def Refuses (registry : Registry) (source : Source) (actor : Actor) (subject : Subject) :
    Denial → Prop
  | .unauthenticated => actor.user = none
  | .noPolicyRegistered t =>
    t = subject.type ∧ actor.user ≠ none ∧ registry.policy? subject.type = none
  | .contextUnavailable =>
    ∃ user, actor.user = some user ∧ registry.policy? subject.type ≠ none ∧
      source.SomeFails user
  | .noMatchingRule => False

/-- Rules are made exactly where everything that they need is there. -/
theorem rulesFor_eq_ok_iff (registry : Registry) (source : Source) (actor : Actor)
    (subject : Subject) (rules : List Rule) :
    registry.rulesFor source actor subject = .ok rules ↔
      registry.Builds source actor subject rules := by
  unfold rulesFor Builds resolve?
  cases hactor : actor.user with
  | none => simp
  | some user =>
      cases hpolicy : registry.policy? subject.type with
      | none => simp
      | some policy =>
          simp only [← Source.authority_eq_ok_iff_yields]
          cases hread : source.authority user with
          | error fault => simp [hread]
          | ok a => simp [hread, eq_comm]

/-- No rules are made for the first reason that applies. -/
theorem rulesFor_eq_error_iff (registry : Registry) (source : Source) (actor : Actor)
    (subject : Subject) (reason : Denial) :
    registry.rulesFor source actor subject = .error reason ↔
      registry.Refuses source actor subject reason := by
  unfold rulesFor resolve?
  cases hactor : actor.user with
  | none => cases reason <;> simp [Refuses, hactor]
  | some user =>
      cases hpolicy : registry.policy? subject.type with
      | none => cases reason <;> simp [Refuses, hactor, hpolicy, eq_comm]
      | some policy =>
          have hfails := source.authority_eq_error_iff user
          cases hread : source.authority user with
          | error fault =>
              have hsome : source.SomeFails user := hfails.mp ⟨fault, hread⟩
              cases reason <;> simp [Refuses, hactor, hpolicy, hread, hsome]
          | ok a =>
              have hnone : ¬ source.SomeFails user := by
                rw [← hfails, hread]
                simp
              cases reason <;> simp [Refuses, hactor, hpolicy, hread, hnone]

/-! ## What a ruling says -/

section Ruling

variable (registry : Registry) (source : Source) (actor : Actor) (subject : Subject)
  (find : List Rule → Finding)

/-- A ruling names a rule exactly when the rules were built and the search found it. -/
theorem matchedRule?_rulingBy_eq_some_iff (i : Nat) :
    (registry.rulingBy source actor subject find).decision.matchedRule? = some i ↔
      ∃ rules, registry.Builds source actor subject rules ∧ (find rules).index = some i := by
  simp only [← rulesFor_eq_ok_iff]
  unfold rulingBy
  cases registry.rulesFor source actor subject with
  | error reason => simp [Decision.matchedRule?]
  | ok rules => cases hfound : (find rules).index <;> simp [Decision.matchedRule?, hfound]

/-- A ruling denies for the reason why there are no rules, or else because the search found none. -/
theorem denial?_rulingBy_eq_some_iff (reason : Denial) :
    (registry.rulingBy source actor subject find).decision.denial? = some reason ↔
      registry.Refuses source actor subject reason ∨
        reason = .noMatchingRule ∧
          ∃ rules, registry.Builds source actor subject rules ∧ (find rules).index = none := by
  simp only [← rulesFor_eq_ok_iff, ← rulesFor_eq_error_iff]
  unfold rulingBy
  cases registry.rulesFor source actor subject with
  | error reason => simp [Decision.denial?]
  | ok rules => cases hfound : (find rules).index <;> simp [Decision.denial?, hfound, eq_comm]

/-- A ruling counts the rules that were built, and none when there are none. -/
theorem ruleCount_rulingBy :
    (∀ rules, registry.Builds source actor subject rules →
      (registry.rulingBy source actor subject find).decision.ruleCount = rules.length) ∧
    ((¬ ∃ rules, registry.Builds source actor subject rules) →
      (registry.rulingBy source actor subject find).decision.ruleCount = 0) := by
  simp only [← rulesFor_eq_ok_iff]
  unfold rulingBy
  cases registry.rulesFor source actor subject with
  | error reason => simp [Decision.ruleCount]
  | ok rules => cases hfound : (find rules).index <;> simp [Decision.ruleCount, hfound]

end Ruling

end Registry

/-- A decision allows exactly if it names a rule, and exactly if it names no reason. -/
theorem Decision.isAllowed_iff (d : Decision) :
    (d.isAllowed = true ↔ d.matchedRule?.isSome) ∧ (d.isAllowed = true ↔ d.denial? = none) := by
  cases d <;> simp [isAllowed, matchedRule?, denial?]

/-- The result of a decision says whether it allows. -/
theorem Decision.result_eq (d : Decision) :
    d.result = if d.isAllowed then .ok () else .error ⟨⟩ := by
  cases d <;> rfl

/-- All that a decision on one action may be, and when it is what. -/
structure FailsClosed (registry : Registry) (source : Source) (actor : Actor) (action : String)
    (subject : Subject) (d : Decision) : Prop where
  unauthenticated : d.denial? = some .unauthenticated ↔ actor.user = none
  noPolicyRegistered : ∀ t, d.denial? = some (.noPolicyRegistered t) ↔
    t = subject.type ∧ actor.user ≠ none ∧ registry.policy? subject.type = none
  /-- One failing read is enough, whatever the others would have allowed. -/
  contextUnavailable : d.denial? = some .contextUnavailable ↔
    ∃ user, actor.user = some user ∧ registry.policy? subject.type ≠ none ∧ source.SomeFails user
  /-- The index is the least one of a rule that covers the action on the subject. -/
  allowed : ∀ i, d.matchedRule? = some i ↔
    ∃ rules, registry.Builds source actor subject rules ∧ Rule.FirstCovers rules action subject i
  noMatchingRule : d.denial? = some .noMatchingRule ↔
    ∃ rules, registry.Builds source actor subject rules ∧ ∀ r ∈ rules, ¬ r.Covers action subject
  ruleCount : ∀ rules, registry.Builds source actor subject rules → d.ruleCount = rules.length
  ruleCount_zero : (¬ ∃ rules, registry.Builds source actor subject rules) → d.ruleCount = 0
  isSome_matchedRule : d.matchedRule?.isSome ↔ d.isAllowed = true
  matchedRule_lt : ∀ i, d.matchedRule? = some i → i < d.ruleCount
  /-- The caller of a denied check learns nothing but that it was denied. -/
  result : d.result = if d.denial? = none then .ok () else .error ⟨⟩

/-- The ruling on one action fails closed. -/
theorem Registry.judge_failsClosed (registry : Registry) (source : Source) (actor : Actor)
    (action : String) (subject : Subject) :
    FailsClosed registry source actor action subject
      (registry.judge source actor action subject).decision := by
  unfold judge
  have hdenial := registry.denial?_rulingBy_eq_some_iff source actor subject
    (fun rules => Rule.firstMatch rules action subject)
  have hmatched := registry.matchedRule?_rulingBy_eq_some_iff source actor subject
    (fun rules => Rule.firstMatch rules action subject)
  obtain ⟨hcount, hzero⟩ := registry.ruleCount_rulingBy source actor subject
    (fun rules => Rule.firstMatch rules action subject)
  generalize registry.rulingBy source actor subject
    (fun rules => Rule.firstMatch rules action subject) = ruling at *
  obtain ⟨hallowed, hdenied⟩ := ruling.decision.isAllowed_iff
  simp only [Rule.index_firstMatch_eq_some_iff, Rule.index_firstMatch_eq_none_iff]
    at hdenial hmatched
  constructor
  case unauthenticated => simpa [Refuses] using hdenial .unauthenticated
  case noPolicyRegistered => exact fun t => by simpa [Refuses] using hdenial (.noPolicyRegistered t)
  case contextUnavailable => simpa [Refuses] using hdenial .contextUnavailable
  case allowed => exact hmatched
  case noMatchingRule => simpa [Refuses] using hdenial .noMatchingRule
  case ruleCount => exact hcount
  case ruleCount_zero => exact hzero
  case isSome_matchedRule => exact hallowed.symm
  case matchedRule_lt =>
    intro i hi
    obtain ⟨rules, hbuilds, hfirst⟩ := (hmatched i).mp hi
    rw [hcount rules hbuilds]
    exact Rule.lt_length_of_firstCovers rules action subject i hfirst
  case result =>
    rw [Decision.result_eq]
    simp only [hdenied]

/-- A ruling that allows anything had its rules built. -/
theorem Registry.builds_of_isAllowed (registry : Registry) (source : Source) (actor : Actor)
    (subject : Subject) (find : List Rule → Finding)
    (h : (registry.rulingBy source actor subject find).decision.isAllowed = true) :
    ∃ rules, registry.Builds source actor subject rules := by
  rw [(Decision.isAllowed_iff _).1, Option.isSome_iff_exists] at h
  obtain ⟨i, hi⟩ := h
  obtain ⟨rules, hbuilds, -⟩ :=
    (registry.matchedRule?_rulingBy_eq_some_iff source actor subject find i).mp hi
  exact ⟨rules, hbuilds⟩

/-- A check of a service fails closed, and so does a check of several actions at once: it allows
nothing unless the actor is known, the subject has a policy and all four reads succeed. -/
theorem Service.authorize_failsClosed (s : Service) (source : Source) (actor : Actor)
    (action : String) (subject : Subject) (elapsed : Latency) :
    FailsClosed s.registry source actor action subject
      (s.authorize source actor action subject elapsed).1.decision ∧
    ∀ actions, (s.canAny source actor actions subject elapsed).1.decision.isAllowed = true →
      ∃ rules, s.registry.Builds source actor subject rules := by
  refine ⟨s.registry.judge_failsClosed source actor action subject, ?_⟩
  intro actions hallowed
  exact s.registry.builds_of_isAllowed source actor subject _ hallowed

end AccessControl
