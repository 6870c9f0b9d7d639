import AccessControl.Deployment

/-!
# Users do not interfere

Everything that a service tells a user is drawn from the policies in force and from the account of
that user as it is now. So two deployments that agree on these two things are the same to the user,
and a run keeps them in agreement as long as both carry out the changes of this one account: no
request leaves anything behind that a later answer depends on, and neither does a change for someone
else. Main statement: `answer_eq_of_purged`, which also compares services with and without metrics.
-/

set_option autoImplicit false

namespace AccessControl

/-! ## Whose account a check reads -/

/-- Two sources answer alike about a user, whatever they say of others. -/
structure Source.AlikeFor (user : Identifier) (source other : Source) : Prop where
  tokens : source.tokens user = other.tokens user
  organisations : source.organisations user = other.organisations user
  projects : ∀ query, source.projects user query = other.projects user query

/-- Sources that are alike for a user yield the same authority. -/
theorem Source.authority_eq_of_alikeFor (user : Identifier) (source other : Source)
    (h : AlikeFor user source other) : source.authority user = other.authority user := by
  unfold authority
  rw [h.tokens, h.organisations, h.projects, h.projects]

/-- The rules of a check depend on no account but the actor's. -/
theorem Registry.rulesFor_eq_of_alikeFor (registry : Registry) (source other : Source)
    (user : Identifier) (subject : Subject) (h : Source.AlikeFor user source other) :
    registry.rulesFor source (.authenticated user) subject =
      registry.rulesFor other (.authenticated user) subject := by
  unfold rulesFor
  simp only [Actor.authenticated]
  rw [Source.authority_eq_of_alikeFor user source other h]

/-- With sources that are alike for a user, rulings about the user are the same. -/
theorem Registry.rulingBy_eq_of_alikeFor (registry : Registry) (source other : Source)
    (user : Identifier) (subject : Subject) (find : List Rule → Finding)
    (h : Source.AlikeFor user source other) :
    registry.rulingBy source (.authenticated user) subject find =
      registry.rulingBy other (.authenticated user) subject find := by
  have hrules := registry.rulesFor_eq_of_alikeFor source other user subject h
  unfold rulingBy
  rw [hrules]

/-- Directories with the same account of a user answer alike about this user. -/
theorem Directory.alikeFor_of_account_eq (d e : Directory) (user : Identifier)
    (h : d.account user = e.account user) : Source.AlikeFor user d.source e.source := by
  constructor
  case tokens =>
    show Except.ok (d.account user).tokens = Except.ok (e.account user).tokens
    rw [h]
  case organisations =>
    show Except.ok (d.account user).organisations = Except.ok (e.account user).organisations
    rw [h]
  case projects =>
    intro query
    show Except.ok ((d.account user).projects query) = Except.ok ((e.account user).projects query)
    rw [h]

/-! ## What a user can tell apart -/

/-- Two deployments look alike to a user: the account of the user and the policies in force are the
same in both. -/
structure Deployment.Alike (user : Identifier) (d e : Deployment) : Prop where
  account : d.directory.account user = e.directory.account user
  registry : d.service.registry = e.service.registry

/-- The event is a change of the user's account. -/
def Event.Changes (user : Identifier) : Event → Bool
  | .change other _ => other = user
  | .request _ _ => false

namespace Deployment

variable (user : Identifier) (d e : Deployment)

/-- A user does not notice what happens to anyone else, nor any request. -/
theorem alike_step_left (event : Event) (hother : event.Changes user = false)
    (h : Alike user d e) : Alike user (d.step event) e := by
  obtain ⟨haccount, hregistry⟩ := h
  cases event with
  | change owner c =>
      have howner : owner ≠ user := by simpa [Event.Changes] using hother
      constructor
      · have hkept := d.directory.account_change owner user c
        rw [if_neg howner] at hkept
        exact hkept.trans haccount
      · exact hregistry
  | request request elapsed =>
      constructor
      · exact haccount
      · have hkept := d.service.registry_serve d.directory.source elapsed request
        exact hkept.trans hregistry

/-- A change of the user's account has the same effect in deployments that look alike to the
user. -/
theorem alike_step (event : Event) (hchanges : event.Changes user = true)
    (h : Alike user d e) : Alike user (d.step event) (e.step event) := by
  obtain ⟨haccount, hregistry⟩ := h
  cases event with
  | change owner c =>
      have howner : owner = user := by simpa [Event.Changes] using hchanges
      subst howner
      constructor
      · have hleft := d.directory.account_change owner owner c
        have hright := e.directory.account_change owner owner c
        rw [if_pos rfl] at hleft hright
        simp only [step]
        rw [hleft, hright, haccount]
      · exact hregistry
  | request request elapsed => simp [Event.Changes] at hchanges

/-- After a run a deployment looks to a user as if nothing had happened but the changes of the user's
account. -/
theorem alike_after_filter (run : List Event) (h : Alike user d e) :
    Alike user (d.after run) (e.after (run.filter (·.Changes user))) := by
  induction run generalizing d e with
  | nil => exact h
  | cons event run ih =>
      -- Both deployments take the step, or only the first one does and the user does not notice.
      cases hevent : event.Changes user with
      | true =>
          rw [List.filter_cons_of_pos hevent]
          exact ih _ _ (alike_step user d e event hevent h)
      | false =>
          rw [List.filter_cons_of_neg (by simp [hevent])]
          exact ih _ _ (alike_step_left user d e event hevent h)

/-- Deployments that look alike to a user answer the user's questions alike, however long that takes
them. -/
theorem answer_eq_of_alike (question : Question) (elapsed other : Latency) (h : Alike user d e) :
    d.answer (.ask (.authenticated user) question) elapsed =
      e.answer (.ask (.authenticated user) question) other := by
  obtain ⟨haccount, hregistry⟩ := h
  have halike := Directory.alikeFor_of_account_eq d.directory e.directory user haccount
  cases question with
  | authorize action subject =>
      have hruling := e.service.registry.rulingBy_eq_of_alikeFor d.directory.source
        e.directory.source user subject (fun rules => Rule.firstMatch rules action subject) halike
      simp only [answer, serve, Service.serve, Service.authorize, Registry.judge]
      rw [hregistry, hruling]
  | canAny actions subject =>
      have hruling := e.service.registry.rulingBy_eq_of_alikeFor d.directory.source
        e.directory.source user subject (fun rules => Rule.firstMatchAny rules actions subject) halike
      simp only [answer, serve, Service.serve, Service.canAny, Registry.judgeAny]
      rw [hregistry, hruling]
  | permissions =>
      simp only [answer, serve, Service.serve, Service.permissions, Actor.authenticated]
      rw [halike.tokens]

/-- Users do not interfere, and a service has no memory: whatever is asked about a user, the answer
after a run is the answer after the changes of this user's account alone, and it is the same whether
metrics are kept or not. -/
theorem answer_eq_of_purged (directory : Directory) (registry : Registry)
    (settings others : Settings) (run : List Event) (question : Question)
    (elapsed other : Latency) :
    ((start directory settings registry).after run).answer
        (.ask (.authenticated user) question) elapsed =
      ((start directory others registry).after (run.filter (·.Changes user))).answer
        (.ask (.authenticated user) question) other := by
  have hstart : Alike user (start directory settings registry) (start directory others registry) :=
    ⟨rfl, rfl⟩
  have hafter := alike_after_filter user _ _ run hstart
  exact answer_eq_of_alike user _ _ question elapsed other hafter

end Deployment

end AccessControl
