import AccessControl.Proofs.RegistryHistory

/-!
# What can be seen of a registry

A registry can be asked for the policy of a subject, whether it has one for a type, for the list of
types that have one, and for their number. Whatever was put in force and taken away before, all of
these are views of one map: which policy each type has is decided by the last step about it, and a
step about one type is seen in the views of that type alone. Main statement: `views_after_exact`.
-/

set_option autoImplicit false

namespace AccessControl

namespace Registry

/-- A step in the life of a registry. -/
inductive Step
  /-- A policy is put in force, and the one whose place it takes is handed back. -/
  | replace (type : EntityType) (policy : Policy)
  /-- A policy is put in force, and nothing is handed back. -/
  | register (type : EntityType) (policy : Policy)
  /-- The policy of a type is taken away and handed back. -/
  | withdraw (type : EntityType)

def Step.change : Step → Change
  | .replace t p => .register t p
  | .register t p => .register t p
  | .withdraw t => .unregister t

def perform (r : Registry) : Step → Registry
  | .replace t p => (r.replace t p).2
  | .register t p => r.register t p
  | .withdraw t => (r.withdraw t).2

/-- The registry after some steps. -/
def run (r : Registry) (steps : List Step) : Registry :=
  steps.foldl perform r

/-- A step does to a registry what its change does. -/
theorem perform_eq_change (r : Registry) (step : Step) : r.perform step = r.change step.change := by
  cases step <;> rfl

/-- Running some steps comes to their changes in order. -/
theorem run_eq_after (r : Registry) (steps : List Step) :
    r.run steps = r.after (steps.map Step.change) := by
  induction steps generalizing r with
  | nil => rfl
  | cons step steps ih =>
      calc r.run (step :: steps)
        _ = (r.perform step).after (steps.map Step.change) := ih (r.perform step)
        _ = r.after ((step :: steps).map Step.change) := by rw [perform_eq_change]; rfl

/-- A step leaves the policies of other types as they are. -/
theorem policy?_perform_of_ne (r : Registry) (step : Step) (t : EntityType)
    (h : t ≠ step.change.type) : (r.perform step).policy? t = r.policy? t := by
  rw [perform_eq_change, policy?_change, if_neg h.symm]

/-! ## Lists of types -/

/-- Two ascending lists with the same types are one list. -/
theorem eq_of_pairwise_position {ts us : List EntityType}
    (hts : ts.Pairwise fun t u => t.position < u.position)
    (hus : us.Pairwise fun t u => t.position < u.position) (h : ∀ t, t ∈ ts ↔ t ∈ us) :
    ts = us := by
  have hnodup (xs : List EntityType) (hxs : xs.Pairwise fun t u => t.position < u.position) :
      xs.Nodup := by
    apply hxs.imp
    rintro t _ hlt rfl
    exact Nat.lt_irrefl _ hlt
  have hperm := (List.perm_ext_iff_of_nodup (hnodup ts hts) (hnodup us hus)).mpr h
  exact hperm.eq_of_pairwise (fun t u _ _ htu hut => absurd hut (Nat.lt_asymm htu)) hts hus

/-- A step about one type leaves the list of the other types as it was. -/
theorem filter_types_perform (r : Registry) (step : Step) :
    (r.perform step).types.filter (· ≠ step.change.type) =
      r.types.filter (· ≠ step.change.type) := by
  apply eq_of_pairwise_position ((r.perform step).pairwise_types.filter _)
    (r.pairwise_types.filter _)
  intro t
  simp only [List.mem_filter, decide_eq_true_eq, mem_types_iff]
  refine and_congr_left fun h => ?_
  rw [r.policy?_perform_of_ne step t h]

/-- The entity types as they are declared, of which those with a policy are listed. -/
theorem types_eq_filter (r : Registry) :
    r.types = [.project, .site, .nursery, .projectReport, .siteReport, .nurseryReport,
      .organisation, .application, .formSubmission, .projectPitch, .fundingProgramme, .disturbance,
      .trackingEntry, .projectPolygon, .task, .media, .user].filter r.contains := by
  apply eq_of_pairwise_position r.pairwise_types
  · apply List.Pairwise.filter
    decide
  · intro t
    have hlisted : t ∈ EntityType.all := t.mem_all
    rw [mem_types_iff, ← contains_eq, List.mem_filter]
    exact ⟨fun h => ⟨hlisted, h⟩, And.right⟩

/-- What can be seen of a registry that had, before some changes, the policies of a base, and how it
takes one more step. -/
structure ViewsAgree (base : Registry) (changes : List Change) (r : Registry) : Prop where
  /-- A subject, an entity as well as the type as a whole, is under the policy that the last change
  about its type put in force, or under that of the base if there was none. -/
  resolve : ∀ s : Subject, r.resolve? s = base.remains changes s.type
  replace : ∀ (s : Subject) (p : Policy), (r.replace s.type p).1 = r.resolve? s
  withdraw : ∀ s : Subject, (r.withdraw s.type).1 = r.resolve? s
  contains : ∀ s : Subject, r.contains s.type = (r.resolve? s).isSome
  /-- The types with a policy are listed in the order of their declaration. -/
  types : r.types = [.project, .site, .nursery, .projectReport, .siteReport, .nurseryReport,
    .organisation, .application, .formSubmission, .projectPitch, .fundingProgramme, .disturbance,
    .trackingEntry, .projectPolygon, .task, .media, .user].filter r.contains
  ascending : r.types.Pairwise fun t u => t.position < u.position
  mem_types : ∀ t, t ∈ r.types ↔ r.contains t = true
  size : r.size = r.types.length
  isEmpty : r.isEmpty = r.types.isEmpty
  /-- A step changes nothing for the types that it is not about. -/
  otherResolve : ∀ (step : Step) (s : Subject), s.type ≠ step.change.type →
    (r.perform step).resolve? s = r.resolve? s
  otherContains : ∀ (step : Step) (s : Subject), s.type ≠ step.change.type →
    (r.perform step).contains s.type = r.contains s.type
  otherTypes : ∀ step : Step, (r.perform step).types.filter (· ≠ step.change.type) =
    r.types.filter (· ≠ step.change.type)

/-- From whatever registry one starts, the standard and the empty one included, after any steps all
views of the registry agree on which policy each type has, and this is what the last step about the
type says. -/
theorem views_after_exact (base : Registry) (steps : List Step) :
    ViewsAgree base (steps.map Step.change) (base.run steps) := by
  generalize hrun : base.run steps = r
  constructor
  case resolve =>
    intro s
    show r.policy? s.type = _
    rw [← hrun, run_eq_after, policy?_after]
  case replace => exact fun s p => rfl
  case withdraw => exact fun s => rfl
  case contains => exact fun s => r.contains_eq s.type
  case types => exact r.types_eq_filter
  case ascending => exact r.pairwise_types
  case mem_types =>
    intro t
    rw [mem_types_iff, contains_eq]
  case size => exact r.length_types.symm
  case isEmpty => exact r.isEmpty_types.symm
  case otherResolve => exact fun step s hs => r.policy?_perform_of_ne step s.type hs
  case otherContains =>
    intro step s hs
    rw [contains_eq, contains_eq, r.policy?_perform_of_ne step s.type hs]
  case otherTypes => exact r.filter_types_perform

end Registry

end AccessControl
