import AccessControl.Proofs.FailClosed

/-!
# Several actions at once

A check of several actions searches the rules for one action after the other, and all of these
searches share one snapshot of the entity. A snapshot that remembers only what is true does not
change what a search finds, and no search leaves anything else behind. So the first action for which
the rules allow anything decides, with the rule that a check of this action alone would name. Main
statement: `canAny_agrees_authorize`. The rule that is named need not be the first of those that
grant some action of the list.
-/

set_option autoImplicit false

namespace AccessControl

namespace Rule

/-! ## One snapshot for all actions -/

/-- Two faithful snapshots of one entity are searched alike, whatever each of them remembers. -/
theorem search_fst_eq_of_faithful (action : String) (rules : List Rule) (s t : Snapshot)
    (hs : s.Faithful) (ht : t.Faithful) (hentity : s.entity = t.entity) :
    (search action rules s).1 = (search action rules t).1 := by
  apply Option.ext
  intro i
  have hfound := (search_sound action rules s hs).1 i
  have hother := (search_sound action rules t ht).1 i
  rw [hentity] at hfound
  exact hfound.trans hother.symm

/-- Searching for the actions on one faithful snapshot comes to the same as searching for each of
them on a snapshot of its own. -/
theorem searchAny_fst_eq_findSome? (rules : List Rule) (actions : List String) (s : Snapshot)
    (h : s.Faithful) :
    (searchAny rules actions s).1 =
      actions.findSome? fun action => (search action rules (.start s.entity)).1 := by
  induction actions generalizing s with
  | nil => rfl
  | cons action actions ih =>
      have hfresh := search_fst_eq_of_faithful action rules s (.start s.entity) h
        (Snapshot.faithful_start s.entity) rfl
      -- What the search for this action leaves behind is what the next one starts from.
      obtain ⟨-, hfaithful, hentity⟩ := search_sound action rules s h
      rw [searchAny, List.findSome?_cons, ← hfresh]
      split
      next i t heq => rw [heq]
      next t heq =>
        rw [heq] at hfaithful hentity ⊢
        simp only at hfaithful hentity ⊢
        rw [ih t hfaithful, hentity]

/-- The search for several actions is the search for the first of them that finds anything. -/
theorem index_firstMatchAny (rules : List Rule) (actions : List String) (s : Subject) :
    (firstMatchAny rules actions s).index =
      actions.findSome? fun action => (firstMatch rules action s).index := by
  cases s with
  | wholeType t => rfl
  | entity e => exact searchAny_fst_eq_findSome? rules actions (.start e) (Snapshot.faithful_start e)

/-- The rule that is found is the one for the first action for which there is any. -/
theorem index_firstMatchAny_eq_some_iff (rules : List Rule) (actions : List String) (s : Subject)
    (i : Nat) :
    (firstMatchAny rules actions s).index = some i ↔
      ∃ before action after, actions = before ++ action :: after ∧
        (∀ earlier ∈ before, (firstMatch rules earlier s).index = none) ∧
        (firstMatch rules action s).index = some i := by
  rw [index_firstMatchAny, List.findSome?_eq_some_iff]
  constructor
  · rintro ⟨before, action, after, hactions, hfound, hnone⟩
    exact ⟨before, action, after, hactions, hnone, hfound⟩
  · rintro ⟨before, action, after, hactions, hnone, hfound⟩
    exact ⟨before, action, after, hactions, hfound, hnone⟩

/-- The rule that is named is the first for the action that decides, not the first for any. -/
example :
    (firstMatchAny [⟨["read"], .task, none, false⟩, ⟨["update"], .task, none, false⟩]
      ["approve", "update", "read"] (.wholeType .task)).index = some 1 := by decide

/-- No rule is found exactly if none is for any of the actions. -/
theorem index_firstMatchAny_eq_none_iff (rules : List Rule) (actions : List String) (s : Subject) :
    (firstMatchAny rules actions s).index = none ↔
      ∀ action ∈ actions, (firstMatch rules action s).index = none := by
  rw [index_firstMatchAny, List.findSome?_eq_none_iff]

/-- Some rule is found exactly if one is for some action. -/
theorem isSome_index_firstMatchAny_iff (rules : List Rule) (actions : List String) (s : Subject) :
    (firstMatchAny rules actions s).index.isSome ↔
      ∃ action ∈ actions, (firstMatch rules action s).index.isSome := by
  rw [index_firstMatchAny, List.findSome?_isSome_iff]

end Rule

/-! ## Rulings -/

/-- A ruling allows exactly when the rules were built and the search found one of them. -/
theorem Registry.isAllowed_rulingBy_iff (registry : Registry) (source : Source) (actor : Actor)
    (subject : Subject) (find : List Rule → Finding) :
    (registry.rulingBy source actor subject find).decision.isAllowed = true ↔
      ∃ rules, registry.Builds source actor subject rules ∧ (find rules).index.isSome := by
  have hmatched := registry.matchedRule?_rulingBy_eq_some_iff source actor subject find
  rw [(Decision.isAllowed_iff _).1, Option.isSome_iff_exists]
  constructor
  · rintro ⟨i, hi⟩
    obtain ⟨rules, hbuilds, hfound⟩ := (hmatched i).mp hi
    exact ⟨rules, hbuilds, Option.isSome_of_eq_some hfound⟩
  · rintro ⟨rules, hbuilds, hsome⟩
    obtain ⟨i, hfound⟩ := Option.isSome_iff_exists.mp hsome
    exact ⟨i, (hmatched i).mpr ⟨rules, hbuilds, hfound⟩⟩

/-- Some action of several is allowed exactly if one of them is allowed alone. -/
theorem Registry.isAllowed_judgeAny_iff (registry : Registry) (source : Source) (actor : Actor)
    (actions : List String) (subject : Subject) :
    (registry.judgeAny source actor actions subject).decision.isAllowed = true ↔
      ∃ action ∈ actions,
        (registry.judge source actor action subject).decision.isAllowed = true := by
  unfold judgeAny judge
  simp only [isAllowed_rulingBy_iff, Rule.isSome_index_firstMatchAny_iff]
  constructor
  · rintro ⟨rules, hbuilds, action, hmem, hfound⟩
    exact ⟨action, hmem, rules, hbuilds, hfound⟩
  · rintro ⟨action, hmem, rules, hbuilds, hfound⟩
    exact ⟨rules, hbuilds, action, hmem, hfound⟩

/-- The result of a decision is a success exactly if it allows. -/
theorem Decision.result_eq_ok_iff (d : Decision) : d.result = .ok () ↔ d.isAllowed = true := by
  cases d <;> simp [result, isAllowed]

/-- The search for several actions is the one for the earliest of them that any rule allows, and
finds nothing if there is none; and a check of several actions allows exactly when a check of one of
them would be passed. -/
theorem Service.canAny_agrees_authorize :
    (∀ (rules : List Rule) (actions : List String) (subject : Subject) (i : Nat),
      (Rule.firstMatchAny rules actions subject).index = some i ↔
        ∃ before action after, actions = before ++ action :: after ∧
          (∀ earlier ∈ before, (Rule.firstMatch rules earlier subject).index = none) ∧
          (Rule.firstMatch rules action subject).index = some i) ∧
    (∀ (rules : List Rule) (actions : List String) (subject : Subject),
      (Rule.firstMatchAny rules actions subject).index = none ↔
        ∀ action ∈ actions, (Rule.firstMatch rules action subject).index = none) ∧
    ∀ (s : Service) (source : Source) (actor : Actor) (actions : List String) (subject : Subject)
      (elapsed other : Latency),
      (s.canAny source actor actions subject elapsed).1.decision.isAllowed = true ↔
        ∃ action ∈ actions,
          (s.authorize source actor action subject other).1.decision.result = .ok () := by
  refine ⟨?_, ?_, ?_⟩
  · intro rules actions subject i
    exact Rule.index_firstMatchAny_eq_some_iff rules actions subject i
  · intro rules actions subject
    exact Rule.index_firstMatchAny_eq_none_iff rules actions subject
  · intro s source actor actions subject elapsed other
    simp only [Decision.result_eq_ok_iff]
    exact s.registry.isAllowed_judgeAny_iff source actor actions subject

end AccessControl
