import Mathlib.Data.List.Induction
import Mathlib.Data.List.Perm.Subperm
import AccessControl.Proofs.SharedSnapshots
import AccessControl.Record

/-!
# Lookups are lazy and happen once

An attribute may be a walk up a parent chain away, so it matters which attributes are resolved, and
how often. A walk here is an evaluation from the left that stops as early as a snapshot does but
remembers nothing: it resolves an attribute each time that it comes to it. What a snapshot resolves
is what the walk resolves, in the same order, without the repetitions; so no parent chain is walked
twice, and none without need. Main statement: `asked_eq_walk`.
-/

set_option autoImplicit false

namespace AccessControl

/-! ## Walks -/

/-- What something evaluated without a memory comes to, and the attributes that are resolved on the
way, in order and with their repetitions. -/
structure Walk (α : Type) where
  outcome : α
  resolved : List Attribute

namespace Walk

variable {α β : Type}

/-- The walk that comes after some attributes have been resolved. -/
def after (before : List Attribute) (w : Walk α) : Walk α :=
  ⟨w.outcome, before ++ w.resolved⟩

def map (f : α → β) (w : Walk α) : Walk β :=
  ⟨f w.outcome, w.resolved⟩

end Walk

namespace Condition

variable (e : Entity)

mutual

/-- The walk of a condition: one attribute for a leaf, and the conditions of a list from the left up
to the first that does not hold. -/
def walk : Condition → Walk Bool
  | .equals attr value => ⟨e.attr attr == some value, [attr]⟩
  | .oneOf attr values => ⟨(e.attr attr).any values.contains, [attr]⟩
  | .all conditions => walkAll conditions

/-- The walk of conditions from the left, up to the first that does not hold. -/
def walkAll : List Condition → Walk Bool
  | [] => ⟨true, []⟩
  | c :: cs =>
    let first := walk c
    if first.outcome then (walkAll cs).after first.resolved else first

end

end Condition

namespace Rule

variable (e : Entity)

/-- The walk of a rule, which comes to its condition only where type and action fit. -/
def walk (action : String) (r : Rule) : Walk Bool :=
  if r.subject = e.type ∧ action ∈ r.actions then r.condition.elim ⟨true, []⟩ (·.walk e)
  else ⟨false, []⟩

/-- The walk of a list of rules up to the first that fits. -/
def walkFirst (action : String) : List Rule → Walk (Option Nat)
  | [] => ⟨none, []⟩
  | r :: rs =>
    let first := r.walk e action
    if first.outcome then first.map fun _ => some 0
    else ((walkFirst action rs).map (Option.map (· + 1))).after first.resolved

/-- The walk of a list of rules for one action after another, up to the first that any rule
allows. -/
def walkAny (rules : List Rule) : List String → Walk (Option Nat)
  | [] => ⟨none, []⟩
  | action :: actions =>
    let first := walkFirst e action rules
    if first.outcome.isSome then first else (walkAny rules actions).after first.resolved

end Rule

namespace Snapshot

/-- The walk of one call. -/
def Call.walk (e : Entity) : Call → Walk Reply
  | .get attr => ⟨.value (e.attr attr), [attr]⟩
  | .evaluate condition => (condition.walk e).map .outcome
  | .tryRule rule action => (rule.walk e action).map .outcome

/-- The snapshot after some calls. -/
def after (s : Snapshot) (calls : List Call) : Snapshot :=
  calls.foldl (fun s c => (s.call c).2) s

/-! ## What a snapshot recalls -/

/-- A snapshot is logged when it remembers the attributes that its entity was asked for, no others
and in the same order. -/
def Logged (s : Snapshot) : Prop :=
  s.resolved.map Prod.fst = s.asked

/-- A snapshot recalls the attributes that have been resolved of its entity: it knows their values,
and it asked for each of them when it first came up. -/
structure Recalls (s : Snapshot) (e : Entity) (before : List Attribute) : Prop where
  entity_eq : s.entity = e
  faithful : s.Faithful
  logged : s.Logged
  asked_eq : s.asked = before.eraseDups

/-- A snapshot that was just started recalls nothing. -/
theorem recalls_start (e : Entity) : (start e).Recalls e [] :=
  ⟨rfl, faithful_start e, rfl, rfl⟩

/-- A logged snapshot finds an attribute in its memory exactly if it asked for it before. -/
theorem lookup_eq_none_iff_of_logged (s : Snapshot) (h : s.Logged) (attr : Attribute) :
    s.resolved.lookup attr = none ↔ attr ∉ s.asked := by
  rw [List.lookup_eq_none_iff, ← h]
  constructor
  · intro hnone hmem
    obtain ⟨entry, hentry, rfl⟩ := List.mem_map.mp hmem
    simpa using hnone entry hentry
  · intro hfresh entry hentry
    rw [bne_iff_ne]
    rintro rfl
    exact hfresh (List.mem_map_of_mem hentry)

/-- Only an attribute that has not been asked for before is resolved. -/
theorem asked_get (s : Snapshot) (h : s.Logged) (attr : Attribute) :
    (s.get attr).2.asked = if attr ∈ s.asked then s.asked else s.asked ++ [attr] := by
  have hlookup := s.lookup_eq_none_iff_of_logged h attr
  rw [get]
  split
  next value hfound =>
    rw [hfound] at hlookup
    rw [if_pos (by simpa using hlookup)]
  next hnone => rw [if_neg (hlookup.mp hnone)]

/-- Asking keeps the log in step with the memory. -/
theorem logged_get (s : Snapshot) (h : s.Logged) (attr : Attribute) : (s.get attr).2.Logged := by
  rw [get]
  split
  · exact h
  · show (s.resolved ++ [(attr, s.entity.attr attr)]).map Prod.fst = s.asked ++ [attr]
    rw [List.map_append, List.map_singleton, h]

/-- An attribute that is asked for last is only new if it was not asked for before. -/
theorem eraseDups_snoc (before : List Attribute) (attr : Attribute) :
    (before ++ [attr]).eraseDups =
      if attr ∈ before then before.eraseDups else before.eraseDups ++ [attr] := by
  rw [List.eraseDups_append]
  split
  next hmem => simp [List.removeAll, hmem]
  next hfresh => simp [List.removeAll, List.eraseDups_cons, hfresh]

/-- Nothing is left twice. -/
theorem nodup_eraseDups (attrs : List Attribute) : attrs.eraseDups.Nodup := by
  -- An attribute is left where it first comes up, so the list is taken apart from its end.
  induction attrs using List.reverseRecOn with
  | nil => exact List.nodup_nil
  | append_singleton attrs attr ih =>
      rw [eraseDups_snoc]
      split
      · exact ih
      next hfresh =>
        rw [← List.mem_eraseDups] at hfresh
        exact (List.perm_append_singleton attr _).nodup_iff.mpr (List.nodup_cons.mpr ⟨hfresh, ih⟩)

/-- A way of using a snapshot keeps to a walk: whatever has been resolved before, the outcome is that
of the walk, and nothing is resolved but what the walk resolves. -/
def KeepsTo {α : Type} (e : Entity) (use : Snapshot → α × Snapshot) (w : Walk α) : Prop :=
  ∀ s before, s.Recalls e before →
    (use s).1 = w.outcome ∧ (use s).2.Recalls e (before ++ w.resolved)

section

variable (e : Entity)

/-- What keeps to a walk keeps to it also after other attributes have been resolved. -/
theorem keepsTo_after {α : Type} {use : Snapshot → α × Snapshot} {w : Walk α}
    (h : KeepsTo e use w) (s : Snapshot) (before first : List Attribute)
    (hs : s.Recalls e (before ++ first)) :
    (use s).1 = (w.after first).outcome ∧
      (use s).2.Recalls e (before ++ (w.after first).resolved) := by
  obtain ⟨houtcome, hrecalls⟩ := h s (before ++ first) hs
  rw [List.append_assoc] at hrecalls
  exact ⟨houtcome, hrecalls⟩

/-- Asking for an attribute resolves this one. -/
theorem get_keepsTo (attr : Attribute) : KeepsTo e (·.get attr) ⟨e.attr attr, [attr]⟩ := by
  rintro s before ⟨rfl, hfaithful, hlogged, hasked⟩
  refine ⟨s.get_fst attr hfaithful, s.entity_get attr, s.faithful_get attr hfaithful,
    s.logged_get hlogged attr, ?_⟩
  rw [s.asked_get hlogged, eraseDups_snoc, hasked]
  simp only [List.mem_eraseDups]

mutual

/-- The evaluation of a condition keeps to its walk. -/
theorem evaluate_keepsTo : (c : Condition) → KeepsTo e c.evaluate (c.walk e)
  | .equals attr value => by
    intro s before h
    obtain ⟨hfound, hrecalls⟩ := get_keepsTo e attr s before h
    refine ⟨?_, hrecalls⟩
    show ((s.get attr).1 == some value) = (e.attr attr == some value)
    rw [hfound]
  | .oneOf attr values => by
    intro s before h
    obtain ⟨hfound, hrecalls⟩ := get_keepsTo e attr s before h
    refine ⟨?_, hrecalls⟩
    show (s.get attr).1.any values.contains = (e.attr attr).any values.contains
    rw [hfound]
  | .all conditions => evaluateAll_keepsTo conditions

/-- Conditions that are evaluated one after another keep to their walks, up to the first that fails.
-/
theorem evaluateAll_keepsTo :
    (cs : List Condition) → KeepsTo e (Condition.evaluateAll cs) (Condition.walkAll e cs)
  | [] => by
    intro s before h
    refine ⟨rfl, ?_⟩
    simpa [Condition.evaluateAll, Condition.walkAll] using h
  | c :: cs => by
    intro s before h
    obtain ⟨hfirst, hrecalls⟩ := evaluate_keepsTo c s before h
    rw [Condition.evaluateAll, Condition.walkAll]
    -- If the condition holds, the others start from the snapshot that it leaves behind.
    split
    next t heq =>
      rw [heq] at hfirst hrecalls
      have hrest := keepsTo_after e (evaluateAll_keepsTo cs) t before _ hrecalls
      simpa only [← hfirst, if_true] using hrest
    next t heq =>
      rw [heq] at hfirst hrecalls
      simpa only [← hfirst, Bool.false_eq_true, if_false, true_and] using hrecalls

end

/-- Matching a rule keeps to its walk. -/
theorem matchesEntity_keepsTo (r : Rule) (action : String) :
    KeepsTo e (r.matchesEntity action) (r.walk e action) := by
  intro s before h
  have hfits : (r.subject = s.entity.type ∧ r.grants action = true) ↔
      (r.subject = e.type ∧ action ∈ r.actions) := by rw [h.entity_eq, r.grants_iff]
  rw [Rule.matchesEntity, Rule.walk]
  simp only [hfits]
  split
  · cases hcondition : r.condition with
    | none => simpa using h
    | some c => exact evaluate_keepsTo e c s before h
  · simpa using h

/-- A search keeps to the walk over the rules up to the first that fits. -/
theorem search_keepsTo (action : String) (rules : List Rule) :
    KeepsTo e (Rule.search action rules) (Rule.walkFirst e action rules) := by
  induction rules with
  | nil =>
      intro s before h
      exact ⟨rfl, by simpa [Rule.walkFirst, Rule.search] using h⟩
  | cons r rs ih =>
      intro s before h
      obtain ⟨hfirst, hrecalls⟩ := matchesEntity_keepsTo e r action s before h
      rw [Rule.search, Rule.walkFirst]
      split
      next t heq =>
        rw [heq] at hfirst hrecalls
        simpa only [← hfirst, if_true, Walk.map, true_and] using hrecalls
      next t heq =>
        rw [heq] at hfirst hrecalls
        obtain ⟨hfound, hrest⟩ := keepsTo_after e ih t before _ hrecalls
        simp only [← hfirst, Bool.false_eq_true, if_false, hfound]
        exact ⟨rfl, hrest⟩

/-- A search for several actions keeps to the walk over one action after another. -/
theorem searchAny_keepsTo (rules : List Rule) (actions : List String) :
    KeepsTo e (Rule.searchAny rules actions) (Rule.walkAny e rules actions) := by
  induction actions with
  | nil =>
      intro s before h
      exact ⟨rfl, by simpa [Rule.walkAny, Rule.searchAny] using h⟩
  | cons action actions ih =>
      intro s before h
      obtain ⟨hfirst, hrecalls⟩ := search_keepsTo e action rules s before h
      rw [Rule.searchAny, Rule.walkAny]
      split
      next i t heq =>
        rw [heq] at hfirst hrecalls
        simpa only [← hfirst, Option.isSome_some, if_true, true_and] using hrecalls
      next t heq =>
        rw [heq] at hfirst hrecalls
        have hrest := keepsTo_after e ih t before _ hrecalls
        simpa only [← hfirst, Option.isSome_none, Bool.false_eq_true, if_false] using hrest

/-- Every call keeps to its walk. -/
theorem call_keepsTo (c : Call) : KeepsTo e (·.call c) (c.walk e) := by
  intro s before h
  cases c with
  | get attr =>
      obtain ⟨hfound, hrecalls⟩ := get_keepsTo e attr s before h
      exact ⟨congrArg Reply.value hfound, hrecalls⟩
  | evaluate condition =>
      obtain ⟨houtcome, hrecalls⟩ := evaluate_keepsTo e condition s before h
      exact ⟨congrArg Reply.outcome houtcome, hrecalls⟩
  | tryRule rule action =>
      obtain ⟨houtcome, hrecalls⟩ := matchesEntity_keepsTo e rule action s before h
      exact ⟨congrArg Reply.outcome houtcome, hrecalls⟩

/-- After some calls, a snapshot recalls what their walks have resolved, behind what it recalled
before. -/
theorem recalls_after (calls : List Call) (s : Snapshot) (before : List Attribute)
    (h : s.Recalls e before) :
    (s.after calls).Recalls e (before ++ calls.flatMap fun c => (c.walk e).resolved) := by
  induction calls generalizing s before with
  | nil => simpa [after] using h
  | cons c calls ih =>
      have hstep := (call_keepsTo e c s before h).2
      have hrest := ih (s.call c).2 _ hstep
      rw [List.append_assoc] at hrest
      exact hrest

/-- A snapshot asks for what the walks of its calls resolve, once each, in the order of first use.
-/
theorem asked_after (calls : List Call) :
    ((start e).after calls).asked = (calls.flatMap fun c => (c.walk e).resolved).eraseDups :=
  (recalls_after e calls (start e) [] (recalls_start e)).asked_eq

/-- As many attributes are remembered as the entity was asked for. -/
theorem resolvedCount_after (calls : List Call) :
    ((start e).after calls).resolvedCount = ((start e).after calls).asked.length := by
  have hlogged := (recalls_after e calls (start e) [] (recalls_start e)).logged
  rw [resolvedCount, ← hlogged, List.length_map]

/-- What has been resolved stays so, and further calls only add to it. -/
theorem asked_after_append (calls more : List Call) :
    ((start e).after calls).asked <+: ((start e).after (calls ++ more)).asked := by
  rw [asked_after, asked_after, List.flatMap_append, List.eraseDups_append]
  exact List.prefix_append _ _

/-- There are five attributes to resolve. -/
theorem length_asked_after_le (calls : List Call) : ((start e).after calls).asked.length ≤ 5 := by
  rw [asked_after]
  have hnodup := nodup_eraseDups (calls.flatMap fun c => (c.walk e).resolved)
  exact (hnodup.subperm fun attr _ => attr.mem_all).length_le

/-- Calls with the same walk ask for the same attributes. -/
theorem asked_after_snoc_congr (calls : List Call) (c d : Call)
    (h : c.walk e = d.walk e) :
    ((start e).after (calls ++ [c])).asked = ((start e).after (calls ++ [d])).asked := by
  rw [asked_after, asked_after, List.flatMap_append, List.flatMap_append, List.flatMap_singleton,
    List.flatMap_singleton, h]

/-- A call whose walk resolves nothing asks for nothing. -/
theorem asked_after_snoc_of_nil (calls : List Call) (c : Call) (h : (c.walk e).resolved = []) :
    ((start e).after (calls ++ [c])).asked = ((start e).after calls).asked := by
  rw [asked_after, asked_after, List.flatMap_append, List.flatMap_singleton, h, List.append_nil]

/-- Finding a rule comes to what the walk over the rules comes to. -/
theorem firstMatch_eq_walk (rules : List Rule) (action : String) :
    Rule.firstMatch rules action (.entity e) =
      ⟨(Rule.walkFirst e action rules).outcome,
        (Rule.walkFirst e action rules).resolved.eraseDups⟩ := by
  obtain ⟨hfound, hrecalls⟩ := search_keepsTo e action rules (start e) [] (recalls_start e)
  exact congrArg₂ Finding.mk hfound hrecalls.asked_eq

/-- Finding a rule for several actions comes to what the walk over them comes to. -/
theorem firstMatchAny_eq_walk (rules : List Rule) (actions : List String) :
    Rule.firstMatchAny rules actions (.entity e) =
      ⟨(Rule.walkAny e rules actions).outcome,
        (Rule.walkAny e rules actions).resolved.eraseDups⟩ := by
  obtain ⟨hfound, hrecalls⟩ := searchAny_keepsTo e rules actions (start e) [] (recalls_start e)
  exact congrArg₂ Finding.mk hfound hrecalls.asked_eq

end

/-! ## Where walks stop -/

section

variable (e : Entity)

/-- The walk over a condition says whether it holds. -/
theorem outcome_walk_iff (c : Condition) : (c.walk e).outcome = true ↔ c.Holds e := by
  have hwalk := (evaluate_keepsTo e c (start e) [] (recalls_start e)).1
  rw [← hwalk]
  exact (c.evaluate_sound (start e) (faithful_start e)).1

/-- The walk over a rule says whether it fits. -/
theorem outcome_walk_rule_iff (r : Rule) (action : String) :
    (r.walk e action).outcome = true ↔ r.Fits action e := by
  have hwalk := (matchesEntity_keepsTo e r action (start e) [] (recalls_start e)).1
  rw [← hwalk, ← Rule.applies_iff_fits]
  exact (r.matchesEntity_sound action (start e) (faithful_start e)).1

/-- The walk over some rules finds one exactly if one fits. -/
theorem isSome_outcome_walkFirst (action : String) (rules : List Rule) :
    (Rule.walkFirst e action rules).outcome.isSome = true ↔ ∃ r ∈ rules, r.Fits action e := by
  simp only [← outcome_walk_rule_iff]
  induction rules with
  | nil => simp [Rule.walkFirst]
  | cons r rs ih =>
      rw [List.exists_mem_cons_iff, ← ih, Rule.walkFirst]
      cases h : (r.walk e action).outcome <;> simp [Walk.map, Walk.after]

/-- The conditions after one that does not hold are not come to. -/
theorem walkAll_append_of_not_holds (cs ds : List Condition) (c : Condition) (h : ¬ c.Holds e) :
    Condition.walkAll e (cs ++ c :: ds) = Condition.walkAll e (cs ++ [c]) := by
  rw [← outcome_walk_iff, Bool.not_eq_true] at h
  induction cs with
  | nil => simp only [List.nil_append, Condition.walkAll, h, Bool.false_eq_true, if_false]
  | cons b cs ih =>
      rw [List.cons_append, List.cons_append, Condition.walkAll, Condition.walkAll, ih]

/-- The rules after one that fits are not come to. -/
theorem walkFirst_append_of_fits (action : String) (rs qs : List Rule) (r : Rule)
    (h : r.Fits action e) :
    Rule.walkFirst e action (rs ++ r :: qs) = Rule.walkFirst e action (rs ++ [r]) := by
  rw [← outcome_walk_rule_iff] at h
  induction rs with
  | nil => simp only [List.nil_append, Rule.walkFirst, h, if_true]
  | cons q rs ih => rw [List.cons_append, List.cons_append, Rule.walkFirst, Rule.walkFirst, ih]

/-- The actions after one that a rule allows are not come to. -/
theorem walkAny_append_of_fits (rules : List Rule) (earlier later : List String) (action : String)
    (h : ∃ r ∈ rules, r.Fits action e) :
    Rule.walkAny e rules (earlier ++ action :: later) =
      Rule.walkAny e rules (earlier ++ [action]) := by
  rw [← isSome_outcome_walkFirst] at h
  induction earlier with
  | nil => simp only [List.nil_append, Rule.walkAny, h, if_true]
  | cons a earlier ih => rw [List.cons_append, List.cons_append, Rule.walkAny, Rule.walkAny, ih]

/-- A rule of another type, for other actions, or without a condition resolves nothing. -/
theorem resolved_walk_rule_eq_nil (r : Rule) (action : String)
    (h : r.subject ≠ e.type ∨ action ∉ r.actions ∨ r.condition = none) :
    (r.walk e action).resolved = [] := by
  unfold Rule.walk
  split
  next hfits =>
    rcases h with htype | haction | hnone
    · exact absurd hfits.1 htype
    · exact absurd hfits.2 haction
    · rw [hnone, Option.elim_none]
  next => rfl

end

/-- Searches and calls ask an entity for the attributes that their walks resolve, and for each of
them but once. -/
structure AsksLikeWalk (e : Entity) : Prop where
  firstMatch : ∀ (rules : List Rule) (action : String),
    Rule.firstMatch rules action (.entity e) =
      ⟨(Rule.walkFirst e action rules).outcome,
        (Rule.walkFirst e action rules).resolved.eraseDups⟩
  firstMatchAny : ∀ (rules : List Rule) (actions : List String),
    Rule.firstMatchAny rules actions (.entity e) =
      ⟨(Rule.walkAny e rules actions).outcome,
        (Rule.walkAny e rules actions).resolved.eraseDups⟩
  calls : ∀ calls : List Call, ((start e).after calls).asked =
    (calls.flatMap fun c => (c.walk e).resolved).eraseDups
  once : ∀ calls : List Call, ((start e).after calls).asked.Nodup
  resolvedCount : ∀ calls : List Call,
    ((start e).after calls).resolvedCount = ((start e).after calls).asked.length
  /-- There are five attributes. -/
  resolvedCount_le : ∀ calls : List Call, ((start e).after calls).resolvedCount ≤ 5
  grows : ∀ calls more : List Call,
    ((start e).after calls).asked <+: ((start e).after (calls ++ more)).asked
  resolvedCount_mono : ∀ calls more : List Call,
    ((start e).after calls).resolvedCount ≤ ((start e).after (calls ++ more)).resolvedCount
  /-- Nothing is asked for a rule that is of another type, for other actions or without a
  condition. -/
  skippedRule : ∀ (calls : List Call) (r : Rule) (action : String),
    r.subject ≠ e.type ∨ action ∉ r.actions ∨ r.condition = none →
    ((start e).after (calls ++ [.tryRule r action])).asked = ((start e).after calls).asked
  /-- Nothing is asked for the conditions after one that does not hold. -/
  laterConditions : ∀ (calls : List Call) (cs ds : List Condition) (c : Condition), ¬ c.Holds e →
    ((start e).after (calls ++ [.evaluate (.all (cs ++ c :: ds))])).asked =
      ((start e).after (calls ++ [.evaluate (.all (cs ++ [c]))])).asked
  /-- Nothing is asked for the rules after one that fits. -/
  laterRules : ∀ (rs qs : List Rule) (r : Rule) (action : String), r.Fits action e →
    Rule.firstMatch (rs ++ r :: qs) action (.entity e) =
      Rule.firstMatch (rs ++ [r]) action (.entity e)
  /-- Nothing is asked for the actions after one that is allowed. -/
  laterActions : ∀ (rules : List Rule) (earlier later : List String) (action : String),
    (∃ r ∈ rules, r.Fits action e) →
    Rule.firstMatchAny rules (earlier ++ action :: later) (.entity e) =
      Rule.firstMatchAny rules (earlier ++ [action]) (.entity e)

/-- A search asks an entity for the attributes that its walk resolves, in their order and each but
once, and so does any sequence of calls on one snapshot; and nothing is asked without need. -/
theorem asked_eq_walk (e : Entity) : AsksLikeWalk e := by
  constructor
  case firstMatch => exact firstMatch_eq_walk e
  case firstMatchAny => exact firstMatchAny_eq_walk e
  case calls => exact asked_after e
  case once =>
    intro calls
    rw [asked_after]
    exact nodup_eraseDups _
  case resolvedCount => exact resolvedCount_after e
  case resolvedCount_le =>
    intro calls
    rw [resolvedCount_after]
    exact length_asked_after_le e calls
  case grows => exact asked_after_append e
  case resolvedCount_mono =>
    intro calls more
    rw [resolvedCount_after, resolvedCount_after]
    exact (asked_after_append e calls more).length_le
  case skippedRule =>
    intro calls r action h
    exact asked_after_snoc_of_nil e calls _ (resolved_walk_rule_eq_nil e r action h)
  case laterConditions =>
    intro calls cs ds c h
    have hwalk := walkAll_append_of_not_holds e cs ds c h
    exact asked_after_snoc_congr e calls (.evaluate (.all (cs ++ c :: ds)))
      (.evaluate (.all (cs ++ [c]))) (congrArg (Walk.map Reply.outcome) hwalk)
  case laterRules =>
    intro rs qs r action h
    rw [firstMatch_eq_walk, firstMatch_eq_walk, walkFirst_append_of_fits e action rs qs r h]
  case laterActions =>
    intro rules earlier later action h
    rw [firstMatchAny_eq_walk, firstMatchAny_eq_walk,
      walkAny_append_of_fits e rules earlier later action h]

/-- A site of project 5, and three rules. Who made the site does not matter, since it is not of
project 8; the project is looked up once for two rules; and the framework does not matter, since the
second rule fits. -/
theorem asked_eq_walk_site :
    let site : Entity := (Record.site 1 none (some ⟨5, some 42, none⟩)).entity
    let rule (condition : Condition) : Rule := ⟨["read"], .site, some condition, false⟩
    let other := rule (.all [.equals .projectId (.number 8), .equals .createdBy (.number 7)])
    let own := rule (.all [.equals .projectId (.number 5), .equals .organisationId (.number 42)])
    let last := rule (.equals .frameworkKey (.text "ppc"))
    own.Fits "read" site ∧ Rule.firstMatch [other, own, last] "read" (.entity site) =
      ⟨some 1, [.projectId, .organisationId]⟩ := by
  intro site rule other own last
  have hfits : own.Fits "read" site := by
    refine ⟨rfl, List.mem_cons_self, ?_⟩
    rintro c ⟨⟩ leaf hleaf
    simp only [Condition.leaves, Condition.leavesAll, List.append_nil, List.singleton_append,
      List.mem_cons, List.not_mem_nil, or_false] at hleaf
    rcases hleaf with rfl | rfl <;> rfl
  have hasks := asked_eq_walk site
  refine ⟨hfits, (hasks.laterRules [other] [last] own "read" hfits).trans ?_⟩
  rw [hasks.firstMatch]
  decide +kernel

end Snapshot

end AccessControl
