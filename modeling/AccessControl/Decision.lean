import AccessControl.Registry
import AccessControl.Source

/-!
# Decisions

How one check is decided. The actor has to be known, the type of the subject has to have a policy,
and the tokens and memberships of the actor have to be readable; the rules that the policy then
builds are searched for a match. Each step that fails denies with its own reason, the first in this
order, and a check never allows anything on part of an authority.
-/

set_option autoImplicit false

namespace AccessControl

/-- Who asks, if the request tells. -/
structure Actor where
  user : Option Identifier
  deriving DecidableEq

def Actor.authenticated (user : Identifier) : Actor := ⟨some user⟩

def Actor.anonymous : Actor := ⟨none⟩

/-- Why a check is denied. -/
inductive Denial
  | unauthenticated
  | noPolicyRegistered (type : EntityType)
  | noMatchingRule
  | contextUnavailable
  deriving DecidableEq

namespace Denial

def name : Denial → String
  | .unauthenticated => "Unauthenticated"
  | .noPolicyRegistered _ => "NoPolicyRegistered"
  | .noMatchingRule => "NoMatchingRule"
  | .contextUnavailable => "ContextUnavailable"

/-- The label of a reason in metrics. -/
def label : Denial → String
  | .unauthenticated => "unauthenticated"
  | .noPolicyRegistered _ => "no_policy_registered"
  | .noMatchingRule => "no_matching_rule"
  | .contextUnavailable => "context_unavailable"

def message : Denial → String
  | .noPolicyRegistered t => "no policy registered for " ++ t.name
  | reason => reason.label

end Denial

/-- All that a denied caller learns. -/
structure AccessDenied where
  deriving DecidableEq

/-- The message of a denial, whatever its reason. -/
def AccessDenied.message : AccessDenied → String
  | ⟨⟩ => "access denied"

/-- The outcome of one check: the index of the rule that allowed it, or the reason for denying it,
and how many rules the policy had built. -/
inductive Decision
  | allowed (rule : Nat) (ruleCount : Nat)
  | denied (reason : Denial) (ruleCount : Nat)
  deriving DecidableEq

namespace Decision

def isAllowed : Decision → Bool
  | .allowed .. => true
  | .denied .. => false

/-- The index of the rule that allowed the check. -/
def matchedRule? : Decision → Option Nat
  | .allowed rule _ => some rule
  | .denied .. => none

def denial? : Decision → Option Denial
  | .allowed .. => none
  | .denied reason _ => some reason

def ruleCount : Decision → Nat
  | .allowed _ count => count
  | .denied _ count => count

/-- What the caller learns. -/
def result : Decision → Except AccessDenied Unit
  | .allowed .. => .ok ()
  | .denied .. => .error ⟨⟩

/-- Whether the check came as far as reading the actor's tokens and memberships. -/
def triedReads : Decision → Bool
  | .denied .unauthenticated _ => false
  | .denied (.noPolicyRegistered _) _ => false
  | _ => true

end Decision

/-- A decision, and the attributes of the subject that had to be resolved for it, in order. -/
structure Ruling where
  decision : Decision
  asked : List Attribute
  deriving DecidableEq

namespace Registry

/-- The rules to search for an actor and a subject, or the reason why there are none. -/
def rulesFor (registry : Registry) (source : Source) (actor : Actor) (subject : Subject) :
    Except Denial (List Rule) :=
  match actor.user with
  | none => .error .unauthenticated
  | some user =>
    match registry.resolve? subject with
    | none => .error (.noPolicyRegistered subject.type)
    | some policy =>
      match source.authority user with
      | .error _ => .error .contextUnavailable
      | .ok authority => .ok (policy.rules authority)

/-- The ruling that a way of searching the rules comes to. -/
def rulingBy (registry : Registry) (source : Source) (actor : Actor) (subject : Subject)
    (find : List Rule → Finding) : Ruling :=
  match registry.rulesFor source actor subject with
  | .error reason => ⟨.denied reason 0, []⟩
  | .ok rules =>
    let finding := find rules
    match finding.index with
    | some i => ⟨.allowed i rules.length, finding.asked⟩
    | none => ⟨.denied .noMatchingRule rules.length, finding.asked⟩

/-- The ruling on one action. -/
def judge (registry : Registry) (source : Source) (actor : Actor) (action : String)
    (subject : Subject) : Ruling :=
  registry.rulingBy source actor subject fun rules => Rule.firstMatch rules action subject

/-- The ruling on several actions, of which one has to be allowed. -/
def judgeAny (registry : Registry) (source : Source) (actor : Actor) (actions : List String)
    (subject : Subject) : Ruling :=
  registry.rulingBy source actor subject fun rules => Rule.firstMatchAny rules actions subject

end Registry

end AccessControl
