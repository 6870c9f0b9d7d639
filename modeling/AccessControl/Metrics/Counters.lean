import AccessControl.Decision

/-!
# Counters

How many checks were made and what they came to. Each counter is an unsigned 64-bit number, and a
sum of counters that is too large for such a number is an overflow, not another number.
-/

set_option autoImplicit false

namespace AccessControl

/-- The numbers of checks made, by outcome. -/
structure Counters where
  total : UInt64
  allowed : UInt64
  denied : UInt64
  unauthenticated : UInt64
  missingPolicy : UInt64
  noMatchingRule : UInt64
  contextFailures : UInt64
  deriving DecidableEq

namespace Counters

def zero : Counters := ⟨0, 0, 0, 0, 0, 0, 0⟩

/-- The counters after one more check, which was denied for a reason or else allowed. A counter that
is full starts again from zero, but no run gets so far. -/
def count (c : Counters) : Option Denial → Counters
  | none => { c with total := c.total + 1, allowed := c.allowed + 1 }
  | some reason =>
    let c := { c with total := c.total + 1, denied := c.denied + 1 }
    match reason with
    | .unauthenticated => { c with unauthenticated := c.unauthenticated + 1 }
    | .noPolicyRegistered _ => { c with missingPolicy := c.missingPolicy + 1 }
    | .noMatchingRule => { c with noMatchingRule := c.noMatchingRule + 1 }
    | .contextUnavailable => { c with contextFailures := c.contextFailures + 1 }

/-- Every check is counted once, however it came out. -/
theorem total_count (c : Counters) (denial : Option Denial) :
    (c.count denial).total = c.total + 1 := by
  cases denial with
  | none => rfl
  | some reason => cases reason <;> rfl

def deniedFor (c : Counters) : Denial → UInt64
  | .unauthenticated => c.unauthenticated
  | .noPolicyRegistered _ => c.missingPolicy
  | .noMatchingRule => c.noMatchingRule
  | .contextUnavailable => c.contextFailures

def entries (c : Counters) : List (String × UInt64) :=
  [("total_requests", c.total),
    ("allowed_decisions", c.allowed),
    ("denied_decisions", c.denied),
    ("unauthenticated", c.unauthenticated),
    ("missing_policy", c.missingPolicy),
    ("no_matching_rule", c.noMatchingRule),
    ("context_failures", c.contextFailures)]

/-- The names of the counters that differ, in alphabetical order. -/
def changes (before after : Counters) : List String :=
  let changed := (before.entries.zip after.entries).filterMap fun (old, new) =>
    if old.2 = new.2 then none else some new.1
  (Std.ExtTreeSet.ofList changed compare).toList

/-- The number of checks that were decided, as the sum of the two outcomes. There is none when the
sum overflows. -/
def decided? (c : Counters) : Option UInt64 :=
  if c.allowed.toNat + c.denied.toNat < UInt64.size then some (c.allowed + c.denied) else none

/-- The share of checks that were allowed, and zero before any check. The sum is needed even to find
out that there was no check, so nothing comes of it when the sum overflows. -/
def allowRate? (c : Counters) : Option Float :=
  c.decided?.map fun decided =>
    if decided = 0 then 0 else c.allowed.toFloat / decided.toFloat

end Counters

end AccessControl
