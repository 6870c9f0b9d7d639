/-!
# Unsigned decimal numerals

A numeral is an optional plus sign followed by one or more ASCII digits, leading zeros allowed, that
denotes a number below a given bound. A text that is no such numeral is refused with the cause that
appears first when it is read from the left.
-/

set_option autoImplicit false

namespace AccessControl.Text

/-- Why a text is not an unsigned numeral below the bound. -/
inductive NumeralError
  | empty
  | invalidDigit
  | tooLarge
  deriving DecidableEq

def NumeralError.message : NumeralError → String
  | .empty => "cannot parse integer from empty string"
  | .invalidDigit => "invalid digit found in string"
  | .tooLarge => "number too large to fit in target type"

def digitValue? (c : Char) : Option Nat :=
  if '0' ≤ c ∧ c ≤ '9' then some (c.toNat - '0'.toNat) else none

/-- Digits read from the left after a number `value` below `bound`; reading stops at the first
character that is no digit and at the first digit that makes the number reach the bound. -/
def readDigits (bound : Nat) (value : Nat) : List Char → Except NumeralError Nat
  | [] => .ok value
  | c :: cs =>
    match digitValue? c with
    | none => .error .invalidDigit
    | some digit =>
      if value * 10 + digit < bound then readDigits bound (value * 10 + digit) cs
      else .error .tooLarge

/-- The number below `bound` that a numeral denotes. A sign alone lacks its digits. -/
def readUnsigned (bound : Nat) : List Char → Except NumeralError Nat
  | [] => .error .empty
  | ['+'] => .error .invalidDigit
  | '+' :: digits => readDigits bound 0 digits
  | digits => readDigits bound 0 digits

end AccessControl.Text
