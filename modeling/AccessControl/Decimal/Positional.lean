import AccessControl.Decimal.Shortest

/-!
# Positional text of floating-point numbers

A double-precision number is written in full: the digits of its shortest decimal, with as many zeros
before or after them as their place needs. There is no exponent, an integral value has no decimal
point, and a value below one begins with a single zero.
-/

set_option autoImplicit false

namespace AccessControl.Decimal

/-- What the 64 bits of a double-precision number stand for. -/
inductive FloatClass
  | nan
  | infinite
  | zero
  | finite (value : BinaryFraction)

/-- The magnitude that the bits of a double-precision number stand for, its sign left aside. -/
def FloatClass.ofBits (bits : Nat) : FloatClass :=
  let biased : Nat := (bits >>> 52) % 2048
  let fraction : Nat := bits % (1 <<< 52)
  if biased = 2047 then if fraction = 0 then .infinite else .nan
  else if biased = 0 then if fraction = 0 then .zero else .finite ⟨fraction, -1074, false⟩
  else .finite ⟨(1 <<< 52) + fraction, (biased : Int) - 1075, fraction = 0 && biased ≠ 1⟩

/-- A decimal in positional notation. -/
def DecimalFraction.positional (d : DecimalFraction) : String :=
  let digits := Nat.toDigits 10 d.digits
  let places := (-d.exponent).toNat
  if d.exponent ≥ 0 then String.ofList (digits ++ List.replicate d.exponent.toNat '0')
  else if digits.length > places then
    let whole := digits.length - places
    String.ofList (digits.take whole ++ '.' :: digits.drop whole)
  else
    String.ofList ('0' :: '.' :: (List.replicate (places - digits.length) '0' ++ digits))

def floatText (x : Float) : String :=
  let bits := x.toBits.toNat
  let sign := if bits >>> 63 = 0 then "" else "-"
  match FloatClass.ofBits bits with
  | .nan => "NaN"
  | .infinite => sign ++ "inf"
  | .zero => sign ++ "0"
  | .finite value => sign ++ value.shortest.positional

/-- The characters with which numbers are written. -/
def isNumberChar (c : Char) : Bool :=
  c.isDigit || ".-NaNinf".toList.contains c

/-- The digits of a number are characters of numbers. -/
theorem all_toDigits (n : Nat) : (Nat.toDigits 10 n).all isNumberChar = true := by
  rw [List.all_eq_true]
  intro c hc
  have hdigit : c.isDigit = true := Nat.isDigit_of_mem_toDigits (by decide) (by decide) hc
  rw [isNumberChar, hdigit, Bool.true_or]

/-- A decimal fraction is written in characters of numbers only. -/
theorem DecimalFraction.all_positional (d : DecimalFraction) :
    d.positional.toList.all isNumberChar = true := by
  have hdigits := all_toDigits d.digits
  have hzeros (n : Nat) : (List.replicate n '0').all isNumberChar = true := by
    rw [List.all_eq_true]
    intro c hc
    rw [List.eq_of_mem_replicate hc]
    rfl
  have hpoint : isNumberChar '.' = true := by decide
  have hzero : isNumberChar '0' = true := by decide
  unfold positional
  simp only
  split
  · rw [String.toList_ofList, List.all_append, hdigits, hzeros, Bool.and_true]
  · split
    · rw [← List.take_append_drop
        ((Nat.toDigits 10 d.digits).length - (-d.exponent).toNat) (Nat.toDigits 10 d.digits),
        List.all_append, Bool.and_eq_true] at hdigits
      rw [String.toList_ofList, List.all_append, List.all_cons, hdigits.1, hpoint, hdigits.2,
        Bool.and_true, Bool.and_true]
    · rw [String.toList_ofList, List.all_cons, List.all_cons, List.all_append, hzero, hpoint,
        hzeros, hdigits, Bool.and_true, Bool.and_true, Bool.and_true]

/-- Whatever a floating-point number is, its text has only characters of numbers. -/
theorem all_floatText (x : Float) : (floatText x).toList.all isNumberChar = true := by
  have hsign (negative : Prop) [Decidable negative] :
      (if negative then "" else "-").toList.all isNumberChar = true := by
    split <;> decide
  unfold floatText
  simp only
  split
  · decide
  · rw [String.toList_append, List.all_append, hsign]
    decide
  · rw [String.toList_append, List.all_append, hsign]
    decide
  next value _ =>
    rw [String.toList_append, List.all_append, hsign, value.shortest.all_positional, Bool.and_true]

end AccessControl.Decimal
