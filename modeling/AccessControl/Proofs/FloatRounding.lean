import AccessControl.Proofs.BinaryRounding

/-!
# What floating-point numbers stand for

A floating-point operation computes a mantissa that may be too long, together with two further
digits for what lies behind it, and shortens all of it to 53 digits. Here this is shown to be the
rounding of `BinaryRounding`, for results of ordinary size: greater than the numbers that are written
with fewer digits, and not so great that they overflow. Zero has its own representation. Main
statements: `stands_roundWithAccuracy` and `stands_round`, the result stands for what the exact
number is rounded to, and `stands_unpack_pack`, it does so also after it was packed into 64 bits.
-/

set_option autoImplicit false

namespace AccessControl.Binary

open Float.Model

/-! ## Mantissas with two further digits -/

/-- A mantissa with two further digits abbreviates a number: it is the whole part, the first of the
digits says whether there is another half, and the second one whether anything is left after that. -/
def Abbreviates (em : UnpackedFloat.ExtendedMantissa) (x : ℚ) : Prop :=
  ∃ rest : ℚ, 0 ≤ rest ∧ rest < 1 / 2 ∧ (em.stickyBit = true ↔ 0 < rest) ∧
    x = em.mantissa + (if em.roundBit then 1 / 2 else 0) + rest

namespace Abbreviates

variable {em : UnpackedFloat.ExtendedMantissa} {x : ℚ}

/-- What is abbreviated is no less than the mantissa. -/
theorem le (h : Abbreviates em x) : (em.mantissa : ℚ) ≤ x := by
  obtain ⟨rest, hrest, -, -, rfl⟩ := h
  split <;> linarith

/-- What is abbreviated is less than the next mantissa. -/
theorem lt_add_one (h : Abbreviates em x) : x < (em.mantissa : ℚ) + 1 := by
  obtain ⟨rest, -, hrest, -, rfl⟩ := h
  split <;> linarith

/-- Shifting by one digit halves the number. The digit that is shifted out says whether there is
another half, and what was behind it is what is left. -/
theorem shiftRightOne (h : Abbreviates em x) : Abbreviates em.shiftRightOne (x / 2) := by
  obtain ⟨m, half, sticky⟩ := em
  obtain ⟨rest, hrest, hrest', hsticky, rfl⟩ := h
  have hdigits : (m : ℚ) = 2 * (m / 2 : ℕ) + (m % 2 : ℕ) := by
    exact_mod_cast (Nat.div_add_mod m 2).symm
  refine ⟨((if half then 1 / 2 else 0) + rest) / 2, ?_, ?_, ?_, ?_⟩
  · split <;> linarith
  · split <;> linarith
  · show (half || sticky) = true ↔ _
    cases half
    · simpa using hsticky
    · simp only [Bool.true_or, if_true, true_iff]
      linarith
  · show _ = ((m / 2 : ℕ) : ℚ) + (if (m % 2 != 0) = true then 1 / 2 else 0) + _
    rcases Nat.mod_two_eq_zero_or_one m with heven | hodd
    · rw [heven] at hdigits ⊢
      simp only [hdigits, bne_self_eq_false, Bool.false_eq_true, if_false, Nat.cast_zero]
      ring
    · rw [hodd] at hdigits ⊢
      simp only [hdigits, Nat.cast_one, show (1 != 0) = true from rfl, if_true]
      ring

/-- Shifting out digits divides by a power of two. -/
theorem shiftRight (h : Abbreviates em x) (n : ℕ) : Abbreviates (em >>> n) (x / 2 ^ n) := by
  induction n with
  | zero =>
    rw [pow_zero, div_one]
    exact h
  | succ n ih =>
    have hnext := ih.shiftRightOne
    rw [div_div, ← pow_succ] at hnext
    exact hnext

/-- The mantissa is rounded to the nearest whole number. -/
theorem halfEven (h : Abbreviates em x) : HalfEven x em.roundedMantissa := by
  obtain ⟨m, half, sticky⟩ := em
  obtain ⟨rest, hrest, hrest', hsticky, rfl⟩ := h
  cases sticky with
  | false =>
    obtain rfl : rest = 0 := le_antisymm (not_lt.mp fun hpos => by simpa using hsticky.mpr hpos) hrest
    cases half with
    | false =>
      show HalfEven ((m : ℚ) + (if false = true then 1 / 2 else 0) + 0) m
      simpa using HalfEven.natCast m
    | true =>
      -- Halfway between two whole numbers the even one is taken.
      right
      show |((m : ℚ) + (if true then 1 / 2 else 0) + 0) - ((m + m % 2 : ℕ) : ℚ)| = 1 / 2 ∧
        Even (m + m % 2)
      rcases Nat.even_or_odd m with heven | hodd
      · rw [Nat.even_iff.mp heven, Nat.add_zero]
        simpa using heven
      · rw [Nat.odd_iff.mp hodd]
        refine ⟨?_, hodd.add_one⟩
        push_cast
        norm_num
  | true =>
    have hpos : 0 < rest := hsticky.mp rfl
    left
    cases half with
    | false =>
      show |((m : ℚ) + (if false = true then 1 / 2 else 0) + rest) - (m : ℚ)| < 1 / 2
      rw [abs_lt]
      constructor <;> simp <;> linarith
    | true =>
      show |((m : ℚ) + (if true then 1 / 2 else 0) + rest) - ((m + 1 : ℕ) : ℚ)| < 1 / 2
      rw [abs_lt]
      push_cast
      constructor <;> simp <;> linarith

end Abbreviates

/-- A whole number, with nothing behind it. -/
theorem abbreviates_exact (m : ℕ) : Abbreviates (.ofMantissaAndAccuracy m .exact) m := by
  show Abbreviates ⟨m, false, false⟩ m
  exact ⟨0, le_rfl, one_half_pos, by simp, by simp⟩

/-- A quotient of whole numbers, abbreviated by what long division finds. -/
theorem abbreviates_quotient (m n : ℕ) (hn : 0 < n) :
    Abbreviates (.ofMantissaAndAccuracy (m / n) (UnpackedFloat.accuracyOfFraction (m % n) n))
      ((m : ℚ) / n) := by
  have hn' : (0 : ℚ) < n := by exact_mod_cast hn
  have hvalue : (m : ℚ) / n = (m / n : ℕ) + (m % n : ℕ) / n := by
    have hdivision : (m : ℚ) = n * (m / n : ℕ) + (m % n : ℕ) := by
      exact_mod_cast (Nat.div_add_mod m n).symm
    rw [div_eq_iff hn'.ne', add_mul, div_mul_cancel₀ _ hn'.ne', mul_comm]
    exact hdivision
  have hremainder : m % n < n := Nat.mod_lt m hn
  rw [hvalue]
  generalize m / n = quotient at *
  generalize m % n = remainder at *
  unfold UnpackedFloat.accuracyOfFraction
  split
  next hzero =>
    rw [hzero, Nat.cast_zero, zero_div, add_zero]
    exact abbreviates_exact quotient
  next hrest =>
    have hpos : (0 : ℚ) < remainder := by exact_mod_cast Nat.pos_of_ne_zero hrest
    have hfraction : (0 : ℚ) < (remainder : ℚ) / n := div_pos hpos hn'
    -- Twice the remainder is compared with the divisor: the quotient is short of half a unit, at it,
    -- or past it.
    rcases Nat.lt_trichotomy (2 * remainder) n with hlt | heq | hgt
    · have hless : (remainder : ℚ) / n < 1 / 2 := by
        rw [div_lt_div_iff₀ hn' two_pos]
        exact_mod_cast (by omega : remainder * 2 < 1 * n)
      rw [Nat.compare_eq_lt.mpr hlt]
      show Abbreviates ⟨quotient, false, true⟩ _
      exact ⟨_, hfraction.le, hless, by simpa using hfraction, by simp⟩
    · have hhalf : (remainder : ℚ) / n = 1 / 2 := by
        rw [div_eq_div_iff hn'.ne' two_ne_zero]
        exact_mod_cast (by omega : remainder * 2 = 1 * n)
      rw [Nat.compare_eq_eq.mpr heq, hhalf]
      show Abbreviates ⟨quotient, true, false⟩ _
      exact ⟨0, le_rfl, one_half_pos, by simp, by simp⟩
    · have hmore : 1 / 2 < (remainder : ℚ) / n := by
        rw [div_lt_div_iff₀ two_pos hn']
        exact_mod_cast (by omega : 1 * n < remainder * 2)
      have hless : (remainder : ℚ) / n < 1 := by
        rw [div_lt_one hn']
        exact_mod_cast hremainder
      rw [Nat.compare_eq_gt.mpr hgt]
      show Abbreviates ⟨quotient, true, true⟩ _
      exact ⟨(remainder : ℚ) / n - 1 / 2, by linarith, by linarith, by simpa using hmore, by simp⟩

/-! ## Numbers of ordinary size -/

/-- A number far from either end of the range of floating-point numbers, so that there are 53 digits
for it and room to be rounded up. -/
def Ordinary (q : ℚ) : Prop :=
  2 ^ (-1000 : ℤ) ≤ q ∧ q < 2 ^ (1000 : ℤ)

/-- An unpacked floating-point number that is not negative stands for a number, with a mantissa of 53
digits unless it is zero. -/
inductive Stands : UnpackedFloat → ℚ → Prop
  | zero : Stands (.zero .positive) 0
  | finite (m : ℕ) (e : ℤ) (hpos : 0 < m) (hlow : 2 ^ 52 ≤ m) (hhigh : m < 2 ^ 53)
    (hmin : -1074 ≤ e) (hmax : e ≤ 971) : Stands (.finite .positive m e hpos) (m * 2 ^ e)

/-- What is stood for needs no rounding. -/
theorem Stands.nearest {u : UnpackedFloat} {q : ℚ} (h : Stands u q) : Nearest q q := by
  cases h with
  | zero => exact .zero
  | finite m e hpos hlow hhigh => exact nearest_self m e hlow hhigh

/-- The exponent at which a mantissa has 53 digits, unless that is too small. -/
theorem targetExponent_eq (m : ℕ) (e : ℤ) :
    Format.binary64.targetExponent (totalExponent m e) = max (m.log2 + e - 52) (-1074) := by
  unfold Format.targetExponent totalExponent
  rw [show Format.binary64.minExponent = -1074 from rfl,
    show (Format.binary64.mantissaBits : ℤ) = 53 from rfl]
  congr 1
  omega

/-- A mantissa with `s` digits too many loses as many. -/
theorem shiftToTargetExponent_eq (m s : ℕ) (e : ℤ) (accuracy : UnpackedFloat.Accuracy)
    (h : Format.binary64.targetExponent (totalExponent m e) = e + s) :
    UnpackedFloat.shiftToTargetExponent .binary64 m e accuracy =
      (UnpackedFloat.ExtendedMantissa.ofMantissaAndAccuracy m accuracy >>> s, e + s) := by
  unfold UnpackedFloat.shiftToTargetExponent UnpackedFloat.shiftToExponent
  have hshift : (Format.binary64.targetExponent (totalExponent m e) - e).toNat = s := by
    rw [h]
    omega
  simp only [hshift]

/-- A number between two consecutive powers of two has the logarithm of the lower one. -/
theorem log2_eq_of_lt {m k : ℕ} (hlow : 2 ^ k ≤ m) (hhigh : m < 2 ^ (k + 1)) : m.log2 = k := by
  have hpos : m ≠ 0 := (lt_of_lt_of_le (by positivity) hlow).ne'
  exact (Nat.log2_eq_iff hpos).mpr ⟨hlow, hhigh⟩

/-- A rounded mantissa has 53 digits, or it is the power of two after those: then the last digit is
shifted out, which is zero. -/
theorem stands_shiftToTargetExponent (n : ℕ) (e : ℤ) (hlow : 2 ^ 52 ≤ n) (hhigh : n ≤ 2 ^ 53)
    (hmin : -1074 ≤ e) (hmax : e < 971) :
    ∃ m d, ∃ hpos : 0 < m,
      UnpackedFloat.shiftToTargetExponent .binary64 n e .exact = (⟨m, false, false⟩, d) ∧
        Stands (.finite .positive m d hpos) (n * 2 ^ e) := by
  rcases Nat.lt_or_eq_of_le hhigh with hlt | rfl
  · have htarget : Format.binary64.targetExponent (totalExponent n e) = e + (0 : ℕ) := by
      rw [targetExponent_eq, log2_eq_of_lt hlow hlt]
      omega
    have hshift := shiftToTargetExponent_eq n 0 e .exact htarget
    rw [Nat.cast_zero, add_zero] at hshift
    exact ⟨n, e, by omega, hshift, .finite n e (by omega) hlow hlt hmin hmax.le⟩
  · have htarget : Format.binary64.targetExponent (totalExponent (2 ^ 53) e) = e + (1 : ℕ) := by
      rw [targetExponent_eq, Nat.log2_two_pow]
      omega
    have hshift := shiftToTargetExponent_eq (2 ^ 53) 1 e .exact htarget
    have hvalue : ((2 ^ 53 : ℕ) : ℚ) * 2 ^ e = (2 ^ 52 : ℕ) * 2 ^ (e + 1) := by
      rw [zpow_add_one₀ two_ne_zero]
      push_cast
      ring
    refine ⟨2 ^ 52, e + 1, by positivity, hshift, ?_⟩
    rw [hvalue]
    exact .finite (2 ^ 52) (e + 1) (by positivity) le_rfl (by norm_num) (by omega) (by omega)

/-- A mantissa that is long enough, with what lies behind it, is shortened to what the exact number
is rounded to. -/
theorem stands_roundWithAccuracy (m : ℕ) (e : ℤ) (accuracy : UnpackedFloat.Accuracy) (x : ℚ)
    (hx : Abbreviates (.ofMantissaAndAccuracy m accuracy) x) (hm : 2 ^ 52 ≤ m)
    (hsize : Ordinary (x * 2 ^ e)) :
    ∃ p, Nearest (x * 2 ^ e) p ∧
      Stands (UnpackedFloat.roundWithAccuracy .binary64 .positive m e accuracy) p := by
  have hmantissa :
      (UnpackedFloat.ExtendedMantissa.ofMantissaAndAccuracy m accuracy).mantissa = m := by
    cases accuracy with
    | exact => rfl
    | inexact order => cases order <;> rfl
  have hxlow := hx.le
  have hxhigh := hx.lt_add_one
  rw [hmantissa] at hxlow hxhigh
  -- The mantissa has `53 + s` digits, and as many as `s` are shifted out.
  have hm0 : m ≠ 0 := (lt_of_lt_of_le (by positivity) hm).ne'
  have hlog : 52 ≤ m.log2 := (Nat.le_log2 hm0).mpr hm
  obtain ⟨s, hs⟩ : ∃ s, m.log2 = 52 + s := ⟨m.log2 - 52, by omega⟩
  have hbelow : 2 ^ (52 + s) ≤ m := hs ▸ Nat.log2_self_le hm0
  have habove : m + 1 ≤ 2 ^ (53 + s) := by
    have hlt := Nat.lt_log2_self (n := m)
    rw [hs] at hlt
    rw [show 53 + s = 52 + s + 1 by omega]
    exact hlt
  have hslow : (2 : ℚ) ^ 52 ≤ x / 2 ^ s := by
    rw [le_div_iff₀ (by positivity), ← pow_add]
    exact le_trans (by exact_mod_cast hbelow) hxlow
  have hshigh : x / 2 ^ s < (2 : ℚ) ^ 53 := by
    rw [div_lt_iff₀ (by positivity), ← pow_add]
    exact lt_of_lt_of_le hxhigh (by exact_mod_cast habove)
  have hvalue : x * 2 ^ e = x / 2 ^ s * 2 ^ (e + s) := by
    rw [zpow_add₀ two_ne_zero, zpow_natCast]
    field_simp
  rw [hvalue] at hsize ⊢
  obtain ⟨hsmall, hlarge⟩ := hsize
  have hscale := two_zpow_pos (e + s)
  have hmin : -1074 ≤ e + s := by
    have hlt : (2 : ℚ) ^ (-1000 : ℤ) < 2 ^ (53 + (e + s)) := by
      rw [zpow_add₀ two_ne_zero]
      exact lt_of_le_of_lt hsmall (mul_lt_mul_of_pos_right hshigh hscale)
    have hexponent := (zpow_lt_zpow_iff_right₀ one_lt_two).mp hlt
    omega
  have hmax : e + s < 971 := by
    have hlt : (2 : ℚ) ^ (52 + (e + s)) < 2 ^ (1000 : ℤ) := by
      rw [zpow_add₀ two_ne_zero]
      exact lt_of_le_of_lt (mul_le_mul_of_nonneg_right hslow hscale.le) hlarge
    have hexponent := (zpow_lt_zpow_iff_right₀ one_lt_two).mp hlt
    omega
  have htarget : Format.binary64.targetExponent (totalExponent m e) = e + s := by
    rw [targetExponent_eq, hs]
    omega
  have hround := (hx.shiftRight s).halfEven
  have hfirst := shiftToTargetExponent_eq m s e accuracy htarget
  obtain ⟨n, d, hpos, hsecond, hstands⟩ := stands_shiftToTargetExponent
    (UnpackedFloat.ExtendedMantissa.ofMantissaAndAccuracy m accuracy >>> s).roundedMantissa (e + s)
    (hround.two_pow_le hslow) (hround.le_two_pow hshigh) hmin hmax
  refine ⟨_, .scaled (x / 2 ^ s) _ (e + s) hslow hshigh hround, ?_⟩
  unfold UnpackedFloat.roundWithAccuracy
  rw [hfirst]
  dsimp only
  rw [hsecond]
  dsimp only
  rw [dif_neg (show ¬ n = 0 from hpos.ne')]
  exact hstands

/-- A mantissa that is too short is made longer first, which changes nothing in its value. -/
theorem stands_round (m : ℕ) (e : ℤ) (hm : 0 < m) (hsize : Ordinary ((m : ℚ) * 2 ^ e)) :
    ∃ p, Nearest ((m : ℚ) * 2 ^ e) p ∧
      Stands (UnpackedFloat.round .binary64 .positive m e) p := by
  have hbelow : 2 ^ m.log2 ≤ m := Nat.log2_self_le hm.ne'
  have habove : m < 2 ^ (m.log2 + 1) := Nat.lt_log2_self
  have hmin : -1074 ≤ m.log2 + e - 52 := by
    have hlt : (2 : ℚ) ^ (-1000 : ℤ) < 2 ^ ((m.log2 + 1 : ℕ) + e) := by
      rw [zpow_add₀ two_ne_zero, zpow_natCast]
      have hcast : (m : ℚ) < 2 ^ (m.log2 + 1) := by exact_mod_cast habove
      exact lt_of_le_of_lt hsize.1 (mul_lt_mul_of_pos_right hcast (two_zpow_pos e))
    have hexponent := (zpow_lt_zpow_iff_right₀ one_lt_two).mp hlt
    omega
  -- As many zeros are put behind the mantissa as it is short of 53 digits.
  obtain ⟨k, hk⟩ : ∃ k, k = 52 - m.log2 := ⟨_, rfl⟩
  have hlong : 2 ^ 52 ≤ m * 2 ^ k := by
    calc 2 ^ 52
      _ ≤ 2 ^ (m.log2 + k) := Nat.pow_le_pow_right two_pos (by omega)
      _ = 2 ^ m.log2 * 2 ^ k := Nat.pow_add ..
      _ ≤ m * 2 ^ k := Nat.mul_le_mul_right _ hbelow
  have hshift : (e - Format.binary64.targetExponent (totalExponent m e)).toNat = k := by
    rw [targetExponent_eq, hk]
    omega
  have hvalue : (m : ℚ) * 2 ^ e = ((m * 2 ^ k : ℕ) : ℚ) * 2 ^ (e - k) := by
    rw [zpow_sub₀ two_ne_zero, zpow_natCast]
    push_cast
    field_simp
  rw [hvalue] at hsize ⊢
  have hround := stands_roundWithAccuracy (m * 2 ^ k) (e - k) .exact _
    (abbreviates_exact (m * 2 ^ k)) hlong hsize
  unfold UnpackedFloat.round UnpackedFloat.decreaseExponent
  simp only [hshift, Nat.shiftLeft_eq]
  exact hround

/-! ## Sixty-four bits -/

/-- A leading digit in front of 52 bits counts for `2 ^ 52`. -/
theorem toNat_one_append (m : BitVec 52) : (1#1 ++ m).toNat = 2 ^ 52 + m.toNat := by
  rw [BitVec.toNat_append]
  have hdisjoint : 1 <<< 52 ||| m.toNat = 1 <<< 52 + m.toNat :=
    (Nat.shiftLeft_add_eq_or_of_lt m.isLt 1).symm
  exact hdisjoint

/-- The sign is packed before everything else. -/
theorem unpackSign_packComponents (exponent : BitVec 11) (mantissa : BitVec 52) :
    UnpackedFloat.Sign.ofBitVec (UnpackedFloat.unpackSign
      (UnpackedFloat.packComponents .binary64 .positive exponent mantissa)) = .positive := by
  unfold UnpackedFloat.unpackSign UnpackedFloat.packComponents BitVec.extractLsb
  rw [BitVec.extractLsb'_append_eq_of_le (by decide), BitVec.extractLsb'_append_eq_of_le (by decide)]
  rfl

/-- The exponent is packed as a positive number. Of the mantissa the leading digit is left out, which
is known. -/
theorem pack_finite (m biased : ℕ) (e : ℤ) (hpos : 0 < m) (hlog : m.log2 = 52)
    (hbiased : (biased : ℤ) = e + 1075) (hmax : biased < 2047) :
    UnpackedFloat.pack .binary64 (.finite .positive m e hpos) =
      UnpackedFloat.packComponents .binary64 .positive (BitVec.ofNat 11 biased)
        (BitVec.ofNat 52 m) := by
  have hexponent : (e + Format.binary64.exponentBias +
      Format.binary64.mantissaBitsWithoutImplicit).toNat = biased := by
    show (e + (1023 : ℤ) + (52 : ℤ)).toNat = biased
    omega
  unfold UnpackedFloat.pack
  simp only [hexponent]
  rw [if_neg (show ¬ 2 ^ 11 ≤ biased + 1 by omega),
    if_pos (show m.log2 + 1 = Format.binary64.mantissaBits by rw [hlog]; rfl)]

/-- Unless the bits of the exponent are all set or all clear, the mantissa has its leading digit back
when it is unpacked. -/
theorem unpack_of_exponent (b : BitVec 64) (m : ℕ) (e : ℤ) (hpos : 0 < m)
    (hsign : UnpackedFloat.Sign.ofBitVec (@UnpackedFloat.unpackSign .binary64 b) = .positive)
    (hones : @UnpackedFloat.unpackExponent .binary64 b ≠ -1#11)
    (hzero : @UnpackedFloat.unpackExponent .binary64 b ≠ 0#11)
    (hmantissa : (1#1 ++ @UnpackedFloat.unpackMantissa .binary64 b).toNat = m)
    (hexponent : ((@UnpackedFloat.unpackExponent .binary64 b).toNat : ℤ) - 1075 = e) :
    UnpackedFloat.unpack .binary64 b = .finite .positive m e hpos := by
  subst hmantissa hexponent
  rw [← hsign]
  unfold UnpackedFloat.unpack
  exact (if_neg hones).trans (if_neg hzero)

/-- A mantissa of 53 digits and its exponent are unpacked as they were packed. -/
theorem unpack_packComponents (m biased : ℕ) (e : ℤ) (hpos : 0 < m) (hlow : 2 ^ 52 ≤ m)
    (hhigh : m < 2 ^ 53) (hbiased : (biased : ℤ) = e + 1075) (hmin : 0 < biased)
    (hmax : biased < 2047) :
    UnpackedFloat.unpack .binary64 (UnpackedFloat.packComponents .binary64 .positive
      (BitVec.ofNat 11 biased) (BitVec.ofNat 52 m)) = .finite .positive m e hpos := by
  have htoNat : (BitVec.ofNat 11 biased).toNat = biased :=
    Nat.mod_eq_of_lt (by omega)
  apply unpack_of_exponent
  · exact unpackSign_packComponents _ _
  · rw [UnpackedFloat.unpackExponent_packComponents]
    intro h
    have hequal := congrArg BitVec.toNat h
    rw [htoNat] at hequal
    exact hmax.ne hequal
  · rw [UnpackedFloat.unpackExponent_packComponents]
    intro h
    have hequal := congrArg BitVec.toNat h
    rw [htoNat] at hequal
    exact hmin.ne' hequal
  · rw [UnpackedFloat.unpackMantissa_packComponents, toNat_one_append, BitVec.toNat_ofNat]
    omega
  · rw [UnpackedFloat.unpackExponent_packComponents, htoNat]
    omega

/-- What stands for a number before it is packed into 64 bits still does when it is unpacked. -/
theorem stands_unpack_pack {u : UnpackedFloat} {q : ℚ} (h : Stands u q) :
    Stands (Float.Model.pack u).unpack q := by
  have hsame : (Float.Model.pack u).unpack = u := by
    cases h with
    | zero => rfl
    | finite m e hpos hlow hhigh hmin hmax =>
      obtain ⟨biased, hbiased⟩ : ∃ biased : ℕ, (biased : ℤ) = e + 1075 :=
        ⟨(e + 1075).toNat, by omega⟩
      show UnpackedFloat.unpack .binary64 (UnpackedFloat.pack .binary64 _) = _
      rw [pack_finite m biased e hpos (log2_eq_of_lt hlow hhigh) hbiased (by omega)]
      exact unpack_packComponents m biased e hpos hlow hhigh hbiased (by omega) (by omega)
  rw [hsame]
  exact h

end AccessControl.Binary
