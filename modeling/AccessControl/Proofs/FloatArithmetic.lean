import AccessControl.Proofs.FloatRounding

/-!
# Floating-point arithmetic as rounding

The floating-point numbers that occur in a report stand for numbers that are not negative. Here the
operations on them are shown to do what they are said to do: converting a 64-bit number, adding,
multiplying and dividing each give the floating-point number for what the exact result is rounded
to, as long as this is zero or of ordinary size, and comparing compares the numbers. Main
statements: `denotes_toFloat`, `Denotes.add`, `Denotes.mul`, `Denotes.div` and `Denotes.le_iff`.
-/

set_option autoImplicit false

namespace AccessControl.Binary

open Float.Model

/-- A floating-point number stands for a number that is not negative. -/
def Denotes (x : Float) (q : ℚ) : Prop :=
  Stands x.toModel.unpack q

/-- Zero or of ordinary size, as exact results have to be. -/
def Fits (q : ℚ) : Prop :=
  q = 0 ∨ Ordinary q

/-- A number between two moderate powers of two is of ordinary size. -/
theorem ordinary_of_bounds {q : ℚ} (d e : ℤ) (hd : -1000 ≤ d) (he : e ≤ 1000) (hlow : 2 ^ d ≤ q)
    (hhigh : q < 2 ^ e) : Ordinary q :=
  ⟨(two_zpow_le hd).trans hlow, hhigh.trans_le (two_zpow_le he)⟩

/-- A number that is not zero fits only if it is of ordinary size. -/
theorem ordinary_of_fits {q : ℚ} (hpos : 0 < q) (h : Fits q) : Ordinary q :=
  h.resolve_left hpos.ne'

/-- What some roundings make of a fraction with a moderate numerator and denominator is zero or of
ordinary size. -/
theorem fits_of_within {k m n : ℕ} {q : ℚ} (h : Within k (m / n) q) (hk : k ≤ 2 ^ 51)
    (hm : m < 2 ^ 200) (hpos : 0 < n) (hn : n ≤ 2 ^ 100) : Fits q := by
  have hn' : (0 : ℚ) < n := by exact_mod_cast hpos
  have hnonneg : (0 : ℚ) ≤ m / n := by positivity
  have hk' : (k : ℚ) ≤ 2 ^ 51 := by exact_mod_cast hk
  have herror : |q - m / n| ≤ (m : ℚ) / n / 2 := by
    refine (h.error hnonneg (hk.trans (by norm_num))).trans ?_
    rw [div_eq_mul_one_div ((m : ℚ) / n) 2]
    exact mul_le_mul_of_nonneg_left (by linarith) hnonneg
  obtain ⟨hlow, hhigh⟩ := abs_le.mp herror
  rcases Nat.eq_zero_or_pos m with rfl | hm'
  · left
    rw [Nat.cast_zero, zero_div] at hlow hhigh
    linarith
  · right
    have hleast : 1 / (2 : ℚ) ^ 100 ≤ m / n := by
      have hnumerator : (1 : ℚ) ≤ m := by exact_mod_cast hm'
      have hdenominator : (n : ℚ) ≤ 2 ^ 100 := by exact_mod_cast hn
      exact div_le_div₀ (by linarith) hnumerator hn' hdenominator
    have hgreatest : (m : ℚ) / n ≤ 2 ^ 200 := by
      have hnumerator : (m : ℚ) ≤ 2 ^ 200 := by exact_mod_cast hm.le
      have hdenominator : (1 : ℚ) ≤ n := by exact_mod_cast hpos
      exact (div_le_self (Nat.cast_nonneg m) hdenominator).trans hnumerator
    apply ordinary_of_bounds (-101) 202 (by decide) (by decide)
    · calc (2 : ℚ) ^ (-101 : ℤ)
        _ = 1 / 2 ^ 100 / 2 := by norm_num
        _ ≤ q := by linarith
    · calc q
        _ ≤ 2 ^ 200 + 2 ^ 200 / 2 := by linarith
        _ < 2 ^ (202 : ℤ) := by norm_num

/-- What is stood for is not negative. -/
theorem Stands.nonneg {u : UnpackedFloat} {q : ℚ} (h : Stands u q) : 0 ≤ q :=
  h.nearest.nonneg.1

/-! ## Results before they are packed -/

/-- A mantissa and an exponent are brought to what their value is rounded to. -/
theorem stands_normalize (m : ℕ) (e : ℤ) (hsize : Fits ((m : ℚ) * 2 ^ e)) :
    ∃ p, Nearest ((m : ℚ) * 2 ^ e) p ∧
      Stands (UnpackedFloat.normalize .binary64 (m : ℤ) e .positive) p := by
  rcases Nat.eq_zero_or_pos m with rfl | hpos
  · refine ⟨0, ?_, .zero⟩
    rw [Nat.cast_zero, zero_mul]
    exact .zero
  · have hnonzero : (m : ℚ) * 2 ^ e ≠ 0 :=
      (mul_pos (by exact_mod_cast hpos) (two_zpow_pos e)).ne'
    have hround := stands_round m e hpos (hsize.resolve_left hnonzero)
    have hcompare : compare (m : ℤ) 0 = .gt := Int.compare_eq_gt.mpr (by exact_mod_cast hpos)
    unfold UnpackedFloat.normalize
    simp only [hcompare, Int.toNat_natCast]
    exact hround

/-- With zeros put behind its mantissa, a number has a smaller exponent and the same value. -/
theorem decreaseExponent_value (m : ℕ) (d e : ℤ) (h : d ≤ e) :
    ((UnpackedFloat.decreaseExponent m e d).1 : ℚ) * 2 ^ d = m * 2 ^ e := by
  obtain ⟨k, rfl⟩ : ∃ k : ℕ, e = d + k := ⟨(e - d).toNat, by omega⟩
  have hshift : (d + (k : ℤ) - d).toNat = k := by omega
  unfold UnpackedFloat.decreaseExponent
  simp only [hshift, Nat.shiftLeft_eq]
  rw [zpow_add₀ two_ne_zero, zpow_natCast]
  push_cast
  ring

/-- A sum is rounded once. -/
theorem stands_add {u v : UnpackedFloat} {p q : ℚ} (hu : Stands u p) (hv : Stands v q)
    (hsize : Fits (p + q)) :
    ∃ r, Nearest (p + q) r ∧ Stands (UnpackedFloat.add .binary64 u v) r := by
  cases hu with
  | zero =>
    rw [zero_add]
    cases hv with
    | zero => exact ⟨0, .zero, .zero⟩
    | finite m e hpos hlow hhigh hmin hmax =>
      exact ⟨_, nearest_self m e hlow hhigh, .finite m e hpos hlow hhigh hmin hmax⟩
  | finite m e hpos hlow hhigh hmin hmax =>
    cases hv with
    | zero =>
      rw [add_zero]
      exact ⟨_, nearest_self m e hlow hhigh, .finite m e hpos hlow hhigh hmin hmax⟩
    | finite n d hpos' =>
      -- Both are brought to the smaller exponent, at which the mantissas are added.
      have hm := decreaseExponent_value m (min e d) e (min_le_left e d)
      have hn := decreaseExponent_value n (min e d) d (min_le_right e d)
      have hsum : (m : ℚ) * 2 ^ e + n * 2 ^ d =
          ((UnpackedFloat.decreaseExponent m e (min e d)).1 +
            (UnpackedFloat.decreaseExponent n d (min e d)).1 : ℕ) * 2 ^ min e d := by
        rw [Nat.cast_add, add_mul, hm, hn]
      rw [hsum] at hsize ⊢
      exact stands_normalize _ _ hsize

/-- A product is rounded once. -/
theorem stands_mul {u v : UnpackedFloat} {p q : ℚ} (hu : Stands u p) (hv : Stands v q)
    (hsize : Fits (p * q)) :
    ∃ r, Nearest (p * q) r ∧ Stands (UnpackedFloat.mul .binary64 u v) r := by
  cases hu with
  | zero =>
    rw [zero_mul]
    cases hv <;> exact ⟨0, .zero, .zero⟩
  | finite m e hpos hlow =>
    cases hv with
    | zero =>
      rw [mul_zero]
      exact ⟨0, .zero, .zero⟩
    | finite n d hpos' =>
      have hproduct : (m : ℚ) * 2 ^ e * (n * 2 ^ d) = ((m * n : ℕ) : ℚ) * 2 ^ (e + d) := by
        rw [zpow_add₀ two_ne_zero]
        push_cast
        ring
      have hlong : 2 ^ 52 ≤ m * n := hlow.trans (Nat.le_mul_of_pos_right m hpos')
      have hpositive : (0 : ℚ) < ((m * n : ℕ) : ℚ) * 2 ^ (e + d) :=
        mul_pos (by exact_mod_cast Nat.mul_pos hpos hpos') (two_zpow_pos _)
      rw [hproduct] at hsize ⊢
      exact stands_roundWithAccuracy (m * n) (e + d) .exact _ (abbreviates_exact (m * n)) hlong
        (ordinary_of_fits hpositive hsize)

/-- Before dividing, as many zeros are put behind the dividend as a mantissa has digits. -/
theorem divCore_eq (m n : ℕ) (e d : ℤ) (hm : m.log2 = 52) (hn : n.log2 = 52)
    (hmin : -1000 ≤ e - d) :
    UnpackedFloat.divCore .binary64 m e n d =
      (m * 2 ^ 53 / n, e - d - 53,
        UnpackedFloat.accuracyOfFraction (m * 2 ^ 53 % n) n) := by
  have htarget : min (e - d) (Format.binary64.targetExponent
      (totalExponent m e - totalExponent n d)) = e - d - 53 := by
    unfold Format.targetExponent totalExponent
    rw [hm, hn, show Format.binary64.minExponent = -1074 from rfl,
      show (Format.binary64.mantissaBits : ℤ) = 53 from rfl]
    omega
  have hshift : (e - d - (e - d - 53)).toNat = 53 := by omega
  unfold UnpackedFloat.divCore
  simp only [htarget, hshift, Nat.shiftLeft_eq]

/-- A quotient is rounded once. -/
theorem stands_div {u v : UnpackedFloat} {p q : ℚ} (hu : Stands u p) (hv : Stands v q)
    (hq : q ≠ 0) (hsize : Fits (p / q)) :
    ∃ r, Nearest (p / q) r ∧ Stands (UnpackedFloat.div .binary64 u v) r := by
  cases hv with
  | zero => exact absurd rfl hq
  | finite n d hpos' hlow' hhigh' =>
    cases hu with
    | zero =>
      rw [zero_div]
      exact ⟨0, .zero, .zero⟩
    | finite m e hpos hlow hhigh =>
      have hn : (0 : ℚ) < n := by exact_mod_cast hpos'
      have hscale := two_zpow_pos (e - d)
      have hquotient : (m : ℚ) * 2 ^ e / (n * 2 ^ d) =
          ((m * 2 ^ 53 : ℕ) : ℚ) / n * 2 ^ (e - d - 53) := by
        rw [zpow_sub₀ two_ne_zero, zpow_sub₀ two_ne_zero]
        push_cast
        field_simp
      have hpositive : (0 : ℚ) < (m : ℚ) * 2 ^ e / (n * 2 ^ d) :=
        div_pos (mul_pos (by exact_mod_cast hpos) (two_zpow_pos e)) (mul_pos hn (two_zpow_pos d))
      have hordinary := ordinary_of_fits hpositive hsize
      -- Mantissas with equally many digits differ by less than a factor of two.
      have hmin : -1000 ≤ e - d := by
        have hratio : (m : ℚ) / n < 2 := by
          rw [div_lt_iff₀ hn]
          have hcast : (m : ℚ) < 2 ^ 53 := by exact_mod_cast hhigh
          have hcast' : (2 : ℚ) ^ 52 ≤ n := by exact_mod_cast hlow'
          linarith
        have hsplit : (m : ℚ) * 2 ^ e / (n * 2 ^ d) = m / n * 2 ^ (e - d) := by
          rw [zpow_sub₀ two_ne_zero]
          field_simp
        have hlt : (2 : ℚ) ^ (-1000 : ℤ) < 2 ^ (e - d + 1) := by
          rw [zpow_add_one₀ two_ne_zero, mul_comm _ (2 : ℚ)]
          exact lt_of_le_of_lt hordinary.1 (hsplit ▸ mul_lt_mul_of_pos_right hratio hscale)
        have hexponent := (zpow_lt_zpow_iff_right₀ one_lt_two).mp hlt
        omega
      have hlong : 2 ^ 52 ≤ m * 2 ^ 53 / n := by
        rw [Nat.le_div_iff_mul_le hpos']
        omega
      have hround := stands_roundWithAccuracy (m * 2 ^ 53 / n) (e - d - 53)
        (UnpackedFloat.accuracyOfFraction (m * 2 ^ 53 % n) n) _
        (abbreviates_quotient (m * 2 ^ 53) n hpos') hlong (hquotient ▸ hordinary)
      unfold UnpackedFloat.div
      simp only [divCore_eq m n e d (log2_eq_of_lt hlow hhigh) (log2_eq_of_lt hlow' hhigh') hmin,
        hquotient]
      exact hround

/-- Unpacked numbers compare as what they stand for. -/
theorem stands_le_iff {u v : UnpackedFloat} {p q : ℚ} (hu : Stands u p) (hv : Stands v q) :
    u.le v = true ↔ p ≤ q := by
  have hbefore {m n : ℕ} {e d : ℤ} (hhigh : m < 2 ^ 53) (hlow : 2 ^ 52 ≤ n) (hlt : e < d) :
      (m : ℚ) * 2 ^ e < n * 2 ^ d := by
    have hm : (m : ℚ) < 2 ^ 53 := by exact_mod_cast hhigh
    have hn : (2 : ℚ) ^ 52 ≤ n := by exact_mod_cast hlow
    calc (m : ℚ) * 2 ^ e
      _ < 2 ^ 53 * 2 ^ e := mul_lt_mul_of_pos_right hm (two_zpow_pos e)
      _ ≤ 2 ^ 52 * 2 ^ d := scaled_le_of_lt hlt
      _ ≤ n * 2 ^ d := mul_le_mul_of_nonneg_right hn (two_zpow_pos d).le
  cases hu with
  | zero =>
    have hq := hv.nonneg
    cases hv with
    | zero => exact iff_of_true rfl le_rfl
    | finite => exact iff_of_true rfl hq
  | finite m e hpos hlow hhigh =>
    have hm : (0 : ℚ) < m * 2 ^ e := mul_pos (by exact_mod_cast hpos) (two_zpow_pos e)
    cases hv with
    | zero => exact iff_of_false Bool.false_ne_true hm.not_ge
    | finite n d hpos' hlow' hhigh' =>
      -- The exponents decide, and the mantissas only where they are equal.
      show ((compare e d).then (compare m n)).isLE = true ↔ _
      rcases lt_trichotomy e d with hlt | rfl | hgt
      · rw [Int.compare_eq_lt.mpr hlt]
        exact iff_of_true rfl (hbefore hhigh hlow' hlt).le
      · rw [Int.compare_eq_eq.mpr rfl, mul_le_mul_iff_left₀ (two_zpow_pos e), Nat.cast_le]
        exact Nat.isLE_compare
      · rw [Int.compare_eq_gt.mpr hgt]
        exact iff_of_false Bool.false_ne_true (hbefore hhigh' hlow hgt).not_ge

/-! ## Packed results -/

/-- A constant denotes what its mantissa and its exponent say. -/
theorem denotes_of_unpack {x : Float} (m : ℕ) (e : ℤ) (hpos : 0 < m)
    (hunpack : x.toModel.unpack = .finite .positive m e hpos) (hlow : 2 ^ 52 ≤ m)
    (hhigh : m < 2 ^ 53) (hmin : -1074 ≤ e) (hmax : e ≤ 971) : Denotes x ((m : ℚ) * 2 ^ e) := by
  unfold Denotes
  rw [hunpack]
  exact .finite m e hpos hlow hhigh hmin hmax

/-- Zero denotes zero. -/
theorem denotes_zero : Denotes 0 0 :=
  Stands.zero

/-- A 64-bit number is converted to what it is rounded to. -/
theorem denotes_toFloat (n : UInt64) :
    ∃ p, Nearest (n.toNat : ℚ) p ∧ Denotes n.toFloat p := by
  have hsize : Fits ((n.toNat : ℚ) * 2 ^ (0 : ℤ)) := by
    rw [zpow_zero, mul_one]
    rcases Nat.eq_zero_or_pos n.toNat with hzero | hpos
    · exact Or.inl (by rw [hzero, Nat.cast_zero])
    · have hlow : (1 : ℚ) ≤ n.toNat := by exact_mod_cast hpos
      have hhigh : (n.toNat : ℚ) < 2 ^ 64 := by exact_mod_cast n.toNat_lt
      exact Or.inr (ordinary_of_bounds 0 64 (by decide) (by decide) hlow hhigh)
  obtain ⟨p, hnearest, hstands⟩ := stands_normalize n.toNat 0 hsize
  rw [zpow_zero, mul_one] at hnearest
  exact ⟨p, hnearest, stands_unpack_pack hstands⟩

/-- Numbers of up to 53 binary digits are converted as they are. -/
theorem denotes_toFloat_ofNat (n : ℕ) (h : n ≤ 2 ^ 53) : Denotes (UInt64.ofNat n).toFloat n := by
  obtain ⟨p, hnearest, hdenotes⟩ := denotes_toFloat (UInt64.ofNat n)
  have hlt : n < UInt64.size := h.trans_lt (by norm_num [UInt64.size])
  rw [UInt64.toNat_ofNat_of_lt' hlt] at hnearest
  rwa [hnearest.unique (nearest_natCast n h)] at hdenotes

namespace Denotes

variable {x y : Float} {p q : ℚ}

/-- What is denoted is not negative. -/
theorem nonneg (h : Denotes x p) : 0 ≤ p :=
  Stands.nonneg h

/-- Adding gives what the sum is rounded to. -/
theorem add (hx : Denotes x p) (hy : Denotes y q) (hsize : Fits (p + q)) :
    ∃ r, Nearest (p + q) r ∧ Denotes (x + y) r := by
  obtain ⟨r, hnearest, hstands⟩ := stands_add hx hy hsize
  exact ⟨r, hnearest, stands_unpack_pack hstands⟩

/-- Multiplying gives what the product is rounded to. -/
theorem mul (hx : Denotes x p) (hy : Denotes y q) (hsize : Fits (p * q)) :
    ∃ r, Nearest (p * q) r ∧ Denotes (x * y) r := by
  obtain ⟨r, hnearest, hstands⟩ := stands_mul hx hy hsize
  exact ⟨r, hnearest, stands_unpack_pack hstands⟩

/-- Dividing gives what the quotient is rounded to. -/
theorem div (hx : Denotes x p) (hy : Denotes y q) (hq : q ≠ 0) (hsize : Fits (p / q)) :
    ∃ r, Nearest (p / q) r ∧ Denotes (x / y) r := by
  obtain ⟨r, hnearest, hstands⟩ := stands_div hx hy hq hsize
  exact ⟨r, hnearest, stands_unpack_pack hstands⟩

/-- Floating-point numbers compare as the numbers that they denote. -/
theorem le_iff (hx : Denotes x p) (hy : Denotes y q) : x ≤ y ↔ p ≤ q := by
  rw [← stands_le_iff hx hy]
  exact decide_eq_true_iff

/-- A floating-point number denotes one number at most. -/
theorem unique (h : Denotes x p) (h' : Denotes x q) : p = q := by
  have hself : x ≤ x := (h.le_iff h).mpr le_rfl
  exact le_antisymm ((h.le_iff h').mp hself) ((h'.le_iff h).mp hself)

end Denotes

end AccessControl.Binary
