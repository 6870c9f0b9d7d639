import Mathlib.Algebra.Order.Field.Power
import Mathlib.Algebra.Order.Field.Rat
import Mathlib.Algebra.Order.AbsoluteValue.Basic
import Mathlib.Data.Nat.Log
import Mathlib.Tactic.FieldSimp
import Mathlib.Tactic.GCongr
import Mathlib.Tactic.Linarith
import Mathlib.Tactic.NormNum
import Mathlib.Tactic.Positivity
import Mathlib.Tactic.Ring

/-!
# Rounding to a binary mantissa

A number that is not negative is rounded to one with a mantissa of 53 binary digits: it is scaled by
a power of two until its whole part has this many digits, and the nearest whole number is taken, the
even one of two that are equally near. Main statements: rounding keeps the order of numbers
(`Nearest.mono`), is off by no more than one part in `2 ^ 53` (`Nearest.error`), also where it is
done again and again (`Within.error`), and leaves alone what has such a mantissa already
(`nearest_self`, `nearest_natCast`).
-/

set_option autoImplicit false

namespace AccessControl.Binary

/-- A whole number is the nearest one, or one of two nearest ones and even. -/
def HalfEven (x : ℚ) (n : ℕ) : Prop :=
  |x - n| < 1 / 2 ∨ (|x - n| = 1 / 2 ∧ Even n)

namespace HalfEven

variable {x y : ℚ} {m n : ℕ}

/-- A nearest whole number is at most half a unit away. -/
theorem abs_sub_le (h : HalfEven x n) : |x - n| ≤ 1 / 2 := by
  rcases h with hlt | ⟨heq, -⟩
  · exact hlt.le
  · exact heq.le

/-- Nothing is rounded up by more than one half. -/
theorem sub_half_le (h : HalfEven x n) : (n : ℚ) - 1 / 2 ≤ x := by
  have hdist := (abs_le.mp h.abs_sub_le).1
  linarith

/-- Nothing is rounded down by more than one half. -/
theorem le_add_half (h : HalfEven x n) : x ≤ (n : ℚ) + 1 / 2 := by
  have hdist := (abs_le.mp h.abs_sub_le).2
  linarith

/-- Only an even number is exactly half a unit away from what it is nearest to. -/
theorem even_of_abs_sub_eq (h : HalfEven x n) (hhalf : |x - n| = 1 / 2) : Even n := by
  rcases h with hlt | ⟨-, heven⟩
  · exact absurd hhalf hlt.ne
  · exact heven

/-- Of two numbers, the smaller one has no greater nearest whole number. -/
theorem mono (hx : HalfEven x m) (hy : HalfEven y n) (hle : x ≤ y) : m ≤ n := by
  by_contra hlt
  rw [Nat.not_le, ← Nat.succ_le_iff] at hlt
  have hgap : (n : ℚ) + 1 ≤ m := by exact_mod_cast hlt
  have hlow := hx.sub_half_le
  have hhigh := hy.le_add_half
  -- There is only room for both numbers halfway between two whole ones, and one of these is odd.
  have hxhalf : x - m = -(1 / 2) := by linarith
  have hyhalf : y - n = 1 / 2 := by linarith
  have hsucc : (m : ℚ) = n + 1 := by linarith
  have heven := hx.even_of_abs_sub_eq (by rw [hxhalf, abs_neg, abs_of_pos one_half_pos])
  have heven' := hy.even_of_abs_sub_eq (by rw [hyhalf, abs_of_pos one_half_pos])
  obtain rfl : m = n + 1 := by exact_mod_cast hsucc
  rw [Nat.even_add_one] at heven
  exact heven heven'

/-- A whole number is its own nearest one. -/
theorem natCast (n : ℕ) : HalfEven (n : ℚ) n := by
  left
  rw [sub_self, abs_zero]
  exact one_half_pos

/-- Nothing is rounded past a whole number. -/
theorem le_of_le_natCast (h : HalfEven x m) (hle : x ≤ n) : m ≤ n :=
  h.mono (natCast n) hle

/-- Nor is anything rounded down past one. -/
theorem le_of_natCast_le (h : HalfEven x m) (hle : (n : ℚ) ≤ x) : n ≤ m :=
  (natCast n).mono h hle

end HalfEven

/-! ## Mantissas of 53 digits -/

/-- A number and what it is rounded to: nothing to nothing, and otherwise the mantissa to the nearest
whole number, at the power of two at which it has 53 digits. -/
inductive Nearest : ℚ → ℚ → Prop
  | zero : Nearest 0 0
  | scaled (x : ℚ) (n : ℕ) (e : ℤ) (hlow : 2 ^ 52 ≤ x) (hhigh : x < 2 ^ 53) (h : HalfEven x n) :
    Nearest (x * 2 ^ e) (n * 2 ^ e)

/-- Powers of two are positive. -/
theorem two_zpow_pos (e : ℤ) : (0 : ℚ) < 2 ^ e := zpow_pos two_pos e

/-- Powers of two ascend with their exponents. -/
theorem two_zpow_le {d e : ℤ} (h : d ≤ e) : (2 : ℚ) ^ d ≤ 2 ^ e :=
  zpow_le_zpow_right₀ one_le_two h

/-- At a greater power of two, the least mantissa is above the greatest one. -/
theorem scaled_le_of_lt {d e : ℤ} (h : d < e) : (2 : ℚ) ^ 53 * 2 ^ d ≤ 2 ^ 52 * 2 ^ e := by
  have hstep : (2 : ℚ) ^ 53 * 2 ^ d = 2 ^ 52 * 2 ^ (d + 1) := by
    rw [zpow_add_one₀ two_ne_zero]
    ring
  rw [hstep]
  exact mul_le_mul_of_nonneg_left (two_zpow_le h) (by positivity)

namespace HalfEven

variable {x : ℚ} {n : ℕ}

/-- A mantissa that is long enough stays so. -/
theorem two_pow_le (h : HalfEven x n) (hlow : 2 ^ 52 ≤ x) : 2 ^ 52 ≤ n :=
  h.le_of_natCast_le (by exact_mod_cast hlow)

/-- A mantissa that is not too long is at most rounded up to the next power of two. -/
theorem le_two_pow (h : HalfEven x n) (hhigh : x < 2 ^ 53) : n ≤ 2 ^ 53 :=
  h.le_of_le_natCast (by exact_mod_cast hhigh.le)

end HalfEven

namespace Nearest

variable {p q r s : ℚ}

/-- Only numbers that are not negative are rounded, to such numbers. -/
theorem nonneg (h : Nearest q p) : 0 ≤ q ∧ 0 ≤ p := by
  cases h with
  | zero => exact ⟨le_rfl, le_rfl⟩
  | scaled x n e hlow =>
    have hx : 0 ≤ x := le_trans (by positivity) hlow
    exact ⟨mul_nonneg hx (two_zpow_pos e).le, mul_nonneg n.cast_nonneg (two_zpow_pos e).le⟩

/-- Nothing but zero is rounded to zero. -/
theorem eq_zero_iff (h : Nearest q p) : p = 0 ↔ q = 0 := by
  cases h with
  | zero => exact Iff.rfl
  | scaled x n e hlow hhigh hround =>
    have hx : 0 < x := lt_of_lt_of_le (by positivity) hlow
    have hn : 0 < (n : ℚ) := by
      have hle := hround.two_pow_le hlow
      exact_mod_cast lt_of_lt_of_le (by positivity) hle
    have hscale := two_zpow_pos e
    exact ⟨fun h => absurd h (mul_pos hn hscale).ne', fun h => absurd h (mul_pos hx hscale).ne'⟩

/-- Rounding keeps the order of numbers. -/
theorem mono (h : Nearest q p) (h' : Nearest s r) (hle : q ≤ s) : p ≤ r := by
  cases h with
  | zero => exact h'.nonneg.2
  | scaled x n e hlow hhigh hround =>
    have hscale := two_zpow_pos e
    cases h' with
    | zero =>
      have hpos : 0 < x * 2 ^ e := mul_pos (lt_of_lt_of_le (by positivity) hlow) hscale
      exact absurd hle hpos.not_ge
    | scaled y m d hlow' hhigh' hround' =>
      rcases lt_trichotomy e d with hlt | rfl | hgt
      · have hn : (n : ℚ) ≤ 2 ^ 53 := by exact_mod_cast hround.le_two_pow hhigh
        have hm : (2 : ℚ) ^ 52 ≤ m := by exact_mod_cast hround'.two_pow_le hlow'
        calc (n : ℚ) * 2 ^ e
          _ ≤ 2 ^ 53 * 2 ^ e := mul_le_mul_of_nonneg_right hn hscale.le
          _ ≤ 2 ^ 52 * 2 ^ d := scaled_le_of_lt hlt
          _ ≤ m * 2 ^ d := mul_le_mul_of_nonneg_right hm (two_zpow_pos d).le
      · have hxy : x ≤ y := le_of_mul_le_mul_right hle hscale
        have hnm : (n : ℚ) ≤ m := by exact_mod_cast hround.mono hround' hxy
        exact mul_le_mul_of_nonneg_right hnm hscale.le
      · have habove : y * 2 ^ d < x * 2 ^ e :=
          calc y * 2 ^ d
            _ < 2 ^ 53 * 2 ^ d := mul_lt_mul_of_pos_right hhigh' (two_zpow_pos d)
            _ ≤ 2 ^ 52 * 2 ^ e := scaled_le_of_lt hgt
            _ ≤ x * 2 ^ e := mul_le_mul_of_nonneg_right hlow hscale.le
        exact absurd hle habove.not_ge

/-- There is but one number that a number is rounded to. -/
theorem unique (h : Nearest q p) (h' : Nearest q r) : p = r :=
  le_antisymm (h.mono h' le_rfl) (h'.mono h le_rfl)

/-- Rounding is off by no more than one part in `2 ^ 53`. -/
theorem error (h : Nearest q p) : |p - q| ≤ q / 2 ^ 53 := by
  cases h with
  | zero => norm_num
  | scaled x n e hlow hhigh hround =>
    have hscale := two_zpow_pos e
    have hhalf : |(n : ℚ) - x| ≤ x / 2 ^ 53 := by
      rw [abs_sub_comm]
      have hdist := hround.abs_sub_le
      have hpart : (1 : ℚ) / 2 ≤ x / 2 ^ 53 := by
        rw [le_div_iff₀ (by positivity)]
        linarith
      exact hdist.trans hpart
    calc |(n : ℚ) * 2 ^ e - x * 2 ^ e|
      _ = |(n : ℚ) - x| * 2 ^ e := by rw [← sub_mul, abs_mul, abs_of_pos hscale]
      _ ≤ x / 2 ^ 53 * 2 ^ e := mul_le_mul_of_nonneg_right hhalf hscale.le
      _ = x * 2 ^ e / 2 ^ 53 := by ring

/-- The greatest number that a number is rounded to. -/
theorem le_mul (h : Nearest q p) : p ≤ q * (1 + 1 / 2 ^ 53) := by
  have hdist := (abs_le.mp h.error).2
  linarith

/-- The least number that a number is rounded to. -/
theorem mul_le (h : Nearest q p) : q * (1 - 1 / 2 ^ 53) ≤ p := by
  have hdist := (abs_le.mp h.error).1
  linarith

end Nearest

/-- What has a mantissa of 53 digits is left alone. -/
theorem nearest_self (n : ℕ) (e : ℤ) (hlow : 2 ^ 52 ≤ n) (hhigh : n < 2 ^ 53) :
    Nearest ((n : ℚ) * 2 ^ e) (n * 2 ^ e) :=
  .scaled n n e (by exact_mod_cast hlow) (by exact_mod_cast hhigh) (HalfEven.natCast n)

/-- A mantissa that was rounded up to one digit more is the least mantissa at the next power of
two. -/
theorem exists_mantissa (n : ℕ) (e : ℤ) (hlow : 2 ^ 52 ≤ n) (hhigh : n ≤ 2 ^ 53) :
    ∃ (m : ℕ) (d : ℤ), 2 ^ 52 ≤ m ∧ m < 2 ^ 53 ∧ e ≤ d ∧ (n : ℚ) * 2 ^ e = m * 2 ^ d := by
  rcases Nat.lt_or_eq_of_le hhigh with hlt | rfl
  · exact ⟨n, e, hlow, hlt, le_rfl, rfl⟩
  · refine ⟨2 ^ 52, e + 1, le_rfl, by norm_num, by omega, ?_⟩
    rw [zpow_add_one₀ two_ne_zero]
    push_cast
    ring

/-- Whole numbers of up to 53 binary digits are left alone. -/
theorem nearest_natCast_of_lt (n : ℕ) (h : n < 2 ^ 53) : Nearest (n : ℚ) n := by
  rcases Nat.eq_zero_or_pos n with rfl | hpos
  · exact_mod_cast Nearest.zero
  · -- The leading digit is moved to its place, and the power of two makes up for it.
    have hlog : Nat.log 2 n ≤ 52 := Nat.lt_succ_iff.mp (Nat.log_lt_of_lt_pow hpos.ne' h)
    have hbelow : 2 ^ Nat.log 2 n ≤ n := Nat.pow_log_le_self 2 hpos.ne'
    have habove : n < 2 ^ (Nat.log 2 n + 1) := Nat.lt_pow_succ_log_self one_lt_two n
    have hshift : ∃ k, Nat.log 2 n + k = 52 := ⟨52 - Nat.log 2 n, by omega⟩
    obtain ⟨k, hk⟩ := hshift
    have hlow : 2 ^ 52 ≤ n * 2 ^ k := by
      rw [← hk, pow_add]
      exact Nat.mul_le_mul_right _ hbelow
    have hhigh : n * 2 ^ k < 2 ^ 53 := by
      have hpow : 2 ^ (Nat.log 2 n + 1) * 2 ^ k = 2 ^ 53 := by
        rw [← pow_add]
        congr 1
        omega
      rw [← hpow]
      exact Nat.mul_lt_mul_of_pos_right habove (by positivity)
    have hvalue : ((n * 2 ^ k : ℕ) : ℚ) * 2 ^ (-(k : ℤ)) = n := by
      rw [zpow_neg, zpow_natCast]
      push_cast
      field_simp
    have hself := nearest_self (n * 2 ^ k) (-(k : ℤ)) hlow hhigh
    rwa [hvalue] at hself

/-- Whole numbers of up to 53 binary digits are left alone, and so is the next one. -/
theorem nearest_natCast (n : ℕ) (h : n ≤ 2 ^ 53) : Nearest (n : ℚ) n := by
  rcases Nat.lt_or_eq_of_le h with hlt | rfl
  · exact nearest_natCast_of_lt n hlt
  · obtain ⟨m, d, hlow, hhigh, -, hvalue⟩ := exists_mantissa (2 ^ 53) 0 (by norm_num) le_rfl
    rw [zpow_zero, mul_one] at hvalue
    rw [hvalue]
    exact nearest_self m d hlow hhigh

/-- One is left alone. -/
theorem nearest_one : Nearest 1 1 := by
  exact_mod_cast nearest_natCast 1 (by norm_num)

/-- What was rounded once is left alone. -/
theorem Nearest.nearest_self {q p : ℚ} (h : Nearest q p) : Nearest p p := by
  cases h with
  | zero => exact .zero
  | scaled x n e hlow hhigh hround =>
    obtain ⟨m, d, hlow', hhigh', -, hvalue⟩ :=
      exists_mantissa n e (hround.two_pow_le hlow) (hround.le_two_pow hhigh)
    rw [hvalue]
    exact Binary.nearest_self m d hlow' hhigh'

/-- To a mantissa of 53 digits whose last one counts for two or more, less than one makes no
difference. -/
theorem nearest_add_of_lt_one (n : ℕ) (e : ℤ) (g : ℚ) (hlow : 2 ^ 52 ≤ n) (hhigh : n < 2 ^ 53)
    (he : 1 ≤ e) (hg : 0 ≤ g) (hg' : g < 1) : Nearest ((n : ℚ) * 2 ^ e + g) (n * 2 ^ e) := by
  have hscale := two_zpow_pos e
  have hunit : (2 : ℚ) ≤ 2 ^ e := by simpa using two_zpow_le he
  have hpart : g / 2 ^ e < 1 / 2 := by
    rw [div_lt_div_iff₀ hscale two_pos]
    linarith
  have hpart' : 0 ≤ g / 2 ^ e := div_nonneg hg hscale.le
  have hsum : (n : ℚ) * 2 ^ e + g = (n + g / 2 ^ e) * 2 ^ e := by
    rw [add_mul, div_mul_cancel₀ g hscale.ne']
  have hlow' : (2 : ℚ) ^ 52 ≤ n := by exact_mod_cast hlow
  have hhigh' : (n : ℚ) + 1 ≤ 2 ^ 53 := by exact_mod_cast hhigh
  rw [hsum]
  refine .scaled _ n e (by linarith) (by linarith) (Or.inl ?_)
  rw [add_sub_cancel_left, abs_of_nonneg hpart']
  exact hpart

/-- To what a number of more than 53 digits is rounded to, less than one makes no difference. -/
theorem Nearest.add_of_lt_one {q p : ℚ} (h : Nearest q p) (hq : 2 ^ 53 ≤ q) (g : ℚ) (hg : 0 ≤ g)
    (hg' : g < 1) : Nearest (p + g) p := by
  cases h with
  | zero => norm_num at hq
  | scaled x n e hlow hhigh hround =>
    have hscale : (1 : ℚ) < 2 ^ e := by
      by_contra hle
      have hsmall : x * 2 ^ e ≤ x := mul_le_of_le_one_right (le_trans (by positivity) hlow)
        (not_lt.mp hle)
      exact absurd (hq.trans hsmall) hhigh.not_ge
    have he : 0 < e := (one_lt_zpow_iff_right₀ one_lt_two).mp hscale
    obtain ⟨m, d, hlow', hhigh', hle, hvalue⟩ :=
      exists_mantissa n e (hround.two_pow_le hlow) (hround.le_two_pow hhigh)
    rw [hvalue]
    exact nearest_add_of_lt_one m d g hlow' hhigh' (by omega) hg hg'

/-! ## Several roundings -/

/-- A number is what some roundings may have made of an exact one, each off by no more than one part
in `2 ^ 53` of what it was applied to. -/
structure Within (k : ℕ) (exact rounded : ℚ) : Prop where
  low : exact * (1 - 1 / 2 ^ 53) ^ k ≤ rounded
  high : rounded ≤ exact * (1 + 1 / 2 ^ 53) ^ k

namespace Within

variable {k l : ℕ} {x y p q : ℚ}

/-- Without rounding a number is exact. -/
theorem refl (x : ℚ) : Within 0 x x where
  low := by rw [pow_zero, mul_one]
  high := by rw [pow_zero, mul_one]

/-- A sum of numbers with equally many roundings has no more of them. -/
theorem add (h : Within k x p) (h' : Within k y q) : Within k (x + y) (p + q) where
  low := by
    rw [add_mul]
    exact add_le_add h.low h'.low
  high := by
    rw [add_mul]
    exact add_le_add h.high h'.high

/-- A multiple has as many roundings. -/
theorem mul_const (h : Within k x p) (c : ℚ) (hc : 0 ≤ c) : Within k (x * c) (p * c) where
  low := by
    rw [mul_right_comm]
    exact mul_le_mul_of_nonneg_right h.low hc
  high := by
    rw [mul_right_comm]
    exact mul_le_mul_of_nonneg_right h.high hc

/-- One more rounding. -/
theorem nearest (h : Within k x q) (hround : Nearest q p) : Within (k + 1) x p where
  low := by
    rw [pow_succ, ← mul_assoc]
    exact (mul_le_mul_of_nonneg_right h.low (by norm_num)).trans hround.mul_le
  high := by
    rw [pow_succ, ← mul_assoc]
    exact hround.le_mul.trans (mul_le_mul_of_nonneg_right h.high (by norm_num))

/-- More roundings may be off by more. -/
theorem mono (h : Within k x p) (hx : 0 ≤ x) (hle : k ≤ l) : Within l x p where
  low := (mul_le_mul_of_nonneg_left
    (pow_le_pow_of_le_one (by norm_num) (by norm_num) hle) hx).trans h.low
  high := h.high.trans (mul_le_mul_of_nonneg_left (pow_le_pow_right₀ (by norm_num) hle) hx)

/-- Up to `2 ^ 52` roundings are off by no more than twice what one may be off by, times their
number. -/
theorem error (h : Within k x p) (hx : 0 ≤ x) (hk : k ≤ 2 ^ 52) : |p - x| ≤ x * (k / 2 ^ 52) := by
  have hcount : (k : ℚ) ≤ 2 ^ 52 := by exact_mod_cast hk
  have hlow : 1 - (k : ℚ) / 2 ^ 53 ≤ (1 - 1 / 2 ^ 53) ^ k := by
    have hbernoulli := one_add_mul_le_pow (a := -(1 / 2 ^ 53 : ℚ)) (by norm_num) k
    rw [← sub_eq_add_neg] at hbernoulli
    linarith
  -- The two factors of one rounding make less than one together.
  have hhigh : (1 + 1 / 2 ^ 53 : ℚ) ^ k ≤ 1 + k / 2 ^ 52 := by
    have hproduct : (1 + 1 / 2 ^ 53 : ℚ) ^ k * (1 - 1 / 2 ^ 53) ^ k ≤ 1 := by
      rw [← mul_pow]
      exact pow_le_one₀ (by norm_num) (by norm_num)
    have hpart : 0 < 1 - (k : ℚ) / 2 ^ 53 := by linarith
    have hroom : 1 ≤ (1 + (k : ℚ) / 2 ^ 52) * (1 - k / 2 ^ 53) := by
      have hnonneg : (0 : ℚ) ≤ k := Nat.cast_nonneg k
      have hslack : 0 ≤ (k : ℚ) * (2 ^ 52 - k) := mul_nonneg hnonneg (by linarith)
      linarith
    have hpower : 0 ≤ (1 + 1 / 2 ^ 53 : ℚ) ^ k := by positivity
    refine le_of_mul_le_mul_right ?_ hpart
    exact (mul_le_mul_of_nonneg_left hlow hpower).trans (hproduct.trans hroom)
  have hbelow := (mul_le_mul_of_nonneg_left hlow hx).trans h.low
  have habove := h.high.trans (mul_le_mul_of_nonneg_left hhigh hx)
  rw [abs_le]
  have hshare : 0 ≤ x * ((k : ℚ) / 2 ^ 52) := by positivity
  constructor <;> linarith

end Within

/-- What a number is rounded to has one rounding. -/
theorem Nearest.within {q p : ℚ} (h : Nearest q p) : Within 1 q p :=
  (Within.refl q).nearest h

/-- A quotient of numbers that were rounded is off, once it is rounded itself, by no more than one
part in `2 ^ 51`. -/
theorem Nearest.div_error {q p s r t : ℚ} (hnumerator : Nearest q p) (hdenominator : Nearest s r)
    (hpos : 0 < s) (h : Nearest (p / r) t) : |t - q / s| ≤ q / s / 2 ^ 51 := by
  have hq : 0 ≤ q := hnumerator.nonneg.1
  have hpart : 0 < s * (1 - 1 / 2 ^ 53) := mul_pos hpos (by norm_num)
  have hr : 0 < r := hpart.trans_le hdenominator.mul_le
  have hlow : q * (1 - 1 / 2 ^ 53) / (s * (1 + 1 / 2 ^ 53)) ≤ p / r :=
    div_le_div₀ hnumerator.nonneg.2 hnumerator.mul_le hr hdenominator.le_mul
  have hhigh : p / r ≤ q * (1 + 1 / 2 ^ 53) / (s * (1 - 1 / 2 ^ 53)) :=
    div_le_div₀ (by positivity) hnumerator.le_mul hpart hdenominator.mul_le
  rw [mul_div_mul_comm] at hlow hhigh
  have hshare : 0 ≤ q / s := by positivity
  have hbelow := h.mul_le
  have habove := h.le_mul
  rw [abs_le]
  constructor <;> linarith

end AccessControl.Binary
