import AccessControl.Metrics.Counters
import AccessControl.Proofs.FloatArithmetic

/-!
# The share of allowed checks

The share of allowed checks is a quotient of two counters, and the lower one is a sum that can
overflow. As long as it does not, the rate is the share of the allowed checks among all that were
decided, and the floating-point number for it is between zero and one; nothing is divided by zero.
As soon as the sum overflows there is no rate at all, not even where one could be told. Main
statement: `exists_isShare_iff`.
-/

set_option autoImplicit false

namespace AccessControl.Counters

open Binary

/-- The share of allowed checks among all that were decided, before rounding; zero if there were
none. -/
def share (c : Counters) : ℚ :=
  c.allowed.toNat / (c.allowed.toNat + c.denied.toNat : ℕ)

/-- A rate is the share of allowed checks: it is zero if nothing was decided and otherwise the
floating-point quotient of the allowed checks and the true sum, which is not zero there. The share
itself lies between zero and one and is zero only if nothing was allowed; the rate denotes a number
in the same range, which differs from the share by no more than one part in `2 ^ 51`. -/
structure IsShare (c : Counters) (rate : Float) : Prop where
  idle : c.allowed.toNat + c.denied.toNat = 0 → rate = 0
  quotient : c.allowed.toNat + c.denied.toNat ≠ 0 → ∃ decided : UInt64,
    decided.toNat = c.allowed.toNat + c.denied.toNat ∧ decided ≠ 0 ∧
      rate = c.allowed.toFloat / decided.toFloat
  share_nonneg : 0 ≤ c.share
  share_le_one : c.share ≤ 1
  share_eq_zero : c.share = 0 → c.allowed = 0
  rounded : ∃ figure, Denotes rate figure ∧ 0 ≤ figure ∧ figure ≤ 1 ∧
    |figure - c.share| ≤ c.share / 2 ^ 51

section

variable (c : Counters)

/-- A share is not negative. -/
theorem share_nonneg : 0 ≤ c.share :=
  div_nonneg (Nat.cast_nonneg _) (Nat.cast_nonneg _)

/-- A share is at most the whole. -/
theorem share_le_one : c.share ≤ 1 := by
  apply div_le_one_of_le₀ _ (Nat.cast_nonneg _)
  exact_mod_cast Nat.le_add_right c.allowed.toNat c.denied.toNat

/-- The share is zero only if nothing was allowed. -/
theorem allowed_eq_zero_of_share (h : c.share = 0) : c.allowed = 0 := by
  apply UInt64.toNat_inj.mp
  show c.allowed.toNat = 0
  rcases div_eq_zero_iff.mp h with hallowed | hnone
  · exact_mod_cast hallowed
  · have hsum : c.allowed.toNat + c.denied.toNat = 0 := by exact_mod_cast hnone
    omega

/-- A sum that overflows is no sum. -/
theorem decided?_eq_none (h : UInt64.size ≤ c.allowed.toNat + c.denied.toNat) :
    c.decided? = none := by
  unfold decided?
  rw [if_neg (Nat.not_lt_of_le h)]

/-- A sum that does not overflow is the true sum. -/
theorem exists_decided? (h : c.allowed.toNat + c.denied.toNat < UInt64.size) :
    ∃ decided, c.decided? = some decided ∧
      decided.toNat = c.allowed.toNat + c.denied.toNat := by
  refine ⟨c.allowed + c.denied, ?_, ?_⟩
  · unfold decided?
    rw [if_pos h]
  · rw [UInt64.toNat_add]
    exact Nat.mod_eq_of_lt h

/-- A quotient of two counters, the lower one not zero, is of ordinary size unless it is zero. -/
theorem fits_quotient (part whole : UInt64) {p r : ℚ} (hp : Nearest (part.toNat : ℚ) p)
    (hr : Nearest (whole.toNat : ℚ) r) (hpos : 0 < r) (hle : p / r ≤ 1) : Fits (p / r) := by
  rcases Nat.eq_zero_or_pos part.toNat with hzero | hsome
  · left
    rw [hp.eq_zero_iff.mpr (by rw [hzero, Nat.cast_zero]), zero_div]
  · right
    have hleast : 1 ≤ p := nearest_one.mono hp (by exact_mod_cast hsome)
    have hgreatest : r ≤ 2 ^ 65 := by
      have hwhole : (whole.toNat : ℚ) < 2 ^ 64 := by exact_mod_cast whole.toNat_lt
      have hrounded := hr.le_mul
      linarith
    apply ordinary_of_bounds (-65) 1 (by decide) (by decide)
    · calc (2 : ℚ) ^ (-65 : ℤ)
        _ = 1 / 2 ^ 65 := by norm_num
        _ ≤ p / r := div_le_div₀ hp.nonneg.2 hleast hpos hgreatest
    · norm_num
      linarith

/-- The floating-point quotient of a part and a whole denotes a number between zero and one. -/
theorem exists_denotes_quotient (part whole : UInt64) (hle : part.toNat ≤ whole.toNat)
    (hpos : 0 < whole.toNat) :
    ∃ figure, Denotes (part.toFloat / whole.toFloat) figure ∧ 0 ≤ figure ∧ figure ≤ 1 ∧
      |figure - part.toNat / whole.toNat| ≤ (part.toNat / whole.toNat : ℚ) / 2 ^ 51 := by
  obtain ⟨p, hp, dp⟩ := denotes_toFloat part
  obtain ⟨r, hr, dr⟩ := denotes_toFloat whole
  have hle' : p ≤ r := hp.mono hr (by exact_mod_cast hle)
  have hpos' : (0 : ℚ) < whole.toNat := by exact_mod_cast hpos
  have hr' : 0 < r := lt_of_le_of_ne hr.nonneg.2 (Ne.symm (mt hr.eq_zero_iff.mp hpos'.ne'))
  have hratio : p / r ≤ 1 := (div_le_one hr').mpr hle'
  obtain ⟨figure, hfigure, dfigure⟩ := dp.div dr hr'.ne' (fits_quotient part whole hp hr hr' hratio)
  -- The quotient may be rounded up, but not past one, which is a floating-point number.
  have hone : figure ≤ 1 := hfigure.mono nearest_one hratio
  exact ⟨figure, dfigure, dfigure.nonneg, hone, hp.div_error hr hpos' hfigure⟩

/-- As long as the sum does not overflow, there is a rate, and it is the share. -/
theorem exists_isShare (h : c.allowed.toNat + c.denied.toNat < UInt64.size) :
    ∃ rate, c.allowRate? = some rate ∧ c.IsShare rate := by
  obtain ⟨decided, hdecided, hsum⟩ := c.exists_decided? h
  unfold allowRate?
  rw [hdecided, Option.map_some]
  refine ⟨_, rfl, ?_, ?_, c.share_nonneg, c.share_le_one, c.allowed_eq_zero_of_share, ?_⟩
  · intro hidle
    rw [hidle] at hsum
    rw [if_pos (UInt64.toNat_inj.mp hsum)]
  · intro hbusy
    have hnonzero : decided ≠ 0 := by
      rintro rfl
      exact hbusy hsum.symm
    exact ⟨decided, hsum, hnonzero, if_neg hnonzero⟩
  · unfold share
    rw [← hsum]
    by_cases hzero : decided = 0
    · refine ⟨0, ?_, le_rfl, zero_le_one, ?_⟩
      · rw [if_pos hzero]
        exact denotes_zero
      · rw [hzero]
        norm_num
    · rw [if_neg hzero]
      have hpos : 0 < decided.toNat := by
        apply Nat.pos_of_ne_zero
        intro hnone
        exact hzero (UInt64.toNat_inj.mp hnone)
      exact exists_denotes_quotient c.allowed decided (by omega) hpos

end

/-- There is a rate that is the share of the allowed checks exactly when the numbers of allowed and
of denied checks add up without overflow. Otherwise neither the sum nor a rate comes of it. -/
theorem exists_isShare_iff (c : Counters) :
    ((∃ rate, c.allowRate? = some rate ∧ c.IsShare rate) ↔
      c.allowed.toNat + c.denied.toNat < 18446744073709551616) ∧
    (18446744073709551616 ≤ c.allowed.toNat + c.denied.toNat →
      c.decided? = none ∧ c.allowRate? = none) := by
  have hoverflow (h : UInt64.size ≤ c.allowed.toNat + c.denied.toNat) :
      c.decided? = none ∧ c.allowRate? = none := by
    have hnone := c.decided?_eq_none h
    refine ⟨hnone, ?_⟩
    unfold allowRate?
    rw [hnone, Option.map_none]
  refine ⟨⟨?_, c.exists_isShare⟩, hoverflow⟩
  rintro ⟨rate, hrate, -⟩
  by_contra hnot
  rw [(hoverflow (Nat.le_of_not_lt hnot)).2] at hrate
  cases hrate

/-- Of twice 2 ^ 63 checks one half was allowed, but the sum overflows, and no rate is told. -/
theorem not_exists_isShare_halves :
    let c : Counters := { zero with allowed := 9223372036854775808, denied := 9223372036854775808 }
    c.share = 1 / 2 ∧ c.decided? = none ∧ c.allowRate? = none ∧
      ¬ ∃ rate, c.allowRate? = some rate ∧ c.IsShare rate := by
  intro c
  have hdecided : c.decided? = none := by decide
  have hrate : c.allowRate? = none := by
    unfold allowRate?
    rw [hdecided, Option.map_none]
  refine ⟨?_, hdecided, hrate, ?_⟩
  · have hallowed : c.allowed.toNat = 9223372036854775808 := by decide
    unfold share
    rw [hallowed]
    norm_num
  · rintro ⟨rate, hsome, -⟩
    rw [hrate] at hsome
    cases hsome

end AccessControl.Counters
