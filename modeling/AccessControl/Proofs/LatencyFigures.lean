import AccessControl.Metrics.Report
import AccessControl.Proofs.FloatArithmetic

/-!
# Latencies as figures

A latency is reported as a floating-point number of milliseconds, which takes four roundings: of the
whole seconds, of the fraction of the last second, of their sum, and of its thousandfold. None of
them leaves the numbers of ordinary size. Main statements: figures ascend with the latencies
(`milliseconds_mono`) and are off by three roundings (`exists_denotes_milliseconds`), and so is
their average but for one more rounding of each and of the quotient
(`exists_denotes_averageMilliseconds`).
-/

set_option autoImplicit false

namespace AccessControl

open Binary

namespace Latency

/-! ## The constants -/

/-- The number of nanoseconds in a second is a floating-point number. -/
theorem denotes_billion : Denotes 1e9 1000000000 := by
  have hconstant : Denotes 1e9 _ :=
    denotes_of_unpack (1000000000 * 2 ^ 23) (-23) (by decide) rfl (by decide) (by decide) (by decide)
      (by decide)
  have hvalue : ((1000000000 * 2 ^ 23 : ℕ) : ℚ) * 2 ^ (-23 : ℤ) = 1000000000 := by norm_num
  rwa [hvalue] at hconstant

/-- The number of milliseconds in a second is a floating-point number. -/
theorem denotes_thousand : Denotes 1000 1000 := by
  have hconstant : Denotes 1000 _ :=
    denotes_of_unpack (1000 * 2 ^ 43) (-43) (by decide) rfl (by decide) (by decide) (by decide)
      (by decide)
  have hvalue : ((1000 * 2 ^ 43 : ℕ) : ℚ) * 2 ^ (-43 : ℤ) = 1000 := by norm_num
  rwa [hvalue] at hconstant

/-! ## Seconds and fractions -/

/-- A latency is its whole seconds and the fraction of its last second. -/
theorem seconds_add_fraction (latency : Latency) :
    ((latency.val / 1000000000 : ℕ) : ℚ) + ((latency.val % 1000000000 : ℕ) : ℚ) / 1000000000 =
      (latency.val : ℚ) / 1000000000 := by
  have hsplit : (latency.val : ℚ) =
      1000000000 * (latency.val / 1000000000 : ℕ) + (latency.val % 1000000000 : ℕ) := by
    exact_mod_cast (Nat.div_add_mod latency.val 1000000000).symm
  rw [hsplit]
  ring

/-- The whole seconds of a latency are a 64-bit number. -/
theorem toNat_seconds (latency : Latency) :
    (UInt64.ofNat (latency.val / 1000000000)).toNat = latency.val / 1000000000 := by
  have hlatency := latency.isLt
  apply UInt64.toNat_ofNat_of_lt'
  unfold UInt64.size
  omega

/-! ## Errors of the parts -/

/-- With the whole seconds and the fraction rounded, what they come to is as far off as they are. -/
theorem parts_within {latency : Latency} {seconds fraction : ℚ}
    (hseconds : Nearest ((latency.val / 1000000000 : ℕ) : ℚ) seconds)
    (hfraction : Nearest (((latency.val % 1000000000 : ℕ) : ℚ) / 1000000000) fraction) :
    Within 1 ((latency.val : ℚ) / (1000000000 : ℕ)) (seconds + fraction) := by
  have hparts := hseconds.within.add hfraction.within
  rwa [seconds_add_fraction] at hparts

/-- Seconds become milliseconds. -/
theorem thousandfold_within {latency : Latency} {k : ℕ} {sum : ℚ}
    (h : Within k ((latency.val : ℚ) / (1000000000 : ℕ)) sum) :
    Within k ((latency.val : ℚ) / (1000000 : ℕ)) (sum * 1000) := by
  have hvalue : (latency.val : ℚ) / (1000000000 : ℕ) * 1000 = latency.val / (1000000 : ℕ) := by
    push_cast
    ring
  rw [← hvalue]
  exact h.mul_const 1000 (by norm_num)

/-! ## The roundings -/

/-- What the whole seconds of a latency, the fraction of its last second, their sum and the figure in
milliseconds are rounded to. -/
structure Roundings (latency : Latency) (seconds fraction sum figure : ℚ) : Prop where
  whole : Nearest ((latency.val / 1000000000 : ℕ) : ℚ) seconds
  rest : Nearest (((latency.val % 1000000000 : ℕ) : ℚ) / 1000000000) fraction
  both : Nearest (seconds + fraction) sum
  scaled : Nearest (sum * 1000) figure

namespace Roundings

variable {latency other : Latency} {seconds fraction sum figure : ℚ}
  {seconds' fraction' sum' figure' : ℚ}

/-- A fraction of a second is not rounded up to a whole one. -/
theorem fraction_lt_one (h : Roundings latency seconds fraction sum figure) : fraction < 1 := by
  have hnanoseconds : ((latency.val % 1000000000 : ℕ) : ℚ) ≤ 999999999 := by
    exact_mod_cast Nat.le_of_lt_succ (Nat.mod_lt latency.val (by decide))
  have hrounded := h.rest.le_mul
  linarith

/-- One latency is at most another with more whole seconds after rounding as well: up to `2 ^ 53`
seconds nothing is rounded past the next whole second, and from there on a fraction of a second makes
no difference. -/
theorem sum_le_seconds (h : Roundings latency seconds fraction sum figure)
    (h' : Roundings other seconds' fraction' sum' figure')
    (hlt : latency.val / 1000000000 < other.val / 1000000000) : sum ≤ seconds' := by
  have hfraction := h.fraction_lt_one
  rcases Nat.lt_or_ge (latency.val / 1000000000) (2 ^ 53) with hfew | hmany
  · have hexact := nearest_natCast (latency.val / 1000000000) hfew.le
    have hnext := nearest_natCast (latency.val / 1000000000 + 1) hfew
    have hsum : seconds + fraction ≤ ((latency.val / 1000000000 + 1 : ℕ) : ℚ) := by
      rw [h.whole.unique hexact, Nat.cast_add_one]
      exact add_le_add_right hfraction.le _
    exact (h.both.mono hnext hsum).trans (hnext.mono h'.whole (by exact_mod_cast hlt))
  · have hsame := h.whole.add_of_lt_one (by exact_mod_cast hmany) fraction h.rest.nonneg.2
      hfraction
    rw [h.both.unique hsame]
    exact h.whole.mono h'.whole (by exact_mod_cast hlt.le)

/-- Figures ascend with the latencies. -/
theorem mono (h : Roundings latency seconds fraction sum figure)
    (h' : Roundings other seconds' fraction' sum' figure') (hle : latency.val ≤ other.val) :
    figure ≤ figure' := by
  have hsum : sum ≤ sum' := by
    rcases Nat.lt_or_eq_of_le (Nat.div_le_div_right hle) with hlt | heq
    · have hseconds := h'.whole.nearest_self
      have hmore : seconds' ≤ seconds' + fraction' := le_add_of_nonneg_right h'.rest.nonneg.2
      exact (h.sum_le_seconds h' hlt).trans (hseconds.mono h'.both hmore)
    · have hseconds : seconds = seconds' := h.whole.unique (heq ▸ h'.whole)
      have hrest : latency.val % 1000000000 ≤ other.val % 1000000000 := by omega
      have hfraction : fraction ≤ fraction' := by
        apply h.rest.mono h'.rest
        exact div_le_div_of_nonneg_right (by exact_mod_cast hrest) (by norm_num)
      rw [hseconds] at h
      exact h.both.mono h'.both (add_le_add_right hfraction _)
  exact h.scaled.mono h'.scaled (mul_le_mul_of_nonneg_right hsum (by norm_num))

end Roundings

/-- The figure of a latency denotes what four roundings make of it. -/
theorem exists_roundings (latency : Latency) :
    ∃ seconds fraction sum figure : ℚ, Roundings latency seconds fraction sum figure ∧
      Denotes latency.milliseconds figure ∧
      Within 3 ((latency.val : ℚ) / (1000000 : ℕ)) figure := by
  have hlatency : latency.val < 2 ^ 200 := latency.isLt.trans (by norm_num)
  obtain ⟨seconds, hseconds, dseconds⟩ :=
    denotes_toFloat (UInt64.ofNat (latency.val / 1000000000))
  rw [toNat_seconds] at hseconds
  have dnanoseconds := denotes_toFloat_ofNat (latency.val % 1000000000) (by omega)
  have hquotient : Within 0 (((latency.val % 1000000000 : ℕ) : ℚ) / (1000000000 : ℕ)) _ := .refl _
  obtain ⟨fraction, hfraction, dfraction⟩ :=
    dnanoseconds.div denotes_billion (by norm_num)
      (fits_of_within hquotient (by norm_num) (by omega) (by norm_num) (by norm_num))
  have hparts := parts_within hseconds hfraction
  obtain ⟨sum, hsum, dsum⟩ := dseconds.add dfraction
    (fits_of_within hparts (by norm_num) hlatency (by norm_num) (by norm_num))
  have hthousandfold := thousandfold_within (hparts.nearest hsum)
  obtain ⟨figure, hfigure, dfigure⟩ := dsum.mul denotes_thousand
    (fits_of_within hthousandfold (by norm_num) hlatency (by norm_num) (by norm_num))
  exact ⟨seconds, fraction, sum, figure, ⟨hseconds, hfraction, hsum, hfigure⟩, dfigure,
    hthousandfold.nearest hfigure⟩

/-- A figure is off by three roundings. -/
theorem exists_denotes_milliseconds (latency : Latency) :
    ∃ figure : ℚ, Denotes latency.milliseconds figure ∧
      Within 3 ((latency.val : ℚ) / (1000000 : ℕ)) figure := by
  obtain ⟨_, _, _, figure, -, hdenotes, hwithin⟩ := latency.exists_roundings
  exact ⟨figure, hdenotes, hwithin⟩

/-- A figure is off by three parts in `2 ^ 52` at most. -/
theorem exists_denotes_milliseconds_error (latency : Latency) :
    ∃ figure : ℚ, Denotes latency.milliseconds figure ∧
      |figure - latency.val / 1000000| ≤ (latency.val / 1000000 : ℚ) * (3 / 2 ^ 52) := by
  obtain ⟨figure, hdenotes, hwithin⟩ := latency.exists_denotes_milliseconds
  refine ⟨figure, hdenotes, ?_⟩
  exact_mod_cast hwithin.error (by positivity) (by norm_num)

/-- Of two latencies, the greater one has the greater figure, or the same one. -/
theorem milliseconds_mono {latency other : Latency} (hle : latency ≤ other) :
    latency.milliseconds ≤ other.milliseconds := by
  obtain ⟨_, _, _, _, hroundings, hdenotes, -⟩ := latency.exists_roundings
  obtain ⟨_, _, _, _, hroundings', hdenotes', -⟩ := other.exists_roundings
  exact (hdenotes.le_iff hdenotes').mpr (hroundings.mono hroundings' hle)

end Latency

/-! ## Averages -/

namespace LatencyWindow

/-- The sum of latencies in nanoseconds. -/
def total (latencies : List Latency) : ℕ :=
  (latencies.map (·.val)).sum

/-- One more latency adds to the sum. -/
theorem total_cons (latency : Latency) (rest : List Latency) :
    total (latency :: rest) = latency.val + total rest := by
  unfold total
  rw [List.map_cons, List.sum_cons]

/-- The order of latencies does not change their sum. -/
theorem total_of_perm {latencies others : List Latency} (h : latencies.Perm others) :
    total latencies = total others :=
  (h.map _).sum_nat

/-- A sum of latencies is bounded by their number. -/
theorem total_le (latencies : List Latency) : total latencies ≤ latencies.length * 2 ^ 100 := by
  induction latencies with
  | nil => exact Nat.zero_le _
  | cons latency rest ih =>
    have hlatency := latency.isLt
    rw [total_cons, List.length_cons]
    omega

/-- Adding the figures of latencies one by one takes one more rounding for each. -/
theorem exists_denotes_sum (latencies : List Latency) (k before : ℕ) (x : Float) (p : ℚ)
    (hx : Denotes x p) (h : Within k ((before : ℚ) / (1000000 : ℕ)) p) (hk : 3 ≤ k)
    (hcount : k + latencies.length ≤ 2 ^ 51) (htotal : before + total latencies < 2 ^ 200) :
    ∃ q, Denotes (latencies.foldl (fun sum latency => sum + latency.milliseconds) x) q ∧
      Within (k + latencies.length) (((before + total latencies : ℕ) : ℚ) / (1000000 : ℕ)) q := by
  induction latencies generalizing k before x p with
  | nil => exact ⟨p, hx, h⟩
  | cons latency rest ih =>
    rw [total_cons, ← Nat.add_assoc] at htotal ⊢
    rw [List.length_cons, Nat.add_comm rest.length, ← Nat.add_assoc] at hcount ⊢
    obtain ⟨figure, hfigure, hwithin⟩ := latency.exists_denotes_milliseconds
    -- The figure is off by no more roundings than the sum so far, so both together are not either.
    have hboth : Within k (((before + latency.val : ℕ) : ℚ) / (1000000 : ℕ)) (p + figure) := by
      rw [Nat.cast_add, add_div]
      exact h.add (hwithin.mono (by positivity) hk)
    obtain ⟨q, hq, hnext⟩ := hx.add hfigure
      (fits_of_within hboth (by omega) (by omega) (by norm_num) (by norm_num))
    exact ih (k + 1) (before + latency.val) _ q hnext (hboth.nearest hq) (by omega) hcount htotal

/-- The average of up to `2 ^ 50` latencies is off by one rounding for each and four more. -/
theorem exists_denotes_averageMilliseconds (latencies : List Latency) (hsome : latencies ≠ [])
    (hcount : latencies.length ≤ 2 ^ 50) :
    ∃ mean, Denotes (averageMilliseconds latencies) mean ∧
      Within (latencies.length + 4)
        ((total latencies : ℚ) / (1000000 * latencies.length : ℕ)) mean := by
  have hpos : 0 < latencies.length := List.length_pos_iff.mpr hsome
  have htotal : 0 + total latencies < 2 ^ 200 := by
    have hle := total_le latencies
    omega
  have hnothing : Within 3 (((0 : ℕ) : ℚ) / (1000000 : ℕ)) 0 := by
    rw [Nat.cast_zero, zero_div]
    exact (Within.refl 0).mono le_rfl (Nat.zero_le 3)
  obtain ⟨sum, dsum, hsum⟩ :=
    exists_denotes_sum latencies 3 0 0 0 denotes_zero hnothing le_rfl (by omega) htotal
  have dlength := denotes_toFloat_ofNat latencies.length (by omega)
  have hlength : (latencies.length : ℚ) ≠ 0 := by exact_mod_cast hpos.ne'
  have hquotient : Within (3 + latencies.length)
      ((total latencies : ℚ) / (1000000 * latencies.length : ℕ)) (sum / latencies.length) := by
    have hscaled := hsum.mul_const (1 / latencies.length) (by positivity)
    rw [Nat.zero_add, div_mul_div_comm, mul_one, mul_one_div, ← Nat.cast_mul] at hscaled
    exact hscaled
  obtain ⟨mean, hmean, dmean⟩ := dsum.div dlength hlength
    (fits_of_within hquotient (by omega) (by omega) (by omega) (by omega))
  refine ⟨mean, dmean, ?_⟩
  rw [show latencies.length + 4 = 3 + latencies.length + 1 by omega]
  exact hquotient.nearest hmean

end LatencyWindow

end AccessControl
