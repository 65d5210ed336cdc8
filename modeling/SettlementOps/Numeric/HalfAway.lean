import Mathlib.Algebra.Order.Ring.Abs
import Mathlib.Tactic.Linarith
import Mathlib.Tactic.Ring

/-!
# The nearest integer, halves away from zero

What it is to round a quotient of integers half away from zero, said of the numerator, the
denominator and the result, with no division.

* `IsHalfAway` — the result is nearest to the quotient, and the larger of two that are.
* `IsHalfAway.closest`, `IsHalfAway.unique` — there is one such integer.
* `IsHalfAway.neg_num`, `IsHalfAway.neg_den` — the rounding is odd in both arguments.
* `isHalfAway_ediv` — how it is computed of non-negative numbers.
-/

namespace SettlementOps
namespace Numeric

/-- `r` is the integer nearest to `x / d`; of two that are equally near, the one of larger
magnitude. -/
structure IsHalfAway (x d r : ℤ) : Prop where
  nearest : 2 * |d * r - x| ≤ |d|
  away : 2 * |d * r - x| = |d| → ∀ r', 2 * |d * r' - x| = |d| → |r'| ≤ |r|

variable {x d r r' : ℤ}

/-- Two multiples of the denominator are as far apart as their distances from the numerator
allow. -/
theorem abs_mul_abs_sub_le (x d r r' : ℤ) : |d| * |r' - r| ≤ |d * r' - x| + |d * r - x| := by
  have hsplit : d * (r' - r) = (d * r' - x) - (d * r - x) := by ring
  rw [← abs_mul, hsplit]
  exact abs_sub _ _

/-- No integer is nearer. -/
theorem IsHalfAway.closest (h : IsHalfAway x d r) (r' : ℤ) : |d * r - x| ≤ |d * r' - x| := by
  by_cases heq : r' = r
  · rw [heq]
  · have hone : 1 ≤ |r' - r| := Int.one_le_abs (sub_ne_zero.2 heq)
    have hapart : |d| ≤ |d| * |r' - r| := le_mul_of_one_le_right (abs_nonneg d) hone
    have hspan := abs_mul_abs_sub_le x d r r'
    have hnearest := h.nearest
    linarith

/-- **There is one such integer.** -/
theorem IsHalfAway.unique (hd : d ≠ 0) (h : IsHalfAway x d r) (h' : IsHalfAway x d r') :
    r = r' := by
  by_contra hne
  have hpos : 0 < |d| := abs_pos.2 hd
  have hone : 1 ≤ |r' - r| := Int.one_le_abs (sub_ne_zero.2 (Ne.symm hne))
  have hsame : |d * r - x| = |d * r' - x| := le_antisymm (h.closest r') (h'.closest r)
  have hspan := abs_mul_abs_sub_le x d r r'
  have hnearest := h.nearest
  -- so they are neighbours, and each half a unit off
  have hstep : |r' - r| = 1 := by
    have hmul : |d| * |r' - r| ≤ |d| * 1 := by linarith
    exact le_antisymm (le_of_mul_le_mul_left hmul hpos) hone
  have htie : 2 * |d * r - x| = |d| := by
    rw [hstep, mul_one] at hspan
    linarith
  have htie' : 2 * |d * r' - x| = |d| := by rw [← hsame, htie]
  have hlarge : |r| = |r'| := le_antisymm (h'.away htie' r htie) (h.away htie r' htie')
  rcases abs_eq_abs.1 hlarge with heq | hopp
  · exact hne heq
  · rcases abs_eq (by decide : (0 : ℤ) ≤ 1) |>.1 hstep with hstep | hstep <;> omega

theorem IsHalfAway.neg_num (h : IsHalfAway x d r) : IsHalfAway (-x) d (-r) := by
  have hflip : ∀ s : ℤ, |d * s - -x| = |d * -s - x| := by
    intro s
    rw [← abs_neg]
    congr 1
    ring
  constructor
  · rw [hflip, neg_neg]
    exact h.nearest
  · intro htie r' htie'
    rw [hflip, neg_neg] at htie
    rw [hflip] at htie'
    have haway := h.away htie (-r') htie'
    rwa [abs_neg] at haway ⊢

theorem IsHalfAway.neg_den (h : IsHalfAway x d r) : IsHalfAway x (-d) (-r) := by
  have hflip : ∀ s : ℤ, |-d * s - x| = |d * -s - x| := by
    intro s
    congr 1
    ring
  constructor
  · rw [hflip, neg_neg, abs_neg]
    exact h.nearest
  · intro htie r' htie'
    rw [hflip, neg_neg, abs_neg] at htie
    rw [hflip, abs_neg] at htie'
    have haway := h.away htie (-r') htie'
    rwa [abs_neg] at haway ⊢

/-- A quotient rounds to zero when it is less than a half, and not when it is one. -/
theorem isHalfAway_zero_iff : IsHalfAway x d 0 ↔ 2 * |x| < |d| := by
  have hzero : |d * 0 - x| = |x| := by rw [mul_zero, zero_sub, abs_neg]
  constructor
  · intro h
    have hnearest := h.nearest
    rw [hzero] at hnearest
    refine lt_of_le_of_ne hnearest fun htie => ?_
    -- of a half, the other neighbour is the farther one from zero
    obtain ⟨s, hs, hnext⟩ : ∃ s : ℤ, |s| = 1 ∧ |d * s - x| = |x| := by
      have hhalf : |2 * x| = |d| := by rw [abs_mul, abs_two, htie]
      rcases abs_eq_abs.1 hhalf with hd | hd
      · refine ⟨1, rfl, ?_⟩
        rw [← hd]
        congr 1
        ring
      · refine ⟨-1, rfl, ?_⟩
        rw [← neg_eq_iff_eq_neg.2 hd]
        congr 1
        ring
    have haway := h.away (by rw [hzero, htie]) s (by rw [hnext, htie])
    rw [hs, abs_zero] at haway
    exact absurd haway (by decide)
  · intro hsmall
    refine ⟨by rw [hzero]; exact hsmall.le, fun htie => ?_⟩
    rw [hzero] at htie
    exact absurd htie hsmall.ne

/-- **Rounding up from half on**, of non-negative numbers. -/
theorem isHalfAway_ediv (hx : 0 ≤ x) (hd : 0 < d) :
    IsHalfAway x d (if x % d * 2 ≥ d then x / d + 1 else x / d) := by
  have hdiv := Int.emod_add_mul_ediv x d
  have hmod := Int.emod_nonneg x hd.ne'
  have hmod' := Int.emod_lt_of_pos x hd
  have hquot : 0 ≤ x / d := Int.ediv_nonneg hx hd.le
  split
  · have hdist : d * (x / d + 1) - x = d - x % d := by linarith
    refine ⟨?_, fun _ r' htie' => ?_⟩
    · rw [hdist, abs_of_nonneg (by linarith), abs_of_pos hd]
      linarith
    · -- an integer half a unit off is neither negative nor above the one taken
      rw [abs_of_pos hd] at htie'
      have hlo := neg_abs_le (d * r' - x)
      have hhi := le_abs_self (d * r' - x)
      have hr : -1 < r' := by
        refine lt_of_mul_lt_mul_left ?_ hd.le
        linarith
      have hr' : r' < x / d + 2 := by
        refine lt_of_mul_lt_mul_left ?_ hd.le
        linarith
      rw [abs_of_nonneg (by omega), abs_of_nonneg (by omega)]
      omega
  · have hdist : d * (x / d) - x = -(x % d) := by linarith
    rename_i hdown
    rw [ge_iff_le, not_le] at hdown
    have hless : 2 * |d * (x / d) - x| < |d| := by
      rw [hdist, abs_neg, abs_of_nonneg hmod, abs_of_pos hd]
      linarith
    exact ⟨hless.le, fun htie => absurd htie hless.ne⟩

end Numeric
end SettlementOps
