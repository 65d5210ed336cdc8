import SettlementOps.Numeric.HalfAway
import SettlementOps.Policy.FeeSchedule

/-!
# Half-up rounding over all integers

`mulDivHalfUp` rounds the magnitude of the product by the magnitude of the denominator, and gives
the result the sign of the product.  The sign of the denominator is lost.

* `mulDivHalfUp_halfAway` — it rounds the quotient by the magnitude of the denominator.
* `HalfUpLaw` — what rounding half away from zero asks at one input.
* `mulDivHalfUp_law_iff` — where the function obeys it.
-/

namespace SettlementOps

open Numeric

/-- **The sign of the denominator is lost**: the function rounds by its magnitude. -/
theorem mulDivHalfUp_halfAway (amount numerator denominator : Int) (h : denominator ≠ 0) :
    IsHalfAway (amount * numerator) |denominator|
      (mulDivHalfUp amount numerator denominator h) := by
  have hpos : 0 < |denominator| := abs_pos.2 h
  unfold mulDivHalfUp
  dsimp only
  rw [magnitude_eq_abs denominator]
  by_cases hneg : amount * numerator < 0
  · rw [if_pos hneg, if_pos hneg]
    have hmagnitude := (isHalfAway_ediv (neg_nonneg.2 hneg.le) hpos).neg_num
    rwa [neg_neg] at hmagnitude
  · rw [if_neg hneg, if_neg hneg]
    exact isHalfAway_ediv (not_lt.1 hneg) hpos

/-- The law of half-up rounding at one input: the result is the nearest integer to the quotient,
the farther one from zero of two, and is negated with any of the three arguments. -/
structure HalfUpLaw (amount numerator denominator : Int) (h : denominator ≠ 0) : Prop where
  rounds : IsHalfAway (amount * numerator) denominator
    (mulDivHalfUp amount numerator denominator h)
  neg_amount : mulDivHalfUp (-amount) numerator denominator h =
    -mulDivHalfUp amount numerator denominator h
  neg_numerator : mulDivHalfUp amount (-numerator) denominator h =
    -mulDivHalfUp amount numerator denominator h
  neg_denominator : mulDivHalfUp amount numerator (-denominator) (neg_ne_zero.2 h) =
    -mulDivHalfUp amount numerator denominator h

section

variable (amount numerator : Int) {denominator : Int} (h : denominator ≠ 0)

/-- The result depends on the product and on the magnitude of the denominator alone. -/
theorem mulDivHalfUp_eq_of_halfAway {r : Int}
    (hr : IsHalfAway (amount * numerator) |denominator| r) :
    mulDivHalfUp amount numerator denominator h = r :=
  (mulDivHalfUp_halfAway amount numerator denominator h).unique (abs_ne_zero.2 h) hr

theorem mulDivHalfUp_neg_amount : mulDivHalfUp (-amount) numerator denominator h =
    -mulDivHalfUp amount numerator denominator h := by
  apply mulDivHalfUp_eq_of_halfAway
  rw [neg_mul]
  exact (mulDivHalfUp_halfAway amount numerator denominator h).neg_num

theorem mulDivHalfUp_neg_numerator : mulDivHalfUp amount (-numerator) denominator h =
    -mulDivHalfUp amount numerator denominator h := by
  apply mulDivHalfUp_eq_of_halfAway
  rw [mul_neg]
  exact (mulDivHalfUp_halfAway amount numerator denominator h).neg_num

theorem mulDivHalfUp_neg_denominator :
    mulDivHalfUp amount numerator (-denominator) (neg_ne_zero.2 h) =
      mulDivHalfUp amount numerator denominator h := by
  apply mulDivHalfUp_eq_of_halfAway
  rw [abs_neg]
  exact mulDivHalfUp_halfAway amount numerator denominator h

theorem mulDivHalfUp_eq_zero_iff : mulDivHalfUp amount numerator denominator h = 0 ↔
    2 * |amount * numerator| < |denominator| := by
  rw [← abs_abs denominator, ← isHalfAway_zero_iff]
  constructor
  · intro hzero
    have hrounds := mulDivHalfUp_halfAway amount numerator denominator h
    rwa [hzero] at hrounds
  · exact mulDivHalfUp_eq_of_halfAway amount numerator h

/-- By a positive denominator the quotient is rounded; by a negative one its negative is, so only
a zero is right. -/
theorem mulDivHalfUp_rounds_iff :
    IsHalfAway (amount * numerator) denominator
        (mulDivHalfUp amount numerator denominator h) ↔
      0 < denominator ∨ 2 * |amount * numerator| < |denominator| := by
  have hrounds := mulDivHalfUp_halfAway amount numerator denominator h
  rcases lt_or_gt_of_ne h with hneg | hpos
  · rw [abs_of_neg hneg] at hrounds
    have hopposite := hrounds.neg_den
    rw [neg_neg] at hopposite
    rw [← mulDivHalfUp_eq_zero_iff amount numerator h]
    constructor
    · intro hlaw
      have hsame := hlaw.unique h hopposite
      exact .inr (by omega)
    · rintro (hpos | hzero)
      · exact absurd hpos hneg.not_gt
      · rw [hzero, neg_zero] at hopposite
        rwa [hzero]
  · rw [abs_of_pos hpos] at hrounds
    exact iff_of_true hrounds (.inl hpos)

end

/-- **Half-up rounding over all integers.**  The quotient is rounded half away from zero exactly
when the denominator is positive or the quotient is less than a half.  Negating the amount or
the numerator negates the result; negating the denominator does not, unless the result is zero. -/
theorem mulDivHalfUp_law_iff (amount numerator denominator : Int) (h : denominator ≠ 0) :
    (IsHalfAway (amount * numerator) denominator
        (mulDivHalfUp amount numerator denominator h) ↔
      0 < denominator ∨ 2 * |amount * numerator| < |denominator|) ∧
    (HalfUpLaw amount numerator denominator h ↔
      2 * |amount * numerator| < |denominator|) ∧
    mulDivHalfUp (-amount) numerator denominator h =
      -mulDivHalfUp amount numerator denominator h ∧
    mulDivHalfUp amount (-numerator) denominator h =
      -mulDivHalfUp amount numerator denominator h := by
  have hrounds := mulDivHalfUp_rounds_iff amount numerator h
  have hamount := mulDivHalfUp_neg_amount amount numerator h
  have hnumerator := mulDivHalfUp_neg_numerator amount numerator h
  have hdenominator := mulDivHalfUp_neg_denominator amount numerator h
  refine ⟨hrounds, ⟨fun hlaw => ?_, fun hsmall => ?_⟩, hamount, hnumerator⟩
  · have hnegated := hlaw.neg_denominator
    rw [hdenominator] at hnegated
    exact (mulDivHalfUp_eq_zero_iff amount numerator h).1 (by omega)
  · have hzero := (mulDivHalfUp_eq_zero_iff amount numerator h).2 hsmall
    exact ⟨hrounds.2 (.inr hsmall), hamount, hnumerator, by rw [hdenominator, hzero, neg_zero]⟩

/-- Five halves round to three. -/
theorem mulDivHalfUp_law_fiveHalves :
    (0 < (2 : Int) ∨ 2 * |(5 : Int) * 1| < |(2 : Int)|) ∧
      IsHalfAway (5 * 1) 2 (mulDivHalfUp 5 1 2 (by decide)) := by
  have hpos : 0 < (2 : Int) ∨ 2 * |(5 : Int) * 1| < |(2 : Int)| := .inl (by decide)
  exact ⟨hpos, (mulDivHalfUp_law_iff 5 1 2 (by decide)).1.2 hpos⟩

/-- Five by minus two is rounded to three and not to minus three, and so is five by two. -/
theorem negativeDenominator_not_halfUp :
    mulDivHalfUp 5 1 (-2) (by decide) = 3 ∧ mulDivHalfUp 5 1 2 (by decide) = 3 ∧
      ¬ 2 * |(-2 : Int) * 3 - 5 * 1| ≤ |(-2 : Int)| ∧
      ¬ HalfUpLaw 5 1 (-2) (by decide) := by
  have hresult : mulDivHalfUp 5 1 (-2) (by decide) = 3 := by decide
  have hfar : ¬ 2 * |(-2 : Int) * 3 - 5 * 1| ≤ |(-2 : Int)| := by decide
  refine ⟨hresult, by decide, hfar, fun hlaw => hfar ?_⟩
  have hnearest := hlaw.rounds.nearest
  rwa [hresult] at hnearest

end SettlementOps
