import Mathlib.Algebra.BigOperators.Group.List.Basic
import Mathlib.Algebra.Order.Ring.Abs
import Mathlib.Tactic.Linarith
import Mathlib.Tactic.Ring

/-!
# Functions that track a line

A rounded multiplication stays close to the line it rounds.  `Tracks scale slope error f`
says by how much, with everything multiplied out by `scale` so that no division is left.

* `Tracks.comp`, `Tracks.sub` — what rounding twice, and subtracting, does to the error.
* `Tracks.sum` — how far the values at the parts of a sum are from the value at the sum.
-/

namespace SettlementOps
namespace Numeric

variable {R : Type*} [CommRing R] [LinearOrder R] [IsStrictOrderedRing R]

/-- `scale * f x` is within `error` of `slope * x`, everywhere. -/
def Tracks (scale slope error : R) (f : R → R) : Prop :=
  ∀ x, |scale * f x - slope * x| ≤ error

variable {scale slope error slope' error' : R} {f g : R → R}

theorem tracks_id (scale : R) : Tracks scale scale 0 fun x => x := by
  intro x
  rw [sub_self, abs_zero]

/-- The same line at a larger scale. -/
theorem Tracks.rescale (h : Tracks scale slope error f) {c : R} (hc : 0 ≤ c) :
    Tracks (c * scale) (c * slope) (c * error) f := by
  intro x
  have hmul : c * scale * f x - c * slope * x = c * (scale * f x - slope * x) := by ring
  rw [hmul, abs_mul, abs_of_nonneg hc]
  exact mul_le_mul_of_nonneg_left (h x) hc

/-- **Rounding a rounded value.**  The first error passes through the second slope. -/
theorem Tracks.comp {scale' : R} (hg : Tracks scale' slope' error' g)
    (hf : Tracks scale slope error f) (hscale : 0 ≤ scale) (hslope : 0 ≤ slope') :
    Tracks (scale * scale') (slope' * slope) (scale * error' + slope' * error)
      fun x => g (f x) := by
  intro x
  have hsplit : scale * scale' * g (f x) - slope' * slope * x =
      scale * (scale' * g (f x) - slope' * f x) + slope' * (scale * f x - slope * x) := by ring
  have hfirst := mul_le_mul_of_nonneg_left (hg (f x)) hscale
  have hsecond := mul_le_mul_of_nonneg_left (hf x) hslope
  calc |scale * scale' * g (f x) - slope' * slope * x|
      ≤ |scale * (scale' * g (f x) - slope' * f x)| + |slope' * (scale * f x - slope * x)| := by
        rw [hsplit]
        exact abs_add_le _ _
    _ ≤ scale * error' + slope' * error := by
        rw [abs_mul, abs_mul, abs_of_nonneg hscale, abs_of_nonneg hslope]
        exact add_le_add hfirst hsecond

theorem Tracks.sub (hf : Tracks scale slope error f) (hg : Tracks scale slope' error' g) :
    Tracks scale (slope - slope') (error + error') fun x => f x - g x := by
  intro x
  have hsplit : scale * (f x - g x) - (slope - slope') * x =
      (scale * f x - slope * x) - (scale * g x - slope' * x) := by ring
  rw [hsplit]
  exact le_trans (abs_sub _ _) (add_le_add (hf x) (hg x))

/-- The values at the parts, against the line at their sum: one error a part. -/
theorem Tracks.sum_map (h : Tracks scale slope error f) (xs : List R) :
    |scale * (xs.map f).sum - slope * xs.sum| ≤ xs.length * error := by
  induction xs with
  | nil => simp
  | cons x xs ih =>
      have hsplit : scale * (f x + (xs.map f).sum) - slope * (x + xs.sum) =
          (scale * f x - slope * x) + (scale * (xs.map f).sum - slope * xs.sum) := by ring
      rw [List.map_cons, List.sum_cons, List.sum_cons, List.length_cons, hsplit]
      push_cast
      have hadd := abs_add_le (scale * f x - slope * x)
        (scale * (xs.map f).sum - slope * xs.sum)
      have hx := h x
      linarith

/-- **Splitting a value.**  The values at `n` parts add up to the value at the whole, but for
`n + 1` errors. -/
theorem Tracks.sum (h : Tracks scale slope error f) (xs : List R) :
    |scale * ((xs.map f).sum - f xs.sum)| ≤ (xs.length + 1) * error := by
  have hsplit : scale * ((xs.map f).sum - f xs.sum) =
      (scale * (xs.map f).sum - slope * xs.sum) - (scale * f xs.sum - slope * xs.sum) := by ring
  have hparts := h.sum_map xs
  have hwhole := h xs.sum
  have hsub := abs_sub (scale * (xs.map f).sum - slope * xs.sum)
    (scale * f xs.sum - slope * xs.sum)
  rw [hsplit]
  linarith

end Numeric
end SettlementOps
