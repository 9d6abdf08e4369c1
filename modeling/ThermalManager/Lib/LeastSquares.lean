import Mathlib.Algebra.BigOperators.Field
import Mathlib.Algebra.Order.BigOperators.Ring.Finset
import Mathlib.Tactic.LinearCombination

/-!
# Least squares

The straight line through `n` samples with the least sum of squared errors. A line whose residuals
are orthogonal to the constants and to the positions is one; the quotient of sums that programs
compute is the slope of such a line.
-/

namespace LeastSquares

open Finset

variable {K : Type*} [Field K] [LinearOrder K] [IsStrictOrderedRing K]

/-- The sum of the squared errors of the line through the samples `(x i, y i)`. -/
def squaredError (n : Nat) (x y : Nat → K) (intercept slope : K) : K :=
  ∑ i ∈ range n, (y i - (intercept + slope * x i)) ^ 2

/-- No line has a smaller error than some line of this slope. -/
def IsSlope (n : Nat) (x y : Nat → K) (slope : K) : Prop :=
  ∃ intercept, ∀ intercept' slope',
    squaredError n x y intercept slope ≤ squaredError n x y intercept' slope'

variable {n : Nat} {x y : Nat → K}

/-- Residuals that are orthogonal to every line make the error least. -/
theorem isSlope_of_orthogonal (intercept : K) {slope : K}
    (hsum : ∑ i ∈ range n, (y i - (intercept + slope * x i)) = 0)
    (hproduct : ∑ i ∈ range n, (y i - (intercept + slope * x i)) * x i = 0) :
    IsSlope n x y slope := by
  refine ⟨intercept, fun intercept' slope' => ?_⟩
  have hsplit : squaredError n x y intercept' slope' = squaredError n x y intercept slope +
      (2 * (intercept - intercept') * ∑ i ∈ range n, (y i - (intercept + slope * x i)) +
        2 * (slope - slope') * ∑ i ∈ range n, (y i - (intercept + slope * x i)) * x i) +
      ∑ i ∈ range n, ((intercept - intercept') + (slope - slope') * x i) ^ 2 := by
    simp only [squaredError, mul_sum, ← sum_add_distrib]
    apply sum_congr rfl
    intro i _
    ring
  rw [hsplit, hsum, hproduct, mul_zero, mul_zero, add_zero, add_zero]
  exact le_add_of_nonneg_right (sum_nonneg fun i _ => sq_nonneg _)

theorem isSlope_quotient (hn : (n : K) ≠ 0)
    (hdenominator : n * ∑ i ∈ range n, x i * x i - (∑ i ∈ range n, x i) * ∑ i ∈ range n, x i ≠ 0) :
    IsSlope n x y
      ((n * ∑ i ∈ range n, x i * y i - (∑ i ∈ range n, x i) * ∑ i ∈ range n, y i) /
        (n * ∑ i ∈ range n, x i * x i - (∑ i ∈ range n, x i) * ∑ i ∈ range n, x i)) := by
  set slope := (n * ∑ i ∈ range n, x i * y i - (∑ i ∈ range n, x i) * ∑ i ∈ range n, y i) /
    (n * ∑ i ∈ range n, x i * x i - (∑ i ∈ range n, x i) * ∑ i ∈ range n, x i)
  set intercept := (∑ i ∈ range n, y i - slope * ∑ i ∈ range n, x i) / n
  have hnormal : slope *
      (n * ∑ i ∈ range n, x i * x i - (∑ i ∈ range n, x i) * ∑ i ∈ range n, x i) =
        n * ∑ i ∈ range n, x i * y i - (∑ i ∈ range n, x i) * ∑ i ∈ range n, y i :=
    div_mul_cancel₀ _ hdenominator
  have hmean : n * intercept = ∑ i ∈ range n, y i - slope * ∑ i ∈ range n, x i :=
    mul_div_cancel₀ _ hn
  apply isSlope_of_orthogonal intercept
  · calc ∑ i ∈ range n, (y i - (intercept + slope * x i))
        = ∑ i ∈ range n, y i - (n * intercept + slope * ∑ i ∈ range n, x i) := by
          rw [sum_sub_distrib, sum_add_distrib, sum_const, card_range, nsmul_eq_mul, mul_sum]
      _ = 0 := by rw [hmean]; ring
  · have hexpand : ∑ i ∈ range n, (y i - (intercept + slope * x i)) * x i =
        ∑ i ∈ range n, x i * y i -
          (intercept * ∑ i ∈ range n, x i + slope * ∑ i ∈ range n, x i * x i) := by
      rw [mul_sum, mul_sum, ← sum_add_distrib, ← sum_sub_distrib]
      apply sum_congr rfl
      intro i _
      ring
    rw [hexpand]
    apply mul_left_cancel₀ hn
    linear_combination hnormal * (-1) - hmean * ∑ i ∈ range n, x i

end LeastSquares
