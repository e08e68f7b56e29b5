import Mathlib.Algebra.Order.Ring.Int

/-!
# Lib/TriangleWave — reflecting a position into an interval

`triangleWave n x` is where the position `x` of the integers ends up when the line is folded at `0`
and at `n`, over and over.  It is the identity between the two folds (`triangleWave_of_le`), even
(`triangleWave_neg`), and of period `2 * n` (`triangleWave_add_period`); on an interval of one point
it is constant.
-/

/-- **The triangle wave** between `0` and `n`. -/
def triangleWave (n : ℕ) (x : ℤ) : ℕ := (min (x % (2 * n)) (2 * n - x % (2 * n))).toNat

variable {n : ℕ} {x : ℤ}

theorem triangleWave_zero : triangleWave 0 x = 0 := by
  rw [triangleWave, Nat.cast_zero, mul_zero, Int.emod_zero]
  omega

theorem triangleWave_le : triangleWave n x ≤ n := by
  rw [triangleWave]
  omega

theorem triangleWave_of_le (hx : 0 ≤ x) (hn : x ≤ n) : (triangleWave n x : ℤ) = x := by
  rcases Nat.eq_zero_or_pos n with rfl | hpos
  · rw [triangleWave_zero]
    omega
  · rw [triangleWave, Int.emod_eq_of_lt hx (by omega)]
    omega

theorem triangleWave_add_period : triangleWave n (x + 2 * n) = triangleWave n x := by
  rw [triangleWave, Int.add_emod_right, triangleWave]

/-- Folding at `0` makes the wave even. -/
theorem triangleWave_neg : triangleWave n (-x) = triangleWave n x := by
  rcases Nat.eq_zero_or_pos n with rfl | hpos
  · rw [triangleWave_zero, triangleWave_zero]
  · have hnonneg := Int.emod_nonneg x (b := 2 * n) (by omega)
    have hlt := Int.emod_lt_of_pos x (b := 2 * n) (by omega)
    rw [triangleWave, triangleWave, Int.neg_emod]
    split
    · next hdvd =>
      rw [Int.emod_eq_zero_of_dvd hdvd]
    · rw [Int.natAbs_of_nonneg (by omega), sub_sub_cancel, min_comm]

/-- …and folding at `n` makes it symmetric about `n`. -/
theorem triangleWave_reflect : triangleWave n (2 * n - x) = triangleWave n x := by
  rw [sub_eq_neg_add, triangleWave_add_period, triangleWave_neg]
