import Mathlib.Algebra.BigOperators.Group.List.Basic
import Mathlib.Algebra.Order.BigOperators.Group.List
import Mathlib.Algebra.Order.Field.Basic
import Mathlib.Analysis.SpecialFunctions.Exp

/-!
# Lib/Softmax — scores turned into a distribution

An exponential turns sums into products and keeps the order; `softmax` divides the exponentials of a
row of scores by their sum.  Nothing else about the exponential is used, so the field need not be
the reals.

* `softmax_shift` — a number subtracted from all the scores changes nothing.
* `one_le_sum_exp_sub` — when that number is one of the scores, the exponentials add up to at least
  one, so their sum is never close to zero.
* `ranked_softmax` — a row of scores becomes a distribution that ranks them as they were.
-/

namespace Softmax

variable {F : Type*} [Field F] [LinearOrder F]

/-- **An exponential** on an ordered field. -/
structure Exponential (F : Type*) [Field F] [LinearOrder F] where
  exp : F → F
  ordered : IsStrictOrderedRing F
  exp_add : ∀ a b, exp (a + b) = exp a * exp b
  strictMono : StrictMono exp

/-- The exponential of the reals. -/
noncomputable def Exponential.real : Exponential ℝ where
  exp := Real.exp
  ordered := inferInstance
  exp_add := Real.exp_add
  strictMono := Real.exp_strictMono

/-- **The softmax** of a row. -/
def softmax (E : Exponential F) (row : List F) : List F :=
  row.map fun x => E.exp x / (row.map E.exp).sum

/-- **A distribution over the scores of a row**, a higher score having the higher probability. -/
structure Ranked (row probabilities : List F) : Prop where
  sum_eq : probabilities.sum = 1
  pos : ∀ p ∈ probabilities, 0 < p
  ranked : ∃ f : F → F, StrictMono f ∧ probabilities = row.map f

variable (E : Exponential F)

theorem Exponential.exp_ne_zero (a : F) : E.exp a ≠ 0 := by
  have := E.ordered
  intro h
  have hzero : ∀ b, E.exp b = 0 := by
    intro b
    have hsum : E.exp (a + (b - a)) = 0 := by rw [E.exp_add, h, zero_mul]
    rwa [add_sub_cancel] at hsum
  exact (E.strictMono (zero_lt_one (α := F))).ne ((hzero 0).trans (hzero 1).symm)

theorem Exponential.exp_zero : E.exp 0 = 1 := by
  have h : E.exp 0 * E.exp 0 = E.exp 0 * 1 := by rw [← E.exp_add, add_zero, mul_one]
  exact mul_left_cancel₀ (E.exp_ne_zero 0) h

theorem Exponential.exp_pos (a : F) : 0 < E.exp a := by
  have := E.ordered
  have hhalf : E.exp a = E.exp (a / 2) * E.exp (a / 2) := by rw [← E.exp_add, add_halves]
  rw [hhalf]
  exact mul_self_pos.mpr (E.exp_ne_zero (a / 2))

/-- The exponential of a difference. -/
theorem Exponential.exp_sub (a b : F) : E.exp (a - b) = E.exp a / E.exp b := by
  rw [eq_div_iff (E.exp_ne_zero b), ← E.exp_add, sub_add_cancel]

theorem sum_exp_pos {row : List F} (h : row ≠ []) : 0 < (row.map E.exp).sum := by
  have := E.ordered
  refine List.sum_pos _ (fun y hy => ?_) (by simpa using h)
  obtain ⟨x, -, rfl⟩ := List.mem_map.mp hy
  exact E.exp_pos x

omit [LinearOrder F] in
theorem sum_map_div (row : List F) (f : F → F) (c : F) :
    (row.map fun x => f x / c).sum = (row.map f).sum / c := by
  simp only [div_eq_mul_inv]
  exact List.sum_map_mul_right row f c⁻¹

/-- **A shift changes nothing.** -/
theorem softmax_shift (row : List F) (m : F) :
    (row.map fun x => E.exp (x - m) / (row.map fun y => E.exp (y - m)).sum) = softmax E row := by
  have hsum : (row.map fun y => E.exp (y - m)).sum = (row.map E.exp).sum / E.exp m := by
    simp only [E.exp_sub]
    exact sum_map_div row E.exp (E.exp m)
  refine List.map_congr_left fun x _ => ?_
  rw [hsum, E.exp_sub, div_div_div_cancel_right₀ (E.exp_ne_zero m)]

/-- **A score shifted to zero counts as one.** -/
theorem one_le_sum_exp_sub {row : List F} {m : F} (h : m ∈ row) :
    1 ≤ (row.map fun x => E.exp (x - m)).sum := by
  have := E.ordered
  have hone : (1 : F) ∈ row.map fun x => E.exp (x - m) :=
    List.mem_map.mpr ⟨m, h, by rw [sub_self, E.exp_zero]⟩
  refine List.single_le_sum (fun y hy => ?_) 1 hone
  obtain ⟨x, -, rfl⟩ := List.mem_map.mp hy
  exact (E.exp_pos _).le

/-- **The softmax of a row is a distribution that ranks the scores as they were.** -/
theorem ranked_softmax {row : List F} (h : row ≠ []) : Ranked row (softmax E row) := by
  have := E.ordered
  have hpos := sum_exp_pos E h
  refine ⟨?_, fun p hp => ?_, fun x => E.exp x / (row.map E.exp).sum, fun a b hab => ?_, rfl⟩
  · rw [softmax, sum_map_div row E.exp, div_self hpos.ne']
  · obtain ⟨x, -, rfl⟩ := List.mem_map.mp hp
    exact div_pos (E.exp_pos x) hpos
  · exact div_lt_div_of_pos_right (E.strictMono hab) hpos

end Softmax
