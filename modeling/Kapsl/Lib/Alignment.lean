import Mathlib.Algebra.Order.Floor.Div

/-!
# Lib/Alignment — rounding a count to a multiple, as extremal problems

`alignUp a n` and `alignDown a n` are the multiples of `a` next to `n`; `isLeast_alignUp` and
`isGreatest_alignDown` are the only facts used of them.
-/

namespace Nat

/-- Quotient plus one for a non-zero remainder is the ceiling of the quotient. -/
theorem div_add_ite_mod_eq_ceilDiv (n : ℕ) {a : ℕ} (ha : 0 < a) :
    n / a + (if n % a ≠ 0 then 1 else 0) = n ⌈/⌉ a := by
  have hn := Nat.div_add_mod n a
  have hlt := Nat.mod_lt n ha
  refine le_antisymm ?_ ((ceilDiv_le_iff_le_mul ha).mpr ?_)
  · have hle : n ≤ a * (n ⌈/⌉ a) := (ceilDiv_le_iff_le_mul ha).mp le_rfl
    by_cases h : n % a = 0
    · rw [if_neg (by simpa using h), Nat.add_zero]
      exact Nat.div_le_of_le_mul hle
    · rw [if_pos h]
      refine Nat.lt_of_mul_lt_mul_left (a := a) ?_
      omega
  · by_cases h : n % a = 0
    · rw [if_neg (by simpa using h), Nat.add_zero]
      omega
    · rw [if_pos h, Nat.mul_add]
      omega

/-- A common factor leaves the ceiling of a quotient. -/
theorem mul_ceilDiv_mul_left {k a : ℕ} (n : ℕ) (hk : 0 < k) (ha : 0 < a) :
    (k * n) ⌈/⌉ (k * a) = n ⌈/⌉ a := by
  refine eq_of_forall_ge_iff fun c => ?_
  rw [ceilDiv_le_iff_le_mul (Nat.mul_pos hk ha), ceilDiv_le_iff_le_mul ha, Nat.mul_assoc]
  exact Nat.mul_le_mul_left_iff hk

/-- The least multiple of `a` that is at least `n`. -/
def alignUp (a n : ℕ) : ℕ := n ⌈/⌉ a * a

/-- The greatest multiple of `a` that is at most `n`. -/
def alignDown (a n : ℕ) : ℕ := n - n % a

theorem isLeast_alignUp {a : ℕ} (ha : 0 < a) (n : ℕ) :
    IsLeast {m | a ∣ m ∧ n ≤ m} (alignUp a n) := by
  refine ⟨⟨Nat.dvd_mul_left a _, ?_⟩, ?_⟩
  · rw [alignUp, Nat.mul_comm]
    exact (ceilDiv_le_iff_le_mul ha).mp le_rfl
  · rintro m ⟨⟨k, rfl⟩, hm⟩
    rw [alignUp, Nat.mul_comm]
    exact Nat.mul_le_mul_left a ((ceilDiv_le_iff_le_mul ha).mpr hm)

theorem isGreatest_alignDown {a : ℕ} (ha : 0 < a) (n : ℕ) :
    IsGreatest {m | a ∣ m ∧ m ≤ n} (alignDown a n) := by
  refine ⟨⟨Nat.dvd_sub_mod n, Nat.sub_le _ _⟩, ?_⟩
  rintro m ⟨⟨k, rfl⟩, hm⟩
  have hk : k ≤ n / a := (Nat.le_div_iff_mul_le ha).mpr (by rwa [Nat.mul_comm])
  have := Nat.mul_le_mul_left a hk
  have := Nat.div_add_mod n a
  unfold alignDown
  omega

theorem dvd_alignUp (a n : ℕ) : a ∣ alignUp a n := Nat.dvd_mul_left a _

theorem dvd_alignDown (a n : ℕ) : a ∣ alignDown a n := Nat.dvd_sub_mod n

theorem alignUp_mono {a : ℕ} (ha : 0 < a) {n m : ℕ} (h : n ≤ m) : alignUp a n ≤ alignUp a m :=
  (isLeast_alignUp ha n).2 ⟨dvd_alignUp a m, h.trans (isLeast_alignUp ha m).1.2⟩

theorem alignDown_mono {a : ℕ} (ha : 0 < a) {n m : ℕ} (h : n ≤ m) :
    alignDown a n ≤ alignDown a m :=
  (isGreatest_alignDown ha m).2 ⟨dvd_alignDown a n, (isGreatest_alignDown ha n).1.2.trans h⟩

end Nat
