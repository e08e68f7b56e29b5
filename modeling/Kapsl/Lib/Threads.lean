import Mathlib.Algebra.Order.BigOperators.Group.Finset

/-!
# Lib/Threads — families of threads of which one moves

A family `ι → κ` gives every thread its place; a step replaces the place of one thread
(`Function.update`).  These are the three ways a fact about the family passes to the next one:
through a relation that holds of threads that do not move, through a partial reading of a place, and
through a sum over all threads.
-/

namespace Threads

/-- Three threads, for a run that is written out. -/
inductive Thread
  | first
  | second
  | third
  deriving DecidableEq

instance : Fintype Thread where
  elems := {.first, .second, .third}
  complete t := by cases t <;> decide

variable {ι κ α : Type*} [DecidableEq ι] {threads : ι → κ} {t u : ι} {pc : κ}

/-- A relation between a thread before and after need only be checked on the one that moved. -/
theorem forall_update {P : κ → κ → Prop} (hrefl : ∀ pc, P pc pc) (ht : P (threads t) pc) (u : ι) :
    P (threads u) (Function.update threads t pc u) := by
  by_cases hu : u = t
  · subst hu
    simpa only [Function.update_self] using ht
  · simpa only [Function.update_of_ne hu] using hrefl _

/-- After thread `t` moves to a place where `f` reads nothing, what `f` reads it read before. -/
theorem eq_some_of_update {f : κ → Option α} {x : α} (hpc : f pc = none)
    (h : f (Function.update threads t pc u) = some x) : u ≠ t ∧ f (threads u) = some x := by
  by_cases hut : u = t
  · subst hut
    rw [Function.update_self, hpc] at h
    exact absurd h (by simp)
  · rw [Function.update_of_ne hut] at h
    exact ⟨hut, h⟩

/-- …and what `f` read of another thread, or of `t` at a place where it read nothing, it reads. -/
theorem update_eq_some {f : κ → Option α} {x : α} (ht : f (threads t) = none)
    (h : f (threads u) = some x) : f (Function.update threads t pc u) = some x := by
  have hut : u ≠ t := by
    rintro rfl
    rw [ht] at h
    exact absurd h (by simp)
  rwa [Function.update_of_ne hut]

/-- **One thread's move changes a sum by what that thread contributes.** -/
theorem sum_update [Fintype ι] (f : κ → ℕ) (threads : ι → κ) (t : ι) (pc : κ) :
    (∑ u, f (Function.update threads t pc u)) + f (threads t) =
      (∑ u, f (threads u)) + f pc := by
  rw [← Finset.add_sum_erase _ _ (Finset.mem_univ t),
    ← Finset.add_sum_erase Finset.univ (fun u => f (threads u)) (Finset.mem_univ t)]
  have hrest : ∑ u ∈ Finset.univ.erase t, f (Function.update threads t pc u) =
      ∑ u ∈ Finset.univ.erase t, f (threads u) := by
    refine Finset.sum_congr rfl fun u hu => ?_
    rw [Function.update_of_ne (Finset.ne_of_mem_erase hu)]
  rw [hrest, Function.update_self]
  omega

/-- A sum of at most one has at most one contributor. -/
theorem eq_of_sum_le_one [Fintype ι] {f : ι → ℕ} (h : ∑ i, f i ≤ 1) (ht : 0 < f t) (hu : 0 < f u) :
    t = u := by
  by_contra hne
  have hmem : u ∈ Finset.univ.erase t := Finset.mem_erase.mpr ⟨Ne.symm hne, Finset.mem_univ u⟩
  have hle := Finset.single_le_sum (fun i _ => Nat.zero_le (f i)) hmem
  rw [← Finset.add_sum_erase _ _ (Finset.mem_univ t)] at h
  omega

end Threads
