import Mathlib.Data.List.Basic
import Mathlib.Data.List.Nodup
import Mathlib.Data.List.Perm.Basic

/-!
# Lib/Recency — queues kept in the order of last use

`touch` moves a key to the back of a queue.  A queue whose keys are **ordered** by the moment of
their last use stays so when the key in use is touched now (`Ordered.touch`), and its front is the
key whose last use is oldest.
-/

namespace Recency

variable {κ : Type*} [DecidableEq κ] {stamp : κ → ℕ} {queue : List κ} {k : κ} {now : ℕ}

/-- Take the key out of the queue and put it at the back. -/
def touch (k : κ) (queue : List κ) : List κ := queue.erase k ++ [k]

theorem mem_touch {a : κ} : a ∈ touch k queue ↔ a = k ∨ a ∈ queue := by
  rw [touch, List.mem_append, List.mem_singleton]
  by_cases ha : a = k
  · simp [ha]
  · simp [ha, List.mem_erase_of_ne ha]

theorem nodup_touch (h : queue.Nodup) : (touch k queue).Nodup := by
  rw [touch, List.nodup_append]
  refine ⟨h.erase k, List.nodup_singleton k, ?_⟩
  intro a ha b hb hab
  rw [hab, List.mem_singleton.mp hb] at ha
  exact h.not_mem_erase ha

/-- Every key of the queue was last used before the keys behind it. -/
def Ordered (stamp : κ → ℕ) (queue : List κ) : Prop :=
  queue.Pairwise fun a b => stamp a < stamp b

/-- **Touching the key in use keeps the order.** -/
theorem Ordered.touch (h : Ordered stamp queue) (hnodup : queue.Nodup)
    (hnow : ∀ a ∈ queue, stamp a < now) :
    Ordered (Function.update stamp k now) (touch k queue) := by
  have hold : ∀ a ∈ queue.erase k, Function.update stamp k now a = stamp a := by
    intro a ha
    have hak : a ≠ k := by
      rintro rfl
      exact hnodup.not_mem_erase ha
    exact Function.update_of_ne hak now stamp
  refine List.pairwise_append.mpr ⟨?_, List.pairwise_singleton _ k, ?_⟩
  · refine (h.sublist List.erase_sublist).imp_of_mem ?_
    intro a b ha hb hab
    rwa [hold a ha, hold b hb]
  · intro a ha b hb
    rw [List.mem_singleton.mp hb, hold a ha, Function.update_self]
    exact hnow a (List.mem_of_mem_erase ha)

end Recency
