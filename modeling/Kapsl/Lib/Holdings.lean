import Mathlib.Algebra.Order.BigOperators.Group.List
import Mathlib.Algebra.Order.Ring.Nat
import Kapsl.Lib.Attempt

/-!
# Lib/Holdings — the buffers a computation holds at one time

`hold` takes a buffer of a given size and `release` gives it back.  The hidden state keeps what was
held each time a buffer was taken, which is where the total may rise (`Within.hold`), and never
forgets it (`Within.release`), whether the computation succeeds or not.
-/

namespace Holdings

open Attempt

variable {β ε α : Type}

/-- The size of some buffers together. -/
def bytes (live : List (β × ℕ)) : ℕ := (live.map Prod.snd).sum

theorem bytes_cons (b : β × ℕ) (live : List (β × ℕ)) : bytes (b :: live) = b.2 + bytes live := by
  rw [bytes, List.map_cons, List.sum_cons, bytes]

/-- Some of the buffers are no larger than all of them. -/
theorem bytes_le_of_sublist {live all : List (β × ℕ)} (h : live.Sublist all) :
    bytes live ≤ bytes all :=
  (h.map Prod.snd).sum_le_sum fun _ _ => Nat.zero_le _

/-- What is held, and what was held at each time a buffer was taken, latest first. -/
structure State (β : Type) where
  live : List (β × ℕ)
  past : List (List (β × ℕ))

/-- Nothing is held, and nothing was. -/
def State.empty : State β where
  live := []
  past := []

/-- Take a buffer. -/
def State.hold (s : State β) (b : β) (size : ℕ) : State β where
  live := (b, size) :: s.live
  past := ((b, size) :: s.live) :: s.past

/-- Give a buffer back. -/
def State.release [DecidableEq β] (s : State β) (b : β) : State β where
  live := s.live.filter fun held => decide (held.1 ≠ b)
  past := s.past

/-- A computation that holds buffers. -/
def hold (b : β) (size : ℕ) : Attempt ε (State β) Unit :=
  ExceptT.mk fun s => (.ok (), s.hold b size)

def release [DecidableEq β] (b : β) : Attempt ε (State β) Unit :=
  ExceptT.mk fun s => (.ok (), s.release b)

/-- **No more than `bound` bytes were held at one time.** -/
def State.Within (s : State β) (bound : ℕ) : Prop := ∀ live ∈ s.past, bytes live ≤ bound

theorem within_empty {bound : ℕ} : (State.empty : State β).Within bound :=
  fun _ hlive => absurd hlive List.not_mem_nil

section

variable {s : State β} {b : β} {size bound : ℕ}

/-- **The total may rise when a buffer is taken**, -/
theorem State.Within.hold (h : s.Within bound) (hsize : size + bytes s.live ≤ bound) :
    (s.hold b size).Within bound := by
  intro live hlive
  rcases List.mem_cons.mp hlive with rfl | hlive
  · rw [bytes_cons]
    exact hsize
  · exact h live hlive

/-- …but not when one is given back. -/
theorem State.Within.release [DecidableEq β] (h : s.Within bound) : (s.release b).Within bound := h

variable {f : Unit → Attempt ε (State β) α} {R : α → State β → Prop} {E : ε → State β → Prop}

theorem ends_bind_hold (h : Ends (f ()) (s.hold b size) R E) : Ends (hold b size >>= f) s R E := by
  have hbind : exec (Holdings.hold b size >>= f) s = exec (f ()) (s.hold b size) := by
    rw [exec_bind]
    rfl
  rwa [Ends, hbind]

theorem ends_bind_release [DecidableEq β] (h : Ends (f ()) (s.release b) R E) :
    Ends (release b >>= f) s R E := by
  have hbind : exec (Holdings.release b >>= f) s = exec (f ()) (s.release b) := by
    rw [exec_bind]
    rfl
  rwa [Ends, hbind]

end

end Holdings
