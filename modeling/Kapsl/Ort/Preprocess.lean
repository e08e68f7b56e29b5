import Kapsl.Lib.Holdings
import Kapsl.Ort.Transcribe

/-!
# Ort/Preprocess — arithmetic and slices of the preprocessors

Sizes are `usize`: an operation that leaves it is an error of its caller.  Reading and writing
outside of a slice panics.
-/

namespace Kapsl.Ort.Preprocess

open Except (raiseIf)
open Detect (Stop)

/-! ## Sizes -/

/-- `checked_mul` with the error of its caller. -/
def checkedMul (a b : ℕ) (message : String) : Except FfiError ℕ := do
  raiseIf (usizeBound ≤ a * b) (invalidArgument message)
  return a * b

/-- `checked_add` with the error of its caller. -/
def checkedAdd (a b : ℕ) (message : String) : Except FfiError ℕ := do
  raiseIf (usizeBound ≤ a + b) (invalidArgument message)
  return a + b

theorem checkedMul_eq_ok {a b n : ℕ} {message : String} :
    checkedMul a b message = .ok n ↔ a * b < usizeBound ∧ a * b = n := by
  simp only [checkedMul, Except.bind_eq_ok, Except.raiseIf_eq_ok, Except.pure_eq_ok, exists_const,
    not_le]

theorem checkedAdd_eq_ok {a b n : ℕ} {message : String} :
    checkedAdd a b message = .ok n ↔ a + b < usizeBound ∧ a + b = n := by
  simp only [checkedAdd, Except.bind_eq_ok, Except.raiseIf_eq_ok, Except.pure_eq_ok, exists_const,
    not_le]

/-! ## Answers -/

/-- An answer of `FfiResult`, in a computation that holds buffers. -/
def ffi {β α : Type} (x : Except FfiError α) : Attempt Stop (Holdings.State β) α :=
  Attempt.lift (x.mapError .error)

theorem mapError_eq_ok {α : Type} {x : Except FfiError α} {a : α}
    (h : x.mapError Stop.error = .ok a) : x = .ok a := by
  cases x with
  | error e => exact nomatch h
  | ok b => exact congrArg _ (Except.ok.inj h)

/-! ## Slices -/

variable {F : Type}

/-- `xs[index]`. -/
def readAt (xs : List F) (index : ℕ) : Except Stop F :=
  match xs[index]? with
  | some x => .ok x
  | none => .error .panicked

/-- `xs[index] = x`. -/
def writeAt (xs : List F) (index : ℕ) (x : F) : Except Stop (List F) :=
  if index < xs.length then .ok (xs.set index x) else .error .panicked

/-- `&xs[start..stop]`. -/
def sliceAt (xs : List F) (start stop : ℕ) : Except Stop (List F) :=
  if start ≤ stop ∧ stop ≤ xs.length then .ok ((xs.drop start).take (stop - start))
  else .error .panicked

theorem writeAt_eq_ok {xs : List F} {index : ℕ} (h : index < xs.length) (x : F) :
    writeAt xs index x = .ok (xs.set index x) := if_pos h

theorem length_of_writeAt {xs ys : List F} {index : ℕ} {x : F} (h : writeAt xs index x = .ok ys) :
    ys.length = xs.length := by
  unfold writeAt at h
  split at h
  · rw [← Except.ok.inj h, List.length_set]
  · exact nomatch h

/-- A loop whose rounds keep a length keeps it. -/
theorem length_of_foldlM {α ε : Type} {f : List F → α → Except ε (List F)} {items : List α}
    {xs ys : List F} (hstep : ∀ xs a ys, f xs a = .ok ys → ys.length = xs.length)
    (h : items.foldlM f xs = .ok ys) : ys.length = xs.length := by
  induction items generalizing xs with
  | nil => rw [← Except.pure_eq_ok.mp h]
  | cons a items ih =>
    obtain ⟨zs, hzs, hys⟩ := Except.bind_eq_ok.mp h
    rw [ih hys, hstep xs a zs hzs]

end Kapsl.Ort.Preprocess
