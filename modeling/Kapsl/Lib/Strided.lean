import Mathlib.Algebra.Order.Ring.Int
import Mathlib.Data.List.Forall2
import Mathlib.Order.Bounds.Basic

/-!
# Lib/Strided — which elements a strided view addresses

A view has a size and a stride for each of its dimensions; a multi-index within the sizes addresses
the element at the sum of its products with the strides.  Strides may be zero, and may overlap.  As
long as none is negative, the largest offset is that of the last index (`isGreatest_offsets`), and
the smallest is that of the first (`isLeast_offsets`).
-/

namespace Strided

variable {shape strides index : List ℤ}

/-- The index lies within the sizes. -/
def Valid (shape index : List ℤ) : Prop := List.Forall₂ (fun i size => 0 ≤ i ∧ i < size) index shape

/-- The element a multi-index addresses. -/
def linear (index strides : List ℤ) : ℤ := (List.zipWith (· * ·) index strides).sum

/-- The offsets that a view addresses. -/
def offsets (shape strides : List ℤ) : Set ℤ :=
  {offset | ∃ index, Valid shape index ∧ linear index strides = offset}

/-- The first index of a shape. -/
def firstIndex (shape : List ℤ) : List ℤ := shape.map fun _ => 0

/-- The last index of a shape. -/
def lastIndex (shape : List ℤ) : List ℤ := shape.map (· - 1)

theorem valid_firstIndex (hshape : ∀ size ∈ shape, 0 < size) : Valid shape (firstIndex shape) := by
  rw [Valid, firstIndex, List.forall₂_map_left_iff, List.forall₂_same]
  exact fun size hsize => ⟨le_rfl, hshape size hsize⟩

theorem valid_lastIndex (hshape : ∀ size ∈ shape, 0 < size) : Valid shape (lastIndex shape) := by
  rw [Valid, lastIndex, List.forall₂_map_left_iff, List.forall₂_same]
  intro size hsize
  have := hshape size hsize
  omega

/-- **A larger index addresses a later element.** -/
theorem linear_mono {index' : List ℤ} (hstrides : ∀ stride ∈ strides, 0 ≤ stride)
    (h : List.Forall₂ (· ≤ ·) index index') : linear index strides ≤ linear index' strides := by
  induction h generalizing strides with
  | nil => exact le_rfl
  | cons hle _ ih =>
    cases strides with
    | nil => exact le_rfl
    | cons stride strides =>
      obtain ⟨hstride, hrest⟩ := List.forall_mem_cons.mp hstrides
      simp only [linear, List.zipWith_cons_cons, List.sum_cons]
      exact add_le_add (mul_le_mul_of_nonneg_right hle hstride) (ih hrest)

/-- **The last index addresses the last element.** -/
theorem isGreatest_offsets (hshape : ∀ size ∈ shape, 0 < size)
    (hstrides : ∀ stride ∈ strides, 0 ≤ stride) :
    IsGreatest (offsets shape strides) (linear (lastIndex shape) strides) := by
  refine ⟨⟨_, valid_lastIndex hshape, rfl⟩, ?_⟩
  rintro _ ⟨index, hindex, rfl⟩
  refine linear_mono hstrides ?_
  rw [lastIndex, List.forall₂_map_right_iff]
  exact hindex.imp fun i size hi => Int.le_sub_one_of_lt hi.2

theorem linear_firstIndex (shape strides : List ℤ) : linear (firstIndex shape) strides = 0 := by
  induction shape generalizing strides with
  | nil => rfl
  | cons size shape ih =>
    cases strides with
    | nil => rfl
    | cons stride strides =>
      calc linear (firstIndex (size :: shape)) (stride :: strides)
          = 0 * stride + linear (firstIndex shape) strides := rfl
        _ = 0 := by rw [zero_mul, ih, add_zero]

/-- **The first index addresses the first element**, the one at offset zero. -/
theorem isLeast_offsets (hshape : ∀ size ∈ shape, 0 < size)
    (hstrides : ∀ stride ∈ strides, 0 ≤ stride) : IsLeast (offsets shape strides) 0 := by
  refine ⟨⟨_, valid_firstIndex hshape, linear_firstIndex shape strides⟩, ?_⟩
  rintro _ ⟨index, hindex, rfl⟩
  rw [← linear_firstIndex shape strides]
  refine linear_mono hstrides ?_
  rw [firstIndex, List.forall₂_map_left_iff]
  exact (List.Forall₂.flip hindex).imp fun size i hi => hi.1

end Strided
