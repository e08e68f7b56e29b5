import Mathlib.Algebra.BigOperators.Group.List.Basic
import Mathlib.Algebra.Ring.Int.Defs
import Mathlib.Algebra.Ring.Nat
import Kapsl.Lib.Except
import Kapsl.Ort.Ffi

/-!
# Ort/Tensor — tensors on both sides of the ABI, and as ORT sees them

Dimensions of the ABI are `i64`, kept as `ℤ` with the bound where the source checks it; `usize` is
`ℕ`, checked against `2 ^ 64`.  A dtype number is the dtype it stands for, or `other`.  A tensor has
its exact number of bytes once `request_tensors` let it through, so the values ORT reads from it are
its bytes.
-/

namespace Kapsl.Ort

open Except (raiseIf)

/-- The dtype numbers of the ABI. -/
inductive Dtype
  | u8
  | utf8
  | f16
  | i32
  | f32
  | i64
  | f64
  | other (code : UInt32)
  deriving DecidableEq

/-- `dtype_bytes`. -/
def dtypeBytes : Dtype → Except FfiError ℕ
  | .u8 | .utf8 => .ok 1
  | .f16 => .ok 2
  | .i32 | .f32 => .ok 4
  | .i64 | .f64 => .ok 8
  | .other code =>
    .error (invalidArgument s!"CPU ORT adapter does not support input dtype {code}")

/-- `BorrowedTensor`. -/
structure BorrowedTensor where
  name : String
  dtype : Dtype
  shape : List ℤ
  data : List UInt8
  deriving DecidableEq

/-- `OwnedTensor`. -/
structure OwnedTensor where
  name : String
  dtype : Dtype
  shape : List ℤ
  data : List UInt8
  deriving DecidableEq

/-- The range of `usize`. -/
def usizeBound : ℕ := 2 ^ 64

/-- The fold of `shape_elements`. -/
def shapeElementsFrom (elements : ℕ) : List ℤ → Except FfiError ℕ
  | [] => .ok elements
  | dimension :: shape =>
    if dimension < 0 then
      .error (invalidArgument s!"native ORT tensor has invalid dimension {dimension}")
    else if dimension = 0 then
      .error (invalidArgument "native ORT request tensors may not contain zero-sized dimensions")
    else if usizeBound ≤ elements * dimension.toNat then
      .error (invalidArgument "native ORT tensor element count overflows")
    else shapeElementsFrom (elements * dimension.toNat) shape

/-- `shape_elements`. -/
def shapeElements : List ℤ → Except FfiError ℕ := shapeElementsFrom 1

/-- What `request_tensors` promises of the inputs of a request. -/
structure Validated (inputs : List BorrowedTensor) : Prop where
  nonempty : inputs ≠ []
  bytes : ∀ t ∈ inputs, ∃ elements size, shapeElements t.shape = .ok elements ∧
    dtypeBytes t.dtype = .ok size ∧ t.data.length = elements * size

/-! ## ORT values -/

/-- The element types that the adapter exchanges with ORT. -/
inductive ElementType
  | f32
  | f64
  | f16
  | i32
  | i64
  | u8
  deriving DecidableEq

namespace ElementType

/-- Its dtype of the ABI. -/
def dtype : ElementType → Dtype
  | f32 => .f32
  | f64 => .f64
  | f16 => .f16
  | i32 => .i32
  | i64 => .i64
  | u8 => .u8

/-- `size_of`. -/
def bytes : ElementType → ℕ
  | u8 => 1
  | f16 => 2
  | i32 | f32 => 4
  | i64 | f64 => 8

end ElementType

/-- A `SessionInputValue`: the values are given by their bytes. -/
structure SessionInput where
  element : ElementType
  shape : List ℕ
  data : List UInt8

/-- The element type `to_session_input` prepares for a dtype. -/
def preparedElement (code : Dtype → UInt32) (dtype : Dtype) : Except FfiError ElementType :=
  match dtype with
  | .f32 => .ok .f32
  | .f64 => .ok .f64
  | .f16 => .ok .f16
  | .i32 => .ok .i32
  | .i64 => .ok .i64
  | .u8 => .ok .u8
  | .utf8 | .other _ =>
    .error (invalidArgument
      s!"CPU ORT adapter does not support input dtype {toString (code dtype)}")

/-- `to_session_input`, before ORT takes the values; `code` is the number of a dtype. -/
def toSessionInput (code : Dtype → UInt32) (input : BorrowedTensor) :
    Except FfiError SessionInput := do
  raiseIf (input.shape.any (· < 0)) (invalidArgument "native ORT tensor dimension is negative")
  let _ ← shapeElements input.shape
  let element ← preparedElement code input.dtype
  return { element, shape := input.shape.map Int.toNat, data := input.data }

/-- A tensor of ORT: as many bytes as its shape says. -/
structure OrtTensor where
  element : ElementType
  shape : List ℕ
  data : List UInt8
  size : data.length = shape.prod * element.bytes

/-- A `DynValue`: a tensor of a known element type, or something else. -/
inductive OrtValue
  | tensor (t : OrtTensor)
  | unsupported

/-- The tensor `from_ort_value` copies out. -/
def OrtTensor.owned (t : OrtTensor) (name : String) : OwnedTensor where
  name := name
  dtype := t.element.dtype
  shape := t.shape.map Int.ofNat
  data := t.data

/-- `from_ort_value`. -/
def fromOrtValue (value : OrtValue) (name : String) : Except FfiError OwnedTensor :=
  match value with
  | .tensor t => .ok (t.owned name)
  | .unsupported => .error (backendError "ORT returned an unsupported output tensor dtype")

end Kapsl.Ort
