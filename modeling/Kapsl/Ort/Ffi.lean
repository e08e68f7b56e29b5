import Mathlib.Data.Nat.Notation

/-!
# Ort/Ffi — the errors of the backend

`FfiResult` is `Except FfiError`: a status of the backend ABI with a message.
-/

namespace Kapsl.Ort

/-- The failure statuses of the ABI that the backend chooses between. -/
inductive Status
  | invalidArgument
  | backendError
  | cancelled
  deriving DecidableEq

/-- `FfiError`. -/
structure FfiError where
  status : Status
  message : String
  deriving DecidableEq

/-- `invalid_argument`. -/
def invalidArgument (message : String) : FfiError := ⟨.invalidArgument, message⟩

/-- `backend_error`. -/
def backendError (message : String) : FfiError := ⟨.backendError, message⟩

/-- `cancelled_error`. -/
def cancelledError (message : String) : FfiError := ⟨.cancelled, message⟩

end Kapsl.Ort
