import Kapsl.Lib.Attempt
import Kapsl.Ort.Tensor

/-!
# Ort/InferBatch — `infer`, and the batch that stacks its requests

`infer_batch` sends a request with several inputs, or without rows, through `infer`; it stacks the
others by dtype and trailing shape, runs each stack once, and splits the output by rows.  A stack
that fails in any way falls back on `infer`.

`Backend ω` is what the functions use of the rest of the process, over a hidden state `ω`: the model
slot, the pools, the cancellation registry and ORT.  Only a session run is a function of its inputs.
-/

namespace Kapsl.Ort

open Attempt (failIf)

variable {ω : Type}

/-- The rest of the process: what `infer` calls and what it reads. -/
structure Backend (ω : Type) where
  /-- `RequestRegistration::is_cancelled` of the batch. -/
  cancelled : ω → Bool
  /-- `loaded_model`. -/
  loadedModel : Attempt FfiError ω Unit
  /-- `pool_for_request`, the `attach` of its terminator, and `SessionPool::acquire`. -/
  acquire : BorrowedTensor → Attempt FfiError ω Unit
  /-- `CancellableRunOptions::primary` and its `attach`. -/
  runOptions : String → Attempt FfiError ω Unit
  /-- ORT takes the values of an input. -/
  newValue : SessionInput → Attempt FfiError ω Unit
  inputNames : List String
  outputNames : List String
  /-- The number of a dtype. -/
  code : Dtype → UInt32
  /-- `run_with_options`: inputs by name, or the only input by position. -/
  run : List (Option String × SessionInput) → Except String (List OrtValue)

namespace Backend

variable (b : Backend ω)

/-! ## `infer` -/

/-- `to_session_input`. -/
def sessionInput (input : BorrowedTensor) : Attempt FfiError ω SessionInput := do
  let value ← Attempt.lift (toSessionInput b.code input)
  b.newValue value
  return value

/-- The input for a declared name: the first is positional. -/
def pickInput (inputs : List BorrowedTensor) (index : ℕ) (modelName : String) :
    Except FfiError BorrowedTensor :=
  let found := if index = 0 then inputs.head? else inputs.tail.find? (·.name == modelName)
  match found with
  | some input => .ok input
  | none => .error (invalidArgument s!"ONNX request is missing input `{modelName}`")

/-- The loop over the declared names. -/
def namedInputs (inputs : List BorrowedTensor) (index : ℕ) :
    List String → Attempt FfiError ω (List (Option String × SessionInput))
  | [] => pure []
  | modelName :: names => do
    let input ← Attempt.lift (pickInput inputs index modelName)
    let value ← b.sessionInput input
    let values ← namedInputs inputs (index + 1) names
    return (some modelName, value) :: values

/-- What a session is run on. -/
def sessionInputs : List BorrowedTensor → Attempt FfiError ω (List (Option String × SessionInput))
  | [input] => do
    let value ← b.sessionInput input
    return [(none, value)]
  | inputs => b.namedInputs inputs 0 b.inputNames

/-- The end of `infer_with_session`: what becomes of the outputs of the run. -/
def primaryOutput (outputName : String) :
    Except String (List OrtValue) → Attempt FfiError ω OwnedTensor
  | .error error => do
    let cancelled ← Attempt.ask b.cancelled
    failIf (cancelled = true)
      (cancelledError s!"native ORT graph execution was cancelled: {error}")
    throw (backendError s!"ORT inference failed: {error}")
  | .ok outputs => do
    let cancelled ← Attempt.ask b.cancelled
    failIf (cancelled = true)
      (cancelledError "native ORT request was cancelled during graph execution")
    match outputs with
    | [] => throw (backendError "ORT returned no primary output")
    | value :: _ => Attempt.lift (fromOrtValue value outputName)

/-- `infer_with_session`. -/
def inferWithSession (inputs : List BorrowedTensor) : Attempt FfiError ω OwnedTensor := do
  failIf (inputs.length ≠ b.inputNames.length) (invalidArgument
    s!"ONNX model requires {b.inputNames.length} inputs, request supplied {inputs.length}")
  let outputName ← Attempt.lift (match b.outputNames with
    | [] => .error (backendError "ONNX model declares no outputs")
    | outputName :: _ => .ok outputName)
  b.runOptions outputName
  let values ← b.sessionInputs inputs
  b.primaryOutput outputName (b.run values)

/-- `OrtBackend::infer`. -/
def infer (inputs : List BorrowedTensor) : Attempt FfiError ω OwnedTensor := do
  let cancelled ← Attempt.ask b.cancelled
  failIf (cancelled = true)
    (cancelledError "native ORT request was cancelled before graph execution")
  b.loadedModel
  match inputs with
  | [] => throw (invalidArgument "native ORT request has no primary input")
  | primary :: _ =>
    b.acquire primary
    b.inferWithSession inputs

end Backend

/-! ## Stacking and splitting -/

/-- The row count of an input. -/
def BorrowedTensor.rows (input : BorrowedTensor) : ℤ := input.shape.headD 0

/-- `i64::checked_add`. -/
def checkedAddI64 (a b : ℤ) : Option ℤ :=
  if -2 ^ 63 ≤ a + b ∧ a + b < 2 ^ 63 then some (a + b) else none

/-- The loop of `stack_group`. -/
def stackRows (first : BorrowedTensor) :
    List BorrowedTensor → ℤ → List UInt8 → Except FfiError (ℤ × List UInt8)
  | [], totalRows, data => .ok (totalRows, data)
  | input :: inputs, totalRows, data =>
    if input.dtype ≠ first.dtype ∨ input.shape.tail ≠ first.shape.tail then
      .error (invalidArgument "native ORT batch group contains incompatible tensors")
    else
      match checkedAddI64 totalRows input.rows with
      | none => .error (invalidArgument "native ORT batch row count overflows")
      | some total => stackRows first inputs total (data ++ input.data)

/-- `stack_group`, with the name `infer_stacked` gives its result. -/
def stackGroup (first : BorrowedTensor) (inputs : List BorrowedTensor) :
    Except FfiError BorrowedTensor :=
  match stackRows first inputs 0 [] with
  | .error e => .error e
  | .ok (totalRows, data) =>
    .ok { name := "input", dtype := first.dtype, shape := first.shape.set 0 totalRows, data }

/-- The row total of `split_stacked_output`. -/
def splitTotalFrom (total : ℕ) : List ℤ → Except FfiError ℕ
  | [] => .ok total
  | rows :: rest =>
    if rows < 0 then .error (backendError "stacked ORT output has an invalid row count")
    else if usizeBound ≤ total + rows.toNat then
      .error (backendError "stacked ORT output row count overflows")
    else splitTotalFrom (total + rows.toNat) rest

/-- The loop of `split_stacked_output`; the slice is within the data. -/
def splitRows (output : OwnedTensor) (rowBytes : ℕ) : ℕ → List ℤ → Except FfiError (List OwnedTensor)
  | _, [] => .ok []
  | offset, rows :: rest =>
    if rows < 0 then .error (backendError "stacked ORT output has an invalid row count")
    else if usizeBound ≤ rows.toNat * rowBytes then
      .error (backendError "stacked ORT split byte count overflows")
    else if usizeBound ≤ offset + rows.toNat * rowBytes then
      .error (backendError "stacked ORT split offset overflows")
    else
      match splitRows output rowBytes (offset + rows.toNat * rowBytes) rest with
      | .error e => .error e
      | .ok results =>
        .ok ({ output with
          shape := output.shape.set 0 rows
          data := (output.data.drop offset).take (rows.toNat * rowBytes) } :: results)

/-- `split_stacked_output`. -/
def splitStackedOutput (output : OwnedTensor) (rows : List ℤ) :
    Except FfiError (List OwnedTensor) :=
  match output.shape with
  | [] => .error (backendError "stacked ORT output has no batch dimension")
  | dimension :: _ => do
    let totalRows ← splitTotalFrom 0 rows
    Except.raiseIf (dimension ≠ totalRows ∨ totalRows = 0 ∨ output.data.length % totalRows ≠ 0)
      (backendError "stacked ORT output does not preserve its batch dimension")
    let elementBytes ← dtypeBytes output.dtype
    Except.raiseIf (output.data.length / totalRows % elementBytes ≠ 0)
      (backendError "stacked ORT output row is not element aligned")
    splitRows output (output.data.length / totalRows) 0 rows

/-! ## `infer_batch` -/

/-- `BatchKey`. -/
structure BatchKey where
  dtype : Dtype
  trailingShape : List ℤ
  deriving DecidableEq

/-- `groups.entry(key).or_default().push(index)`. -/
def pushGroup (key : BatchKey) (index : ℕ) :
    List (BatchKey × List ℕ) → List (BatchKey × List ℕ)
  | [] => [(key, [index])]
  | (key', indices) :: groups =>
    if key' = key then (key', indices ++ [index]) :: groups
    else (key', indices) :: pushGroup key index groups

/-- The answers so far, and the requests still to be stacked. -/
structure Batch where
  results : List (Option OwnedTensor)
  groups : List (BatchKey × List ℕ)

/-- `requests[index][0]`, of a request that has it. -/
def primaryOf (requests : List (List BorrowedTensor)) (index : ℕ) : BorrowedTensor :=
  ((requests.getD index []).head?).getD ⟨"", .u8, [], []⟩

namespace Backend

variable (b : Backend ω)

/-- The first loop of `infer_batch`. -/
def classify : ℕ → List (List BorrowedTensor) → Batch → Attempt FfiError ω Batch
  | _, [], batch => pure batch
  | index, [] :: _, _ =>
    throw (invalidArgument s!"native ORT batch request {index} has no primary input")
  | index, (primary :: more) :: requests, batch =>
    if more ≠ [] ∨ primary.shape.length < 2 then do
      let output ← b.infer (primary :: more)
      classify (index + 1) requests
        { batch with results := batch.results.set index (some output) }
    else
      classify (index + 1) requests
        { batch with
          groups := pushGroup ⟨primary.dtype, primary.shape.tail⟩ index batch.groups }

/-- `stack_group` and then `infer_stacked`. -/
def inferStacked (requests : List (List BorrowedTensor)) (indices : List ℕ) :
    Attempt FfiError ω (List OwnedTensor) := do
  let inputs := indices.map (primaryOf requests)
  let stacked ← Attempt.lift (stackGroup (primaryOf requests (indices.headD 0)) inputs)
  let output ← b.infer [stacked]
  Attempt.lift (splitStackedOutput output (inputs.map (·.rows)))

/-- The fallback of a group: one `infer` for each of its requests. -/
def inferEach (requests : List (List BorrowedTensor)) :
    List ℕ → List (Option OwnedTensor) → Attempt FfiError ω (List (Option OwnedTensor))
  | [], results => pure results
  | index :: indices, results => do
    let output ← b.infer (requests.getD index [])
    inferEach requests indices (results.set index (some output))

/-- The outputs of a stack, each to its request. -/
def scatter : List (ℕ × OwnedTensor) → List (Option OwnedTensor) → List (Option OwnedTensor)
  | [], results => results
  | (index, output) :: rest, results => scatter rest (results.set index (some output))

/-- The second loop of `infer_batch`. -/
def inferGroups (requests : List (List BorrowedTensor)) :
    List (List ℕ) → List (Option OwnedTensor) → Attempt FfiError ω (List (Option OwnedTensor))
  | [], results => pure results
  | [index] :: groups, results => do
    let output ← b.infer (requests.getD index [])
    inferGroups requests groups (results.set index (some output))
  | indices :: groups, results => do
    match ← Attempt.result (b.inferStacked requests indices) with
    | .ok outputs => inferGroups requests groups (scatter (indices.zip outputs) results)
    | .error error => do
      let cancelled ← Attempt.ask b.cancelled
      failIf (cancelled = true) error
      let results ← b.inferEach requests indices results
      inferGroups requests groups results

/-- The answers, all of them present. -/
def collect : ℕ → List (Option OwnedTensor) → Except FfiError (List OwnedTensor)
  | _, [] => .ok []
  | index, none :: _ => .error (backendError s!"missing ORT batch result {index}")
  | index, some output :: results => (collect (index + 1) results).map (output :: ·)

/-- `OrtBackend::infer_batch`; `order` is the order in which the map of groups is read. -/
def inferBatch (order : List (BatchKey × List ℕ) → List (BatchKey × List ℕ))
    (requests : List (List BorrowedTensor)) : Attempt FfiError ω (List OwnedTensor) := do
  let batch ← b.classify 0 requests ⟨List.replicate requests.length none, []⟩
  let results ← b.inferGroups requests ((order batch.groups).map (·.2)) batch.results
  Attempt.lift (collect 0 results)

end Backend

end Kapsl.Ort
