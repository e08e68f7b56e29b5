import Mathlib.Algebra.Order.Field.Rat
import Kapsl.Lib.Lts
import Kapsl.Ort.GenerationStream

/-!
# Ort/AbiCalls — what the adapter hands over the boundary is owned by one side at a time

The calls of the function table leave boxes behind: the adapter itself (`initialize`), the owner of a
result or of a batch of results, and the buffer of a report or of an error text.  The host gives each
of them back once, and the adapter frees it then; `infer_stream` gives its result back itself, when
the consumer has returned or unwound.

A call is a computation over the boxes, with the answers of what it calls as parameters.  A handle or
an owner that is no longer live, or is another kind of box, is a fault.  `Ort/AbiOwnership` follows
the boxes through whole runs.

Calls are taken one at a time; elapsed times are exact.
-/

namespace Kapsl.Ort.AbiCalls

open Attempt
open GenerationStream (CallbackStatus)
open Wire (Abi InferenceRequest NamedTensorView Pointer asBorrowed publishedView requestTensors
  resultOwner)

/-! ## Statuses -/

/-- The statuses a call may return. -/
inductive CallStatus
  | ok
  | ffi (status : Status)
  | unsupported
  | panic
  deriving DecidableEq

/-- What `with_ffi_error` reports. -/
structure CallError where
  status : CallStatus
  message : String
  status_ne : status ≠ .ok

/-- How the inside of a call stops without an answer. -/
inductive Stop
  | error (e : CallError)
  | panicked

/-- An error of `FfiResult`. -/
def CallError.ofFfi (e : FfiError) : CallError where
  status := .ffi e.status
  message := e.message
  status_ne := nofun

/-- What `catch_unwind` makes of it. -/
def Stop.callError : Stop → CallError
  | .error e => e
  | .panicked => ⟨.panic, "native ORT adapter caught a panic", nofun⟩

/-! ## Metrics -/

/-- `SessionPoolStats`. -/
structure PoolStats where
  totalSessions : ℕ
  idleSessions : ℕ
  waitingSessions : ℕ
  waitsTotal : ℕ
  waitSecondsTotal : ℚ

/-- `MetricsState`, with the fields of `EngineMetrics` that it writes. -/
structure Metrics where
  requests : ℕ
  failures : ℕ
  totalSeconds : ℚ
  inferenceTime : ℚ
  memoryUsage : ℕ
  batchSize : ℕ
  throughput : ℚ
  errorRate : ℚ
  pool : PoolStats

/-- `MetricsState::default()`. -/
def Metrics.default : Metrics where
  requests := 0
  failures := 0
  totalSeconds := 0
  inferenceTime := 0
  memoryUsage := 0
  batchSize := 0
  throughput := 0
  errorRate := 0
  pool := ⟨0, 0, 0, 0, 0⟩

/-- What is measured around an execution. -/
structure Measured where
  elapsedSeconds : ℚ
  memoryUsage : ℕ
  pool : PoolStats

/-- `u64::saturating_add`. -/
def saturatingAdd (m n : ℕ) : ℕ := min (m + n) (2 ^ 64 - 1)

/-- `MetricsState::record`. -/
def Metrics.record (metrics : Metrics) (measured : Measured) (requestCount : ℕ) (success : Bool) :
    Metrics :=
  let requests := saturatingAdd metrics.requests requestCount
  let failures := if success then metrics.failures else saturatingAdd metrics.failures requestCount
  let totalSeconds := metrics.totalSeconds + measured.elapsedSeconds
  { requests, failures, totalSeconds
    inferenceTime := measured.elapsedSeconds
    memoryUsage := measured.memoryUsage
    batchSize := requestCount
    throughput := if 0 < totalSeconds then requests / totalSeconds else 0
    errorRate := if requests = 0 then 0 else failures / requests
    pool := measured.pool }

/-- `MetricsState::snapshot`. -/
def Metrics.snapshot (metrics : Metrics) (measured : Measured) : Metrics :=
  { metrics with memoryUsage := measured.memoryUsage, pool := measured.pool }

/-! ## Boxes -/

/-- `PackBackend`, without the backends. -/
inductive Backend
  | stateless
  | generation
  deriving DecidableEq

/-- What is allocated for the host: a `PackState`, a `ResultOwner`, a `BatchResultOwner` or a
`KapslOwnedBuffer`. -/
inductive Box
  | pack (backend : Backend) (metrics : Metrics)
  | result (tensor : OwnedTensor)
  | batch (tensors : List OwnedTensor)
  | buffer (bytes : List UInt8)

/-- The kinds of box, as the host tells them apart. -/
inductive Kind
  | pack
  | result
  | batch
  | buffer
  deriving DecidableEq

def Box.kind : Box → Kind
  | pack _ _ => .pack
  | result _ => .result
  | batch _ => .batch
  | buffer _ => .buffer

/-- The contents of a box that its owner may rely on: all but the counters. -/
def Box.fixed : Box → Box
  | pack backend _ => .pack backend .default
  | box => box

/-- The live boxes by their addresses, and whether one was looked for that is not live. -/
structure Memory where
  boxes : List (ℕ × Box)
  faulted : Bool

/-- What is settled outside the adapter: the sizes of the ABI, and where a new box is put. -/
structure Platform where
  abi : Abi
  batchSize : ℕ
  address : List (ℕ × Box) → ℕ
  /-- An address in use is not given out. -/
  fresh : ∀ boxes, address boxes ∉ boxes.map Prod.fst

def Memory.find (m : Memory) (address : ℕ) : Option Box :=
  (m.boxes.find? fun box => decide (box.1 = address)).map Prod.snd

/-- A pointer that leads nowhere. -/
def Memory.fault (m : Memory) : Memory := { m with faulted := true }

/-- `drop(Box::from_raw(..))`, of a box that is expected to be of a kind. -/
def Memory.free (m : Memory) (kind : Kind) (address : ℕ) : Memory :=
  if (m.find address).map Box.kind = some kind then
    { m with boxes := m.boxes.filter fun box => decide (box.1 ≠ address) }
  else m.fault

/-- The counters of a box. -/
def Box.mapMetrics (f : Metrics → Metrics) : Box → Box
  | pack backend metrics => .pack backend (f metrics)
  | box => box

/-- Changing the counters behind a handle. -/
def Memory.mapMetrics (m : Memory) (handle : ℕ) (f : Metrics → Metrics) : Memory :=
  { m with boxes := m.boxes.map fun box =>
      if box.1 = handle then (box.1, box.2.mapMetrics f) else box }

/-- The inside of a call. -/
abbrev Op (α : Type) := Attempt Stop Memory α

/-- An answer of `FfiResult`. -/
def ffi {α : Type} (x : Except FfiError α) : Op α :=
  lift (x.mapError fun e => .error (.ofFfi e))

/-- `return Err(..)`, if `c`. -/
def failFfi (c : Bool) (e : FfiError) : Op Unit := failIf (c = true) (.error (.ofFfi e))

/-- `state`: the pack behind a handle. -/
def state (handle : Option ℕ) : Op (ℕ × Backend) :=
  ExceptT.mk fun m =>
    match handle with
    | none => (.error (.error (.ofFfi (invalidArgument "native ORT handle is null"))), m)
    | some address =>
      match m.find address with
      | some (.pack backend _) => (.ok (address, backend), m)
      | _ => (.error .panicked, m.fault)

variable (platform : Platform)

/-- `Box::into_raw(Box::new(..))`, or the `forget` of a vector. -/
def allocate (box : Box) : Op (Option ℕ) :=
  ExceptT.mk fun m =>
    (.ok (some (platform.address m.boxes)),
      { m with boxes := (platform.address m.boxes, box) :: m.boxes })

/-- `into_owned_buffer`, which leaves nothing of no bytes. -/
def intoOwnedBuffer (bytes : List UInt8) : Op (Option ℕ) :=
  if bytes = [] then return none else allocate platform (.buffer bytes)

/-- A null pointer is nothing to give back. -/
def giveBack (kind : Kind) (address : Option ℕ) : Op Unit :=
  update fun m => address.elim m (m.free kind)

/-- `shutdown`. -/
def shutdown : Option ℕ → Op Unit := giveBack .pack

/-- `release_result`. -/
def releaseResult : Option ℕ → Op Unit := giveBack .result

/-- `release_batch_result`. -/
def releaseBatchResult : Option ℕ → Op Unit := giveBack .batch

/-- `free_buffer`. -/
def freeBuffer : Option ℕ → Op Unit := giveBack .buffer

/-! ## A call -/

/-- What a call leaves in the slots of the host: an answer, or an error text. -/
structure Called where
  status : CallStatus
  answer : Option ℕ
  error : Option ℕ

/-- The error text of a call, where the host has a place for it. -/
def reportError (errorOut : Bool) (message : String) : Op (Option ℕ) :=
  if errorOut then intoOwnedBuffer platform message.toByteArray.data.toList else return none

/-- `with_ffi_error`; an operation answers with the address it writes for the host, if it does. -/
def withFfiError (errorOut : Bool) (operation : Op (Option ℕ)) : Op Called := do
  match ← result operation with
  | .ok answer => return ⟨.ok, answer, none⟩
  | .error stop => do
    let text ← reportError platform errorOut stop.callError.message
    return ⟨stop.callError.status, none, text⟩

/-- `write_result`, whose slot is there. -/
def writeResult (tensor : OwnedTensor) : Op (Option ℕ) := do
  let _ ← ffi (resultOwner platform.abi tensor)
  allocate platform (.result tensor)

/-- `write_batch_result`, whose slot is there. -/
def writeBatchResult (tensors : List OwnedTensor) : Op (Option ℕ) := do
  let owners ← ffi (tensors.mapM (resultOwner platform.abi))
  failFfi (decide (2 ^ 32 ≤ owners.length))
    (backendError "ORT batch result count exceeds backend ABI v1")
  allocate platform (.batch tensors)

/-- `write_buffer`. -/
def writeBuffer (reportOut : Bool) (bytes : List UInt8) : Op (Option ℕ) := do
  failFfi (!reportOut) (invalidArgument "native ORT output buffer is null")
  intoOwnedBuffer platform bytes

/-! ## `infer` -/

/-- `PreparedInputs`. -/
structure PreparedInputs where
  primary : OwnedTensor
  derived : List OwnedTensor

/-- `PreparedInputs::views`. -/
def PreparedInputs.views (prepared : PreparedInputs) (original : List BorrowedTensor) :
    List BorrowedTensor :=
  asBorrowed prepared.primary ::
    ((original.drop 1).filter fun input =>
      !prepared.derived.any fun derived => decide (derived.name = input.name)) ++
    prepared.derived.map asBorrowed

/-- `effective_tensors`. -/
def effectiveTensors (tensors : List BorrowedTensor) (prepared : Option PreparedInputs) :
    List BorrowedTensor :=
  prepared.elim tensors fun prepared => prepared.views tensors

/-- What a call of `infer` is given, and the answers it gets.  A cancellation is what the callback of
the host and the registration say together. -/
structure InferCall where
  handle : Option ℕ
  request : Option InferenceRequest
  resultOut : Bool
  errorOut : Bool
  /-- `GenerationBackend::infer`. -/
  generate : Option InferenceRequest → Except Stop OwnedTensor
  /-- `register_requests`. -/
  register : List ℕ → Except Stop Unit
  cancelledBefore : Except Stop Bool
  /-- `InputPreprocessor::prepare`. -/
  prepare : List BorrowedTensor → Except Stop (Option PreparedInputs)
  cancelledInPreprocessing : Except Stop Bool
  /-- `OrtBackend::infer` and `TaskProcessor::postprocess`. -/
  run : List BorrowedTensor → Except Stop OwnedTensor
  measured : Measured
  cancelledAfter : Except Stop Bool

/-- A check that may fail itself. -/
def checkCancelled (cancelled : Except Stop Bool) (message : String) : Op Unit := do
  let cancelled ← lift cancelled
  failFfi cancelled (cancelledError message)

/-- The closure of `infer`. -/
def InferCall.execute (call : InferCall) (tensors : List BorrowedTensor) : Op OwnedTensor := do
  let prepared ← lift (call.prepare tensors)
  checkCancelled call.cancelledInPreprocessing
    "native ORT request was cancelled during preprocessing"
  lift (call.run (effectiveTensors tensors prepared))

/-- An execution and the record of its outcome, which a panic goes past. -/
def recorded {α : Type} (handle : ℕ) (measured : Measured) (requestCount : ℕ) (execution : Op α) :
    Op α := do
  match ← result execution with
  | .error .panicked => throw .panicked
  | outcome => do
    update fun m => m.mapMetrics handle fun metrics =>
      metrics.record measured requestCount outcome.isOk
    lift outcome

/-- `infer`, once it knows that the backend is stateless. -/
def InferCall.stateless (call : InferCall) (handle : ℕ) : Op (Option ℕ) := do
  let (requestId, tensors) ← ffi (requestTensors platform.abi call.request)
  lift (call.register [requestId])
  checkCancelled call.cancelledBefore "native ORT request was cancelled before execution"
  let tensor ← recorded handle call.measured 1 (call.execute tensors)
  checkCancelled call.cancelledAfter "native ORT request was cancelled during execution"
  writeResult platform tensor

/-- `infer`, for the backend of the handle. -/
def InferCall.dispatch (call : InferCall) (pack : ℕ × Backend) : Op (Option ℕ) :=
  match pack.2 with
  | .generation => do
    let tensor ← lift (call.generate call.request)
    writeResult platform tensor
  | .stateless => call.stateless platform pack.1

/-- `infer`. -/
def infer (call : InferCall) : Op Called :=
  withFfiError platform call.errorOut do
    failFfi (!call.resultOut) (invalidArgument "native ORT result output is null")
    let pack ← state call.handle
    call.dispatch platform pack

/-! ## `infer_stream` -/

/-- What a call of `infer_stream` is given: the result slot is its own. -/
structure StreamCall where
  call : InferCall
  /-- Null, or the consumer: its status, or none when it unwinds. -/
  onChunk : Option (NamedTensorView → Option CallbackStatus)
  /-- `GenerationBackend::infer_stream`. -/
  generateStream : Except Stop Unit
  statusCode : CallbackStatus → ℤ

/-- The status `infer_stream` makes of that of its consumer. -/
def streamStatus : CallbackStatus → CallStatus
  | .ok => .ok
  | .cancelled => .ffi .cancelled
  | .invalidArgument => .ffi .invalidArgument
  | .panic => .panic
  | .other _ => .ffi .backendError

/-- The consumer reads the result; `catch_unwind` makes a status of an unwinding. -/
def deliver (onChunk : NamedTensorView → Option CallbackStatus) (answer : Option ℕ) :
    Op CallbackStatus :=
  ExceptT.mk fun m =>
    match answer.bind m.find with
    | some (.result tensor) => (.ok ((onChunk (publishedView platform.abi tensor)).getD .panic), m)
    | _ => (.ok .panic, m.fault)

/-- The end of `infer_stream`. -/
def StreamCall.acknowledge (stream : StreamCall) (status : CallbackStatus) : Op Called :=
  match status with
  | .ok => return ⟨.ok, none, none⟩
  | status => do
    let text ← reportError platform stream.call.errorOut
      s!"native ORT stream consumer returned status {stream.statusCode status}"
    return ⟨streamStatus status, none, text⟩

/-- `infer_stream`, once `infer` has answered. -/
def StreamCall.forward (stream : StreamCall)
    (onChunk : NamedTensorView → Option CallbackStatus) (called : Called) : Op Called :=
  if called.status ≠ .ok then return called
  else do
    let status ← deliver platform onChunk called.answer
    releaseResult called.answer
    stream.acknowledge platform status

/-- `infer_stream`, once `state` has answered: a handle that is null is left to `infer`. -/
def StreamCall.dispatch (stream : StreamCall)
    (onChunk : NamedTensorView → Option CallbackStatus) : Except Stop (ℕ × Backend) → Op Called
  | .ok (_, .generation) => withFfiError platform stream.call.errorOut do
      lift stream.generateStream
      return none
  | .ok (_, .stateless) | .error _ => do
    let called ← infer platform { stream.call with resultOut := true }
    stream.forward platform onChunk called

/-- `infer_stream`. -/
def inferStream (stream : StreamCall) : Op Called :=
  match stream.onChunk with
  | none => withFfiError platform stream.call.errorOut (throw (.error (.ofFfi
      (invalidArgument "native ORT streaming requires a chunk callback"))))
  | some onChunk => do
    let pack ← result (state stream.call.handle)
    stream.dispatch platform onChunk pack

/-! ## `infer_batch` -/

/-- `KapslInferenceBatchV1`. -/
structure InferenceBatch where
  structSize : ℕ
  requestCount : ℕ
  requests : Pointer InferenceRequest

/-- What a call of `infer_batch` is given, and the answers it gets: a cancellation is asked for by
the index of the request. -/
structure BatchCall where
  handle : Option ℕ
  batch : Option InferenceBatch
  resultOut : Bool
  errorOut : Bool
  cancelledBefore : ℕ → Bool
  register : List ℕ → Except Stop Unit
  prepare : List BorrowedTensor → Except Stop (Option PreparedInputs)
  cancelledInPreprocessing : ℕ → Except Stop Bool
  /-- `OrtBackend::infer_batch` and `TaskProcessor::postprocess_batch`. -/
  run : List (List BorrowedTensor) → Except Stop (List OwnedTensor)
  measured : Measured
  cancelledAfter : ℕ → Except Stop Bool

/-- `MAX_BATCH_REQUESTS`. -/
def maxBatchRequests : ℕ := 32

/-- One turn of the loop that reads the requests. -/
def BatchCall.readRequest (call : BatchCall) (requests : ℕ → InferenceRequest) (index : ℕ) :
    Op (ℕ × List BorrowedTensor) := do
  let (requestId, tensors) ← ffi (requestTensors platform.abi (some (requests index)))
  failFfi (call.cancelledBefore index) (cancelledError
    s!"native ORT batch request {requestId} was cancelled before execution")
  return (requestId, tensors)

/-- The loops that look for a cancelled request. -/
def checkAll (cancelled : ℕ → Except Stop Bool) (requestIds : List ℕ) (moment : String) : Op Unit :=
  requestIds.zipIdx.forM fun (requestId, index) =>
    checkCancelled (cancelled index)
      s!"native ORT batch request {requestId} was cancelled during {moment}"

/-- The closure of `infer_batch`. -/
def BatchCall.execute (call : BatchCall) (requests : List (ℕ × List BorrowedTensor)) :
    Op (List OwnedTensor) := do
  let prepared ← requests.mapM fun request => lift (call.prepare request.2)
  checkAll call.cancelledInPreprocessing (requests.map Prod.fst) "preprocessing"
  lift (call.run (List.zipWith effectiveTensors (requests.map Prod.snd) prepared))

/-- `infer_batch`, for the backend of the handle. -/
def BatchCall.dispatch (call : BatchCall) (requests : List (ℕ × List BorrowedTensor))
    (pack : ℕ × Backend) : Op (Option ℕ) := do
  failIf (pack.2 = .generation) (.error ⟨.unsupported,
    "ONNX generation owns continuous token batching; request-level infer_batch is unsupported",
    nofun⟩)
  lift (call.register (requests.map Prod.fst))
  let tensors ← recorded pack.1 call.measured requests.length (call.execute requests)
  checkAll call.cancelledAfter (requests.map Prod.fst) "execution"
  writeBatchResult platform tensors

/-- The error of a batch of another size. -/
def batchSizeError : FfiError :=
  invalidArgument s!"native ORT batch must contain 1..={maxBatchRequests} requests"

/-- `infer_batch`. -/
def inferBatch (call : BatchCall) : Op Called :=
  withFfiError platform call.errorOut do
    failFfi (!call.resultOut)
      (invalidArgument "native ORT batch inference requires batch and result outputs")
    let batch ← ffi (Except.okOr call.batch
      (invalidArgument "native ORT batch inference requires batch and result outputs"))
    failFfi (decide (batch.structSize < platform.batchSize))
      (invalidArgument "native ORT batch struct is truncated")
    failFfi (decide (batch.requestCount = 0 ∨ maxBatchRequests < batch.requestCount)) batchSizeError
    let memory ← ffi (Except.okOr batch.requests batchSizeError)
    let requests ← (List.range batch.requestCount).mapM (call.readRequest platform memory)
    let pack ← state call.handle
    call.dispatch platform requests pack

/-! ## The other calls -/

/-- `initialize`: the backend its configuration asks for, if the checks pass. -/
def initializePack (handleOut errorOut : Bool) (backend : Except Stop Backend) : Op Called :=
  withFfiError platform errorOut do
    failFfi (!handleOut)
      (invalidArgument "native ORT initialization requires config and handle outputs")
    let backend ← lift backend
    allocate platform (.pack backend .default)

/-- `planned_memory`, `planned_request_memory`, `actual_memory`, `model_info` and
`batching_policy`: a report about the pack behind a handle, encoded. -/
def report (handle : Option ℕ) (reportOut errorOut : Bool)
    (encode : Backend → Except Stop (List UInt8)) : Op Called :=
  withFfiError platform errorOut do
    let pack ← state handle
    let bytes ← lift (encode pack.2)
    writeBuffer platform reportOut bytes

/-- The snapshot of the counters behind a handle. -/
def snapshot (handle : ℕ) (measured : Measured) : Op (Option Metrics) :=
  ExceptT.mk fun m =>
    let m' := m.mapMetrics handle fun metrics => metrics.snapshot measured
    match m'.find handle with
    | some (.pack _ metrics) => (.ok (some metrics), m')
    | _ => (.ok none, m'.fault)

/-- What `metrics` encodes: those of the engine, or the counters. -/
def observed (measured : Measured) (pack : ℕ × Backend) : Op (Option Metrics) :=
  match pack.2 with
  | .generation => return none
  | .stateless => snapshot pack.1 measured

/-- `metrics`. -/
def metrics (handle : Option ℕ) (reportOut errorOut : Bool) (measured : Measured)
    (encode : Option Metrics → Except Stop (List UInt8)) : Op Called :=
  withFfiError platform errorOut do
    let pack ← state handle
    let metrics ← observed measured pack
    let bytes ← lift (encode metrics)
    writeBuffer platform reportOut bytes

/-- `describe`, of what is encoded without a handle. -/
def describe (descriptorOut errorOut : Bool) (descriptor : Except Stop (List UInt8)) : Op Called :=
  withFfiError platform errorOut do
    let bytes ← lift descriptor
    writeBuffer platform descriptorOut bytes

/-- `load_model`, `health_check` and `unload`: a command to the pack behind a handle. -/
def command (handle : Option ℕ) (errorOut : Bool) (answer : Backend → Except Stop Unit) :
    Op Called :=
  withFfiError platform errorOut do
    let pack ← state handle
    lift (answer pack.2)
    return none

/-- `cancel`, which has no place for a text. -/
def cancel (handle : Option ℕ) (answer : Backend → Except Stop Unit) : Op Called :=
  withFfiError platform false do
    let pack ← state handle
    lift (answer pack.2)
    return none

end Kapsl.Ort.AbiCalls
