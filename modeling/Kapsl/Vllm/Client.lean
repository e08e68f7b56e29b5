import Mathlib.Algebra.Group.Int.Defs
import Mathlib.Algebra.Group.Nat.Defs
import Kapsl.Vllm.Registration

/-!
# Vllm/Client — `KapslKvControlClient` over one connection

A call of the client opens a connection, sends one frame and reads one back, with the operating
system handles that ride on it as `SCM_RIGHTS` payloads.  `Transport` is what the operating system
does during one call: the outcome of connecting and sending, and the results of the successive
`recvmsg` calls, after which the peer has closed.  The state a call threads through is
`Descriptors`: which descriptors the kernel installed in the process and which were closed again.
-/

namespace Kapsl.Vllm

open Except (raiseIf)

/-- A file descriptor. -/
abbrev Fd := ℤ

/-- The descriptors installed during a call, and those closed. -/
structure Descriptors where
  received : List Fd
  closed : List Fd
  deriving DecidableEq

namespace Descriptors

/-- Before the call. -/
def none : Descriptors := ⟨[], []⟩

/-- The kernel installs descriptors. -/
def receive (fds : Descriptors) (descriptors : List Fd) : Descriptors :=
  { fds with received := fds.received ++ descriptors }

/-- `_close_handles`. -/
def closeHandles (fds : Descriptors) (handles : List Fd) : Descriptors :=
  { fds with closed := fds.closed ++ handles }

end Descriptors

/-! ## The transport -/

/-- One entry of the ancillary data of a message. -/
structure Ancillary where
  level : ℤ
  kind : ℤ
  payload : List UInt8
  deriving DecidableEq

namespace Ancillary

/-- `SOL_SOCKET`. -/
def solSocket : ℤ := 1

/-- `SCM_RIGHTS`. -/
def scmRights : ℤ := 1

/-- A C `int` from its four little-endian bytes. -/
def decodeInt (a b c d : UInt8) : ℤ :=
  let n := a.toNat + 256 * (b.toNat + 256 * (c.toNat + 256 * d.toNat))
  if n < 2 ^ 31 then n else n - 2 ^ 32

/-- `array.array("i")` of the whole items of a payload. -/
def descriptorsOf : List UInt8 → List Fd
  | a :: b :: c :: d :: rest => decodeInt a b c d :: descriptorsOf rest
  | _ => []

/-- Whether the entry carries descriptors. -/
def isRights (entry : Ancillary) : Bool := entry.level == solSocket && entry.kind == scmRights

/-- The descriptors the kernel installed for the entry. -/
def descriptors (entry : Ancillary) : List Fd :=
  if entry.isRights then descriptorsOf entry.payload else []

end Ancillary

/-- The result of one `recvmsg` call. -/
inductive Recv
  | message (chunk : List UInt8) (ancillary : List Ancillary)
  /-- The call raised `OSError` or `TimeoutError`. -/
  | raises (message : String)
  deriving DecidableEq

/-- What the operating system does during one call. -/
structure Transport where
  /-- `connect` or `sendall` raised. -/
  sendError : Option String
  /-- The results of the `recvmsg` calls; after them the peer has closed. -/
  recv : List Recv

/-! ## Reading a frame -/

/-- A transport or protocol failure without a kind. -/
def controlError (message : String) : PyError := .kapslKvControlError message none

/-- The loop over the ancillary data of one message: the handles gathered so far, or the exception
together with the handles that were closed for it. -/
def gatherHandles : List Ancillary → List Fd → Except (PyError × List Fd) (List Fd)
  | [], handles => .ok handles
  | entry :: rest, handles =>
    if entry.isRights = false then
      .error (controlError "KV control response carried unsupported ancillary data", handles)
    else
      let handles := handles ++ Ancillary.descriptorsOf entry.payload
      if handles.length > 64 then
        .error (controlError "KV control response carries too many OS handles", handles)
      else gatherHandles rest handles

/-- The end of `_read_frame_with_handles`, once a newline was found. -/
def finishFrame (maxFrameBytes : ℕ) (frame : List UInt8) (handles : List Fd) (fds : Descriptors) :
    Outcome Descriptors (List UInt8 × List Fd) :=
  if frame = [] then
    (.error (controlError "KV control response is empty"), fds.closeHandles handles)
  else if frame.length > maxFrameBytes then
    (.error (controlError "KV control response exceeds maximum frame size"),
      fds.closeHandles handles)
  else (.ok (frame, handles), fds)

/-- `_read_frame_with_handles`, from the chunks, handles and size gathered so far. -/
def readFrameWithHandles (maxFrameBytes : ℕ) :
    List Recv → List UInt8 → List Fd → ℕ → Descriptors →
      Outcome Descriptors (List UInt8 × List Fd)
  | [], _, handles, _, fds =>
    (.error (controlError "KV control peer closed before a complete frame"),
      fds.closeHandles handles)
  -- The exception leaves the function with the handles gathered so far still open.
  | .raises message :: _, _, _, _, fds => (.error (.osError message), fds)
  | .message chunk ancillary :: rest, chunks, handles, size, fds =>
    let fds := fds.receive (ancillary.flatMap Ancillary.descriptors)
    match gatherHandles ancillary handles with
    | .error (error, handles) => (.error error, fds.closeHandles handles)
    | .ok handles =>
      if chunk = [] then
        (.error (controlError "KV control peer closed before a complete frame"),
          fds.closeHandles handles)
      else if (10 : UInt8) ∈ chunk then
        finishFrame maxFrameBytes (chunks ++ chunk.takeWhile (· != 10)) handles fds
      else if size + chunk.length ≥ maxFrameBytes then
        (.error (controlError "KV control response exceeds maximum frame size"),
          fds.closeHandles handles)
      else
        readFrameWithHandles maxFrameBytes rest (chunks ++ chunk) handles (size + chunk.length) fds

/-! ## One exchange -/

/-- `KapslKvControlClient`, with the interpreter it runs in; the constructor refuses a blank
participant ID and a frame limit of zero. -/
structure Client where
  interpreter : Interpreter
  participantId : String
  maxFrameBytes : ℕ
  participantId_nonblank : isBlank participantId = false
  maxFrameBytes_pos : 0 < maxFrameBytes

/-- What a call meets: the request ID it drew and what the operating system does. -/
structure Exchange where
  requestId : String
  transport : Transport

namespace Client

/-- Whether `except (UnicodeDecodeError, json.JSONDecodeError, ContractValidationError)` catches
it. -/
def caughtByDecode : PyError → Bool
  | .unicodeDecodeError _ | .jsonDecodeError _ | .contractValidationError _ => true
  | _ => false

/-- The body of the `try` around decoding. -/
def decodeResponse (c : Client) (raw : List UInt8) (requestId : String) : Except PyError Json := do
  let decoded ← c.interpreter.loads raw
  let response ← mapping decoded "response"
  validateResponse response requestId
  return response

/-- The exception an error response turns into. -/
def remoteError (c : Client) (response : Json) : Except PyError PyError := do
  let remote ← mapping (response.get "error") "error"
  let kind ← c.interpreter.str (remote.getD "kind" (.str "internal"))
  let text :=
    if (remote.get "message").truthy then remote.get "message"
    else if (remote.get "operation").truthy then remote.get "operation"
    else .str kind
  let message ← c.interpreter.str text
  return .kapslKvControlError message (some kind)

/-- The exception raised for an error response: the remote error, or what reading it raised. -/
def raisedFor (c : Client) (response : Json) : PyError :=
  match c.remoteError response with
  | .ok error => error
  | .error error => error

/-- The frame of a request. -/
def requestFrame (c : Client) (x : Exchange) (operation : String)
    (payload : List (String × Json)) : Except PyError (List UInt8) := do
  let envelope ← makeEnvelope x.requestId operation payload
  let frame ← c.interpreter.dumps envelope
  raiseIf (frame.length + 1 > c.maxFrameBytes)
    (controlError "KV control request exceeds maximum frame size")
  return frame

/-- What follows the frame in `_rpc_with_handles`: decode it, and settle the handles if that fails.
An exception outside the handler's list leaves them open. -/
def settleResponse (c : Client) (x : Exchange) (raw : List UInt8) (handles : List Fd)
    (fds : Descriptors) : Outcome Descriptors (Json × List Fd) :=
  match c.decodeResponse raw x.requestId with
  | .error error =>
    if caughtByDecode error then
      (.error (controlError ("invalid KV control response: " ++ error.message)),
        fds.closeHandles handles)
    else (.error error, fds)
  | .ok response =>
    if (response.get "result").eqStr "error" then
      (.error (c.raisedFor response), fds.closeHandles handles)
    else (.ok (response, handles), fds)

/-- A failed connection, or the exception `_read_frame_with_handles` left with; `handles` is still
the empty list there. -/
def transportError (operation : String) : PyError → PyError
  | .osError message =>
    .kapslKvControlError ("KV control request '" ++ operation ++ "' failed: " ++ message)
      (some "transport")
  | error => error

/-- `_rpc_with_handles`. -/
def rpcWithHandles (c : Client) (x : Exchange) (operation : String)
    (payload : List (String × Json)) (fds : Descriptors) : Outcome Descriptors (Json × List Fd) :=
  match c.requestFrame x operation payload, x.transport.sendError with
  | .error error, _ => (.error error, fds)
  | .ok _, some message => (.error (transportError operation (.osError message)), fds)
  | .ok _, none =>
    match readFrameWithHandles c.maxFrameBytes x.transport.recv [] [] 0 fds with
    | (.error error, fds) => (.error (transportError operation error), fds)
    | (.ok (raw, handles), fds) => c.settleResponse x raw handles fds

/-- `_rpc`. -/
def rpc (c : Client) (x : Exchange) (operation : String) (payload : List (String × Json))
    (fds : Descriptors) : Outcome Descriptors Json :=
  match c.rpcWithHandles x operation payload fds with
  | (.error error, fds) => (.error error, fds)
  | (.ok (response, handles), fds) =>
    if handles = [] then (.ok response, fds)
    else
      (.error (controlError
          ("KV control response '" ++ operation ++ "' carried unexpected OS handles")),
        fds.closeHandles handles)

/-- `_expect`, for a response whose `result` passed `validate_response`. -/
def expect (c : Client) (response : Json) (allowed : String) : Except PyError Unit := do
  let result := response.get "result"
  if result.eqStr allowed then return ()
  else
    let text ← c.interpreter.str result
    .error (controlError ("unexpected KV control result '" ++ text ++ "', expected " ++ allowed))

/-! ## The calls that return an acknowledgement -/

/-- A call built on `_rpc` that expects `ack`: check the arguments, exchange, check the result. -/
def ackCall (c : Client) (x : Exchange) (checked : Except PyError Unit) (operation : String)
    (payload : List (String × Json)) (fds : Descriptors) : Outcome Descriptors Unit :=
  match checked with
  | .error error => (.error error, fds)
  | .ok () =>
    match c.rpc x operation payload fds with
    | (.error error, fds) => (.error error, fds)
    | (.ok response, fds) => (c.expect response "ack", fds)

/-- `_required`. -/
def required (value field : String) : Except PyError Unit :=
  raiseIf (isBlank value = true) (.valueError s!"{field} must not be empty")

/-- `attach`. -/
def attach (c : Client) (x : Exchange) (attachment : Json) :
    Descriptors → Outcome Descriptors Unit :=
  c.ackCall x (validateSharedPoolAttachment attachment) "attach"
    [("participant_id", .str c.participantId), ("attachment", attachment)]

/-- `activate`. -/
def activate (c : Client) (x : Exchange) (participantEpoch : ℤ) :
    Descriptors → Outcome Descriptors Unit :=
  c.ackCall x (raiseIf (participantEpoch ≤ 0) (.valueError "participant_epoch must be positive"))
    "activate"
    [("participant_id", .str c.participantId), ("participant_epoch", .int participantEpoch)]

/-- The argument checks of `commit`. -/
def checkCommit (leaseId : String) (computedTokens : ℤ) : Except PyError Unit := do
  required leaseId "lease_id"
  raiseIf (computedTokens < 0) (.valueError "computed_tokens cannot be negative")

/-- `commit`. -/
def commit (c : Client) (x : Exchange) (leaseId : String) (computedTokens : ℤ) :
    Descriptors → Outcome Descriptors Unit :=
  c.ackCall x (checkCommit leaseId computedTokens) "commit"
    [("participant_id", .str c.participantId),
     ("request", .obj [("lease_id", .str leaseId), ("computed_tokens", .int computedTokens)])]

/-- `touch`. -/
def touch (c : Client) (x : Exchange) (leaseId : String) :
    Descriptors → Outcome Descriptors Unit :=
  c.ackCall x (required leaseId "lease_id") "touch"
    [("participant_id", .str c.participantId), ("lease_id", .str leaseId)]

/-- `heartbeat`. -/
def heartbeat (c : Client) (x : Exchange) : Descriptors → Outcome Descriptors Unit :=
  c.ackCall x (.ok ()) "heartbeat" [("participant_id", .str c.participantId)]

/-- `release`. -/
def release (c : Client) (x : Exchange) (leaseId : String) (completion : Option Json) :
    Descriptors → Outcome Descriptors Unit :=
  c.ackCall x (required leaseId "lease_id") "release"
    ([("participant_id", .str c.participantId), ("lease_id", .str leaseId)] ++
      match completion with
      | some completion => [("completion", completion)]
      | none => [])

/-- `detach`. -/
def detach (c : Client) (x : Exchange) (request : Json) :
    Descriptors → Outcome Descriptors Unit :=
  c.ackCall x (validateSharedPoolDetachRequest request) "detach"
    [("participant_id", .str c.participantId), ("request", request)]

/-- `ack_resize`. -/
def ackResize (c : Client) (x : Exchange) (request : Json) :
    Descriptors → Outcome Descriptors Unit :=
  c.ackCall x (validateResizeAckRequest request) "resize_ack"
    [("participant_id", .str c.participantId), ("request", request)]

/-! ## `reserve` -/

/-- `ContractValidationError` becomes `KapslKvControlError` with a prefix; others pass. -/
def wrapContractError (label : String) : PyError → PyError
  | .contractValidationError message => controlError (label ++ message)
  | error => error

/-- What `reserve` returns for a response. -/
def leaseOf (c : Client) (response : Json) : Except PyError Json := do
  c.expect response "lease"
  (do
    let lease ← mapping (response.get "lease") "lease"
    validateLease c.interpreter lease).mapError (wrapContractError "invalid lease response: ")

/-- `reserve`. -/
def reserve (c : Client) (x : Exchange) (request : Json) (fds : Descriptors) :
    Outcome Descriptors Json :=
  match validateReserveRequest request with
  | .error error => (.error error, fds)
  | .ok () =>
    match c.rpc x "reserve" [("participant_id", .str c.participantId), ("request", request)] fds with
    | (.error error, fds) => (.error error, fds)
    | (.ok response, fds) => (c.leaseOf response, fds)

/-! ## The calls that hand over handles -/

/-- A call built on `_rpc_with_handles`: check the arguments, exchange, read the response; whatever
reading it raises, the handles are closed. -/
def handleCall {α : Type} (c : Client) (x : Exchange) (checked : Except PyError Unit)
    (operation : String) (payload : List (String × Json)) (label : String)
    (read : Json → List Fd → Except PyError α) (fds : Descriptors) :
    Outcome Descriptors (α × List Fd) :=
  match checked with
  | .error error => (.error error, fds)
  | .ok () =>
    match c.rpcWithHandles x operation payload fds with
    | (.error error, fds) => (.error error, fds)
    | (.ok (response, handles), fds) =>
      match read response handles with
      | .error error => (.error (wrapContractError label error), fds.closeHandles handles)
      | .ok value => (.ok (value, handles), fds)

/-- The handle indices of a list of segments. -/
def handleIndices (segments : List Json) : List ℕ :=
  segments.map fun segment => (segment.get "handle_index").toNat

/-- `referenced != set(range(len(handles)))`. -/
def checkReferenced (referenced : List ℕ) (handles : List Fd) (message : String) :
    Except PyError Unit :=
  raiseIf (¬sameSet referenced (List.range handles.length)) (invalid message)

/-- The segments of the elastic pools of a receipt. -/
def receiptSegments (receipt : Json) : List Json :=
  (receipt.getD "shared_pools" (.list [])).items.flatMap fun pool =>
    ((pool.get "elastic").getD "segments" (.list [])).items

/-- `"live_pool_resize" in capabilities.get("features", [])`. -/
def wantsLiveResize (registration : Json) : Bool :=
  hasFeature ((registration.get "capabilities").getD "features" (.list [])).items "live_pool_resize"

/-- The `try` body of `register_with_handles`. -/
def readReceipt (c : Client) (registration response : Json) (handles : List Fd) :
    Except PyError Json := do
  c.expect response "registered"
  let raw ← mapping (response.get "receipt") "receipt"
  let receipt ← validateRegistrationReceipt c.interpreter raw c.participantId
  let capabilities ← mapping (registration.get "capabilities") "capabilities"
  let sharedPool := (capabilities.get "tier").eqStr "shared_pool"
  raiseIf (sharedPool = true ∧ (receipt.get "shared_pools").truthy = false)
    (invalid "shared_pool vLLM registration received no physical bindings")
  raiseIf (sharedPool = false ∧ (receipt.get "shared_pools").truthy = true)
    (invalid "opaque vLLM registration cannot receive shared-pool bindings")
  let receiptLive := (receipt.getD "shared_pools" (.list [])).items.any fun pool =>
    !(pool.get "elastic").isNull
  raiseIf (wantsLiveResize registration ≠ receiptLive)
    (invalid "registration receipt live-resize mode does not match the request")
  if wantsLiveResize registration then
    checkReferenced (handleIndices (receiptSegments receipt)) handles
      "registration VMM handles do not exactly match segment indices"
  else
    raiseIf (handles ≠ [])
      (invalid "fixed shared-pool registration returned unexpected OS handles")
  return receipt

/-- `register_with_handles`. -/
def registerWithHandles (c : Client) (x : Exchange) (registration : Json) :
    Descriptors → Outcome Descriptors (Json × List Fd) :=
  c.handleCall x (validateRegistration c.interpreter registration) "register"
    [("registration", registration)] "invalid registration receipt: " (c.readReceipt registration)

/-- A call that keeps the value of another and closes its handles. -/
def closing {α : Type} (outcome : Outcome Descriptors (α × List Fd)) : Outcome Descriptors α :=
  match outcome with
  | (.error error, fds) => (.error error, fds)
  | (.ok (value, handles), fds) => (.ok value, fds.closeHandles handles)

/-- `register`. -/
def register (c : Client) (x : Exchange) (registration : Json) (fds : Descriptors) :
    Outcome Descriptors Json :=
  closing (c.registerWithHandles x registration fds)

/-- `isinstance(pending, bool)`. -/
def pendingFlag (value : Json) : Except PyError Bool :=
  match value with
  | .bool pending => .ok pending
  | _ => .error (invalid "resize pending must be a boolean")

/-- One element of the operations list. -/
def checkOperation (I : Interpreter) (raw : Json) : Except PyError Json := do
  let operation ← mapping raw "resize operation"
  validateResizeOperation I operation

/-- The segments of the `map_workers` operations. -/
def mapSegments (operations : List Json) : List Json :=
  (operations.filter fun operation => (operation.get "stage").eqStr "map_workers").flatMap
    fun operation => (operation.getD "segments" (.list [])).items

/-- The `try` body of `poll_resize_state_with_handles`. -/
def readOperations (c : Client) (response : Json) (handles : List Fd) :
    Except PyError (List Json × Bool) := do
  c.expect response "resize"
  let pending ← pendingFlag (response.get "pending")
  let raw ← listOr (response.getD "operations" (.list [])) "resize operations must be a list"
  let operations ← raw.mapM (checkOperation c.interpreter)
  checkReferenced (handleIndices (mapSegments operations)) handles
    "resize VMM handles do not exactly match map segment indices"
  raiseIf (operations ≠ [] ∧ pending = false)
    (invalid "resize operations require a pending transaction")
  return (operations, pending)

/-- `poll_resize_state_with_handles`. -/
def pollResizeStateWithHandles (c : Client) (x : Exchange) (request : Json) :
    Descriptors → Outcome Descriptors ((List Json × Bool) × List Fd) :=
  c.handleCall x (validateResizePollRequest request) "resize_poll"
    [("participant_id", .str c.participantId), ("request", request)] "invalid resize operation: "
    c.readOperations

/-- `poll_resize_with_handles`. -/
def pollResizeWithHandles (c : Client) (x : Exchange) (request : Json) (fds : Descriptors) :
    Outcome Descriptors (List Json × List Fd) :=
  match c.pollResizeStateWithHandles x request fds with
  | (.error error, fds) => (.error error, fds)
  | (.ok ((operations, _), handles), fds) => (.ok (operations, handles), fds)

/-- `poll_resize`. -/
def pollResize (c : Client) (x : Exchange) (request : Json) (fds : Descriptors) :
    Outcome Descriptors (List Json) :=
  closing (c.pollResizeWithHandles x request fds)

end Client

end Kapsl.Vllm
