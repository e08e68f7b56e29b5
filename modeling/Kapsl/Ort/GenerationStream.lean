import Kapsl.Ort.Audio
import Kapsl.Ort.WireTensors

/-!
# Ort/GenerationStream — one generation request, answered at once or chunk by chunk

`infer` and `infer_stream` of `GenerationBackend` register a request, decode it, start a stream of
the engine and take it item by item.  A turn is what one round of their loop meets: the item, the
answer of the host's cancellation callback after it, and whether another thread has cancelled the
token by then.  The token stays cancelled.  What the engine crate decides is a parameter, and so
are the consumer, which may unwind, and the items of the stream.

* `unary_eq_streamed` — the unary answer is the concatenation of what an accepting consumer is
  given, with the same exceptions on both sides, and it is text.
* `stream_contract` — what the consumer was given, how the call ended, and what is left of the
  stream then: nothing, unless the stream itself failed.
* `admit_wellFormed` — the engine sees well-formed requests only.
-/

namespace Kapsl.Ort.GenerationStream

open Except (raiseIf okOr)
open Wire (Abi NamedTensorView Pointer requestTensors resultOwner publishedView)

/-! ## What the engine crate decides -/

/-- `EngineError`: the kinds whose status is kept, or another one, with its text. -/
inductive EngineError
  | invalidInput (text : String)
  | cancelled (text : String)
  | other (text : String)

/-- `TensorDtype`: UTF-8, or another one by its display. -/
inductive TensorDtype
  | utf8
  | other (text : String)

/-- `BinaryTensorPacket`. -/
structure Packet where
  shape : List ℤ
  dtype : TensorDtype
  data : List UInt8

/-- An `f32`. -/
inductive Float32
  | nan
  | infinity (negative : Bool)
  | finite (value : ℚ)

/-- `is_finite`. -/
def Float32.isFinite : Float32 → Bool
  | finite _ => true
  | nan | infinity _ => false

/-- `self < bound`. -/
def Float32.lt (bound : ℚ) : Float32 → Bool
  | nan => false
  | infinity negative => negative
  | finite value => value < bound

/-- `bound < self`. -/
def Float32.gt (bound : ℚ) : Float32 → Bool
  | nan => false
  | infinity negative => !negative
  | finite value => bound < value

/-- The fields of `RequestMetadata` that the adapter reads, and the rest of it. -/
structure RequestMetadata (ρ : Type) where
  requestId : Option String
  stopTokenIds : Option (List ℕ)
  temperature : Option Float32
  topP : Option Float32
  repetitionPenalty : Option Float32
  minNewTokens : Option ℕ
  maxNewTokens : Option ℕ
  rest : ρ

/-- No field that the adapter checks is set. -/
structure RequestMetadata.Unset {ρ : Type} (metadata : RequestMetadata ρ) : Prop where
  stopTokenIds : metadata.stopTokenIds = none
  temperature : metadata.temperature = none
  topP : metadata.topP = none
  repetitionPenalty : metadata.repetitionPenalty = none
  minNewTokens : metadata.minNewTokens = none

/-- `RequestEnvelope`. -/
structure RequestEnvelope (ρ : Type) where
  sessionId : Option String
  metadata : Option (RequestMetadata ρ)

/-- The statuses a consumer may return. -/
inductive CallbackStatus
  | ok
  | cancelled
  | invalidArgument
  | panic
  | other (code : ℤ)

/-- What is settled outside the adapter. -/
structure Crates (ρ : Type) where
  abi : Abi
  /-- `BinaryTensorPacket::validate`. -/
  validate : Packet → Except EngineError Unit
  /-- `serde_json::from_slice::<RequestEnvelope>`. -/
  parseEnvelope : List UInt8 → Except String (RequestEnvelope ρ)
  /-- `RequestMetadata::default()`. -/
  defaultMetadata : RequestMetadata ρ
  statusCode : CallbackStatus → ℤ
  /-- By default nothing is set. -/
  default_unset : defaultMetadata.Unset

variable {ρ : Type} (crates : Crates ρ)

/-! ## Decoding -/

/-- `MAX_METADATA_JSON_BYTES`. -/
def maxMetadataJsonBytes : ℕ := 8 * 1024 * 1024

/-- `MAX_SESSION_ID_BYTES`. -/
def maxSessionIdBytes : ℕ := 4 * 1024

/-- `MAX_STOP_TOKEN_IDS`. -/
def maxStopTokenIds : ℕ := 4 * 1024

/-- The bytes are UTF-8. -/
def IsText (data : List UInt8) : Prop := ByteArray.IsValidUTF8 ⟨data.toArray⟩

instance (data : List UInt8) : Decidable (IsText data) :=
  inferInstanceAs (Decidable (ByteArray.IsValidUTF8 _))

/-- `engine_error`. -/
def engineError : EngineError → FfiError
  | .invalidInput text => invalidArgument text
  | .cancelled text => cancelledError text
  | .other text => backendError text

/-- `KapslInferenceRequestV1`, with the metadata: its length, and what `as_bytes` answers. -/
structure GenerationRequest where
  wire : Wire.InferenceRequest
  metadataLen : ℕ
  metadataJson : Option (List UInt8)

/-- `InferenceRequest` of the engine. -/
structure LlmRequest (ρ : Type) where
  input : Packet
  sessionId : Option String
  metadata : RequestMetadata ρ

/-- `str::trim` leaves nothing. -/
def isBlank (text : String) : Bool := text.toList.all Audio.isWhitespace

/-- `validate_envelope`. -/
def validateEnvelope (envelope : RequestEnvelope ρ) : Except FfiError Unit := do
  raiseIf (envelope.sessionId.any fun id => isBlank id || decide (maxSessionIdBytes < id.utf8ByteSize))
    (invalidArgument
      s!"native ORT generation session ID must contain 1..={maxSessionIdBytes} bytes")
  match envelope.metadata with
  | none => pure ()
  | some metadata => do
    raiseIf (metadata.stopTokenIds.any fun ids => decide (maxStopTokenIds < ids.length))
      (invalidArgument (s!"native ORT generation stop-token list may contain at most " ++
        s!"{maxStopTokenIds} entries"))
    raiseIf (metadata.temperature.any fun value => !value.isFinite || value.lt 0)
      (invalidArgument "native ORT generation temperature must be finite and non-negative")
    raiseIf (metadata.topP.any fun value => !value.isFinite || (!value.gt 0 || value.gt 1))
      (invalidArgument "native ORT generation top_p must be finite and in (0, 1]")
    raiseIf (metadata.repetitionPenalty.any fun value => !value.isFinite || !value.gt 0)
      (invalidArgument "native ORT generation repetition_penalty must be finite and positive")
    match metadata.minNewTokens, metadata.maxNewTokens with
    | some minimum, some maximum =>
      raiseIf (0 < maximum ∧ maximum < minimum)
        (invalidArgument "native ORT generation min_new_tokens may not exceed max_new_tokens")
    | _, _ => pure ()

/-- The envelope of the metadata: no bytes are an empty one. -/
def parseMetadata (metadataBytes : List UInt8) : Except FfiError (RequestEnvelope ρ) :=
  if metadataBytes = [] then .ok { sessionId := none, metadata := none }
  else (crates.parseEnvelope metadataBytes).mapError fun error =>
    invalidArgument s!"decode native ORT generation request metadata: {error}"

/-- `decode_request`, on what `request_tensors` answered; the token is the caller's. -/
def decodeRequest (request : GenerationRequest) (requestId : ℕ) (tensors : List BorrowedTensor) :
    Except FfiError (LlmRequest ρ) := do
  match tensors with
  | [input] =>
    raiseIf (input.name ≠ "input") (invalidArgument
      "native ORT generation requires exactly one UTF-8 tensor named `input`")
    raiseIf (input.dtype ≠ .utf8)
      (invalidArgument "native ORT generation requires a UTF-8 input tensor")
    raiseIf (¬IsText input.data) (invalidArgument
      s!"native ORT generation input is not valid UTF-8: {crates.abi.utf8Error input.data}")
    raiseIf (maxMetadataJsonBytes < request.metadataLen) (invalidArgument
      s!"native ORT generation metadata exceeds {maxMetadataJsonBytes} bytes")
    let metadataBytes ← okOr request.metadataJson
      (invalidArgument "native ORT generation metadata has a null pointer")
    let envelope ← parseMetadata crates metadataBytes
    validateEnvelope envelope
    let metadata := envelope.metadata.getD crates.defaultMetadata
    return {
      input := { shape := input.shape, dtype := .utf8, data := input.data }
      sessionId := envelope.sessionId
      metadata := { metadata with requestId := metadata.requestId.getD s!"abi-{requestId}" } }
  | _ => throw (invalidArgument
      "native ORT generation requires exactly one UTF-8 tensor named `input`")

/-- `packet_tensor`. -/
def packetTensor (packet : Packet) : Except FfiError OwnedTensor := do
  (crates.validate packet).mapError engineError
  match packet.dtype with
  | .other text => throw (backendError s!"ORT generation returned {text}, expected string")
  | .utf8 => do
    raiseIf (¬IsText packet.data) (backendError
      s!"ORT generation returned invalid UTF-8: {crates.abi.utf8Error packet.data}")
    return { name := "token", dtype := .utf8, shape := packet.shape, data := packet.data }

/-! ## A call -/

/-- What one round of the loop over the stream meets. -/
structure Turn where
  item : Except EngineError Packet
  /-- The host's callback, asked after the item has come. -/
  hostCancelled : Bool
  /-- `cancel`, `unload` or a drop has cancelled the token before it is read. -/
  tokenCancelled : Bool

/-- What a call meets: its request, the registry, and the answers it will get. -/
structure Call (ρ : Type) where
  /-- Null, or the request. -/
  request : Option GenerationRequest
  /-- The IDs that are active when the call registers. -/
  active : ℕ → Bool
  /-- The token is cancelled before execution, by the host or by another thread. -/
  cancelledBefore : Bool
  /-- `engine_stream`: the engine's lock, or the turns of the stream. -/
  stream : LlmRequest ρ → ℕ → Except FfiError (List Turn)
  /-- The token is cancelled between the last item and the end of the call. -/
  cancelledAfter : Bool

/-- `register_request` and `decode_request`, as both calls begin: the ID and the engine's request. -/
def admitRequest (call : Call ρ) : Except FfiError (ℕ × LlmRequest ρ) := do
  let (requestId, tensors) ← requestTensors crates.abi (call.request.map GenerationRequest.wire)
  raiseIf (requestId = 0)
    (invalidArgument "native ORT generation requires a non-zero request ID")
  raiseIf (call.active requestId)
    (invalidArgument s!"native ORT generation request ID {requestId} is already active")
  let request ← okOr call.request (invalidArgument "native ORT request is null")
  let decoded ← decodeRequest crates request requestId tensors
  raiseIf call.cancelledBefore (cancelledError
    s!"native ORT generation request {requestId} was cancelled before execution")
  return (requestId, decoded)

/-- The error of a call that was cancelled on its way. -/
def cancelledDuring (requestId : ℕ) : FfiError :=
  cancelledError s!"native ORT generation request {requestId} was cancelled during execution"

/-- `packet_tensor(chunk.map_err(engine_error)?)?`. -/
def Turn.tensor (turn : Turn) : Except FfiError OwnedTensor := do
  let chunk ← turn.item.mapError engineError
  packetTensor crates chunk

/-- The loop of `infer`: `token` is the cancellation token, `output` and `sawChunk` the locals. -/
def collect (requestId : ℕ) (cancelledAfter : Bool) (token : Bool) (output : List UInt8)
    (sawChunk : Bool) : List Turn → Except FfiError OwnedTensor
  | [] => do
    raiseIf (token || cancelledAfter) (cancelledDuring requestId)
    raiseIf (!sawChunk) (backendError "ORT generation produced no output chunks")
    return { name := "token", dtype := .utf8, shape := [1, output.length], data := output }
  | turn :: turns => do
    let tensor ← turn.tensor crates
    collect requestId cancelledAfter (token || turn.hostCancelled || turn.tokenCancelled)
      (output ++ tensor.data) true turns

/-- `GenerationBackend::infer`. -/
def infer (call : Call ρ) : Except FfiError OwnedTensor := do
  let (requestId, request) ← admitRequest crates call
  let stream ← call.stream request requestId
  collect crates requestId call.cancelledAfter false [] false stream

/-- The statuses of a stream: those of every call, or a panic of the consumer. -/
inductive StreamStatus
  | ffi (status : Status)
  | panic

/-- An error of `infer_stream`. -/
structure StreamError where
  status : StreamStatus
  message : String

/-- An error of the adapter. -/
def StreamError.ofFfi (error : FfiError) : StreamError := ⟨.ffi error.status, error.message⟩

/-- `callback_error`. -/
def callbackError (status : CallbackStatus) : StreamError where
  status := match status with
    | .cancelled => .ffi .cancelled
    | .invalidArgument => .ffi .invalidArgument
    | .panic => .panic
    | .ok | .other _ => .ffi .backendError
  message := s!"native ORT stream consumer returned status {crates.statusCode status}"

/-- A consumer: its status on the last of the views it was given, or none when it unwinds. -/
abbrev Consumer := List NamedTensorView → Option CallbackStatus

/-- `catch_unwind(..).unwrap_or(KAPSL_STATUS_PANIC)`. -/
def callbackStatus (onChunk : Consumer) (delivered : List NamedTensorView) : CallbackStatus :=
  (onChunk delivered).getD .panic

/-- What a streaming call leaves: its answer, what it delivered, and the turns it did not take. -/
structure Streamed where
  answer : Except StreamError Unit
  delivered : List NamedTensorView
  untaken : List Turn

/-- `result_owner(packet_tensor(chunk.map_err(engine_error)?)?)?`. -/
def Turn.view (turn : Turn) : Except FfiError NamedTensorView := do
  let tensor ← turn.tensor crates
  resultOwner crates.abi tensor

/-- The loop of `infer_stream`.  `await_cancellation_acknowledgement` leaves nothing of the
stream; a failed item leaves what is behind it. -/
def forward (requestId : ℕ) (cancelledAfter : Bool) (onChunk : Consumer) (token : Bool)
    (delivered : List NamedTensorView) : List Turn → Streamed
  | [] =>
    if token || cancelledAfter then ⟨.error (.ofFfi (cancelledDuring requestId)), delivered, []⟩
    else ⟨.ok (), delivered, []⟩
  | turn :: turns =>
    if token || turn.hostCancelled || turn.tokenCancelled then
      ⟨.error (.ofFfi (cancelledDuring requestId)), delivered, []⟩
    else
      match turn.view crates with
      | .error error => ⟨.error (.ofFfi error), delivered, turns⟩
      | .ok view =>
        match callbackStatus onChunk (delivered ++ [view]) with
        | .ok => forward requestId cancelledAfter onChunk false (delivered ++ [view]) turns
        | status => ⟨.error (callbackError crates status), delivered ++ [view], []⟩

/-- `GenerationBackend::infer_stream`. -/
def inferStream (call : Call ρ) (onChunk : Consumer) : Streamed :=
  match admitRequest crates call with
  | .error error => ⟨.error (.ofFfi error), [], []⟩
  | .ok (requestId, request) =>
    match call.stream request requestId with
    | .error error => ⟨.error (.ofFfi error), [], []⟩
    | .ok stream => forward crates requestId call.cancelledAfter onChunk false [] stream

/-! ## What a streaming call leaves -/

/-- Nobody cancels in this turn. -/
def Turn.Quiet (turn : Turn) : Prop := turn.hostCancelled = false ∧ turn.tokenCancelled = false

/-- **What holds after the loop**: the consumer was given the views of the first turns, in order,
all of them quiet, and it accepted each but perhaps the last; the call succeeds exactly when it
delivered and the consumer accepted everything and nobody cancelled; an item that failed, behind
views that were all accepted, answers with its error; and what is left of the stream lies behind such
an item. -/
structure Contract (onChunk : Consumer) (cancelledAfter : Bool) (before views : List NamedTensorView)
    (turns : List Turn) (s : Streamed) : Prop where
  delivered : s.delivered = before ++ views
  in_order : (turns.take views.length).mapM (Turn.view crates) = .ok views
  quiet : ∀ turn ∈ turns.take views.length, turn.Quiet
  accepted : ∀ i, i + 1 < views.length →
    callbackStatus onChunk (before ++ views.take (i + 1)) = .ok
  success : s.answer = .ok () ↔ views.length = turns.length ∧ cancelledAfter = false ∧
    ∀ i < views.length, callbackStatus onChunk (before ++ views.take (i + 1)) = .ok
  failed : (∀ i < views.length, callbackStatus onChunk (before ++ views.take (i + 1)) = .ok) →
    ∀ turn error, turns[views.length]? = some turn → turn.Quiet →
      turn.view crates = .error error → s.answer = .error (.ofFfi error)
  drained : s.untaken ≠ [] → ∃ turn error, turns[views.length]? = some turn ∧
    turn.view crates = .error error ∧ s.answer = .error (.ofFfi error) ∧
    s.untaken = turns.drop (views.length + 1)

variable {crates}

/-- A loop that stops in front of a turn in which somebody cancels. -/
theorem contract_stop {onChunk : Consumer} {cancelledAfter : Bool} {before : List NamedTensorView}
    {turn : Turn} {turns : List Turn} {error : StreamError} (hcancelled : ¬turn.Quiet) :
    Contract crates onChunk cancelledAfter before [] (turn :: turns) ⟨.error error, before, []⟩ where
  delivered := (List.append_nil _).symm
  in_order := rfl
  quiet := nofun
  accepted := nofun
  success := ⟨nofun, fun h => nomatch h.1⟩
  failed := fun _ _ _ hturn hquiet => absurd (Option.some.inj hturn ▸ hquiet) hcancelled
  drained := fun h => absurd rfl h

/-- A turn that was delivered and accepted, and the loop behind it. -/
theorem Contract.cons {onChunk : Consumer} {cancelledAfter : Bool}
    {before views : List NamedTensorView} {turn : Turn} {turns : List Turn} {view : NamedTensorView}
    {s : Streamed} (hquiet : turn.Quiet) (hview : turn.view crates = .ok view)
    (hok : callbackStatus onChunk (before ++ [view]) = .ok)
    (h : Contract crates onChunk cancelledAfter (before ++ [view]) views turns s) :
    Contract crates onChunk cancelledAfter before (view :: views) (turn :: turns) s := by
  have happend : ∀ i, before ++ (view :: views).take (i + 1) = before ++ [view] ++ views.take i := by
    intro i
    rw [List.take_succ_cons, List.append_assoc, List.singleton_append]
  refine ⟨by rw [h.delivered, List.append_assoc, List.singleton_append], ?_, ?_, ?_, ?_, ?_, ?_⟩
  · rw [List.length_cons, List.take_succ_cons, List.mapM_cons, hview, Except.ok_bind, h.in_order]
    rfl
  · rw [List.length_cons, List.take_succ_cons]
    exact List.forall_mem_cons.mpr ⟨hquiet, h.quiet⟩
  · intro i hi
    rw [happend]
    rcases i with _ | i
    · rwa [List.take_zero, List.append_nil]
    · exact h.accepted i (Nat.lt_of_succ_lt_succ hi)
  · rw [h.success, List.length_cons, List.length_cons, Nat.succ_inj]
    refine and_congr_right fun _ => and_congr_right fun _ => ⟨fun hall i hi => ?_, fun hall i hi => ?_⟩
    · rw [happend]
      rcases i with _ | i
      · rwa [List.take_zero, List.append_nil]
      · exact hall i (Nat.lt_of_succ_lt_succ hi)
    · rw [← happend]
      exact hall (i + 1) (Nat.succ_lt_succ hi)
  · intro hall
    refine h.failed fun i hi => ?_
    rw [← happend]
    exact hall (i + 1) (Nat.succ_lt_succ hi)
  · intro hleft
    obtain ⟨failed, error, hfailed, herror, hanswer, huntaken⟩ := h.drained hleft
    exact ⟨failed, error, hfailed, herror, hanswer, huntaken⟩

/-- The stream has ended. -/
theorem contract_nil {onChunk : Consumer} {cancelledAfter : Bool} {before : List NamedTensorView}
    {requestId : ℕ} : Contract crates onChunk cancelledAfter before [] []
      (forward crates requestId cancelledAfter onChunk false before []) where
  delivered := by
    rw [forward]
    split <;> exact (List.append_nil _).symm
  in_order := rfl
  quiet := nofun
  accepted := nofun
  success := by
    rw [forward, Bool.false_or]
    cases cancelledAfter with
    | true => exact ⟨nofun, fun h => nomatch h.2.1⟩
    | false => exact ⟨fun _ => ⟨rfl, rfl, nofun⟩, fun _ => rfl⟩
  failed := nofun
  drained := by
    rw [forward]
    split <;> exact fun h => absurd rfl h

/-- An item that failed: nothing of it is delivered, and what is behind it is left. -/
theorem contract_failed {onChunk : Consumer} {cancelledAfter : Bool}
    {before : List NamedTensorView} {turn : Turn} {turns : List Turn} {error : FfiError}
    (herror : turn.view crates = .error error) :
    Contract crates onChunk cancelledAfter before [] (turn :: turns)
      ⟨.error (.ofFfi error), before, turns⟩ where
  delivered := (List.append_nil _).symm
  in_order := rfl
  quiet := nofun
  accepted := nofun
  success := ⟨nofun, fun h => nomatch h.1⟩
  failed := by
    rintro - _ error' hturn - herror'
    obtain rfl := Option.some.inj hturn
    rw [Except.error.inj (herror.symm.trans herror')]
  drained := fun _ => ⟨turn, error, rfl, herror, rfl, rfl⟩

/-- A view that the consumer was given and refused. -/
theorem contract_refused {onChunk : Consumer} {cancelledAfter : Bool}
    {before : List NamedTensorView} {turn : Turn} {turns : List Turn} {view : NamedTensorView}
    {error : StreamError} (hquiet : turn.Quiet) (hview : turn.view crates = .ok view)
    (hrefused : callbackStatus onChunk (before ++ [view]) ≠ .ok) :
    Contract crates onChunk cancelledAfter before [view] (turn :: turns)
      ⟨.error error, before ++ [view], []⟩ where
  delivered := rfl
  in_order := by
    rw [List.length_singleton, List.take_succ_cons, List.take_zero, List.mapM_cons, hview]
    rfl
  quiet := by
    rw [List.length_singleton, List.take_succ_cons, List.take_zero]
    exact List.forall_mem_cons.mpr ⟨hquiet, nofun⟩
  accepted := by
    intro i hi
    simp at hi
  success := ⟨nofun, fun h => absurd (h.2.2 0 Nat.one_pos) hrefused⟩
  failed := fun h => absurd (h 0 Nat.one_pos) hrefused
  drained := fun h => absurd rfl h

/-- **The loop keeps the contract**, by induction on the turns: the views already delivered are
carried along. -/
theorem forward_contract {onChunk : Consumer} {cancelledAfter : Bool} {requestId : ℕ}
    (before : List NamedTensorView) (turns : List Turn) :
    ∃ views, Contract crates onChunk cancelledAfter before views turns
      (forward crates requestId cancelledAfter onChunk false before turns) := by
  induction turns generalizing before with
  | nil => exact ⟨[], contract_nil⟩
  | cons turn turns ih =>
    rw [forward, Bool.false_or]
    split_ifs with hcancel
    · refine ⟨[], contract_stop fun hquiet => ?_⟩
      simp [hquiet.1, hquiet.2] at hcancel
    · have hquiet : turn.Quiet := by
        rwa [Bool.not_eq_true, Bool.or_eq_false_iff] at hcancel
      rcases hview : turn.view crates with error | view
      · exact ⟨[], contract_failed hview⟩
      · simp only
        split
        · next hok =>
          obtain ⟨views, hviews⟩ := ih (before ++ [view])
          exact ⟨view :: views, hviews.cons hquiet hview hok⟩
        · next hrefused => exact ⟨[view], contract_refused hquiet hview hrefused⟩

variable (crates) in
/-- The stream that a call starts, with the ID it registered. -/
def started (call : Call ρ) : Except FfiError (ℕ × List Turn) := do
  let (requestId, request) ← admitRequest crates call
  let stream ← call.stream request requestId
  return (requestId, stream)

/-- A call that starts no stream delivers nothing; one that does goes through its loop. -/
theorem inferStream_eq (call : Call ρ) (onChunk : Consumer) :
    inferStream crates call onChunk = match started crates call with
      | .error error => ⟨.error (.ofFfi error), [], []⟩
      | .ok (requestId, turns) =>
        forward crates requestId call.cancelledAfter onChunk false [] turns := by
  rw [inferStream, started]
  rcases admitRequest crates call with error | ⟨requestId, request⟩
  · rfl
  · rw [Except.ok_bind]
    simp only
    rcases call.stream request requestId with error | stream <;> rfl

/-- **Streaming, for any stream, consumer and cancellations**: a call that could not start its
stream delivers nothing and answers with the reason; otherwise the consumer gets the first chunks in
order, none once a cancellation was seen, and the stream is drained unless an item of it failed,
whose error is then the answer. -/
theorem stream_contract (crates : Crates ρ) (call : Call ρ) (onChunk : Consumer) :
    (∀ error, started crates call = .error error →
      inferStream crates call onChunk = ⟨.error (.ofFfi error), [], []⟩) ∧
    ∀ requestId turns, started crates call = .ok (requestId, turns) →
      Contract crates onChunk call.cancelledAfter []
        (inferStream crates call onChunk).delivered turns (inferStream crates call onChunk) := by
  refine ⟨fun error h => by rw [inferStream_eq, h], fun requestId turns h => ?_⟩
  rw [inferStream_eq, h]
  obtain ⟨views, hviews⟩ : ∃ views, Contract crates onChunk call.cancelledAfter [] views turns
      (forward crates requestId call.cancelledAfter onChunk false [] turns) := forward_contract [] turns
  have hdelivered := hviews.delivered
  rw [List.nil_append] at hdelivered
  exact hdelivered ▸ hviews

/-- Crates that understand no metadata. -/
def bareCrates : Crates Unit where
  abi := {
    requestSize := 0
    namedTensorSize := 0
    tensorViewSize := 0
    wireFormat := 1
    contiguous := 1
    readOnly := 2
    utf8Error := fun _ => "invalid utf-8 sequence"
    contiguous_ne := by decide }
  validate packet :=
    if packet.shape = [1, packet.data.length] then .ok () else .error (.other "shape mismatch")
  parseEnvelope _ := .error "expected value"
  defaultMetadata := {
    requestId := none
    stopTokenIds := none
    temperature := none
    topP := none
    repetitionPenalty := none
    minNewTokens := none
    maxNewTokens := none
    rest := () }
  statusCode
    | .ok => 0
    | .cancelled => 2
    | .invalidArgument => 3
    | .panic => 4
    | .other code => code
  default_unset := ⟨rfl, rfl, rfl, rfl, rfl⟩

/-- A chunk of one character. -/
def chunkTurn : Turn := ⟨.ok ⟨[1, 1], .utf8, [104]⟩, false, false⟩

/-- An item that failed. -/
def failedTurn : Turn := ⟨.error (.invalidInput "context is full"), false, false⟩

/-- A prompt of two characters, whose stream has one chunk and then fails. -/
def promptCall : Call Unit where
  request := some {
    wire := Wire.requestOf bareCrates.abi 7 [publishedView bareCrates.abi
      { name := "input", dtype := .utf8, shape := [1, 2], data := [104, 105] }]
    metadataLen := 0
    metadataJson := some [] }
  active _ := false
  cancelledBefore := false
  stream _ _ := .ok [chunkTurn, failedTurn]
  cancelledAfter := false

/-- The consumer takes the chunk, and is told why there is no other. -/
theorem stream_contract_prompt :
    (inferStream bareCrates promptCall fun _ => some .ok).delivered.length = 1 ∧
      (inferStream bareCrates promptCall fun _ => some .ok).answer =
        .error (.ofFfi (invalidArgument "context is full")) := by
  have hstarted : started bareCrates promptCall = .ok (7, [chunkTurn, failedTurn]) := by rfl
  have hlength : (inferStream bareCrates promptCall fun _ => some .ok).delivered.length = 1 := by rfl
  have hcontract := (stream_contract bareCrates promptCall fun _ => some .ok).2 7 _ hstarted
  have hfailed : failedTurn.view bareCrates = .error (invalidArgument "context is full") := by rfl
  refine ⟨hlength, hcontract.failed (fun _ _ => rfl) failedTurn _ ?_ ⟨rfl, rfl⟩ hfailed⟩
  rw [hlength]
  rfl

/-! ## The unary answer -/

/-- **The loop of `infer` answers** when every item is a tensor, nobody cancels and there is a
chunk, with what it had and the data of the rest. -/
theorem collect_eq_ok {requestId : ℕ} {cancelledAfter token sawChunk : Bool} {output : List UInt8}
    {turns : List Turn} {t : OwnedTensor} :
    collect crates requestId cancelledAfter token output sawChunk turns = .ok t ↔
      ∃ tensors, turns.mapM (Turn.tensor crates) = .ok tensors ∧ (∀ turn ∈ turns, turn.Quiet) ∧
        token = false ∧ cancelledAfter = false ∧ (sawChunk = true ∨ turns ≠ []) ∧
        ({ name := "token", dtype := .utf8
           shape := [1, ↑(output ++ tensors.flatMap OwnedTensor.data).length]
           data := output ++ tensors.flatMap OwnedTensor.data } : OwnedTensor) = t := by
  induction turns generalizing token output sawChunk with
  | nil =>
    simp only [collect, Except.bind_eq_ok, Except.raiseIf_eq_ok, exists_const, Except.pure_eq_ok,
      List.mapM_nil, exists_eq_left', List.flatMap_nil, List.append_nil, List.not_mem_nil,
      Bool.or_eq_true, not_or, Bool.not_eq_true, Bool.not_eq_eq_eq_not, Bool.not_true,
      Bool.not_eq_false, ne_eq, not_true_eq_false, or_false, false_imp_iff, implies_true, true_and,
      and_assoc]
  | cons turn turns ih =>
    simp only [collect, Except.bind_eq_ok, ih, List.mapM_cons, Except.pure_eq_ok,
      Bool.or_eq_false_iff, List.forall_mem_cons, true_or, true_and, ne_eq, reduceCtorEq,
      not_false_eq_true, or_true]
    constructor
    · rintro ⟨tensor, htensor, tensors, htensors, hquiet, ⟨⟨htoken, hhost⟩, hcancel⟩, hafter, rfl⟩
      refine ⟨_, ⟨tensor, htensor, tensors, htensors, rfl⟩, ⟨⟨hhost, hcancel⟩, hquiet⟩, htoken,
        hafter, ?_⟩
      rw [List.flatMap_cons, List.append_assoc]
    · rintro ⟨_, ⟨tensor, htensor, tensors, htensors, rfl⟩, ⟨⟨hhost, hcancel⟩, hquiet⟩, htoken,
        hafter, rfl⟩
      refine ⟨tensor, htensor, tensors, htensors, hquiet, ⟨⟨htoken, hhost⟩, hcancel⟩, hafter, ?_⟩
      rw [List.flatMap_cons, List.append_assoc]

/-- A consumer that takes everything. -/
def accept : Consumer := fun _ => some .ok

/-- What a consumer reads from a view. -/
def viewData (view : NamedTensorView) : List UInt8 := view.tensor.data.slice view.tensor.byteLen

@[simp] theorem viewData_publishedView (abi : Abi) (tensor : OwnedTensor) :
    viewData (publishedView abi tensor) = tensor.data :=
  Wire.map_ofList tensor.data

/-- The chunks of a stream, put together. -/
def joined (views : List NamedTensorView) : OwnedTensor where
  name := "token"
  dtype := .utf8
  shape := [1, (views.flatMap viewData).length]
  data := views.flatMap viewData

variable (crates) in
/-- Every chunk fits the rank and the byte length of a view. -/
def FitsViews (turns : List Turn) : Prop :=
  ∀ turn ∈ turns, ∀ tensor, turn.tensor crates = .ok tensor →
    tensor.shape.length < 2 ^ 32 ∧ tensor.data.length < 2 ^ 64

theorem view_eq_ok {turn : Turn} {view : NamedTensorView} :
    turn.view crates = .ok view ↔ ∃ tensor, turn.tensor crates = .ok tensor ∧
      tensor.shape.length < 2 ^ 32 ∧ tensor.data.length < 2 ^ 64 ∧
      publishedView crates.abi tensor = view := by
  simp only [Turn.view, Except.bind_eq_ok, Wire.resultOwner_eq_ok]

/-- The views of a stream are those of its tensors, which fit. -/
theorem mapM_view_eq_ok {turns : List Turn} {views : List NamedTensorView} :
    turns.mapM (Turn.view crates) = .ok views ↔
      ∃ tensors, turns.mapM (Turn.tensor crates) = .ok tensors ∧ FitsViews crates turns ∧
        tensors.map (publishedView crates.abi) = views := by
  induction turns generalizing views with
  | nil => simp [FitsViews, Except.pure_eq_ok]
  | cons turn turns ih =>
    simp only [List.mapM_cons, Except.bind_eq_ok, Except.pure_eq_ok, view_eq_ok, ih, FitsViews,
      List.forall_mem_cons]
    constructor
    · rintro ⟨_, ⟨tensor, htensor, hrank, hdata, rfl⟩, _, ⟨tensors, htensors, hfits, rfl⟩, rfl⟩
      refine ⟨_, ⟨tensor, htensor, tensors, htensors, rfl⟩, ⟨fun other hother => ?_, hfits⟩, rfl⟩
      obtain rfl := Except.ok.inj (htensor.symm.trans hother)
      exact ⟨hrank, hdata⟩
    · rintro ⟨_, ⟨tensor, htensor, tensors, htensors, rfl⟩, ⟨hfit, hfits⟩, rfl⟩
      obtain ⟨hrank, hdata⟩ := hfit tensor htensor
      exact ⟨_, ⟨tensor, htensor, hrank, hdata, rfl⟩, _, ⟨tensors, htensors, hfits, rfl⟩, rfl⟩

/-- **An accepting consumer has the whole stream** exactly when the call succeeds. -/
theorem forward_accept (requestId : ℕ) {cancelledAfter : Bool} {turns : List Turn}
    (before : List NamedTensorView) {views : List NamedTensorView} :
    (forward crates requestId cancelledAfter accept false before turns).answer = .ok () ∧
        (forward crates requestId cancelledAfter accept false before turns).delivered =
          before ++ views ↔
      turns.mapM (Turn.view crates) = .ok views ∧ (∀ turn ∈ turns, turn.Quiet) ∧
        cancelledAfter = false := by
  induction turns generalizing before views with
  | nil =>
    rw [forward, Bool.false_or, List.mapM_nil, Except.pure_eq_ok]
    cases cancelledAfter with
    | true => exact ⟨fun h => (nomatch h.1), fun h => (nomatch h.2.2)⟩
    | false => simp [eq_comm]
  | cons turn turns ih =>
    rw [forward, Bool.false_or, List.mapM_cons, List.forall_mem_cons]
    split_ifs with hcancel
    · refine ⟨fun h => (nomatch h.1), fun ⟨_, ⟨hquiet, _⟩, _⟩ => ?_⟩
      simp [hquiet.1, hquiet.2] at hcancel
    · have hquiet : turn.Quiet := by
        rwa [Bool.not_eq_true, Bool.or_eq_false_iff] at hcancel
      simp only [Except.bind_eq_ok, Except.pure_eq_ok]
      rcases turn.view crates with error | view
      · exact ⟨fun h => (nomatch h.1), fun ⟨⟨_, h, _⟩, _⟩ => (nomatch h)⟩
      · simp only [callbackStatus, accept, Option.getD_some, Except.ok.injEq, exists_eq_left']
        constructor
        · rintro ⟨hanswer, hdelivered⟩
          obtain ⟨rest, hrest⟩ : ∃ rest, Contract crates accept cancelledAfter (before ++ [view]) rest
              turns (forward crates requestId cancelledAfter accept false (before ++ [view]) turns) :=
            forward_contract _ turns
          have hall := (ih _).mp ⟨hanswer, hrest.delivered⟩
          have hviews : view :: rest = views := by
            have heq := hrest.delivered.symm.trans hdelivered
            rwa [List.append_assoc, List.append_cancel_left_eq] at heq
          exact ⟨⟨rest, hall.1, hviews⟩, ⟨hquiet, hall.2.1⟩, hall.2.2⟩
        · rintro ⟨⟨rest, hrest, rfl⟩, ⟨-, hall⟩, hafter⟩
          obtain ⟨hanswer, hdelivered⟩ := (ih _).mpr ⟨hrest, hall, hafter⟩
          refine ⟨hanswer, hdelivered.trans ?_⟩
          rw [List.append_assoc, List.singleton_append]

/-- Text after text is text. -/
theorem IsText.append {a b : List UInt8} (ha : IsText a) (hb : IsText b) : IsText (a ++ b) := by
  have happend := ByteArray.IsValidUTF8.append ha hb
  have hbytes : (⟨a.toArray⟩ ++ ⟨b.toArray⟩ : ByteArray) = ⟨(a ++ b).toArray⟩ := by
    refine ByteArray.ext ?_
    rw [ByteArray.data_append, List.append_toArray]
  rwa [hbytes] at happend

theorem isText_nil : IsText [] := ByteArray.isValidUTF8_empty

/-- Every chunk is text. -/
theorem isText_of_tensor {turn : Turn} {tensor : OwnedTensor}
    (h : turn.tensor crates = .ok tensor) : IsText tensor.data := by
  simp only [Turn.tensor, packetTensor, Except.bind_eq_ok] at h
  obtain ⟨packet, -, _, -, h⟩ := h
  split at h
  · cases h
  · simp only [Except.bind_eq_ok, Except.raiseIf_eq_ok, not_not, exists_const,
      Except.pure_eq_ok] at h
    obtain ⟨htext, rfl⟩ := h
    exact htext

theorem isText_flatMap {tensors : List OwnedTensor} (h : ∀ t ∈ tensors, IsText t.data) :
    IsText (tensors.flatMap OwnedTensor.data) := by
  induction tensors with
  | nil => exact isText_nil
  | cons t tensors ih =>
    rw [List.flatMap_cons]
    exact (h t List.mem_cons_self).append (ih fun u hu => h u (List.mem_cons_of_mem t hu))

theorem infer_eq_ok {call : Call ρ} {t : OwnedTensor} : infer crates call = .ok t ↔
    ∃ requestId turns, started crates call = .ok (requestId, turns) ∧
      collect crates requestId call.cancelledAfter false [] false turns = .ok t := by
  simp only [infer, started, Except.bind_eq_ok, Prod.exists, Except.pure_eq_ok, Prod.mk.injEq]
  constructor
  · rintro ⟨requestId, request, hrequest, turns, hstream, ht⟩
    exact ⟨requestId, turns, ⟨requestId, request, hrequest, turns, hstream, rfl, rfl⟩, ht⟩
  · rintro ⟨requestId, turns, ⟨_, request, hrequest, _, hstream, rfl, rfl⟩, ht⟩
    exact ⟨_, request, hrequest, _, hstream, ht⟩

theorem joined_publishedView (abi : Abi) (tensors : List OwnedTensor) :
    joined (tensors.map (publishedView abi)) =
      { name := "token", dtype := .utf8
        shape := [1, ↑([] ++ tensors.flatMap OwnedTensor.data).length]
        data := [] ++ tensors.flatMap OwnedTensor.data } := by
  have hdata : (tensors.map (publishedView abi)).flatMap viewData =
      tensors.flatMap OwnedTensor.data := by
    rw [List.flatMap_map]
    simp only [viewData_publishedView]
  rw [joined, hdata, List.nil_append]

/-- **One answer, two ways to deliver it**: the unary call answers `t` over chunks that fit a view
exactly when a consumer that takes everything sees the streaming call succeed with some chunks and
`t` is what they say when put together; and `t` is text. -/
theorem unary_eq_streamed (crates : Crates ρ) (call : Call ρ) (t : OwnedTensor) :
    ((infer crates call = .ok t ∧ ∀ requestId turns,
        started crates call = .ok (requestId, turns) → FitsViews crates turns) ↔
      (inferStream crates call accept).answer = .ok () ∧
        (inferStream crates call accept).delivered ≠ [] ∧
        t = joined (inferStream crates call accept).delivered) ∧
    (infer crates call = .ok t → IsText t.data) := by
  rw [inferStream_eq]
  constructor
  · rw [infer_eq_ok]
    rcases hstarted : started crates call with error | ⟨requestId, turns⟩
    · exact ⟨fun ⟨⟨_, _, h, _⟩, _⟩ => (nomatch h), fun h => (nomatch h.1)⟩
    · simp only [Except.ok.injEq, Prod.mk.injEq, collect_eq_ok]
      constructor
      · rintro ⟨⟨_, _, ⟨rfl, rfl⟩, tensors, htensors, hquiet, -, hafter, hne, rfl⟩, hfits⟩
        have hviews := mapM_view_eq_ok.mpr ⟨tensors, htensors, hfits _ _ ⟨rfl, rfl⟩, rfl⟩
        obtain ⟨hanswer, hdelivered⟩ := (forward_accept requestId []).mpr ⟨hviews, hquiet, hafter⟩
        rw [hdelivered, List.nil_append, joined_publishedView]
        refine ⟨hanswer, ?_, rfl⟩
        rcases tensors with _ | ⟨tensor, tensors⟩
        · have hlen := (Except.mapM_eq_ok.mp htensors).length_eq
          exact absurd (List.length_eq_zero_iff.mp hlen) (hne.resolve_left (by simp))
        · exact List.cons_ne_nil _ _
      · rintro ⟨hanswer, hne, rfl⟩
        generalize hdelivered :
          (forward crates requestId call.cancelledAfter accept false [] turns).delivered = views
          at hne ⊢
        obtain ⟨hviews, hquiet, hafter⟩ :=
          (forward_accept requestId []).mp ⟨hanswer, hdelivered.trans (List.nil_append views).symm⟩
        obtain ⟨tensors, htensors, hfits, rfl⟩ := mapM_view_eq_ok.mp hviews
        rw [joined_publishedView]
        refine ⟨⟨_, _, ⟨rfl, rfl⟩, tensors, htensors, hquiet, trivial, hafter, .inr ?_, rfl⟩, ?_⟩
        · rintro rfl
          exact hne (congrArg _ (Except.pure_eq_ok.mp htensors).symm)
        · rintro _ _ ⟨rfl, rfl⟩
          exact hfits
  · intro h
    obtain ⟨_, turns, -, hcollect⟩ := infer_eq_ok.mp h
    obtain ⟨tensors, htensors, -, -, -, -, rfl⟩ := collect_eq_ok.mp hcollect
    rw [List.nil_append]
    refine isText_flatMap fun tensor htensor => ?_
    obtain ⟨turn, -, hturn⟩ := Except.exists_of_mem_mapM htensors htensor
    exact isText_of_tensor hturn

/-! ## What the engine is asked -/

/-- The parameters of a request, in the ranges the adapter documents in its errors. -/
structure InRange (metadata : RequestMetadata ρ) : Prop where
  stopTokenIds : ∀ ids ∈ metadata.stopTokenIds, ids.length ≤ maxStopTokenIds
  temperature : ∀ value ∈ metadata.temperature, ∃ q, value = .finite q ∧ 0 ≤ q
  topP : ∀ value ∈ metadata.topP, ∃ q, value = .finite q ∧ 0 < q ∧ q ≤ 1
  repetitionPenalty : ∀ value ∈ metadata.repetitionPenalty, ∃ q, value = .finite q ∧ 0 < q
  newTokens : ∀ minimum ∈ metadata.minNewTokens, ∀ maximum ∈ metadata.maxNewTokens,
    maximum = 0 ∨ minimum ≤ maximum

/-- **A request the engine can take**: text of the shape it claims to have, and parameters in their
ranges. -/
structure WellFormed (request : LlmRequest ρ) : Prop where
  text : IsText request.input.data
  positive : ∀ d ∈ request.input.shape, 0 < d
  size : request.input.data.length = (request.input.shape.map Int.toNat).prod
  session : ∀ id ∈ request.sessionId, isBlank id = false ∧ id.utf8ByteSize ≤ maxSessionIdBytes
  named : request.metadata.requestId.isSome
  inRange : InRange request.metadata

/-- A value that passes its check is finite. -/
theorem exists_finite {values : Option Float32} {bad : Float32 → Bool}
    (h : ¬(values.any fun value => !value.isFinite || bad value) = true) :
    ∀ value ∈ values, ∃ q, value = .finite q ∧ bad (.finite q) = false := by
  intro value hvalue
  rw [Option.mem_def] at hvalue
  rw [hvalue, Option.any_some, Bool.not_eq_true, Bool.or_eq_false_iff] at h
  rcases value with _ | _ | q
  · exact nomatch h.1
  · exact nomatch h.1
  · exact ⟨q, rfl, h.2⟩

theorem inRange_of_unset {metadata : RequestMetadata ρ} (h : metadata.Unset) : InRange metadata where
  stopTokenIds := by simp [h.stopTokenIds]
  temperature := by simp [h.temperature]
  topP := by simp [h.topP]
  repetitionPenalty := by simp [h.repetitionPenalty]
  newTokens := by simp [h.minNewTokens]

/-- **What `validate_envelope` lets through.** -/
theorem validateEnvelope_eq_ok {envelope : RequestEnvelope ρ}
    (h : validateEnvelope envelope = .ok ()) :
    (∀ id ∈ envelope.sessionId, isBlank id = false ∧ id.utf8ByteSize ≤ maxSessionIdBytes) ∧
      ∀ metadata ∈ envelope.metadata, InRange metadata := by
  simp only [validateEnvelope, Except.bind_eq_ok, Except.raiseIf_eq_ok, exists_const] at h
  obtain ⟨hsession, h⟩ := h
  refine ⟨fun id hid => ?_, fun metadata hmetadata => ?_⟩
  · rw [Option.mem_def] at hid
    simpa [hid] using hsession
  · rw [Option.mem_def] at hmetadata
    rw [hmetadata] at h
    simp only [Except.bind_eq_ok, Except.raiseIf_eq_ok, exists_const] at h
    obtain ⟨hstop, htemperature, htopP, hpenalty, htokens⟩ := h
    refine ⟨fun ids hids => ?_, fun value hvalue => ?_, fun value hvalue => ?_,
      fun value hvalue => ?_, fun minimum hmin maximum hmax => ?_⟩
    · rw [Option.mem_def] at hids
      simpa [hids] using hstop
    · obtain ⟨q, rfl, hq⟩ := exists_finite htemperature value hvalue
      exact ⟨q, rfl, by simpa [Float32.lt] using hq⟩
    · obtain ⟨q, rfl, hq⟩ := exists_finite htopP value hvalue
      exact ⟨q, rfl, by simpa [Float32.gt] using hq⟩
    · obtain ⟨q, rfl, hq⟩ := exists_finite hpenalty value hvalue
      exact ⟨q, rfl, by simpa [Float32.gt] using hq⟩
    · rw [Option.mem_def] at hmin hmax
      rw [hmin, hmax] at htokens
      have := Except.raiseIf_eq_ok.mp htokens
      omega

/-- The metadata of an envelope that was let through, or the default. -/
theorem inRange_getD (crates : Crates ρ) {envelope : RequestEnvelope ρ} (h : validateEnvelope envelope = .ok ()) :
    InRange (envelope.metadata.getD crates.defaultMetadata) := by
  rcases hmetadata : envelope.metadata with _ | metadata
  · exact inRange_of_unset crates.default_unset
  · exact (validateEnvelope_eq_ok h).2 metadata hmetadata

/-- **`decode_request` answers with a well-formed request**, if it answers, for one input that was
validated. -/
theorem wellFormed_of_decode {request : GenerationRequest} {requestId : ℕ}
    {tensors : List BorrowedTensor} {decoded : LlmRequest ρ} (hvalid : Validated tensors)
    (h : decodeRequest crates request requestId tensors = .ok decoded) : WellFormed decoded := by
  rcases tensors with _ | ⟨input, _ | ⟨other, rest⟩⟩
  · exact nomatch h
  · simp only [decodeRequest, Except.bind_eq_ok, Except.raiseIf_eq_ok, exists_const, not_not,
      Except.pure_eq_ok] at h
    obtain ⟨-, hdtype, htext, -, metadataBytes, -, envelope, -, _, henvelope, rfl⟩ := h
    obtain ⟨elements, size, helements, hsize, hlen⟩ :=
      hvalid.bytes input (List.mem_singleton_self input)
    obtain ⟨hpos, hprod, -⟩ := Wire.shapeElements_eq_ok.mp helements
    rw [hdtype] at hsize
    obtain rfl := Except.ok.inj hsize
    have hrange := inRange_getD crates henvelope
    exact {
      text := htext
      positive := hpos
      size := by rw [hlen, ← hprod, mul_one]
      session := (validateEnvelope_eq_ok henvelope).1
      named := rfl
      inRange := ⟨hrange.1, hrange.2, hrange.3, hrange.4, hrange.5⟩ }
  · exact nomatch h

/-! ## What a refused request is told -/

/-- The caller is to blame. -/
def Blames (error : FfiError) : Prop := error.status = .invalidArgument

theorem raisesOnly_shapeElementsFrom (elements : ℕ) (shape : List ℤ) :
    Except.RaisesOnly Blames (shapeElementsFrom elements shape) := by
  induction shape generalizing elements with
  | nil => exact Except.raisesOnly_ok
  | cons d shape ih =>
    rw [shapeElementsFrom]
    split_ifs
    · exact Except.raisesOnly_error rfl
    · exact Except.raisesOnly_error rfl
    · exact Except.raisesOnly_error rfl
    · exact ih _

theorem raisesOnly_okOr {α : Type} {x : Option α} {message : String} :
    Except.RaisesOnly Blames (okOr x (invalidArgument message)) :=
  fun _ he => (Except.okOr_eq_error.mp he).2 ▸ rfl

theorem raisesOnly_check {c : Prop} [Decidable c] {message : String} :
    Except.RaisesOnly Blames (raiseIf c (invalidArgument message)) :=
  Except.raisesOnly_raiseIf rfl

theorem raisesOnly_hostMemory (kind : Wire.MemoryKind) :
    Except.RaisesOnly Blames (Wire.hostMemory kind) := by
  rcases kind with _ | _ | code
  · exact Except.raisesOnly_ok
  · exact Except.raisesOnly_ok
  · exact Except.raisesOnly_error rfl

theorem raisesOnly_dtypeBytes (dtype : Dtype) : Except.RaisesOnly Blames (dtypeBytes dtype) := by
  rcases dtype with _ | _ | _ | _ | _ | _ | _ | code
  rotate_right
  · exact Except.raisesOnly_error rfl
  all_goals exact Except.raisesOnly_ok

theorem raisesOnly_tensorFromWire (view : NamedTensorView) :
    Except.RaisesOnly Blames (Wire.tensorFromWire crates.abi view) := by
  rw [Wire.tensorFromWire]
  refine raisesOnly_check.bind fun _ _ => raisesOnly_check.bind fun _ _ => ?_
  refine raisesOnly_okOr.bind fun _ _ => raisesOnly_check.bind fun _ _ => ?_
  refine raisesOnly_okOr.bind fun _ _ => raisesOnly_check.bind fun _ _ => ?_
  refine (raisesOnly_hostMemory _).bind fun _ _ => raisesOnly_check.bind fun _ _ => ?_
  refine raisesOnly_check.bind fun _ _ => (raisesOnly_shapeElementsFrom _ _).bind fun _ _ => ?_
  refine (raisesOnly_dtypeBytes _).bind fun _ _ => raisesOnly_check.bind fun _ _ => ?_
  exact raisesOnly_check.bind fun _ _ => Except.raisesOnly_pure

/-- **Whatever is wrong with a request, its caller is told so.** -/
theorem raisesOnly_requestTensors (request : Option Wire.InferenceRequest) :
    Except.RaisesOnly Blames (requestTensors crates.abi request) := by
  rw [requestTensors]
  refine raisesOnly_okOr.bind fun _ _ => raisesOnly_check.bind fun _ _ => ?_
  refine raisesOnly_check.bind fun _ _ => raisesOnly_check.bind fun _ _ => ?_
  refine raisesOnly_okOr.bind fun _ _ => Except.RaisesOnly.bind ?_ fun tensors _ => ?_
  · exact Except.RaisesOnly.mapM fun _ _ =>
      raisesOnly_check.bind fun _ _ => raisesOnly_tensorFromWire _
  · split
    · exact Except.raisesOnly_error rfl
    · exact Except.raisesOnly_pure

theorem raisesOnly_validateEnvelope (envelope : RequestEnvelope ρ) :
    Except.RaisesOnly Blames (validateEnvelope envelope) := by
  rw [validateEnvelope]
  refine raisesOnly_check.bind fun _ _ => ?_
  split
  · exact Except.raisesOnly_pure
  · refine raisesOnly_check.bind fun _ _ => raisesOnly_check.bind fun _ _ => ?_
    refine raisesOnly_check.bind fun _ _ => raisesOnly_check.bind fun _ _ => ?_
    split
    · exact raisesOnly_check
    · exact Except.raisesOnly_pure

theorem raisesOnly_parseMetadata (metadataBytes : List UInt8) :
    Except.RaisesOnly Blames (parseMetadata crates metadataBytes) := by
  rw [parseMetadata]
  split_ifs
  · exact Except.raisesOnly_ok
  · rcases crates.parseEnvelope metadataBytes with error | envelope
    · exact Except.raisesOnly_error rfl
    · exact Except.raisesOnly_ok

theorem raisesOnly_decodeRequest (request : GenerationRequest) (requestId : ℕ)
    (tensors : List BorrowedTensor) :
    Except.RaisesOnly Blames (decodeRequest crates request requestId tensors) := by
  rcases tensors with _ | ⟨input, _ | ⟨other, rest⟩⟩
  · exact Except.raisesOnly_error rfl
  · rw [decodeRequest]
    refine raisesOnly_check.bind fun _ _ => raisesOnly_check.bind fun _ _ => ?_
    refine raisesOnly_check.bind fun _ _ => raisesOnly_check.bind fun _ _ => ?_
    refine raisesOnly_okOr.bind fun _ _ => (raisesOnly_parseMetadata _).bind fun _ _ => ?_
    exact (raisesOnly_validateEnvelope _).bind fun _ _ => Except.raisesOnly_pure
  · exact Except.raisesOnly_error rfl

/-- **The engine sees well-formed requests only**, each under an ID that is not zero and was not
active; and a request it does not see was cancelled before, or its caller is told that it is at
fault. -/
theorem admit_wellFormed (crates : Crates ρ) (call : Call ρ) :
    (∀ requestId request, admitRequest crates call = .ok (requestId, request) →
      WellFormed request ∧ requestId ≠ 0 ∧ call.active requestId = false) ∧
    ∀ error, admitRequest crates call = .error error → error.status = .invalidArgument ∨
      call.cancelledBefore = true ∧ error.status = .cancelled := by
  constructor
  · intro requestId request h
    simp only [admitRequest, Except.bind_eq_ok, Except.raiseIf_eq_ok, exists_const, Except.pure_eq_ok,
      Prod.exists] at h
    obtain ⟨_, tensors, htensors, hid, hactive, raw, -, decoded, hdecoded, -, heq⟩ := h
    obtain ⟨rfl, rfl⟩ := Prod.mk.inj heq
    obtain ⟨_, -, hcarries⟩ := Wire.requestTensors_eq_ok.mp htensors
    exact ⟨wellFormed_of_decode hcarries.validated hdecoded, hid, by simpa using hactive⟩
  · rw [admitRequest]
    refine Except.RaisesOnly.bind (fun e he => .inl (raisesOnly_requestTensors _ e he)) fun _ _ => ?_
    refine Except.RaisesOnly.bind (fun e he => .inl (raisesOnly_check e he)) fun _ _ => ?_
    refine Except.RaisesOnly.bind (fun e he => .inl (raisesOnly_check e he)) fun _ _ => ?_
    refine Except.RaisesOnly.bind (fun e he => .inl (raisesOnly_okOr e he)) fun _ _ => ?_
    refine Except.RaisesOnly.bind (fun e he => .inl (raisesOnly_decodeRequest _ _ _ e he))
      fun _ _ => ?_
    refine Except.RaisesOnly.bind (fun e he => .inr ?_) fun _ _ => Except.raisesOnly_pure
    obtain ⟨hcancelled, rfl⟩ := Except.raiseIf_eq_error.mp he
    exact ⟨hcancelled, rfl⟩

/-- What the engine is asked for it. -/
def promptRequest : LlmRequest Unit where
  input := ⟨[1, 2], .utf8, [104, 105]⟩
  sessionId := none
  metadata := { bareCrates.defaultMetadata with requestId := some "abi-7" }

theorem admit_wellFormed_prompt :
    admitRequest bareCrates promptCall = .ok (7, promptRequest) ∧ WellFormed promptRequest := by
  have hrequest : admitRequest bareCrates promptCall = .ok (7, promptRequest) := by rfl
  exact ⟨hrequest, ((admit_wellFormed bareCrates promptCall).1 7 promptRequest hrequest).1⟩

end Kapsl.Ort.GenerationStream
