import Mathlib.Data.List.Sort
import Kapsl.Lib.Except
import Kapsl.Vllm.Python

/-!
# Vllm/Contract — the validators of the `kapsl-kv-abi` JSON contract

Each `validate_*` of `contract.py` over decoded JSON, with the order of its checks and the text of
every exception.  A validator that returns a value returns a deep copy of what it was given; the
typed readings (`Segment`, `ResizeOperation`) are what later code takes out of that copy.
-/

namespace Kapsl.Vllm

open Except (raiseIf)

/-- `ContractValidationError(message)`. -/
def invalid (message : String) : PyError := .contractValidationError message

/-! ## Field checks -/

/-- `_mapping`. -/
def mapping (value : Json) (field : String) : Except PyError Json :=
  if value.isMapping then .ok value else .error (invalid s!"{field} must be an object")

/-- `_nonempty`. -/
def nonempty (value : Json) (field : String) : Except PyError String :=
  match value with
  | .str s =>
    if isBlank s then .error (invalid s!"{field} must be a non-empty string") else .ok s
  | _ => .error (invalid s!"{field} must be a non-empty string")

/-- `_positive_int`. -/
def positiveInt (value : Json) (field : String) : Except PyError ℕ :=
  match value with
  | .int n =>
    if n ≤ 0 then .error (invalid s!"{field} must be a positive integer") else .ok n.toNat
  | _ => .error (invalid s!"{field} must be a positive integer")

/-- `_nonnegative_int`. -/
def nonnegativeInt (value : Json) (field : String) : Except PyError ℕ :=
  match value with
  | .int n =>
    if n < 0 then .error (invalid s!"{field} must be a non-negative integer") else .ok n.toNat
  | _ => .error (invalid s!"{field} must be a non-negative integer")

/-- `isinstance(value, list)`, else an error. -/
def listOr (value : Json) (message : String) : Except PyError (List Json) :=
  match value with
  | .list items => .ok items
  | _ => .error (invalid message)

/-- `isinstance(value, list) and value`, else an error. -/
def nonemptyListOr (value : Json) (message : String) : Except PyError (List Json) :=
  match value with
  | .list [] => .error (invalid message)
  | .list items => .ok items
  | _ => .error (invalid message)

section

variable {n : ℕ} {field : String}

theorem positiveInt_natCast (h : 1 ≤ n) : positiveInt (.int n) field = .ok n :=
  if_neg (by omega)

theorem nonnegativeInt_natCast : nonnegativeInt (.int n) field = .ok n := rfl

theorem nonempty_str {text : String} (h : isBlank text = false) :
    nonempty (.str text) field = .ok text := by
  rw [nonempty, h]
  rfl

theorem mapping_of_isMapping {value : Json} (h : value.isMapping) :
    mapping value field = .ok value :=
  if_pos h

theorem nonemptyListOr_list {items : List Json} {message : String} (h : items ≠ []) :
    nonemptyListOr (.list items) message = .ok items := by
  rcases items with _ | ⟨item, items⟩
  · exact absurd rfl h
  · rfl

end

/-- `accepts_version`. -/
def acceptsVersion (peer : Json) : Bool :=
  (peer.get "major").eqInt 1 &&
    match (peer.get "minor").asInt? with
    | some minor => decide (minor ≤ 5)
    | none => false

/-! ## VMM segments -/

/-- What a validated segment says. -/
structure Segment where
  segmentId : String
  offsetBytes : ℕ
  lengthBytes : ℕ
  handleIndex : ℕ
  deriving DecidableEq

/-- Read a segment's fields. -/
def Segment.ofJson (segment : Json) : Segment where
  segmentId := (segment.get "segment_id").toStr
  offsetBytes := (segment.get "offset_bytes").toNat
  lengthBytes := (segment.get "length_bytes").toNat
  handleIndex := (segment.get "handle_index").toNat

/-- One round of the loop over sorted segments: the four field checks, in order. -/
def checkSegment (idField : String) (segment : Json) : Except PyError Segment := do
  let segmentId ← nonempty (segment.get "segment_id") idField
  let offsetBytes ← nonnegativeInt (segment.get "offset_bytes") "offset_bytes"
  let lengthBytes ← positiveInt (segment.get "length_bytes") "length_bytes"
  let handleIndex ← nonnegativeInt (segment.get "handle_index") "handle_index"
  return { segmentId, offsetBytes, lengthBytes, handleIndex }

/-- The loop over sorted segments.  Returns the final `expected_offset`. -/
def scanSegments (idField message : String) (granularity : ℕ) :
    List Json → ℕ → List String → List ℕ → Except PyError ℕ
  | [], expectedOffset, _, _ => .ok expectedOffset
  | raw :: rest, expectedOffset, seenIds, seenHandles => do
    let segment ← checkSegment idField raw
    raiseIf (segment.segmentId ∈ seenIds ∨ segment.handleIndex ∈ seenHandles ∨
      segment.offsetBytes ≠ expectedOffset ∨ segment.offsetBytes % granularity ≠ 0 ∨
      segment.lengthBytes % granularity ≠ 0) (invalid message)
    scanSegments idField message granularity rest (expectedOffset + segment.lengthBytes)
      (segment.segmentId :: seenIds) (segment.handleIndex :: seenHandles)

/-- `sorted(values, key=…)` once the keys are known: stable, by the first component. -/
def sortByKey (keyed : List (ℕ × Json)) : List Json :=
  (keyed.insertionSort fun a b => a.1 ≤ b.1).map Prod.snd

/-- The key of a segment in `validate_resize_operation`. -/
def resizeSegmentKey (raw : Json) : Except PyError (ℕ × Json) := do
  let segment ← mapping raw "resize segment"
  let offset ← nonnegativeInt (segment.get "offset_bytes") "offset_bytes"
  return (offset, raw)

/-- The key of a segment in `_validate_elastic_pool`. -/
def elasticSegmentKey (segment : Json) : Except PyError (ℕ × Json) := do
  let offset ← nonnegativeInt (segment.get "offset_bytes") "VMM segment offset_bytes"
  return (offset, segment)

/-! ## Resize operations -/

/-- The four stages of a resize transaction. -/
inductive ResizeStage
  | mapWorkers
  | activateScheduler
  | retireScheduler
  | unmapWorkers
  deriving DecidableEq

/-- The stage a wire name stands for. -/
def ResizeStage.ofName : String → Option ResizeStage
  | "map_workers" => some .mapWorkers
  | "activate_scheduler" => some .activateScheduler
  | "retire_scheduler" => some .retireScheduler
  | "unmap_workers" => some .unmapWorkers
  | _ => none

/-- The wire name of a stage. -/
def ResizeStage.name : ResizeStage → String
  | .mapWorkers => "map_workers"
  | .activateScheduler => "activate_scheduler"
  | .retireScheduler => "retire_scheduler"
  | .unmapWorkers => "unmap_workers"

/-- `stage in {"map_workers", "unmap_workers"}`. -/
def ResizeStage.physical : ResizeStage → Bool
  | .mapWorkers | .unmapWorkers => true
  | .activateScheduler | .retireScheduler => false

/-- `stage in {"map_workers", "activate_scheduler"}`. -/
def ResizeStage.grows : ResizeStage → Bool
  | .mapWorkers | .activateScheduler => true
  | .retireScheduler | .unmapWorkers => false

/-- `_validate_resize_stage`. -/
def validateResizeStage (value : Json) : Except PyError ResizeStage := do
  let stage ← nonempty value "resize stage"
  match ResizeStage.ofName stage with
  | some stage => .ok stage
  | none => .error (invalid "resize stage is unsupported")

/-- What a validated resize operation says. -/
structure ResizeOperation where
  participantEpoch : ℕ
  resizeGeneration : ℕ
  bindingId : String
  stage : ResizeStage
  fromBlockCount : ℕ
  targetBlockCount : ℕ
  bytesPerBlock : ℕ
  allocationGranularityBytes : ℕ
  segments : List Segment
  deriving DecidableEq

namespace ResizeOperation

/-- Where the changed tail starts. -/
def start (op : ResizeOperation) : ℕ :=
  min op.fromBlockCount op.targetBlockCount * op.bytesPerBlock

/-- Where the changed tail ends. -/
def stop (op : ResizeOperation) : ℕ :=
  max op.fromBlockCount op.targetBlockCount * op.bytesPerBlock

/-- Read an operation's fields. -/
def ofJson (operation : Json) : ResizeOperation where
  participantEpoch := (operation.get "participant_epoch").toNat
  resizeGeneration := (operation.get "resize_generation").toNat
  bindingId := (operation.get "binding_id").toStr
  stage := (ResizeStage.ofName (operation.get "stage").toStr).getD .mapWorkers
  fromBlockCount := (operation.get "from_block_count").toNat
  targetBlockCount := (operation.get "target_block_count").toNat
  bytesPerBlock := (operation.get "bytes_per_block").toNat
  allocationGranularityBytes := (operation.get "allocation_granularity_bytes").toNat
  segments := (operation.getD "segments" (.list [])).items.map Segment.ofJson

end ResizeOperation

/-- The segment half of `validate_resize_operation`. -/
def validateResizeSegments (stage : ResizeStage) (start stop granularity : ℕ)
    (segments : List Json) : Except PyError Unit := do
  raiseIf (stage.physical ≠ !segments.isEmpty)
    (invalid "worker resize phases require segments and scheduler phases forbid them")
  let keyed ← segments.mapM resizeSegmentKey
  let expectedOffset ← scanSegments "segment_id"
    "resize segments must uniquely and densely cover the changed tail" granularity
    (sortByKey keyed) start [] []
  raiseIf (stage.physical ∧ expectedOffset ≠ stop)
    (invalid "resize segments do not exactly cover the changed tail")

/-- The checks of `validate_resize_operation`. -/
def checkResizeOperation (operation : Json) : Except PyError Unit := do
  let _ ← positiveInt (operation.get "participant_epoch") "participant_epoch"
  let _ ← positiveInt (operation.get "resize_generation") "resize_generation"
  let _ ← nonempty (operation.get "binding_id") "binding_id"
  let stage ← validateResizeStage (operation.get "stage")
  let fromBlocks ← positiveInt (operation.get "from_block_count") "from_block_count"
  let targetBlocks ← positiveInt (operation.get "target_block_count") "target_block_count"
  raiseIf (fromBlocks = targetBlocks) (invalid "resize block counts must differ")
  raiseIf (stage.grows ≠ decide (targetBlocks > fromBlocks))
    (invalid "resize stage does not match direction")
  let stride ← positiveInt (operation.get "bytes_per_block") "bytes_per_block"
  let granularity ← positiveInt (operation.get "allocation_granularity_bytes")
    "allocation_granularity_bytes"
  let start := min fromBlocks targetBlocks * stride
  let stop := max fromBlocks targetBlocks * stride
  raiseIf (start % granularity ≠ 0 ∨ stop % granularity ≠ 0)
    (invalid "resize endpoints are not VMM aligned")
  let segments ← listOr (operation.getD "segments" (.list [])) "resize segments must be a list"
  validateResizeSegments stage start stop granularity segments

/-- `validate_resize_operation`. -/
def validateResizeOperation (I : Interpreter) (operation : Json) : Except PyError Json := do
  checkResizeOperation operation
  I.deepcopy operation

/-! ## Requests -/

/-- The rank checks shared by attachments, detach requests and worker actors. -/
def validateShard (shard : Json) (message : String) : Except PyError Unit := do
  let tpRank ← nonnegativeInt (shard.get "tensor_parallel_rank") "tensor_parallel_rank"
  let tpWorld ← positiveInt (shard.get "tensor_parallel_world_size") "tensor_parallel_world_size"
  let ppRank ← nonnegativeInt (shard.get "pipeline_parallel_rank") "pipeline_parallel_rank"
  let ppWorld ← positiveInt (shard.get "pipeline_parallel_world_size")
    "pipeline_parallel_world_size"
  raiseIf (tpRank ≥ tpWorld ∨ ppRank ≥ ppWorld) (invalid message)

/-- `_validate_resize_actor`. -/
def validateResizeActor (actor : Json) : Except PyError Unit :=
  if (actor.get "role").eqStr "scheduler" then
    raiseIf (actor.size ≠ 1) (invalid "scheduler resize actor has unknown fields")
  else do
    raiseIf ((actor.get "role").eqStr "worker" = false)
      (invalid "resize actor role is unsupported")
    let shard ← mapping (actor.get "shard") "resize worker shard"
    validateShard shard "resize worker shard rank is outside its world size"

/-- `validate_resize_poll_request`. -/
def validateResizePollRequest (request : Json) : Except PyError Unit := do
  let _ ← positiveInt (request.get "participant_epoch") "participant_epoch"
  let actor ← mapping (request.get "actor") "resize actor"
  validateResizeActor actor
  let _ ← nonnegativeInt (request.get "applied_generation") "applied_generation"

/-- The request `make_resize_poll_request` builds. -/
def resizePollRequest (participantEpoch : ℕ) (actor : Json) (appliedGeneration : ℕ) : Json :=
  .obj [("participant_epoch", .int participantEpoch), ("actor", actor),
    ("applied_generation", .int appliedGeneration)]

/-- `make_resize_poll_request`. -/
def makeResizePollRequest (participantEpoch : ℕ) (actor : Json) (appliedGeneration : ℕ) :
    Except PyError Json := do
  let request := resizePollRequest participantEpoch actor appliedGeneration
  validateResizePollRequest request
  return request

/-- `validate_resize_ack_request`. -/
def validateResizeAckRequest (request : Json) : Except PyError Unit := do
  let _ ← positiveInt (request.get "participant_epoch") "participant_epoch"
  let actor ← mapping (request.get "actor") "resize actor"
  validateResizeActor actor
  let _ ← nonempty (request.get "binding_id") "binding_id"
  let _ ← positiveInt (request.get "resize_generation") "resize_generation"
  let _ ← validateResizeStage (request.get "stage")
  let _ ← positiveInt (request.get "applied_block_count") "applied_block_count"

/-- `make_resize_ack_request`. -/
def makeResizeAckRequest (participantEpoch : ℕ) (actor : Json) (bindingId : String)
    (resizeGeneration : ℕ) (stage : String) (appliedBlockCount : ℕ) : Except PyError Json := do
  let request : Json := .obj [("participant_epoch", .int participantEpoch), ("actor", actor),
    ("binding_id", .str bindingId), ("resize_generation", .int resizeGeneration),
    ("stage", .str stage), ("applied_block_count", .int appliedBlockCount)]
  validateResizeAckRequest request
  return request

/-- The group loop of `validate_reserve_request`. -/
def validateReserveGroups : List Json → List String → Except PyError Unit
  | [], _ => .ok ()
  | raw :: rest, seen => do
    let group ← mapping raw "group"
    let groupId ← nonempty (group.get "group_id") "group_id"
    raiseIf (groupId ∈ seen) (invalid "group IDs must be unique")
    let _ ← positiveInt (group.get "token_capacity") "token_capacity"
    validateReserveGroups rest (groupId :: seen)

/-- The sequence checks of reserve requests and leases. -/
def validateSequence (value : Json) : Except PyError Unit := do
  let sequence ← mapping value "sequence"
  let _ ← nonempty (sequence.get "request_id") "sequence.request_id"
  let _ ← nonempty (sequence.get "sequence_id") "sequence.sequence_id"

/-- `if request.get("ttl_ms") is not None: _positive_int(...)`. -/
def optionalPositiveInt (value : Json) (field : String) : Except PyError Unit :=
  if value.isNull then .ok () else do
    let _ ← positiveInt value field

/-- `validate_reserve_request`. -/
def validateReserveRequest (request : Json) : Except PyError Unit := do
  validateSequence (request.get "sequence")
  let groups ← nonemptyListOr (request.get "groups") "groups must be a non-empty list"
  validateReserveGroups groups []
  optionalPositiveInt (request.get "ttl_ms") "ttl_ms"

/-- `_validate_adapter_profile`. -/
def validateAdapterProfile (profile : Json) : Except PyError Unit :=
  ["adapter_id", "adapter_version", "backend_version", "profile_id"].forM fun field => do
    let _ ← nonempty (profile.get field) s!"adapter profile {field}"

/-- `if layer.get("name") is not None: _nonempty(...)`. -/
def optionalNonempty (value : Json) (field : String) : Except PyError Unit :=
  if value.isNull then .ok () else do
    let _ ← nonempty value field

/-- The view loop of `validate_shared_pool_attachment`. -/
def validateViews (importedBytes : ℕ) : List Json → List (String × ℕ) → Except PyError Unit
  | [], _ => .ok ()
  | raw :: rest, layers => do
    let view ← mapping raw "attachment view"
    let groupId ← nonempty (view.get "group_id") "attachment view group_id"
    let layer ← mapping (view.get "layer") "attachment view layer"
    let layerIndex ← nonnegativeInt (layer.get "index") "attachment layer index"
    optionalNonempty (layer.get "name") "attachment layer name"
    raiseIf ((groupId, layerIndex) ∈ layers)
      (invalid "attachment group/layer pairs must be unique")
    let offset ← nonnegativeInt (view.get "offset_bytes") "attachment offset"
    let length ← positiveInt (view.get "length_bytes") "attachment length"
    raiseIf (offset + length > importedBytes) (invalid "attachment view exceeds imported bytes")
    validateViews importedBytes rest ((groupId, layerIndex) :: layers)

/-- The `mapped_bytes` check of `validate_shared_pool_attachment`. -/
def validateMappedBytes (value : Json) (importedBytes : ℕ) : Except PyError Unit :=
  if value.isNull then .ok () else do
    let mappedBytes ← positiveInt value "mapped_bytes"
    raiseIf (mappedBytes > importedBytes) (invalid "mapped_bytes exceeds imported_bytes")

/-- `validate_shared_pool_attachment`. -/
def validateSharedPoolAttachment (attachment : Json) : Except PyError Unit := do
  let _ ← positiveInt (attachment.get "participant_epoch") "participant_epoch"
  let _ ← nonempty (attachment.get "binding_id") "binding_id"
  let importedBytes ← positiveInt (attachment.get "imported_bytes") "imported_bytes"
  validateMappedBytes (attachment.get "mapped_bytes") importedBytes
  let shard ← mapping (attachment.get "shard") "attachment shard"
  validateShard shard "attachment shard rank is outside its world size"
  let profile ← mapping (attachment.get "profile") "adapter profile"
  validateAdapterProfile profile
  let views ← nonemptyListOr (attachment.get "views") "attachment views must be a non-empty list"
  validateViews importedBytes views []

/-- `validate_shared_pool_detach_request`. -/
def validateSharedPoolDetachRequest (request : Json) : Except PyError Unit := do
  let _ ← positiveInt (request.get "participant_epoch") "participant_epoch"
  let bindingIds ← nonemptyListOr (request.get "binding_ids")
    "detach binding_ids must be a non-empty list"
  let normalized ← bindingIds.mapM fun value => nonempty value "detach binding_id"
  raiseIf (¬normalized.Nodup) (invalid "detach binding_ids must be unique")
  let shard ← mapping (request.get "shard") "detach shard"
  validateShard shard "detach shard rank is outside its world size"
  let completion ← mapping (request.get "completion") "detach completion"
  raiseIf ((completion.get "kind").eqStr "backend_synchronized" = false)
    (invalid "initial shared-pool detach requires backend_synchronized completion")

/-! ## Responses -/

/-- `make_envelope`. -/
def makeEnvelope (requestId operation : String) (payload : List (String × Json)) :
    Except PyError Json := do
  let requestId ← nonempty (.str requestId) "request_id"
  let operation ← nonempty (.str operation) "operation"
  return .obj ([("abi_version", .obj [("major", .int 1), ("minor", .int 5)]),
    ("request_id", .str requestId), ("operation", .str operation)] ++ payload)

/-- `validate_response`. -/
def validateResponse (response : Json) (requestId : String) : Except PyError Unit := do
  let version ← mapping (response.get "abi_version") "abi_version"
  raiseIf (acceptsVersion version = false) (invalid "unsupported response ABI version")
  raiseIf ((response.get "request_id").eqStr requestId = false)
    (invalid "response request_id does not match request")
  let known ← (response.get "result").inSet ["registered", "lease", "resize", "ack", "error"]
  raiseIf (known = false) (invalid "unknown control response result")

/-- One block handle of a lease. -/
def validateLeaseBlock (raw : Json) : Except PyError Unit := do
  let block ← mapping raw "lease block"
  if (block.get "kind").eqStr "runtime_pool" then do
    let _ ← nonempty (block.get "pool_id") "lease block pool_id"
    let _ ← nonnegativeInt (block.get "block_index") "block_index"
    let _ ← positiveInt (block.get "generation") "generation"
  else do
    let opaqueKind ← (block.get "kind").inSet ["backend_opaque", "transport"]
    raiseIf (opaqueKind = false) (invalid "unknown lease block handle kind")

/-- One group of a lease. -/
def validateLeaseGroup (raw : Json) : Except PyError Unit := do
  let group ← mapping raw "lease group"
  let _ ← nonempty (group.get "group_id") "group_id"
  let _ ← positiveInt (group.get "token_capacity") "token_capacity"
  let blocks ← listOr (group.getD "blocks" (.list [])) "lease blocks must be a list"
  blocks.forM validateLeaseBlock

/-- `validate_lease`. -/
def validateLease (I : Interpreter) (lease : Json) : Except PyError Json := do
  let _ ← nonempty (lease.get "lease_id") "lease_id"
  validateSequence (lease.get "sequence")
  let groups ← nonemptyListOr (lease.get "groups") "lease groups must be a non-empty list"
  groups.forM validateLeaseGroup
  I.deepcopy lease

/-! ## Registration receipts -/

/-- The segment half of `_validate_elastic_pool`. -/
def validateElasticSegments (granularity mappedBytes : ℕ) (segments : List Json) :
    Except PyError Unit := do
  let segments ← segments.mapM fun segment => mapping segment "VMM segment"
  let keyed ← segments.mapM elasticSegmentKey
  let expectedOffset ← scanSegments "VMM segment_id"
    "VMM segments must uniquely and densely cover an aligned prefix" granularity
    (sortByKey keyed) 0 [] []
  raiseIf (expectedOffset ≠ mappedBytes)
    (invalid "VMM segments do not exactly cover mapped physical bytes")

/-- `_validate_elastic_pool`. -/
def validateElasticPool (elastic : Json) (blockCount bytesPerBlock : ℕ) : Except PyError Unit := do
  let minimumBlocks ← positiveInt (elastic.get "minimum_block_count") "minimum_block_count"
  let mappedBlocks ← positiveInt (elastic.get "mapped_block_count") "mapped_block_count"
  let maximumBlocks ← positiveInt (elastic.get "maximum_block_count") "maximum_block_count"
  let granularity ← positiveInt (elastic.get "allocation_granularity_bytes")
    "allocation_granularity_bytes"
  let alignment ← positiveInt (elastic.get "resize_alignment_blocks") "resize_alignment_blocks"
  raiseIf (maximumBlocks ≠ blockCount ∨ minimumBlocks > mappedBlocks ∨
      mappedBlocks > maximumBlocks)
    (invalid <| "elastic minimum and mapped block counts must fit and match the shared pool " ++
      "maximum")
  raiseIf (minimumBlocks % alignment ≠ 0 ∨ mappedBlocks % alignment ≠ 0 ∨
      minimumBlocks * bytesPerBlock % granularity ≠ 0 ∨
      mappedBlocks * bytesPerBlock % granularity ≠ 0 ∨
      maximumBlocks * bytesPerBlock % granularity ≠ 0)
    (invalid "elastic pool geometry is not VMM aligned")
  let segments ← nonemptyListOr (elastic.get "segments") "elastic pool requires mapped segments"
  validateElasticSegments granularity (mappedBlocks * bytesPerBlock) segments

/-- One shared pool of a receipt, given whether the pools before it were live.  Returns whether this
one is. -/
def validateReceiptPool (raw : Json) (liveResize : Option Bool) : Except PyError Bool := do
  let pool ← mapping raw "shared pool"
  let _ ← nonempty (pool.get "binding_id") "binding_id"
  let _ ← nonempty (pool.get "capacity_pool_id") "capacity_pool_id"
  let _ ← positiveInt (pool.get "generation") "generation"
  let blockCount ← positiveInt (pool.get "block_count") "block_count"
  let bytesPerBlock ← positiveInt (pool.get "bytes_per_block") "bytes_per_block"
  let knownMode ← (pool.getD "allocation_mode" (.str "runtime_leased")).inSet
    ["runtime_leased", "participant_managed"]
  raiseIf (knownMode = false) (invalid "unknown shared pool allocation_mode")
  let _ ← nonempty (pool.get "descriptor") "descriptor"
  let groupIds ← nonemptyListOr (pool.get "group_ids") "shared pool group_ids must be non-empty"
  groupIds.forM fun groupId => do
    let _ ← nonempty groupId "shared pool group_id"
  let _ ← mapping (pool.get "memory_domain") "shared pool memory_domain"
  let transport ← mapping (pool.get "transport") "shared pool transport"
  let poolIsLive := (transport.get "kind").eqStr "cuda_vmm"
  raiseIf (liveResize = some !poolIsLive)
    (invalid "shared pool receipts cannot mix fixed and elastic transports")
  if poolIsLive then do
    let elastic ← mapping (pool.get "elastic") "elastic shared pool"
    validateElasticPool elastic blockCount bytesPerBlock
  else
    raiseIf ((pool.get "elastic").isNull = false)
      (invalid "elastic shared pool metadata requires cuda_vmm transport")
  return poolIsLive

/-- The pool loop of `validate_registration_receipt`. -/
def validateReceiptPools : List Json → Option Bool → Except PyError Unit
  | [], _ => .ok ()
  | raw :: rest, liveResize => do
    let poolIsLive ← validateReceiptPool raw liveResize
    validateReceiptPools rest (some (liveResize.getD poolIsLive))

/-- `validate_registration_receipt`. -/
def validateRegistrationReceipt (I : Interpreter) (receipt : Json) (participantId : String) :
    Except PyError Json := do
  let participantId ← nonempty (.str participantId) "participant_id"
  raiseIf ((receipt.get "participant_id").eqStr participantId = false)
    (invalid "registration receipt participant_id does not match registration")
  let _ ← positiveInt (receipt.get "participant_epoch") "participant_epoch"
  let pools ← listOr (receipt.getD "shared_pools" (.list [])) "shared_pools must be a list"
  validateReceiptPools pools none
  I.deepcopy receipt

end Kapsl.Vllm
