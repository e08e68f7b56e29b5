import Kapsl.Vllm.Contract

/-!
# Vllm/Registration — `validate_registration`

The one request the connector sends before it holds any authority: capabilities, capacity groups
with their memory domains, and, for a shared pool, the cache topology and the provisioning grant.
-/

namespace Kapsl.Vllm

open Except (raiseIf)

/-- Two Python sets, given by their elements, are equal. -/
def sameSet {α : Type*} [DecidableEq α] (xs ys : List α) : Prop :=
  (∀ x ∈ xs, x ∈ ys) ∧ ∀ y ∈ ys, y ∈ xs

instance {α : Type*} [DecidableEq α] (xs ys : List α) : Decidable (sameSet xs ys) :=
  inferInstanceAs (Decidable ((∀ x ∈ xs, x ∈ ys) ∧ ∀ y ∈ ys, y ∈ xs))

/-! ## Provisioning grants -/

/-- `re.fullmatch(r"sha256:[0-9a-f]{64}", digest)`. -/
def isCanonicalSha256 (digest : String) : Bool :=
  digest.startsWith "sha256:" &&
    (digest.toList.drop 7).length == 64 &&
    (digest.toList.drop 7).all fun c =>
      ('0' ≤ c && c ≤ '9') || ('a' ≤ c && c ≤ 'f')

/-- `_validate_provisioning_grant`. -/
def validateProvisioningGrant (grant : Json) : Except PyError Unit := do
  let token ← nonempty (grant.get "token") "provisioning grant token"
  raiseIf (token.length > 256) (invalid "provisioning grant token is too long")
  let digest ← nonempty (grant.get "geometry_digest") "provisioning grant geometry_digest"
  raiseIf (isCanonicalSha256 digest = false)
    (invalid "provisioning grant geometry_digest must be canonical sha256")
  let _ ← positiveInt (grant.get "authority_generation") "provisioning grant authority_generation"
  let _ ← positiveInt (grant.get "expires_at_unix_ms") "provisioning grant expires_at_unix_ms"

/-! ## Topology -/

/-- The layer loop of `_validate_topology`. -/
def validateLayers : List Json → List ℕ → Except PyError Unit
  | [], _ => .ok ()
  | raw :: rest, layerIndices => do
    let layer ← mapping raw "topology layer"
    let index ← nonnegativeInt (layer.get "index") "topology layer index"
    raiseIf (index ∈ layerIndices) (invalid "topology layer indices must be unique")
    optionalNonempty (layer.get "name") "topology layer name"
    validateLayers rest (index :: layerIndices)

/-- The element type of a paged-attention geometry. -/
def validateElementType (I : Interpreter) (elementType : Json) : Except PyError Unit := do
  let elementKind ← nonempty (elementType.get "kind") "topology element_type kind"
  if elementKind = "custom" then do
    let _ ← nonempty (elementType.get "name") "topology element_type custom name"
  else
    raiseIf (elementKind ∉ ["f16", "bf16", "f32", "i8", "fp8_e4m3"])
      (invalid ("unsupported topology element_type kind " ++ I.repr elementKind))

/-- The geometry of a cache group. -/
def validateGeometry (I : Interpreter) (geometry : Json) : Except PyError Unit := do
  raiseIf ((geometry.get "kind").eqStr "paged_attention" = false)
    (invalid "initial vLLM shared_pool support requires paged_attention geometry")
  ["block_size_tokens", "kv_heads", "key_head_dim", "value_head_dim"].forM fun field => do
    let _ ← positiveInt (geometry.get field) s!"topology geometry {field}"
  let elementType ← mapping (geometry.get "element_type") "topology element_type"
  validateElementType I elementType
  let layout ← mapping (geometry.get "layout") "topology layout"
  let _ ← nonempty (layout.get "kind") "topology layout kind"

/-- The attention policy of a cache group. -/
def validatePolicy (policy : Json) : Except PyError Unit := do
  let supported ← (policy.get "kind").inSet ["full_attention", "sliding_window"]
  raiseIf (supported = false) (invalid "unsupported vLLM cache policy")
  if (policy.get "kind").eqStr "sliding_window" then do
    let _ ← positiveInt (policy.get "window_tokens") "sliding window tokens"

/-- The cache-group loop of `_validate_topology`.  Returns `topology_ids`. -/
def validateCacheGroups (I : Interpreter) : List Json → List String → Except PyError (List String)
  | [], topologyIds => .ok topologyIds
  | raw :: rest, topologyIds => do
    let group ← mapping raw "topology cache group"
    let groupId ← nonempty (group.get "group_id") "topology group_id"
    raiseIf (groupId ∈ topologyIds) (invalid "topology cache group IDs must be unique")
    let layers ← nonemptyListOr (group.get "layers")
      "topology cache group layers must be non-empty"
    validateLayers layers []
    let geometry ← mapping (group.get "geometry") "topology geometry"
    validateGeometry I geometry
    let policy ← mapping (group.get "policy") "topology policy"
    validatePolicy policy
    validateCacheGroups I rest (groupId :: topologyIds)

/-- `"feature" in features`. -/
def hasFeature (features : List Json) (feature : String) : Bool := features.any (·.eqStr feature)

/-- The shard of a topology; every field has a default. -/
def validateTopologyShard (shard : Json) : Except PyError Unit := do
  let tpWorld ← positiveInt (shard.getD "tensor_parallel_world_size" (.int 1))
    "tensor_parallel_world_size"
  let ppWorld ← positiveInt (shard.getD "pipeline_parallel_world_size" (.int 1))
    "pipeline_parallel_world_size"
  let tpRank ← nonnegativeInt (shard.getD "tensor_parallel_rank" (.int 0)) "tensor_parallel_rank"
  let ppRank ← nonnegativeInt (shard.getD "pipeline_parallel_rank" (.int 0))
    "pipeline_parallel_rank"
  raiseIf (tpRank ≥ tpWorld ∨ ppRank ≥ ppWorld)
    (invalid "topology shard rank is outside its world size")

/-- `_validate_topology`. -/
def validateTopology (I : Interpreter) (topology : Json) (modelFingerprint : String)
    (capacityGroupIds : List String) (capabilities : Json) (features : List Json) :
    Except PyError Unit := do
  let topologyVersion ← mapping (topology.get "abi_version") "topology abi_version"
  raiseIf (acceptsVersion topologyVersion = false) (invalid "unsupported topology ABI version")
  let capabilityVersion ← mapping (capabilities.get "abi_version") "capability ABI version"
  raiseIf (topologyVersion.pyEq capabilityVersion = false)
    (invalid "topology and capability ABI versions must match")
  raiseIf ((topology.get "model_fingerprint").eqStr modelFingerprint = false)
    (invalid "topology model fingerprint must match registration")
  let shard ← mapping (topology.getD "shard" (.obj [])) "topology shard"
  validateTopologyShard shard
  let cacheGroups ← nonemptyListOr (topology.get "cache_groups")
    "topology cache_groups must be non-empty"
  raiseIf (cacheGroups.length > 1 ∧ hasFeature features "multiple_cache_groups" = false)
    (invalid "multiple topology groups require a capability")
  let topologyIds ← validateCacheGroups I cacheGroups []
  raiseIf (¬sameSet topologyIds capacityGroupIds)
    (invalid "topology and capacity model must describe the same groups")

/-! ## Capacity groups -/

/-- The identity tuple of a memory domain. -/
inductive DomainIdentity
  | host
  | cuda (deviceId : ℕ)
  | provided (kind provider : String) (deviceId : Option ℕ)
  deriving DecidableEq

/-- `device_id`, which may be absent. -/
def optionalDeviceId (value : Json) : Except PyError (Option ℕ) :=
  if value.isNull then .ok none else do
    let deviceId ← nonnegativeInt value "device_id"
    return some deviceId

/-- The identity of one memory domain. -/
def domainIdentity (I : Interpreter) (domain : Json) : Except PyError DomainIdentity := do
  let kind ← nonempty (domain.get "kind") "memory domain kind"
  if kind = "host" then return .host
  else if kind = "cuda" then do
    let deviceId ← nonnegativeInt (domain.get "device_id") "device_id"
    return .cuda deviceId
  else if kind ∈ ["host_pinned", "host_mapped", "provider"] then do
    let provider ← nonempty (domain.get "provider") "memory domain provider"
    let deviceId ← optionalDeviceId (domain.get "device_id")
    return .provided kind provider deviceId
  else
    .error (invalid ("unknown KV memory domain kind " ++ I.repr kind))

/-- The domain loop of one capacity group.  Returns `seen_domains`. -/
def validateDomains (I : Interpreter) :
    List Json → List DomainIdentity → Except PyError (List DomainIdentity)
  | [], seenDomains => .ok seenDomains
  | raw :: rest, seenDomains => do
    let domain ← mapping raw "memory domain"
    let identity ← domainIdentity I domain
    raiseIf (identity ∈ seenDomains) (invalid "capacity memory domains must be unique")
    validateDomains I rest (identity :: seenDomains)

/-- The `max_allocations` check of one capacity group. -/
def validateMaxAllocations (value : Json) (sharedPool : Bool) : Except PyError Unit :=
  if value.isNull then
    raiseIf (sharedPool = true) (invalid "shared_pool groups require max_allocations")
  else do
    let _ ← positiveInt value "max_allocations"

/-- The group loop of `validate_registration`, with `seen` and `pool_domains`.  Returns `seen`. -/
def validateCapacityGroups (I : Interpreter) (sharedPool : Bool) :
    List Json → List String → List (String × List DomainIdentity) → Except PyError (List String)
  | [], seen, _ => .ok seen
  | raw :: rest, seen, poolDomains => do
    let group ← mapping raw "capacity group"
    let groupId ← nonempty (group.get "group_id") "capacity group_id"
    let poolId ← nonempty (group.get "pool_id") "capacity pool_id"
    raiseIf (groupId ∈ seen) (invalid "capacity group IDs must be unique")
    let _ ← positiveInt (group.get "allocation_granularity_tokens")
      "allocation_granularity_tokens"
    let _ ← positiveInt (group.get "bytes_per_allocation") "bytes_per_allocation"
    let memoryDomains ← nonemptyListOr (group.get "memory_domains")
      "capacity group memory_domains must be a non-empty list"
    let seenDomains ← validateDomains I memoryDomains []
    raiseIf (¬sameSet ((poolDomains.lookup poolId).getD seenDomains) seenDomains)
      (invalid "capacity groups sharing a pool must name the same memory domains")
    validateMaxAllocations (group.get "max_allocations") sharedPool
    validateCapacityGroups I sharedPool rest (groupId :: seen)
      (poolDomains ++ [(poolId, seenDomains)])

/-! ## The registration -/

/-- The checks of the `kv_connected` tier. -/
def validateOpaqueTier (registration capabilities : Json) (transports : List Json) :
    Except PyError Unit := do
  raiseIf ((capabilities.get "metadata_mode").eqStr "opaque" = false)
    (invalid "kv_connected vLLM must use opaque metadata")
  raiseIf ((capabilities.get "ownership").eqStr "backend" = false)
    (invalid "opaque vLLM KV must remain backend owned")
  raiseIf (transports.any (·.isKind "backend_opaque") = false)
    (invalid "backend_opaque transport is required")
  raiseIf ((registration.get? "topology").isSome = true)
    (invalid "opaque registrations cannot include a topology")
  raiseIf ((registration.get? "adapter_profile").isSome = true)
    (invalid "opaque registrations cannot include an adapter_profile")

/-- `required.issubset(features)`: the features are hashed into a set first. -/
def requireFeatures (features : List Json) : Except PyError Unit := do
  features.forM fun feature => do
    let _ ← feature.inSet []
  raiseIf (["direct_attention_access", "external_pool_attachment",
      "participant_block_selection"].all (hasFeature features) = false)
    (invalid <| "shared_pool requires direct attention, attachment, and participant block " ++
      "selection")

/-- The checks of the `shared_pool` tier that come before the capacity model. -/
def validateSharedPoolTier (registration capabilities : Json)
    (features transports : List Json) : Except PyError Unit := do
  raiseIf ((capabilities.get "metadata_mode").eqStr "structured" = false)
    (invalid "shared_pool vLLM requires structured metadata")
  raiseIf ((capabilities.get "ownership").eqStr "kapsl_runtime" = false)
    (invalid "shared_pool KV must be Kapsl owned")
  requireFeatures features
  let liveResize := hasFeature features "live_pool_resize"
  raiseIf (transports.any (·.isKind (if liveResize then "cuda_vmm" else "cuda_ipc")) = false)
    (invalid "shared_pool vLLM transport does not match live-resize capabilities")
  raiseIf (liveResize = true ∧ transports.length ≠ 1)
    (invalid "live-resize shared_pool vLLM requires only cuda_vmm transport")
  let profile ← mapping (registration.get "adapter_profile") "adapter profile"
  validateAdapterProfile profile

/-- Dispatch on the tier.  Returns whether it is `shared_pool`. -/
def validateTier (registration capabilities : Json) (features transports : List Json) :
    Except PyError Bool :=
  if (capabilities.get "tier").eqStr "kv_connected" then do
    validateOpaqueTier registration capabilities transports
    return false
  else if (capabilities.get "tier").eqStr "shared_pool" then do
    validateSharedPoolTier registration capabilities features transports
    return true
  else .error (invalid "vLLM connector has an unsupported KV tier")

/-- The provisioning-grant half of `validate_registration`. -/
def validateGrantPresence (registration : Json) (features : List Json) (sharedPool : Bool) :
    Except PyError Unit := do
  let grant := registration.get "provisioning_grant"
  raiseIf (hasFeature features "provisioning_grant" ≠ !grant.isNull)
    (invalid "provisioning_grant capability and proof must be present together")
  if grant.isNull then return ()
  else do
    raiseIf (sharedPool = false)
      (invalid "provisioning grants require a runtime-owned shared pool")
    let grant ← mapping grant "provisioning grant"
    validateProvisioningGrant grant

/-- The topology half of `validate_registration`. -/
def validateSharedTopology (I : Interpreter) (registration capabilities : Json)
    (modelFingerprint : String) (seen : List String) (features : List Json) (sharedPool : Bool) :
    Except PyError Unit :=
  if sharedPool then do
    let topology ← mapping (registration.get "topology") "topology"
    validateTopology I topology modelFingerprint seen capabilities features
  else .ok ()

/-- The capability lists. -/
def capabilityLists (capabilities : Json) : Except PyError (List Json × List Json) :=
  match capabilities.get "features", capabilities.get "transports" with
  | .list features, .list transports => .ok (features, transports)
  | _, _ => .error (invalid "capability features and transports must be lists")

/-- `validate_registration`. -/
def validateRegistration (I : Interpreter) (registration : Json) : Except PyError Unit := do
  let _ ← nonempty (registration.get "participant_id") "participant_id"
  let _ ← nonempty (registration.get "backend") "backend"
  let modelFingerprint ← nonempty (registration.get "model_fingerprint") "model_fingerprint"
  let capabilities ← mapping (registration.get "capabilities") "capabilities"
  let version ← mapping (capabilities.get "abi_version") "abi_version"
  raiseIf (acceptsVersion version = false) (invalid "unsupported capability ABI version")
  let (features, transports) ← capabilityLists capabilities
  raiseIf (hasFeature features "capacity_leasing" = false)
    (invalid "capacity_leasing feature is required")
  let sharedPool ← validateTier registration capabilities features transports
  let capacityModel ← mapping (registration.get "capacity_model") "capacity_model"
  let groups ← nonemptyListOr (capacityModel.get "groups")
    "capacity_model.groups must be a non-empty list"
  let seen ← validateCapacityGroups I sharedPool groups [] []
  validateSharedTopology I registration capabilities modelFingerprint seen features sharedPool
  validateGrantPresence registration features sharedPool

end Kapsl.Vllm
