import Kapsl.Vllm.CacheGroups
import Kapsl.Vllm.RankBinding

/-!
# Vllm/RankExtraction — planning and registration read one pool off a resolved configuration

`extract_rank_geometry` sizes the memory grant; `_vllm_capacity_groups` and `_vllm_topology` build
what the runtime enforces.  All three start from `extract_cache_group_topologies`, but the planner
sorts its groups by ID and checks the packed tensors itself, the capacity groups take their stride
from `vllm_backing_geometry`, and the topology numbers the layers across groups.

* `registration_agrees` — a packed configuration the planner accepts is accepted by the other two,
  and the three describe the same groups over blocks of the same size.
-/

namespace Kapsl.Vllm

open Except (raiseIf)

/-! ## The plan of one rank -/

/-- The bytes one sequence needs of a group, `max_memory_usage_bytes(vllm_config)`. -/
def maximumSequenceBytes (rawGroup : RawGroup) (groupIndex : ℕ) : Except PyError ℕ :=
  match rawGroup.kvCacheSpec.bind (·.attributes.maxMemoryUsageBytes) with
  | none => .error (.planningError
      "resolved vLLM cache specs must provide max_memory_usage_bytes")
  | some (.ok value) => uintValue value "max_memory_usage_bytes"
  | some (.error (.planningError message)) => .error (.planningError message)
  | some (.error error) => .error (.planningError
      (s!"vLLM cache group {groupIndex} could not size one sequence: " ++ error.message))

/-- `_size_group`. -/
def sizeGroup (rawGroup : RawGroup) (topology : CacheGroupTopology) (groupIndex : ℕ) :
    Except PyError CacheGroupGeometry := do
  let maximumBytes ← maximumSequenceBytes rawGroup groupIndex
  let sequenceBlocks ← ceilDiv maximumBytes topology.pageSizeBytes "required_blocks_per_sequence"
  CacheGroupGeometry.postInit
    { groupId := topology.groupId
      layers := topology.layers
      blockSizeTokens := topology.blockSizeTokens
      bytesPerGroupBlock := topology.bytesPerGroupBlock
      requiredBlocksPerSequence := sequenceBlocks
      kvHeads := topology.kvHeads
      keyHeadDim := topology.keyHeadDim
      valueHeadDim := topology.valueHeadDim
      elementType := topology.elementType
      policyKind := topology.policyKind
      windowTokens := topology.windowTokens
      extraRetainedTokens := topology.extraRetainedTokens }

/-- The `kv_cache_tensors` check of `extract_rank_geometry`; a planner-created configuration has no
tensors. -/
def checkPackedAllocation (config : ResolvedConfig) (poolStride : ℕ) : Except PyError Unit :=
  if config.kvCacheTensors = [] then .ok ()
  else do
    let numBlocks ← positiveAttr [config.numBlocks] "num_blocks"
    let sizes ← config.kvCacheTensors.mapM fun size => positiveAttr [size] "kv_cache_tensor.size"
    raiseIf (sizes.dedup.length ≠ 1)
      (.planningError "packed vLLM KV tensor placements do not share one backing size")
    let packedBytes := sizes.dedup.headD 0
    raiseIf (packedBytes % numBlocks ≠ 0 ∨ packedBytes / numBlocks ≠ poolStride) (.planningError
      "resolved packed allocation disagrees with cache-group page accounting")

/-- `extract_rank_geometry`. -/
def extractRankGeometry (I : Interpreter) (classifier : CacheSpecClassifier)
    (config : ResolvedConfig) (rank deviceId : ℕ) : Except PyError RankGeometry := do
  let topologies ← extractCacheGroupTopologies I classifier config
  let rawGroups := config.kvCacheGroups.getD []
  let groups ← (rawGroups.zip topologies).zipIdx.mapM fun ((rawGroup, topology), index) =>
    sizeGroup rawGroup topology index
  let poolStride ← sharedPoolBlockStride groups
  checkPackedAllocation config poolStride
  RankGeometry.postInit
    { rank
      deviceId
      poolBytesPerBlock := poolStride
      groups
      -- vLLM's `BlockPool` keeps one null block for good.
      fixedOverheadBlocks := 1 }

/-! ## The registration -/

/-- `_positive_integer` of a value that need not be an integer. -/
def positiveIntegerValue (value : PyValue) (field : String) : Except PyError ℤ :=
  match value with
  | .int n =>
    if n ≤ 0 then .error (.valueError s!"{field} must be a positive integer") else .ok n
  | _ => .error (.valueError s!"{field} must be a positive integer")

theorem one_le_of_positiveIntegerValue {value : PyValue} {field : String} {n : ℤ}
    (h : positiveIntegerValue value field = .ok n) : 1 ≤ n := by
  unfold positiveIntegerValue at h
  split at h
  · split at h
    · exact nomatch h
    · obtain rfl := Except.ok.inj h
      omega
  · exact nomatch h

/-- `vllm_backing_geometry`, with its own reading of the sizes: `int(value or 0)`. -/
def ResolvedConfig.backingGeometry (config : ResolvedConfig) : Except PyError (ℤ × ℤ × ℤ) := do
  let numBlocks ← config.numBlocks.toInt
  -- The sizes are read only once there are blocks.
  if numBlocks ≤ 0 then vllmBackingGeometry { numBlocks, kvCacheTensors := [] }
  else do
    let sizes ← config.kvCacheTensors.mapM PyValue.toInt
    vllmBackingGeometry { numBlocks, kvCacheTensors := sizes }

/-- `shared_pool_block_stride` of topologies. -/
def topologyBlockStride (groups : List CacheGroupTopology) : Except PyError ℕ := do
  raiseIf (groups = []) (.planningError "shared pool requires at least one cache group")
  let strides ← groups.mapM fun group => uint group.bytesPerGroupBlock "bytes_per_group_block"
  pure (strides.foldl max 0)

/-- The capacity group at an index. -/
def capacityGroup (memoryDomains : List Json) (poolStride maxAllocations : ℤ) (index : ℕ)
    (blockSize : ℕ) : Json :=
  .obj [("group_id", .str (vllmGroupId index)), ("pool_id", .str "vllm.pool.0"),
    ("allocation_granularity_tokens", .int blockSize), ("bytes_per_allocation", .int poolStride),
    ("memory_domains", .list memoryDomains), ("max_allocations", .int maxAllocations)]

/-- `_vllm_capacity_groups(shared_pool=True)`. -/
def vllmCapacityGroups (I : Interpreter) (classifier : CacheSpecClassifier)
    (config : ResolvedConfig) (memoryDomains : List Json) : Except PyError (List Json) := do
  raiseIf (config.kvCacheGroups.getD [] = [] ∨ config.numBlocks = .none) (.valueError
    "vLLM KVCacheConfig must expose non-empty kv_cache_groups and num_blocks")
  let maxAllocations ← positiveIntegerValue config.numBlocks "vLLM num_blocks"
  let topologies ← extractCacheGroupTopologies I classifier config
  let certifiedPoolStride ← topologyBlockStride topologies
  let (_, configuredBlocks, poolStride) ← config.backingGeometry
  raiseIf (configuredBlocks ≠ maxAllocations)
    (.assertionError "vLLM backing geometry changed during extraction")
  raiseIf (poolStride ≠ certifiedPoolStride) (.valueError <|
    "resolved packed allocation block stride disagrees with " ++
      "certified cache-group page accounting")
  pure (topologies.zipIdx.map fun (topology, index) =>
    capacityGroup memoryDomains poolStride maxAllocations index topology.blockSizeTokens)

/-- `ABI_VERSION`. -/
def abiVersion : Json := .obj [("major", .int 1), ("minor", .int 5)]

/-- The wire kind of a dtype that has one. -/
def knownElementKind : String → Option String
  | "float16" | "half" => some "f16"
  | "bfloat16" => some "bf16"
  | "float32" | "float" => some "f32"
  | "int8" => some "i8"
  | "float8_e4m3fn" | "float8_e4m3fnuz" => some "fp8_e4m3"
  | _ => none

/-- `_element_type` of the connector. -/
def wireElementType (dtype : String) : Except PyError Json :=
  let name := removePrefix "torch." (lower dtype)
  match knownElementKind name with
  | some kind => .ok (.obj [("kind", .str kind)])
  | none =>
    if name = "" ∨ name = "none" then
      .error (.valueError "vLLM shared_pool KV dtype is unavailable")
    else .ok (.obj [("kind", .str "custom"), ("name", .str name)])

/-- The policy of a topology group. -/
def topologyPolicy (group : CacheGroupTopology) : Json :=
  match group.policyKind with
  | .slidingWindow => .obj [("kind", .str "sliding_window"),
      ("window_tokens", (group.windowTokens.map fun window => .int window).getD .null)]
  | .fullAttention => .obj [("kind", .str "full_attention")]

/-- The layers of a topology group, numbered from `next_layer_index`. -/
def topologyLayers (nextLayerIndex : ℕ) (layers : List String) : List Json :=
  (layers.zipIdx nextLayerIndex).map fun (name, index) =>
    .obj [("index", .int index), ("name", .str name)]

/-- The geometry of a topology group. -/
def topologyGeometry (layoutId : String) (group : CacheGroupTopology) (elementType : Json) : Json :=
  .obj [("kind", .str "paged_attention"), ("block_size_tokens", .int group.blockSizeTokens),
    ("kv_heads", .int group.kvHeads), ("key_head_dim", .int group.keyHeadDim),
    ("value_head_dim", .int group.valueHeadDim), ("element_type", elementType),
    ("layout", .obj [("kind", .str "backend_native"), ("layout_id", .str ("vllm:" ++ layoutId))])]

/-- One group of the topology. -/
def topologyGroup (layoutId : String) (nextLayerIndex : ℕ) (group : CacheGroupTopology) :
    Except PyError Json := do
  let elementType ← wireElementType group.elementType.name
  pure <| .obj [("group_id", .str group.groupId),
    ("layers", .list (topologyLayers nextLayerIndex group.layers)),
    ("geometry", topologyGeometry layoutId group elementType),
    ("policy", topologyPolicy group)]

/-- The group loop of `_vllm_topology`. -/
def topologyGroups (layoutId : String) : List CacheGroupTopology → ℕ → Except PyError (List Json)
  | [], _ => .ok []
  | group :: groups, nextLayerIndex => do
    let first ← topologyGroup layoutId nextLayerIndex group
    let rest ← topologyGroups layoutId groups (nextLayerIndex + group.layers.length)
    pure (first :: rest)

/-- `_vllm_topology`. -/
def vllmTopology (I : Interpreter) (classifier : CacheSpecClassifier) (config : ResolvedConfig)
    (modelFingerprint : String) (tensorParallelWorldSize : ℕ) : Except PyError Json := do
  let rawLayoutId := config.kvCacheLayout.getD ""
  raiseIf (isBlank rawLayoutId)
    (.valueError "resolved vLLM KVCacheConfig must expose kv_cache_layout")
  let layoutId := strip rawLayoutId
  let resolvedGroups ← extractCacheGroupTopologies I classifier config
  let cacheGroups ← topologyGroups layoutId resolvedGroups 0
  pure <| .obj [("abi_version", abiVersion), ("model_fingerprint", .str modelFingerprint),
    ("shard", .obj [("tensor_parallel_rank", .int 0),
      ("tensor_parallel_world_size", .int tensorParallelWorldSize),
      ("pipeline_parallel_rank", .int 0), ("pipeline_parallel_world_size", .int 1)]),
    ("cache_groups", .list cacheGroups)]

/-! ## What each side says of a group -/

/-- A cache group, as the plan and the registered topology both describe it. -/
structure GroupDescription where
  groupId : String
  blockSizeTokens : ℕ
  layers : List String
  kvHeads : ℕ
  keyHeadDim : ℕ
  valueHeadDim : ℕ
  policyKind : Option CachePolicy
  windowTokens : Option ℕ
  deriving DecidableEq

/-- What the plan says of a group. -/
def CacheGroupGeometry.description (group : CacheGroupGeometry) : GroupDescription where
  groupId := group.groupId
  blockSizeTokens := group.blockSizeTokens
  layers := group.layers
  kvHeads := group.kvHeads
  keyHeadDim := group.keyHeadDim
  valueHeadDim := group.valueHeadDim
  policyKind := some group.policyKind
  windowTokens := group.windowTokens

/-- What the extraction found of a group. -/
def CacheGroupTopology.description (group : CacheGroupTopology) : GroupDescription where
  groupId := group.groupId
  blockSizeTokens := group.blockSizeTokens
  layers := group.layers
  kvHeads := group.kvHeads
  keyHeadDim := group.keyHeadDim
  valueHeadDim := group.valueHeadDim
  policyKind := some group.policyKind
  windowTokens := group.windowTokens

/-- The window that a wire policy names. -/
def policyWindow (policy : Json) : Option ℕ :=
  if (policy.get "window_tokens").isNull then none else some (policy.get "window_tokens").toNat

/-- What a group of the registered topology says. -/
def GroupDescription.ofJson (group : Json) : GroupDescription where
  groupId := (group.get "group_id").toStr
  blockSizeTokens := ((group.get "geometry").get "block_size_tokens").toNat
  layers := (group.get "layers").items.map fun layer => (layer.get "name").toStr
  kvHeads := ((group.get "geometry").get "kv_heads").toNat
  keyHeadDim := ((group.get "geometry").get "key_head_dim").toNat
  valueHeadDim := ((group.get "geometry").get "value_head_dim").toNat
  policyKind := CachePolicy.ofKind ((group.get "policy").get "kind").toStr
  windowTokens := policyWindow (group.get "policy")

/-- The groups of a registered topology. -/
def registeredGroups (topology : Json) : List GroupDescription :=
  (topology.get "cache_groups").items.map GroupDescription.ofJson

/-- The ID and the granularity of a capacity group. -/
def capacityGranularity (group : Json) : String × ℕ :=
  ((group.get "group_id").toStr, (group.get "allocation_granularity_tokens").toNat)

/-- **A plan, the capacity groups and a topology describe one pool**: the same groups under distinct
IDs, the same granularity for each, and one stride. -/
structure DescribeOnePool (geometry : RankGeometry) (capacity : List Json) (topology : Json) :
    Prop where
  nodup : (geometry.groups.map (·.groupId)).Nodup
  topology : (geometry.groups.map (·.description)).Perm (registeredGroups topology)
  granularity : (geometry.groups.map fun group => (group.groupId, group.blockSizeTokens)).Perm
    (capacity.map capacityGranularity)
  stride : ∀ group ∈ capacity, group.get "bytes_per_allocation" = .int geometry.poolBytesPerBlock

/-! ## Agreement -/

/-- A valid group keeps what its topology says: its texts were stripped already. -/
theorem sizeGroup_eq_ok {rawGroup : RawGroup} {topology : CacheGroupTopology} {index : ℕ}
    {group : CacheGroupGeometry} (hid : IsText topology.groupId)
    (hlayers : ∀ layer ∈ topology.layers, IsText layer)
    (h : sizeGroup rawGroup topology index = .ok group) :
    group.description = topology.description ∧
      group.bytesPerGroupBlock = topology.bytesPerGroupBlock := by
  simp only [sizeGroup, CacheGroupGeometry.postInit, Except.bind_eq_ok, Except.pure_eq_ok,
    hid.text_eq, Except.ok.injEq] at h
  obtain ⟨_, -, _, -, _, rfl, layers, htexts, -, -, -, -, -, -, -, -, -, -, -, -, -, -, -, -, rfl⟩ := h
  have hlist : layers.map id = topology.layers.map id :=
    Except.map_eq_map_of_mapM (fun layer hlayer y hy => by
      rw [(hlayers layer hlayer).text_eq] at hy
      exact (Except.ok.inj hy).symm) htexts
  rw [List.map_id, List.map_id] at hlist
  subst hlist
  exact ⟨rfl, rfl⟩

/-- **The planned groups are the extracted ones**, in order. -/
theorem sized_eq_extracted {rawGroups : List RawGroup} {topologies : List CacheGroupTopology}
    {groups : List CacheGroupGeometry} (hlength : topologies.length ≤ rawGroups.length)
    (hcertified : ∀ topology ∈ topologies, ∃ index, topology.Certified index)
    (h : ((rawGroups.zip topologies).zipIdx.mapM fun ((rawGroup, topology), index) =>
      sizeGroup rawGroup topology index) = .ok groups) :
    groups.map (fun group => (group.description, group.bytesPerGroupBlock)) =
      topologies.map fun topology => (topology.description, topology.bytesPerGroupBlock) := by
  have hround : ∀ pair ∈ (rawGroups.zip topologies).zipIdx, ∀ group,
      sizeGroup pair.1.1 pair.1.2 pair.2 = .ok group →
        (group.description, group.bytesPerGroupBlock) =
          (pair.1.2.description, pair.1.2.bytesPerGroupBlock) := by
    intro pair hpair group hgroup
    have hmem : pair.1.2 ∈ topologies :=
      (List.of_mem_zip (List.fst_mem_of_mem_zipIdx hpair)).2
    obtain ⟨index, hindex⟩ := hcertified _ hmem
    have hid : IsText pair.1.2.groupId := hindex.groupId ▸ isText_vllmGroupId index
    obtain ⟨hdescription, hbytes⟩ := sizeGroup_eq_ok hid hindex.layers hgroup
    rw [hdescription, hbytes]
  rw [Except.map_eq_map_of_mapM hround h]
  have hsnd : ((rawGroups.zip topologies).zipIdx.map Prod.fst).map Prod.snd = topologies := by
    rw [List.zipIdx_map_fst, List.map_snd_zip hlength]
  conv_rhs => rw [← hsnd, List.map_map, List.map_map]
  rfl

/-- The stride depends on the bytes of the groups only. -/
theorem topologyBlockStride_eq {groups : List CacheGroupGeometry}
    {topologies : List CacheGroupTopology}
    (h : groups.map (·.bytesPerGroupBlock) = topologies.map (·.bytesPerGroupBlock)) :
    topologyBlockStride topologies = sharedPoolBlockStride groups := by
  have hstrides : topologies.mapM (fun group => uint group.bytesPerGroupBlock
      "bytes_per_group_block") = groups.mapM fun group => uint group.bytesPerGroupBlock
      "bytes_per_group_block" := by
    have hmap := congrArg (List.mapM fun bytes => uint bytes "bytes_per_group_block") h
    rw [List.mapM_map, List.mapM_map] at hmap
    exact hmap.symm
  have hnil : topologies = [] ↔ groups = [] := by
    rw [← List.map_eq_nil_iff, ← h, List.map_eq_nil_iff]
  simp only [topologyBlockStride, sharedPoolBlockStride, hstrides, hnil]

/-- `vllm_backing_geometry` of tensors of one size, a whole number of blocks. -/
theorem vllmBackingGeometry_of_dedup {config : KvCacheConfig} {bytes stride : ℤ}
    (hblocks : 0 < config.numBlocks) (hdedup : config.kvCacheTensors.dedup = [bytes])
    (hmod : bytes % config.numBlocks = 0) (hdiv : bytes / config.numBlocks = stride)
    (hstride : 0 < stride) :
    vllmBackingGeometry config = .ok (bytes, config.numBlocks, stride) := by
  have hne : config.kvCacheTensors ≠ [] := by
    intro hnil
    rw [hnil] at hdedup
    exact absurd hdedup nofun
  have hbytes : 0 < bytes := by
    by_contra hneg
    have := Int.ediv_nonpos_of_nonpos_of_neg (not_lt.mp hneg) hblocks
    omega
  simp only [vllmBackingGeometry, hdedup, List.headD_cons, hmod, hdiv, Except.bind_eq_ok,
    Except.raiseIf_eq_ok, Except.pure_eq_ok, List.length_singleton, not_or]
  exact ⟨(), ⟨by omega, hne⟩, (), ⟨by omega, by omega⟩, (), ⟨by omega, by omega⟩, trivial⟩

/-- **The two readings of the packed tensors agree**: what the planner accepts is what
`vllm_backing_geometry` computes. -/
theorem backingGeometry_of_checkPackedAllocation {config : ResolvedConfig} {stride : ℕ}
    (htensors : config.kvCacheTensors ≠ []) (hstride : 1 ≤ stride)
    (h : checkPackedAllocation config stride = .ok ()) :
    ∃ blocks bytes : ℕ, 1 ≤ blocks ∧ config.numBlocks = .int blocks ∧
      config.backingGeometry = .ok (bytes, blocks, stride) := by
  rw [checkPackedAllocation, if_neg htensors] at h
  simp only [Except.bind_eq_ok, Except.raiseIf_eq_ok, not_or, not_not] at h
  obtain ⟨blocks, hblocks, sizes, hsizes, -, hone, hdvd, hdiv⟩ := h
  obtain ⟨hmem, hpos, -⟩ := positiveAttr_eq_ok hblocks
  have hnum : config.numBlocks = .int blocks := (List.mem_singleton.mp hmem).symm
  have hlist : sizes.map (fun size : ℕ => PyValue.int size) = config.kvCacheTensors.map id :=
    Except.map_eq_map_of_mapM (fun value _ size hsize =>
      List.mem_singleton.mp (positiveAttr_eq_ok hsize).1) hsizes
  have hints : config.kvCacheTensors.mapM PyValue.toInt = .ok (sizes.map Nat.cast) := by
    rw [← List.map_id config.kvCacheTensors, ← hlist, Except.mapM_eq_ok,
      List.forall₂_map_left_iff, List.forall₂_map_right_iff, List.forall₂_same]
    exact fun _ _ => rfl
  obtain ⟨bytes, hbytes⟩ := List.length_eq_one_iff.mp hone
  have hdedup : (sizes.map (Nat.cast : ℕ → ℤ)).dedup = [(bytes : ℤ)] := by
    rw [List.dedup_map_of_injective Nat.cast_injective, hbytes]
    rfl
  rw [hbytes, List.headD_cons] at hdvd hdiv
  refine ⟨blocks, bytes, hpos, hnum, ?_⟩
  rw [ResolvedConfig.backingGeometry, hnum, Except.bind_eq_ok]
  refine ⟨blocks, rfl, ?_⟩
  rw [if_neg (by omega), hints]
  have hmod : (bytes : ℤ) % blocks = 0 := by exact_mod_cast hdvd
  have hquotient : (bytes : ℤ) / blocks = stride := by exact_mod_cast hdiv
  have hblocks : (0 : ℤ) < blocks := by omega
  exact vllmBackingGeometry_of_dedup hblocks hdedup hmod hquotient (by omega)

/-- Every certified dtype has a wire form. -/
theorem wireElementType_of_dtypeBits {name : String} {bits : ℕ} (h : dtypeBits name = some bits) :
    ∃ elementType, wireElementType name = .ok elementType := by
  unfold dtypeBits at h
  split at h
  case h_12 => exact nomatch h
  all_goals exact ⟨_, rfl⟩

/-- A certified policy reads back from its wire form. -/
theorem topologyPolicy_reads {group : CacheGroupTopology} {index : ℕ}
    (h : group.Certified index) :
    CachePolicy.ofKind ((topologyPolicy group).get "kind").toStr = some group.policyKind ∧
      policyWindow (topologyPolicy group) = group.windowTokens := by
  have hwindow := h.window
  rcases hkind : group.policyKind with _ | _
  · simp only [hkind] at hwindow
    simp only [topologyPolicy, hkind]
    exact ⟨rfl, hwindow.symm⟩
  · simp only [hkind] at hwindow
    obtain ⟨window, hsome, -⟩ := hwindow
    simp only [topologyPolicy, hkind, hsome]
    exact ⟨rfl, rfl⟩

theorem ofJson_topologyGroup {layoutId : String} {nextLayerIndex index : ℕ}
    {group : CacheGroupTopology} {item : Json} (hgroup : group.Certified index)
    (h : topologyGroup layoutId nextLayerIndex group = .ok item) :
    GroupDescription.ofJson item = group.description := by
  simp only [topologyGroup, Except.bind_eq_ok, Except.pure_eq_ok] at h
  obtain ⟨elementType, -, rfl⟩ := h
  have hlayers : (topologyLayers nextLayerIndex group.layers).map
      (fun layer => (layer.get "name").toStr) = group.layers := by
    rw [topologyLayers, List.map_map]
    exact List.zipIdx_map_fst nextLayerIndex group.layers
  obtain ⟨hkind, hwindow⟩ := topologyPolicy_reads hgroup
  conv_rhs => rw [CacheGroupTopology.description, ← hlayers, ← hkind, ← hwindow]
  rfl

/-- **The topology of certified groups is built, and describes them.** -/
theorem topologyGroups_ok {layoutId : String} {groups : List CacheGroupTopology}
    (h : ∀ group ∈ groups, ∃ index, group.Certified index) (nextLayerIndex : ℕ) :
    ∃ items, topologyGroups layoutId groups nextLayerIndex = .ok items ∧
      items.map GroupDescription.ofJson = groups.map (·.description) := by
  induction groups generalizing nextLayerIndex with
  | nil => exact ⟨[], rfl, rfl⟩
  | cons group groups ih =>
    obtain ⟨⟨index, hgroup⟩, hgroups⟩ := List.forall_mem_cons.mp h
    obtain ⟨elementType, helement⟩ := wireElementType_of_dtypeBits hgroup.elementType
    obtain ⟨item, hitem⟩ : ∃ item, topologyGroup layoutId nextLayerIndex group = .ok item := by
      rw [topologyGroup, helement]
      exact ⟨_, rfl⟩
    obtain ⟨items, hitems, hdescription⟩ := ih hgroups (nextLayerIndex + group.layers.length)
    refine ⟨item :: items, ?_, ?_⟩
    · rw [topologyGroups, hitem, hitems]
      rfl
    · rw [List.map_cons, List.map_cons, ofJson_topologyGroup hgroup hitem, hdescription]

/-- The capacity groups carry the IDs and block sizes of the extracted groups. -/
theorem map_capacityGranularity {memoryDomains : List Json} {poolStride maxAllocations : ℤ}
    {topologies : List CacheGroupTopology}
    (h : ∀ pair ∈ topologies.zipIdx, pair.1.Certified pair.2) :
    (topologies.zipIdx.map fun (topology, index) => capacityGroup memoryDomains poolStride
      maxAllocations index topology.blockSizeTokens).map capacityGranularity =
        topologies.map fun topology => (topology.groupId, topology.blockSizeTokens) := by
  have hfst : topologies = topologies.zipIdx.map Prod.fst := (List.zipIdx_map_fst 0 _).symm
  conv_rhs => rw [hfst]
  rw [List.map_map, List.map_map]
  refine List.map_congr_left fun pair hpair => ?_
  rw [Function.comp, Function.comp, (h pair hpair).groupId]
  rfl

theorem length_of_extractCacheGroupTopologies {I : Interpreter} {classifier : CacheSpecClassifier}
    {config : ResolvedConfig} {topologies : List CacheGroupTopology}
    (h : extractCacheGroupTopologies I classifier config = .ok topologies) :
    config.kvCacheGroups.getD [] ≠ [] ∧
      (config.kvCacheGroups.getD []).length = topologies.length := by
  simp only [extractCacheGroupTopologies, Except.bind_eq_ok, Except.raiseIf_eq_ok,
    Except.pure_eq_ok] at h
  obtain ⟨-, hne, _, hgroups, -, -, rfl⟩ := h
  have hlength := (Except.mapM_eq_ok.mp hgroups).length_eq
  rw [List.length_zipIdx] at hlength
  exact ⟨hne, hlength⟩

/-- What the constructor of a rank keeps of the groups it is given. -/
theorem RankGeometry.postInit_eq_ok {self r : RankGeometry} (h : self.postInit = .ok r) :
    r.groups.Perm self.groups ∧ (r.groups.map (·.groupId)).Nodup ∧
      r.poolBytesPerBlock = self.poolBytesPerBlock ∧ 1 ≤ r.poolBytesPerBlock := by
  simp only [RankGeometry.postInit, Except.bind_eq_ok, Except.raiseIf_eq_ok, Except.pure_eq_ok,
    uint_eq_ok, not_not] at h
  obtain ⟨_, -, _, -, _, ⟨hpos, -⟩, _, -, -, -, -, hnodup, -, -, -, -, -, -, rfl⟩ := h
  exact ⟨List.perm_insertionSort _ _, hnodup, rfl, hpos.1⟩

theorem vllmCapacityGroups_eq_ok {I : Interpreter} {classifier : CacheSpecClassifier}
    {config : ResolvedConfig} {memoryDomains : List Json} {topologies : List CacheGroupTopology}
    {stride blocks bytes : ℕ} (hextract : extractCacheGroupTopologies I classifier config = .ok
      topologies) (hstride : topologyBlockStride topologies = .ok stride) (hblocks : 1 ≤ blocks)
    (hnum : config.numBlocks = .int blocks)
    (hbacking : config.backingGeometry = .ok (bytes, blocks, stride)) :
    vllmCapacityGroups I classifier config memoryDomains =
      .ok (topologies.zipIdx.map fun (topology, index) =>
        capacityGroup memoryDomains stride blocks index topology.blockSizeTokens) := by
  have hne := (length_of_extractCacheGroupTopologies hextract).1
  have hmax : positiveIntegerValue config.numBlocks "vLLM num_blocks" = .ok (blocks : ℤ) := by
    rw [hnum]
    exact if_neg (by omega)
  simp only [vllmCapacityGroups, Except.bind_eq_ok, Except.raiseIf_eq_ok, Except.pure_eq_ok]
  refine ⟨(), ?_, _, hmax, _, hextract, _, hstride, _, hbacking, (), ?_, (), ?_, rfl⟩
  · rw [hnum]
    exact not_or.mpr ⟨hne, by rintro ⟨⟩⟩
  · exact not_not.mpr rfl
  · exact not_not.mpr rfl

theorem vllmTopology_eq_ok {I : Interpreter} {classifier : CacheSpecClassifier}
    {config : ResolvedConfig} {modelFingerprint : String} {tensorParallelWorldSize : ℕ}
    {topologies : List CacheGroupTopology}
    (hlayout : isBlank (config.kvCacheLayout.getD "") = false)
    (hextract : extractCacheGroupTopologies I classifier config = .ok topologies)
    (hcertified : ∀ topology ∈ topologies, ∃ index, topology.Certified index) :
    ∃ topology, vllmTopology I classifier config modelFingerprint tensorParallelWorldSize =
      .ok topology ∧ registeredGroups topology = topologies.map (·.description) := by
  obtain ⟨items, hitems, hread⟩ := topologyGroups_ok hcertified 0
  simp only [vllmTopology, Except.bind_eq_ok, Except.raiseIf_eq_ok, Except.pure_eq_ok]
  refine ⟨_, ⟨(), ?_, topologies, hextract, items, hitems, rfl⟩, hread⟩
  rw [hlayout]
  exact Bool.false_ne_true

/-- **Planning and registration agree.**  A configuration with packed tensors and a layout that the
planner accepts is accepted by the two registration builders, and the three describe one pool, whose
stride is the one `vllm_backing_geometry` computes. -/
theorem registration_agrees (I : Interpreter) (classifier : CacheSpecClassifier)
    (config : ResolvedConfig) (rank deviceId : ℕ) (geometry : RankGeometry)
    (memoryDomains : List Json) (modelFingerprint : String) (tensorParallelWorldSize : ℕ)
    (htensors : config.kvCacheTensors ≠ [])
    (hlayout : isBlank (config.kvCacheLayout.getD "") = false)
    (haccepted : extractRankGeometry I classifier config rank deviceId = .ok geometry) :
    ∃ capacity topology,
      vllmCapacityGroups I classifier config memoryDomains = .ok capacity ∧
      vllmTopology I classifier config modelFingerprint tensorParallelWorldSize = .ok topology ∧
      DescribeOnePool geometry capacity topology ∧
      ∃ bytes blocks, config.backingGeometry = .ok (bytes, blocks, geometry.poolBytesPerBlock) := by
  simp only [extractRankGeometry, Except.bind_eq_ok] at haccepted
  obtain ⟨topologies, hextract, groups, hgroups, stride, hstride, ⟨⟩, hpacked, hgeometry⟩ :=
    haccepted
  obtain ⟨hperm, hnodup, hpool, hpos⟩ := RankGeometry.postInit_eq_ok hgeometry
  change geometry.poolBytesPerBlock = stride at hpool
  obtain ⟨-, hindexed, -⟩ := certified_of_extractCacheGroupTopologies hextract
  have hcertified := exists_certified hextract
  have hsized := sized_eq_extracted (length_of_extractCacheGroupTopologies hextract).2.ge
    hcertified hgroups
  obtain ⟨hdescriptions, hbytes⟩ :
      groups.map (·.description) = topologies.map (·.description) ∧
        groups.map (·.bytesPerGroupBlock) = topologies.map (·.bytesPerGroupBlock) := by
    have hfst := congrArg (List.map Prod.fst) hsized
    have hsnd := congrArg (List.map Prod.snd) hsized
    rw [List.map_map, List.map_map] at hfst hsnd
    exact ⟨hfst, hsnd⟩
  obtain ⟨blocks, bytes, hblocks, hnum, hbacking⟩ :=
    backingGeometry_of_checkPackedAllocation htensors (hpool ▸ hpos) hpacked
  obtain ⟨topology, htopology, hregistered⟩ := vllmTopology_eq_ok (I := I) hlayout hextract
    hcertified
  refine ⟨_, topology, vllmCapacityGroups_eq_ok hextract
    ((topologyBlockStride_eq hbytes).trans hstride) hblocks hnum hbacking, htopology,
    ⟨hnodup, ?_, ?_, ?_⟩, bytes, blocks, hpool ▸ hbacking⟩
  · rw [hregistered, ← hdescriptions]
    exact hperm.map _
  · rw [map_capacityGranularity hindexed]
    have hpairs := congrArg (List.map fun d => (d.groupId, d.blockSizeTokens)) hdescriptions
    rw [List.map_map, List.map_map] at hpairs
    exact (hperm.map _).trans (.of_eq hpairs)
  · intro group hgroup
    obtain ⟨pair, -, rfl⟩ := List.mem_map.mp hgroup
    rw [hpool]
    rfl

/-- The attributes of a layer with one KV head of dimension one in half precision, two tokens to the
block. -/
def smallLayer : SpecAttributes where
  blockSize := .int 2
  pageSizeBytes := .int 8
  numKvHeads := .int 1
  headSize := .int 1
  dtype := "torch.float16"
  maxMemoryUsageBytes := some (.ok (.int 40))

/-- The same with a window. -/
def smallWindowLayer : SpecAttributes := { smallLayer with slidingWindow := .int 4 }

/-- A full-attention group of two layers and a uniform sliding-window group of two more, packed into
four blocks. -/
def twoGroups : ResolvedConfig where
  kvCacheGroups := some
    [{ layerNames := some ["layer.0", "layer.1"], kvCacheSpec := some (.plain smallLayer) },
      { layerNames := some ["layer.2", "layer.3"]
        kvCacheSpec := some (.uniform { smallWindowLayer with pageSizeBytes := .int 16 }
          (.cons (.name "layer.2") (.plain smallWindowLayer)
            (.cons (.name "layer.3") (.plain smallWindowLayer) .nil))) }]
  numBlocks := .int 4
  kvCacheTensors := [.int 64]
  kvCacheLayout := some "NHD"

/-- A spec with a window slides. -/
def windowClassifier : CacheSpecClassifier := fun spec =>
  .ok (if spec.attributes.slidingWindow = .none then "full_attention" else "sliding_window")

/-- The plan of `twoGroups`. -/
def twoGroupsGeometry : RankGeometry where
  rank := 0
  deviceId := 0
  poolBytesPerBlock := 16
  groups :=
    [{ groupId := "vllm.group.0", layers := ["layer.0", "layer.1"], blockSizeTokens := 2
       bytesPerGroupBlock := 16, requiredBlocksPerSequence := 5, kvHeads := 1, keyHeadDim := 1
       valueHeadDim := 1, elementType := { name := "float16", bits := 16 }
       policyKind := .fullAttention },
      { groupId := "vllm.group.1", layers := ["layer.2", "layer.3"], blockSizeTokens := 2
        bytesPerGroupBlock := 16, requiredBlocksPerSequence := 3, kvHeads := 1, keyHeadDim := 1
        valueHeadDim := 1, elementType := { name := "float16", bits := 16 }
        policyKind := .slidingWindow, windowTokens := some 4 }]

theorem registration_agrees_twoGroups :
    ∃ capacity topology,
      vllmCapacityGroups ClientCall.heartbeatClient.interpreter windowClassifier twoGroups
        [.obj [("kind", .str "cuda"), ("device_id", .int 0)]] = .ok capacity ∧
      vllmTopology ClientCall.heartbeatClient.interpreter windowClassifier twoGroups "model" 1 =
        .ok topology ∧
      DescribeOnePool twoGroupsGeometry capacity topology ∧
      ∃ bytes blocks, twoGroups.backingGeometry =
        .ok (bytes, blocks, twoGroupsGeometry.poolBytesPerBlock) :=
  registration_agrees _ windowClassifier twoGroups 0 0 twoGroupsGeometry _ _ _ (by decide)
    (by decide +kernel) (by rfl)

end Kapsl.Vllm
