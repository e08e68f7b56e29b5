import Mathlib.Data.List.Dedup
import Kapsl.Vllm.ClientHandles
import Kapsl.Vllm.LiveResize
import Kapsl.Vllm.Planning

/-!
# Vllm/RankBinding — the device of each rank, and the binding its worker imports

`_validated_shared_rank_device_map` checks at start-up that the configured map sends the ranks
`0 … n - 1` one-to-one onto the devices of the memory domains.  `select_cuda_binding` then picks the
pool of a receipt that a worker imports.

* `validatedMap_injective` — an accepted map sends different ranks to different devices.
* `binding_safe_iff` — two ranks get bindings of their own, on their own devices, exactly when the
  receipt holds more than one candidate: a single candidate is taken without a look at the map.
* `binding_shared_oneCandidate` — two ranks import one replica.
-/

namespace Kapsl.Vllm

open Except (raiseIf)
open LiveResize (positiveInteger)

/-! ## The rank map -/

/-- `_strict_nonnegative_integer`. -/
def strictNonnegativeInteger (value : Json) (field : String) : Except PyError ℕ :=
  match value with
  | .int n =>
    if n < 0 ∨ n > uint64Max then
      .error (.valueError s!"{field} must be a non-negative unsigned 64-bit integer")
    else .ok n.toNat
  | _ => .error (.valueError s!"{field} must be a non-negative unsigned 64-bit integer")

/-- Whether a string spells a number without sign, space or leading zero. -/
def isCanonicalDecimal (text : String) : Bool :=
  match text.toList with
  | [] => false
  | first :: rest => text == "0" || ("123456789".toList.contains first &&
      rest.all fun character => "0123456789".toList.contains character)

/-- `int(text)` of such a string. -/
def decimal (text : String) : ℕ :=
  text.toList.foldl (fun value character => 10 * value + (character.toNat - 48)) 0

/-- `_canonical_rank`. -/
def canonicalRank (value : Json) : Except PyError ℕ :=
  let refused : PyError :=
    .valueError "kapsl_rank_device_map ranks must be canonical non-negative integers"
  match value with
  | .int _ => strictNonnegativeInteger value "kapsl_rank_device_map rank"
  | .str text =>
    if isCanonicalDecimal text then
      strictNonnegativeInteger (.int (decimal text)) "kapsl_rank_device_map rank"
    else .error refused
  | _ => .error refused

/-- A `dict[int, int]` from ranks to devices, in insertion order. -/
abbrev RankDeviceMap := List (ℕ × ℕ)

/-- The loop of `_rank_device_map`. -/
def rankDeviceItems : List (Json × Json) → RankDeviceMap → Except PyError RankDeviceMap
  | [], result => .ok result
  | (rawRank, rawDeviceId) :: items, result => do
    let rank ← canonicalRank rawRank
    let deviceId ← strictNonnegativeInteger rawDeviceId "kapsl_rank_device_map device ID"
    raiseIf (rank ∈ result.map Prod.fst)
      (.valueError "kapsl_rank_device_map contains duplicate or colliding ranks")
    rankDeviceItems items (result ++ [(rank, deviceId)])

/-- `kapsl_rank_device_map` in the connector's configuration; the keys of a Python mapping need not
be strings. -/
inductive RankMapOption
  | absent
  | mapping (items : List (Json × Json))
  | other

/-- `_rank_device_map`. -/
def rankDeviceMap : RankMapOption → Except PyError (Option RankDeviceMap)
  | .absent => .ok none
  | .other => .error (.valueError "kapsl_rank_device_map must be an object")
  | .mapping items => do
    let result ← rankDeviceItems items []
    raiseIf (result = []) (.valueError "kapsl_rank_device_map must not be empty")
    return some result

/-- The device IDs of the memory domains. -/
def domainDeviceIds (memoryDomains : List Json) : Except PyError (List ℕ) :=
  memoryDomains.zipIdx.mapM fun (domain, index) =>
    strictNonnegativeInteger (domain.get "device_id") s!"kapsl_memory_domains[{index}].device_id"

/-- The checks of a map that is present. -/
def checkRankDeviceMap (map : RankDeviceMap) (deviceIds : List ℕ) (tensorParallelSize : ℕ) :
    Except PyError Unit := do
  raiseIf (¬sameSet (map.map Prod.fst) (List.range tensorParallelSize))
    (.valueError <| "kapsl_rank_device_map must contain every tensor-parallel global rank " ++
      "exactly once")
  raiseIf (¬sameSet (map.map Prod.snd) deviceIds)
    (.valueError "kapsl_rank_device_map devices must exactly match kapsl_memory_domains")

/-- `_validated_shared_rank_device_map`. -/
def validatedSharedRankDeviceMap (config : RankMapOption) (memoryDomains : List Json)
    (tensorParallelSize : Json) : Except PyError (Option RankDeviceMap) := do
  let tensorParallelSize ← positiveInteger tensorParallelSize "vLLM tensor_parallel_size"
  let deviceIds ← domainDeviceIds memoryDomains
  raiseIf (deviceIds.length ≠ tensorParallelSize ∨ ¬deviceIds.Nodup)
    (.valueError <| "vLLM shared_pool requires exactly one distinct CUDA domain per " ++
      "tensor-parallel rank")
  match ← rankDeviceMap config with
  | none =>
    raiseIf (tensorParallelSize ≠ 1)
      (.valueError "tensor-parallel shared_pool requires kapsl_rank_device_map")
    return none
  | some map =>
    checkRankDeviceMap map deviceIds tensorParallelSize
    return some map

/-! ## The binding of a rank -/

/-- What `vllm_backing_geometry` reads of vLLM's `KVCacheConfig`: the sizes of the KV tensors. -/
structure KvCacheConfig where
  numBlocks : ℤ
  kvCacheTensors : List ℤ

/-- `vllm_backing_geometry`: allocation bytes, blocks, bytes per block. -/
def vllmBackingGeometry (config : KvCacheConfig) : Except PyError (ℤ × ℤ × ℤ) := do
  raiseIf (config.numBlocks ≤ 0 ∨ config.kvCacheTensors = []) (.sharedPoolImportError
    "shared_pool requires vLLM KVCacheConfig.num_blocks and kv_cache_tensors")
  let sizes := config.kvCacheTensors.dedup
  let allocationBytes := sizes.headD 0
  raiseIf (sizes.length ≠ 1 ∨ allocationBytes ≤ 0) (.sharedPoolImportError
    "shared_pool requires every vLLM KV tensor placement to share one backing size")
  let bytesPerBlock := allocationBytes / config.numBlocks
  raiseIf (allocationBytes % config.numBlocks ≠ 0 ∨ bytesPerBlock ≤ 0) (.sharedPoolImportError
    "vLLM packed KV allocation is not an integral number of blocks")
  return (allocationBytes, config.numBlocks, bytesPerBlock)

/-- `expected_transport`. -/
def expectedTransport (liveResize : Bool) : String :=
  if liveResize then "cuda_vmm" else "cuda_ipc"

/-- Whether a pool of a receipt is one vLLM may import over `transport`. -/
def isCandidate (transport : String) (pool : Json) : Bool :=
  pool.isMapping && (pool.get "capacity_pool_id").eqStr "vllm.pool.0" &&
    (pool.get "memory_domain").isMapping && ((pool.get "memory_domain").get "kind").eqStr "cuda" &&
    (pool.get "transport").isMapping && ((pool.get "transport").get "kind").eqStr transport

/-- `candidates`. -/
def candidates (receipt : Json) (liveResize : Bool) : List Json :=
  (receipt.get "shared_pools").items.filter (isCandidate (expectedTransport liveResize))

/-- `pool["memory_domain"].get("device_id") == device_id`. -/
def onDevice (pool : Json) (deviceId : ℕ) : Bool :=
  ((pool.get "memory_domain").get "device_id").eqInt deviceId

/-- The choice among several candidates.  The keys of a validated map are integers, so the second
look-up, under `str(global_rank)`, finds nothing. -/
def matchDevice (candidates : List Json) (map : Option RankDeviceMap) (globalRank : ℕ) :
    Except PyError Json :=
  match map with
  | none =>
    .error (.sharedPoolImportError "multiple CUDA bindings require kapsl_rank_device_map")
  | some map =>
    match map.lookup globalRank with
    | none => .error (.sharedPoolImportError
        s!"kapsl_rank_device_map has no entry for global rank {globalRank}")
    | some deviceId =>
      match candidates.filter (onDevice · deviceId) with
      | [binding] => .ok binding
      | found => .error (.sharedPoolImportError <|
          s!"rank {globalRank} maps to CUDA device {deviceId}, but the receipt has " ++
            s!"{found.length} matching bindings")

/-- The binding, before its geometry is checked. -/
def chooseBinding (candidates : List Json) (transport : String) (map : Option RankDeviceMap)
    (globalRank : ℕ) : Except PyError Json :=
  match candidates with
  | [] => .error (.sharedPoolImportError
      s!"Kapsl receipt has no {transport} binding for vllm.pool.0")
  | [binding] => .ok binding
  | candidates => matchDevice candidates map globalRank

section Int

-- `int(value)`, of any value a receipt can hold
variable (int : Json → Except PyError ℤ)

/-- The elastic half of the checks of a binding. -/
def checkElasticBinding (elastic : Json) (numBlocks : ℤ) : Except PyError Unit := do
  raiseIf (elastic.isMapping = false)
    (.sharedPoolImportError "CUDA VMM binding is missing elastic pool geometry")
  let maximumBlocks ← int (elastic.getD "maximum_block_count" (.int 0))
  raiseIf (maximumBlocks ≠ numBlocks) (.sharedPoolImportError
    "Kapsl elastic maximum does not match vLLM's virtual allocator")
  let minimumBlocks ← int (elastic.getD "minimum_block_count" (.int 0))
  let mappedBlocks ← int (elastic.getD "mapped_block_count" (.int 0))
  raiseIf (minimumBlocks ≤ 0 ∨ minimumBlocks > mappedBlocks ∨ mappedBlocks > numBlocks)
    (.sharedPoolImportError
      "Kapsl elastic minimum/mapped block counts are outside virtual capacity")

/-- The checks of a binding against vLLM's geometry.  The assertion between them repeats the
division of `vllm_backing_geometry` and cannot fail. -/
def checkBinding (binding : Json) (numBlocks bytesPerBlock : ℤ) (liveResize : Bool) :
    Except PyError Unit := do
  raiseIf ((binding.get "allocation_mode").eqStr "participant_managed" = false)
    (.sharedPoolImportError "vLLM shared_pool requires participant_managed block selection")
  let blockCount ← int (binding.getD "block_count" (.int 0))
  raiseIf (blockCount ≠ numBlocks) (.sharedPoolImportError
    "Kapsl block count does not match vLLM's configured allocator")
  let stride ← int (binding.getD "bytes_per_block" (.int 0))
  raiseIf (stride ≠ bytesPerBlock) (.sharedPoolImportError
    "Kapsl block stride does not match vLLM's packed allocation")
  if liveResize then checkElasticBinding int (binding.get "elastic") numBlocks
  else raiseIf ((binding.get "elastic").isNull = false) (.sharedPoolImportError
    "fixed CUDA IPC binding cannot carry elastic pool geometry")

/-- `select_cuda_binding` for a given global rank. -/
def selectCudaBinding (receipt : Json) (config : KvCacheConfig) (map : Option RankDeviceMap)
    (globalRank : ℕ) (liveResize : Bool) : Except PyError Json := do
  let (_, numBlocks, bytesPerBlock) ← vllmBackingGeometry config
  raiseIf ((receipt.get "shared_pools").items = [])
    (.sharedPoolImportError "Kapsl returned no shared-pool bindings")
  let binding ← chooseBinding (candidates receipt liveResize) (expectedTransport liveResize) map
    globalRank
  checkBinding int binding numBlocks bytesPerBlock liveResize
  return binding

end Int

/-! ## An accepted map -/

/-- The ranks of a map that was read are different. -/
theorem rankDeviceItems_nodup {items : List (Json × Json)} {result map : RankDeviceMap}
    (hresult : (result.map Prod.fst).Nodup) (h : rankDeviceItems items result = .ok map) :
    (map.map Prod.fst).Nodup := by
  induction items generalizing result with
  | nil => exact Except.ok.inj h ▸ hresult
  | cons item items ih =>
    simp only [rankDeviceItems, Except.bind_eq_ok, Except.raiseIf_eq_ok] at h
    obtain ⟨rank, -, deviceId, -, -, hfresh, hrest⟩ := h
    refine ih ?_ hrest
    rw [List.map_append, List.map_singleton, ← List.concat_eq_append]
    exact hresult.concat hfresh

theorem rankDeviceMap_nodup {config : RankMapOption} {map : RankDeviceMap}
    (h : rankDeviceMap config = .ok (some map)) : (map.map Prod.fst).Nodup := by
  match config with
  | .absent => exact absurd h nofun
  | .other => exact absurd h nofun
  | .mapping items =>
    simp only [rankDeviceMap, Except.bind_eq_ok, Except.pure_eq_ok] at h
    obtain ⟨result, hitems, -, -, hsome⟩ := h
    have hnil : (([] : RankDeviceMap).map Prod.fst).Nodup := List.nodup_nil
    exact Option.some.inj hsome ▸ rankDeviceItems_nodup hnil hitems

/-- **An accepted map sends the ranks one-to-one to devices.** -/
theorem validatedMap_injective {config : RankMapOption} {memoryDomains : List Json} {size : Json}
    {map : RankDeviceMap}
    (h : validatedSharedRankDeviceMap config memoryDomains size = .ok (some map)) :
    (map.map Prod.snd).Nodup := by
  simp only [validatedSharedRankDeviceMap, Except.bind_eq_ok, Except.raiseIf_eq_ok, not_or,
    not_not] at h
  obtain ⟨n, -, deviceIds, -, -, ⟨hlength, hdistinct⟩, found, hfound, hrest⟩ := h
  cases found with
  | none =>
    simp only [Except.bind_eq_ok, Except.pure_eq_ok] at hrest
    obtain ⟨-, -, hnone⟩ := hrest
    cases hnone
  | some found =>
    simp only [checkRankDeviceMap, Except.bind_eq_ok, Except.raiseIf_eq_ok, Except.pure_eq_ok,
      not_not] at hrest
    obtain ⟨-, ⟨-, hranks, hdevices⟩, heq⟩ := hrest
    obtain rfl := Option.some.inj heq
    have hkeys : (found.map Prod.fst).Nodup := rankDeviceMap_nodup hfound
    -- as many devices as ranks, so a device that occurred twice would leave one out
    have hcount : (found.map Prod.fst).length = n := by
      have hperm := (List.perm_ext_iff_of_nodup hkeys List.nodup_range).mpr fun rank =>
        ⟨hranks.1 rank, hranks.2 rank⟩
      rw [hperm.length_eq, List.length_range]
    have hle : (found.map Prod.snd).length ≤ deviceIds.length := by
      rw [hlength, ← hcount, List.length_map, List.length_map]
    have hperm := (hdistinct.subperm hdevices.2).perm_of_length_le hle
    exact hperm.nodup_iff.mp hdistinct

theorem rank_unique {map : RankDeviceMap} (h : (map.map Prod.snd).Nodup) {r s d : ℕ}
    (hr : map.lookup r = some d) (hs : map.lookup s = some d) : r = s := by
  obtain ⟨_, _, hr', -⟩ := List.lookup_eq_some_iff.mp hr
  obtain ⟨_, _, hs', -⟩ := List.lookup_eq_some_iff.mp hs
  have hrmem : (r, d) ∈ map := by rw [hr']; simp
  have hsmem : (s, d) ∈ map := by rw [hs']; simp
  exact congrArg Prod.fst (List.inj_on_of_nodup_map h hrmem hsmem rfl)

/-! ## The binding of each rank -/

theorem selectCudaBinding_eq_ok {int : Json → Except PyError ℤ} {receipt binding : Json}
    {config : KvCacheConfig} {map : Option RankDeviceMap} {rank : ℕ} {live : Bool}
    (h : selectCudaBinding int receipt config map rank live = .ok binding) :
    chooseBinding (candidates receipt live) (expectedTransport live) map rank = .ok binding := by
  simp only [selectCudaBinding, Except.bind_eq_ok, Except.pure_eq_ok] at h
  obtain ⟨geometry, -, -, -, chosen, hchosen, -, -, rfl⟩ := h
  exact hchosen

theorem chooseBinding_several {first second : Json} {more : List Json} {transport : String}
    {map : Option RankDeviceMap} {rank : ℕ} :
    chooseBinding (first :: second :: more) transport map rank =
      matchDevice (first :: second :: more) map rank := rfl

/-- **One of several candidates is chosen by its device.** -/
theorem onDevice_of_matchDevice {pools : List Json} {map : Option RankDeviceMap} {rank : ℕ}
    {binding : Json} (h : matchDevice pools map rank = .ok binding) :
    ∃ m d, map = some m ∧ m.lookup rank = some d ∧ onDevice binding d = true := by
  unfold matchDevice at h
  split at h
  · exact absurd h nofun
  rename_i m
  split at h
  · exact absurd h nofun
  rename_i d hlookup
  split at h
  · rename_i found hfilter
    obtain rfl := Except.ok.inj h
    have hmem : found ∈ pools.filter (onDevice · d) := by
      rw [hfilter]
      exact List.mem_singleton_self found
    exact ⟨m, d, rfl, hlookup, (List.mem_filter.mp hmem).2⟩
  · exact absurd h nofun

/-- A value is equal to one integer at most. -/
theorem eqInt_unique {value : Json} {m n : ℤ} (hm : value.eqInt m = true)
    (hn : value.eqInt n = true) : m = n := by
  unfold Json.eqInt at hm hn
  split at hm
  · simp_all
  · simp_all
  · simp only [beq_iff_eq] at hm hn
    exact_mod_cast hm.symm.trans hn
  · exact absurd hm nofun

/-- The ranks are bound safely: the binding of `r` is on the device of `r`, and `s` has another. -/
def BoundSafely (map : Option RankDeviceMap) (r : ℕ) (p q : Json) : Prop :=
  (∃ d, (map.bind fun m => m.lookup r) = some d ∧ onDevice p d = true) ∧ p ≠ q

/-- **Two ranks are bound safely exactly when the receipt has more than one candidate** — for every
configuration that start-up accepts, every receipt, and any two different ranks for which the
selection succeeds. -/
theorem binding_safe_iff (int : Json → Except PyError ℤ) {option : RankMapOption}
    {memoryDomains : List Json} {size : Json} {map : Option RankDeviceMap}
    {receipt : Json} {config : KvCacheConfig} {live : Bool} {r s : ℕ} {p q : Json}
    (hmap : validatedSharedRankDeviceMap option memoryDomains size = .ok map) (hne : r ≠ s)
    (hp : selectCudaBinding int receipt config map r live = .ok p)
    (hq : selectCudaBinding int receipt config map s live = .ok q) :
    BoundSafely map r p q ↔ 2 ≤ (candidates receipt live).length := by
  have hchooseP := selectCudaBinding_eq_ok hp
  have hchooseQ := selectCudaBinding_eq_ok hq
  match hcandidates : candidates receipt live with
  | [] =>
    rw [hcandidates] at hchooseP
    exact absurd hchooseP nofun
  | [binding] =>
    rw [hcandidates] at hchooseP hchooseQ
    have hsame : p = q := (Except.ok.inj hchooseP).symm.trans (Except.ok.inj hchooseQ)
    exact ⟨fun h => absurd hsame h.2, fun h => absurd h (by simp)⟩
  | first :: second :: more =>
    rw [hcandidates, chooseBinding_several] at hchooseP hchooseQ
    obtain ⟨m, d, rfl, hlookup, hdevice⟩ := onDevice_of_matchDevice hchooseP
    obtain ⟨_, e, heq, hlookup', hdevice'⟩ := onDevice_of_matchDevice hchooseQ
    obtain rfl := Option.some.inj heq
    refine ⟨fun _ => by simp, fun _ => ⟨⟨d, hlookup, hdevice⟩, ?_⟩⟩
    rintro rfl
    obtain rfl : d = e := Int.ofNat_inj.mp (eqInt_unique hdevice hdevice')
    exact hne (rank_unique (validatedMap_injective hmap) hlookup hlookup')

/-! ## Two ranks and one or two replicas -/

/-- A pool of four blocks of 32 bytes on a device. -/
def replica (bindingId : String) (deviceId : ℤ) : Json :=
  .obj [("binding_id", .str bindingId), ("capacity_pool_id", .str "vllm.pool.0"),
    ("generation", .int 1), ("block_count", .int 4), ("bytes_per_block", .int 32),
    ("allocation_mode", .str "participant_managed"), ("descriptor", .str "d"),
    ("group_ids", .list [.str "g"]),
    ("memory_domain", .obj [("kind", .str "cuda"), ("device_id", .int deviceId)]),
    ("transport", .obj [("kind", .str "cuda_ipc")])]

/-- A receipt of participant `p`. -/
def receiptOf (pools : List Json) : Json :=
  .obj [("participant_id", .str "p"), ("participant_epoch", .int 1), ("shared_pools", .list pools)]

/-- Rank 0 on device 0, rank 1 on device 2. -/
def twoRanks : RankMapOption := .mapping [(.str "0", .int 0), (.str "1", .int 2)]

/-- The memory domains of both devices. -/
def twoDomains : List Json :=
  [.obj [("kind", .str "cuda"), ("device_id", .int 0)],
    .obj [("kind", .str "cuda"), ("device_id", .int 2)]]

/-- vLLM's own geometry. -/
def fourBlocks : KvCacheConfig := ⟨4, [128]⟩

/-- `int` of the integers in these receipts. -/
def intOf (value : Json) : Except PyError ℤ := .ok value.toNat

theorem twoRanks_valid :
    validatedSharedRankDeviceMap twoRanks twoDomains (.int 2) = .ok (some [(0, 0), (1, 2)]) := by
  decide +kernel

/-- **A replica for each rank**: both are selected, each on the device of its rank. -/
theorem binding_safe_iff_twoReplicas :
    selectCudaBinding intOf (receiptOf [replica "a" 0, replica "b" 2]) fourBlocks
        (some [(0, 0), (1, 2)]) 0 false = .ok (replica "a" 0) ∧
      selectCudaBinding intOf (receiptOf [replica "a" 0, replica "b" 2]) fourBlocks
        (some [(0, 0), (1, 2)]) 1 false = .ok (replica "b" 2) ∧
      BoundSafely (some [(0, 0), (1, 2)]) 0 (replica "a" 0) (replica "b" 2) := by
  have hzero : selectCudaBinding intOf (receiptOf [replica "a" 0, replica "b" 2]) fourBlocks
      (some [(0, 0), (1, 2)]) 0 false = .ok (replica "a" 0) := rfl
  have hone : selectCudaBinding intOf (receiptOf [replica "a" 0, replica "b" 2]) fourBlocks
      (some [(0, 0), (1, 2)]) 1 false = .ok (replica "b" 2) := rfl
  have hiff := binding_safe_iff intOf twoRanks_valid (by decide) hzero hone
  exact ⟨hzero, hone, hiff.mpr (by decide +kernel)⟩

/-- **One replica for two ranks**: the receipt and the map are accepted, both ranks select the
replica of device 0, and rank 1 is mapped to device 2. -/
theorem binding_shared_oneCandidate :
    validatedSharedRankDeviceMap twoRanks twoDomains (.int 2) = .ok (some [(0, 0), (1, 2)]) ∧
      validateRegistrationReceipt ClientCall.heartbeatClient.interpreter
        (receiptOf [replica "a" 0]) "p" = .ok (receiptOf [replica "a" 0]) ∧
      selectCudaBinding intOf (receiptOf [replica "a" 0]) fourBlocks (some [(0, 0), (1, 2)]) 0
        false = .ok (replica "a" 0) ∧
      selectCudaBinding intOf (receiptOf [replica "a" 0]) fourBlocks (some [(0, 0), (1, 2)]) 1
        false = .ok (replica "a" 0) ∧
      onDevice (replica "a" 0) 2 = false :=
  ⟨twoRanks_valid, rfl, rfl, rfl, rfl⟩

end Kapsl.Vllm
