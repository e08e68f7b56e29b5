import Kapsl.Lib.Lts
import Kapsl.Vllm.ClientHandles
import Kapsl.Vllm.Vmm

/-!
# Vllm/VmmPrefix — the mapped prefix of a worker

A worker imports the segments of its binding, which tile the mapped prefix, and then applies resize
operations.  `apply_worker_resize` compares an operation with the binding's ID, the last generation
and the sizes in bytes, but neither with the size it starts from nor with the binding's block
stride.

* `vmmPrefix_tiles` — the recorded segments tile `[0, mapped_bytes)` in every state reached by
  operations that start from the mapped size and end on a block boundary of the binding.
* `vmmPrefix_gap` — an accepted operation that starts elsewhere leaves a gap.
-/

namespace Kapsl.Vllm.VmmPrefix

open Tiling ManagedVmmImport

/-- A worker has just imported an elastic binding of an accepted receipt. -/
def Imported (cfg : VmmConfig) (s : Hook) : Prop :=
  ∃ (I : Interpreter) (receipt accepted pool : Json) (participantId : String) (cuda : Cuda)
    (handles : List Fd),
    validateRegistrationReceipt I receipt participantId = .ok accepted ∧
      pool ∈ receiptPools accepted ∧ isCudaVmm pool = true ∧
      cfg.binding = ElasticBinding.ofJson pool ∧ Hook.ofBinding cuda cfg handles = .ok s

/-- An operation as it arrives, its handles, and what CUDA does while it is applied. -/
structure Act where
  operation : Json
  handles : List Fd
  cuda : Cuda

/-- The operation as it is read. -/
def Act.op (act : Act) : ResizeOperation := .ofJson act.operation

/-- The runs of accepted operations that are applied without raising. -/
def lts (cfg : VmmConfig) : Lts Hook Act where
  init := Imported cfg
  step s act :=
    match checkResizeOperation act.operation with
    | .error _ => none
    | .ok () =>
      match s.applyWorkerResize act.cuda cfg act.op act.handles with
      | (.error _, _) => none
      | (.ok (), s') => some s'

/-- **The recorded segments, sorted by offset, tile `[0, mapped_bytes)`**, and the mapped prefix is
made of whole blocks within the virtual range. -/
structure PrefixOk (cfg : VmmConfig) (s : Hook) : Prop where
  tiles : Tiles ((s.segments.map VmmSegment.span).insertionSort ByOffset) 0 s.mappedBytes
  pos : 0 < s.mappedBytes
  whole : cfg.binding.bytesPerBlock ∣ s.mappedBytes
  le : s.mappedBytes ≤ cfg.binding.virtualBytes

/-- The operation is a replay, or it starts from the mapped size and ends on a block boundary of the
binding. -/
def Continues (cfg : VmmConfig) (s : Hook) (act : Act) : Prop :=
  s.lastWorkerResize = some act.op.key ∨
    (act.op.fromBlockCount * act.op.bytesPerBlock = s.mappedBytes ∧
      cfg.binding.bytesPerBlock ∣ act.op.targetBytes)

variable {cfg : VmmConfig} {s s' : Hook} {act : Act}

/-- The import leaves the prefix of the binding. -/
theorem Imported.prefixOk (h : Imported cfg s) : PrefixOk cfg s := by
  obtain ⟨I, receipt, accepted, pool, participantId, cuda, handles, hreceipt, hmem, hvmm, hbinding,
    hhook⟩ := h
  have hvalid : cfg.binding.Valid := hbinding ▸ ElasticBinding.valid_of_receipt hreceipt hmem hvmm
  obtain rfl := Hook.ofBinding_eq_ok hhook
  refine ⟨?_, ElasticBinding.mappedBytes_pos hvalid, Dvd.intro_left _ rfl,
    ElasticBinding.mappedBytes_le hvalid⟩
  rw [← exists_tiles_iff]
  refine ⟨_, ?_, hvalid.cover.tiles⟩
  rw [map_span_entriesOf]
  refine ((sortSegments_perm _).map _).trans ?_
  exact (List.perm_insertionSort ByOffset _).symm

/-- A growth from the mapped size extends the tiling. -/
theorem PrefixOk.grow (h : PrefixOk cfg s) {op : ResizeOperation} {cuda : Cuda} {handles : List Fd}
    (hvalid : op.Valid) (hstage : op.stage = .mapWorkers)
    (hfrom : op.fromBlockCount * op.bytesPerBlock = s.mappedBytes)
    (hwhole : cfg.binding.bytesPerBlock ∣ op.targetBytes)
    (himports : Hook.Imports cuda cfg op handles s) :
    PrefixOk cfg { s.grown cuda op with
      mappedBytes := op.targetBytes, lastWorkerResize := some op.key } := by
  have htiles := (hvalid.cover_map hstage).tiles
  rw [hfrom] at htiles
  refine ⟨?_, (Nat.zero_le _).trans_lt himports.target_gt, hwhole, himports.target_le⟩
  rw [← exists_tiles_iff]
  refine ⟨_, ?_, tiles_append.mpr ⟨s.mappedBytes, h.tiles, htiles⟩⟩
  rw [Hook.grown, List.map_append]
  refine List.Perm.append (List.perm_insertionSort ByOffset _).symm ?_
  exact (Hook.span_added_perm cuda op).trans (List.perm_insertionSort ByOffset _).symm

/-- A shrink from the mapped size cuts the tiling. -/
theorem PrefixOk.shrink (h : PrefixOk cfg s) {op : ResizeOperation} {cuda : Cuda}
    {handles : List Fd} {resolved : List VmmSegment} (hvalid : op.Valid)
    (hstage : op.stage = .unmapWorkers)
    (hfrom : op.fromBlockCount * op.bytesPerBlock = s.mappedBytes)
    (hwhole : cfg.binding.bytesPerBlock ∣ op.targetBytes)
    (hresolves : Hook.Resolves cuda op handles s resolved) :
    PrefixOk cfg { s.shrunk resolved with
      mappedBytes := op.targetBytes, lastWorkerResize := some op.key } := by
  have htail := (hvalid.cover_unmap hstage).tiles
  rw [hfrom] at htail
  have hsplit := (Hook.perm_resolved_diff hvalid hstage hresolves).map VmmSegment.span
  rw [List.map_append] at hsplit
  -- The tail of the tiling, in the order of its offsets, is what the shrink resolved to.
  have hresolved : ((sortResolved resolved).map VmmSegment.span).Perm
      ((op.segments.map Segment.span).insertionSort ByOffset) :=
    (Hook.span_sortResolved_perm hresolves).trans (List.perm_insertionSort ByOffset _).symm
  have hsorted := List.perm_insertionSort ByOffset (s.segments.map VmmSegment.span)
  have hsub : ∀ span ∈ (op.segments.map Segment.span).insertionSort ByOffset,
      span ∈ (s.segments.map VmmSegment.span).insertionSort ByOffset := fun span hspan =>
    hsorted.mem_iff.mpr (hsplit.subset (List.mem_append_left _ (hresolved.mem_iff.mpr hspan)))
  obtain ⟨head, heq, hhead⟩ := h.tiles.exists_head htail hsub (Nat.zero_le _)
  refine ⟨?_, hresolves.target_pos, hwhole, hresolves.target_lt.le.trans h.le⟩
  rw [← exists_tiles_iff]
  refine ⟨head, ?_, hhead⟩
  have hperm : ((sortResolved resolved).map VmmSegment.span ++
      (s.segments.diff (sortResolved resolved)).map VmmSegment.span).Perm
      ((sortResolved resolved).map VmmSegment.span ++ head) := by
    refine hsplit.trans (hsorted.symm.trans ?_)
    rw [heq]
    exact List.perm_append_comm.trans (hresolved.symm.append_right head)
  exact (List.perm_append_left_iff _).mp hperm

/-- A step as a call that returned. -/
theorem step_eq_some (h : (lts cfg).step s act = some s') :
    act.op.Valid ∧ s.applyWorkerResize act.cuda cfg act.op act.handles = (.ok (), s') := by
  simp only [lts] at h
  split at h
  · exact absurd h nofun
  · rename_i hcheck
    split at h
    · exact absurd h nofun
    · rename_i happly
      obtain rfl := Option.some.inj h
      exact ⟨ResizeOperation.valid_of_check hcheck, happly⟩

/-- **A continuing operation keeps the tiling.** -/
theorem PrefixOk.step (h : PrefixOk cfg s) (hok : Continues cfg s act)
    (hs : (lts cfg).step s act = some s') : PrefixOk cfg s' := by
  obtain ⟨hvalid, happly⟩ := step_eq_some hs
  have hends := Hook.applyWorkerResize_cases act.cuda cfg act.op act.handles s
  rw [happly] at hends
  cases hends with
  | replayed => exact h
  | mapped hp hstage himports =>
    obtain ⟨hfrom, hwhole⟩ := hok.resolve_left hp.ne_key
    exact h.grow hvalid hstage hfrom hwhole himports
  | unmapped resolved hp hstage hresolves =>
    obtain ⟨hfrom, hwhole⟩ := hok.resolve_left hp.ne_key
    exact h.shrink hvalid hstage hfrom hwhole hresolves

/-- **The recorded segments tile the mapped prefix** in every state of every run whose operations
are replays or start from the mapped size and end on a block boundary of the binding. -/
theorem vmmPrefix_tiles (cfg : VmmConfig) {s : Hook}
    (h : (lts cfg).ReachBy (Continues cfg) s) : PrefixOk cfg s :=
  h.invariant (fun _ => Imported.prefixOk) fun _ _ _ hI hok hs => hI.step hok hs

/-! ## Two growths of a small binding -/

/-- A pool of four blocks of 32 bytes over CUDA VMM, the first two of them mapped. -/
def twoOfFour : Json :=
  .obj [("binding_id", .str "b"), ("capacity_pool_id", .str "vllm.pool.0"), ("generation", .int 1),
    ("block_count", .int 4), ("bytes_per_block", .int 32), ("descriptor", .str "d"),
    ("group_ids", .list [.str "g"]), ("memory_domain", .obj [("kind", .str "cuda")]),
    ("transport", .obj [("kind", .str "cuda_vmm")]),
    ("elastic", .obj [("minimum_block_count", .int 2), ("mapped_block_count", .int 2),
      ("maximum_block_count", .int 4), ("allocation_granularity_bytes", .int 32),
      ("resize_alignment_blocks", .int 1),
      ("segments", .list [.obj [("segment_id", .str "s0"), ("offset_bytes", .int 0),
        ("length_bytes", .int 64), ("handle_index", .int 0)]])])]

/-- The receipt of participant `p` with that pool. -/
def receipt : Json :=
  .obj [("participant_id", .str "p"), ("participant_epoch", .int 1),
    ("shared_pools", .list [twoOfFour])]

/-- An interpreter that copies the receipt. -/
def interpreter : Interpreter := ClientCall.heartbeatClient.interpreter

def config : VmmConfig where
  binding := .ofJson twoOfFour
  conformance := false
  repr text := "'" ++ text ++ "'"

/-- A driver without faults whose imports return the number of the call. -/
def working : Cuda where
  syncFails := false
  fault _ := none
  handle n := n
  countFails _ := false
  zeroed _ := true
  settleFails := false

/-- The worker once the pool is imported. -/
def twoMapped : Hook where
  segments := [⟨"s0", ⟨0, 64, 0⟩⟩]
  driver := ⟨[⟨0, 64, 0⟩], [0]⟩
  mappedBytes := 64
  lastWorkerResize := none

theorem imported_twoMapped : Imported config twoMapped :=
  ⟨interpreter, receipt, receipt, twoOfFour, "p", working, [7], rfl, List.mem_singleton_self _, rfl,
    rfl, rfl⟩

/-- A growth of the binding by one segment. -/
def growth (fromBlocks offset length : ℤ) : Act where
  operation :=
    .obj [("participant_epoch", .int 1), ("resize_generation", .int 1), ("binding_id", .str "b"),
      ("stage", .str "map_workers"), ("from_block_count", .int fromBlocks),
      ("target_block_count", .int 4), ("bytes_per_block", .int 32),
      ("allocation_granularity_bytes", .int 32),
      ("segments", .list [.obj [("segment_id", .str "s1"), ("offset_bytes", .int offset),
        ("length_bytes", .int length), ("handle_index", .int 0)]])]
  handles := [8]
  cuda := working

/-- The growth from two to four blocks keeps the tiling. -/
theorem vmmPrefix_tiles_twoToFour :
    ∃ s, (lts config).exec twoMapped [growth 2 64 64] = some s ∧ s.mappedBytes = 128 ∧
      PrefixOk config s := by
  refine ⟨_, rfl, rfl, vmmPrefix_tiles config ?_⟩
  exact Lts.reachBy_of_exec (.init imported_twoMapped) [growth 2 64 64]
    ⟨.inr ⟨rfl, by decide⟩, trivial⟩ rfl

/-- **A growth that says it starts from three blocks is applied to two, and leaves a gap.** -/
theorem vmmPrefix_gap :
    ¬∀ (cfg : VmmConfig) (s : Hook), (lts cfg).Reach s → PrefixOk cfg s := by
  intro h
  have hexec : ∃ s, (lts config).exec twoMapped [growth 3 96 32] = some s ∧
      s.segments.map VmmSegment.span = [(0, 64), (96, 32)] ∧ s.mappedBytes = 128 :=
    ⟨_, rfl, rfl, rfl⟩
  obtain ⟨s, hs, hspans, hmapped⟩ := hexec
  have htiles := (h config s (Lts.reach_of_exec (.init imported_twoMapped) _ hs)).tiles
  rw [hspans, hmapped] at htiles
  exact absurd htiles (by decide)

end Kapsl.Vllm.VmmPrefix
