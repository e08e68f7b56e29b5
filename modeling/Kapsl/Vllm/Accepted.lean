import Kapsl.Lib.Tiling
import Kapsl.Vllm.Contract

/-!
# Vllm/Accepted — what accepted wire data says

The validators of `Vllm/Contract` work on JSON and forget what they found; later code reads the same
fields again.  Here the accepted values get their typed reading.

* `ResizeOperation.valid_of_check` — the direction of an accepted resize operation matches its
  stage, and the segments of a worker stage tile the changed tail.
* `ElasticBinding.valid_of_receipt` — the segments of an accepted elastic binding tile its mapped
  prefix, which fits the virtual range.
-/

namespace Kapsl.Vllm

open Tiling

/-! ## Fields -/

section Fields

variable {value : Json} {field : String}

theorem positiveInt_eq_ok {n : ℕ} (h : positiveInt value field = .ok n) :
    value.toNat = n ∧ 0 < n := by
  unfold positiveInt at h
  split at h
  · split at h
    · exact absurd h nofun
    · rename_i m hm
      obtain rfl := Except.ok.inj h
      exact ⟨rfl, by omega⟩
  · exact absurd h nofun

theorem nonnegativeInt_eq_ok {n : ℕ} (h : nonnegativeInt value field = .ok n) :
    value.toNat = n := by
  unfold nonnegativeInt at h
  split at h
  · split at h
    · exact absurd h nofun
    · exact Except.ok.inj h
  · exact absurd h nofun

theorem nonempty_eq_ok {text : String} (h : nonempty value field = .ok text) :
    value.toStr = text := by
  unfold nonempty at h
  split at h
  · split at h
    · exact absurd h nofun
    · exact Except.ok.inj h
  · exact absurd h nofun

theorem mapping_eq_ok {value' : Json} (h : mapping value field = .ok value') : value = value' := by
  unfold mapping at h
  split at h
  · exact Except.ok.inj h
  · exact absurd h nofun

theorem listOr_eq_ok {message : String} {items : List Json}
    (h : listOr value message = .ok items) : value = .list items := by
  unfold listOr at h
  split at h
  · exact congrArg _ (Except.ok.inj h)
  · exact absurd h nofun

theorem nonemptyListOr_eq_ok {message : String} {items : List Json}
    (h : nonemptyListOr value message = .ok items) : value = .list items := by
  unfold nonemptyListOr at h
  split at h
  · exact absurd h nofun
  · exact congrArg _ (Except.ok.inj h)
  · exact absurd h nofun

end Fields

/-! ## Segments -/

/-- The bytes of a segment. -/
def Segment.span (segment : Segment) : ℕ × ℕ := (segment.offsetBytes, segment.lengthBytes)

/-- **The segments, sorted by offset, tile `[start, stop)`**, each under an identifier of its
own. -/
structure Segment.Cover (segments : List Segment) (start stop : ℕ) : Prop where
  tiles : Tiles ((segments.map span).insertionSort ByOffset) start stop
  ids : (segments.map segmentId).Nodup

theorem checkSegment_eq_ok {field : String} {raw : Json} {segment : Segment}
    (h : checkSegment field raw = .ok segment) :
    segment = Segment.ofJson raw ∧ 0 < segment.lengthBytes := by
  simp only [checkSegment, Except.bind_eq_ok, Except.pure_eq_ok] at h
  obtain ⟨id, hid, offset, hoffset, length, hlength, handle, hhandle, rfl⟩ := h
  obtain ⟨hlength, hpos⟩ := positiveInt_eq_ok hlength
  refine ⟨?_, hpos⟩
  rw [← nonempty_eq_ok hid, ← nonnegativeInt_eq_ok hoffset, ← hlength,
    ← nonnegativeInt_eq_ok hhandle]
  rfl

/-- A value not seen before, in front of values not seen before nor equal to it. -/
theorem nodup_cons_of_fresh {α : Type} {f : Json → α} {raw : Json} {raws : List Json}
    {seen : List α} (hfresh : f raw ∉ seen) (hnodup : (raws.map f).Nodup)
    (hrest : ∀ other ∈ raws, f other ∉ f raw :: seen) :
    ((raw :: raws).map f).Nodup ∧ ∀ other ∈ raw :: raws, f other ∉ seen := by
  constructor
  · refine List.nodup_cons.mpr ⟨fun hmem => ?_, hnodup⟩
    obtain ⟨other, hother, heq⟩ := List.mem_map.mp hmem
    exact hrest other hother (heq ▸ List.mem_cons_self)
  · refine List.forall_mem_cons.mpr ⟨hfresh, fun other hother hmem => ?_⟩
    exact hrest other hother (List.mem_cons_of_mem _ hmem)

/-- **What the loop over sorted segments accepts.** -/
theorem scanSegments_eq_ok {field message : String} {granularity stop : ℕ} (raws : List Json)
    (start : ℕ) (seenIds : List String) (seenHandles : List ℕ)
    (h : scanSegments field message granularity raws start seenIds seenHandles = .ok stop) :
    Tiles (raws.map fun raw => (Segment.ofJson raw).span) start stop ∧
      ((raws.map fun raw => (Segment.ofJson raw).segmentId).Nodup ∧
        ∀ raw ∈ raws, (Segment.ofJson raw).segmentId ∉ seenIds) ∧
      (raws.map fun raw => (Segment.ofJson raw).handleIndex).Nodup ∧
        ∀ raw ∈ raws, (Segment.ofJson raw).handleIndex ∉ seenHandles := by
  induction raws generalizing start seenIds seenHandles with
  | nil => exact ⟨Except.ok.inj h, ⟨List.nodup_nil, nofun⟩, List.nodup_nil, nofun⟩
  | cons raw raws ih =>
    simp only [scanSegments, Except.bind_eq_ok, Except.raiseIf_eq_ok, not_or, not_not] at h
    obtain ⟨segment, hsegment, u, ⟨hfreshId, hfreshHandle, hoffset, -⟩, hrest⟩ := h
    obtain ⟨rfl, hpos⟩ := checkSegment_eq_ok hsegment
    obtain ⟨htiles, ⟨hids, hseenIds⟩, hhandles, hseenHandles⟩ := ih _ _ _ hrest
    exact ⟨⟨hoffset, hpos, htiles⟩, nodup_cons_of_fresh hfreshId hids hseenIds,
      nodup_cons_of_fresh hfreshHandle hhandles hseenHandles⟩

/-- Sorting the raw segments by their key sorts their spans by offset. -/
theorem map_span_sortByKey {keyed : List (ℕ × Json)}
    (h : ∀ pair ∈ keyed, pair.1 = (Segment.ofJson pair.2).offsetBytes) :
    (sortByKey keyed).map (fun raw => (Segment.ofJson raw).span) =
      (keyed.map fun pair => (Segment.ofJson pair.2).span).insertionSort ByOffset := by
  rw [sortByKey, List.map_map]
  refine List.map_insertionSort _ _ _ keyed fun a ha b hb => ?_
  rw [h a ha, h b hb]
  rfl

theorem sortByKey_perm {keyed : List (ℕ × Json)} {raws : List Json} {key : Json → ℕ}
    (hkeyed : keyed = raws.map fun raw => (key raw, raw)) : (sortByKey keyed).Perm raws := by
  have hraws : raws = keyed.map Prod.snd := by
    rw [hkeyed, List.map_map]
    exact (List.map_id raws).symm
  rw [hraws]
  exact (List.perm_insertionSort _ keyed).map Prod.snd

/-- **The segments that both segment loops accept cover a range.** -/
theorem Segment.cover_of_scan {field message : String} {granularity start stop : ℕ}
    {raws : List Json} {keyed : List (ℕ × Json)}
    (hkeyed : keyed = raws.map fun raw => ((Segment.ofJson raw).offsetBytes, raw))
    (h : scanSegments field message granularity (sortByKey keyed) start [] [] = .ok stop) :
    Segment.Cover (raws.map Segment.ofJson) start stop := by
  obtain ⟨htiles, ⟨hnodup, -⟩, -⟩ := scanSegments_eq_ok _ _ _ _ h
  have hperm := sortByKey_perm hkeyed
  rw [map_span_sortByKey (by rw [hkeyed]; simp)] at htiles
  refine ⟨?_, ?_⟩
  · rw [hkeyed, List.map_map] at htiles
    rw [List.map_map]
    exact htiles
  · rw [List.map_map]
    exact (hperm.map _).nodup_iff.mp hnodup

/-- **The segments that both segment loops accept have handles of their own.** -/
theorem Segment.nodup_handles_of_scan {field message : String} {granularity start stop : ℕ}
    {raws : List Json} {keyed : List (ℕ × Json)}
    (hkeyed : keyed = raws.map fun raw => ((Segment.ofJson raw).offsetBytes, raw))
    (h : scanSegments field message granularity (sortByKey keyed) start [] [] = .ok stop) :
    (raws.map fun raw => (Segment.ofJson raw).handleIndex).Nodup := by
  obtain ⟨-, -, hnodup, -⟩ := scanSegments_eq_ok _ _ _ _ h
  exact ((sortByKey_perm hkeyed).map _).nodup_iff.mp hnodup

/-! ## Resize operations -/

/-- **What an accepted resize operation says**: its direction matches its stage, and the segments of
a worker stage tile the changed tail. -/
structure ResizeOperation.Valid (op : ResizeOperation) : Prop where
  generation_pos : 0 < op.resizeGeneration
  from_pos : 0 < op.fromBlockCount
  target_pos : 0 < op.targetBlockCount
  stride_pos : 0 < op.bytesPerBlock
  changes : op.fromBlockCount ≠ op.targetBlockCount
  direction : op.stage.grows = true ↔ op.fromBlockCount < op.targetBlockCount
  cover : op.stage.physical = true → Segment.Cover op.segments op.start op.stop

theorem validateResizeStage_eq_ok {value : Json} {stage : ResizeStage}
    (h : validateResizeStage value = .ok stage) : ResizeStage.ofName value.toStr = some stage := by
  simp only [validateResizeStage, Except.bind_eq_ok] at h
  obtain ⟨name, hname, h⟩ := h
  rw [nonempty_eq_ok hname]
  split at h
  · rename_i heq
    rw [heq, Except.ok.inj h]
  · exact absurd h nofun

theorem resizeSegmentKey_eq_ok {raw : Json} {pair : ℕ × Json}
    (h : resizeSegmentKey raw = .ok pair) :
    pair = ((Segment.ofJson raw).offsetBytes, raw) := by
  simp only [resizeSegmentKey, Except.bind_eq_ok, Except.pure_eq_ok] at h
  obtain ⟨segment, hsegment, offset, hoffset, rfl⟩ := h
  obtain rfl := mapping_eq_ok hsegment
  rw [← nonnegativeInt_eq_ok hoffset]
  rfl

/-- The segment half of the check. -/
theorem cover_of_validateResizeSegments {stage : ResizeStage} {start stop granularity : ℕ}
    {raws : List Json}
    (h : validateResizeSegments stage start stop granularity raws = .ok ())
    (hphysical : stage.physical = true) :
    Segment.Cover (raws.map Segment.ofJson) start stop := by
  simp only [validateResizeSegments, Except.bind_eq_ok, Except.raiseIf_eq_ok] at h
  obtain ⟨-, -, keyed, hkeyed, expected, hscan, hstop⟩ := h
  obtain rfl : expected = stop := by
    by_contra hne
    exact hstop ⟨hphysical, hne⟩
  exact Segment.cover_of_scan
    (Except.eq_map_of_mapM (fun _ _ => resizeSegmentKey_eq_ok) hkeyed) hscan

/-- **An accepted resize operation is well formed.** -/
theorem ResizeOperation.valid_of_check {operation : Json}
    (h : checkResizeOperation operation = .ok ()) : (ofJson operation).Valid := by
  simp only [checkResizeOperation, Except.bind_eq_ok, Except.raiseIf_eq_ok] at h
  obtain ⟨epoch, -, generation, hgeneration, binding, -, stage, hstage, fromBlocks, hfrom, target,
    htarget, -, hne, -, hdirection, stride, hstride, granularity, -, -, -, raws, hraws,
    hsegments⟩ := h
  obtain ⟨hgeneration, hgeneration_pos⟩ := positiveInt_eq_ok hgeneration
  obtain ⟨hfrom, hfrom_pos⟩ := positiveInt_eq_ok hfrom
  obtain ⟨htarget, htarget_pos⟩ := positiveInt_eq_ok htarget
  obtain ⟨hstride, hstride_pos⟩ := positiveInt_eq_ok hstride
  have hstage' : (ofJson operation).stage = stage := by
    simp [ofJson, validateResizeStage_eq_ok hstage]
  have hraws' : (ofJson operation).segments = raws.map Segment.ofJson := by
    simp [ofJson, listOr_eq_ok hraws, Json.items]
  subst hgeneration hfrom htarget hstride
  refine ⟨hgeneration_pos, hfrom_pos, htarget_pos, hstride_pos, hne, ?_, fun hphysical => ?_⟩
  · rw [hstage', not_not.mp hdirection, decide_eq_true_iff]
    exact Iff.rfl
  · rw [hraws']
    exact cover_of_validateResizeSegments hsegments (hstage' ▸ hphysical)

/-! ## Elastic bindings -/

/-- What an elastic binding of a receipt says. -/
structure ElasticBinding where
  bindingId : String
  blockCount : ℕ
  bytesPerBlock : ℕ
  minimumBlockCount : ℕ
  mappedBlockCount : ℕ
  maximumBlockCount : ℕ
  granularity : ℕ
  segments : List Segment
  deriving DecidableEq

namespace ElasticBinding

/-- Read a pool of a receipt. -/
def ofJson (pool : Json) : ElasticBinding where
  bindingId := (pool.get "binding_id").toStr
  blockCount := (pool.get "block_count").toNat
  bytesPerBlock := (pool.get "bytes_per_block").toNat
  minimumBlockCount := ((pool.get "elastic").get "minimum_block_count").toNat
  mappedBlockCount := ((pool.get "elastic").get "mapped_block_count").toNat
  maximumBlockCount := ((pool.get "elastic").get "maximum_block_count").toNat
  granularity := ((pool.get "elastic").get "allocation_granularity_bytes").toNat
  segments := ((pool.get "elastic").get "segments").items.map Segment.ofJson

/-- `virtual_bytes`. -/
def virtualBytes (b : ElasticBinding) : ℕ := b.blockCount * b.bytesPerBlock

/-- The bytes mapped at registration. -/
def mappedBytes (b : ElasticBinding) : ℕ := b.mappedBlockCount * b.bytesPerBlock

/-- **What an accepted elastic binding says**: its segments tile the mapped prefix, which fits the
virtual range. -/
structure Valid (b : ElasticBinding) : Prop where
  stride_pos : 0 < b.bytesPerBlock
  mapped_pos : 0 < b.mappedBlockCount
  mapped_le : b.mappedBlockCount ≤ b.maximumBlockCount
  maximum : b.maximumBlockCount = b.blockCount
  cover : Segment.Cover b.segments 0 b.mappedBytes

theorem mappedBytes_pos {b : ElasticBinding} (h : b.Valid) : 0 < b.mappedBytes :=
  Nat.mul_pos h.mapped_pos h.stride_pos

theorem mappedBytes_le {b : ElasticBinding} (h : b.Valid) : b.mappedBytes ≤ b.virtualBytes :=
  Nat.mul_le_mul_right _ (h.mapped_le.trans h.maximum.le)

end ElasticBinding

theorem elasticSegmentKey_eq_ok {raw : Json} {pair : ℕ × Json}
    (h : elasticSegmentKey raw = .ok pair) :
    pair = ((Segment.ofJson raw).offsetBytes, raw) := by
  simp only [elasticSegmentKey, Except.bind_eq_ok, Except.pure_eq_ok] at h
  obtain ⟨offset, hoffset, rfl⟩ := h
  rw [← nonnegativeInt_eq_ok hoffset]
  rfl

theorem cover_of_validateElasticSegments {granularity mappedBytes : ℕ} {raws : List Json}
    (h : validateElasticSegments granularity mappedBytes raws = .ok ()) :
    Segment.Cover (raws.map Segment.ofJson) 0 mappedBytes := by
  simp only [validateElasticSegments, Except.bind_eq_ok, Except.raiseIf_eq_ok, not_not] at h
  obtain ⟨segments, hsegments, keyed, hkeyed, expected, hscan, rfl⟩ := h
  obtain rfl : segments = raws := by
    rw [Except.eq_map_of_mapM (g := id) (fun _ _ h => (mapping_eq_ok h).symm) hsegments,
      List.map_id]
  exact Segment.cover_of_scan
    (Except.eq_map_of_mapM (fun _ _ => elasticSegmentKey_eq_ok) hkeyed) hscan

/-- What `deepcopy` returned. -/
theorem deepcopy_eq_ok {I : Interpreter} {value copy : Json} (h : I.deepcopy value = .ok copy) :
    value = copy := by
  unfold Interpreter.deepcopy at h
  split at h
  · exact Except.ok.inj h
  · exact absurd h nofun

/-- The pools of a receipt. -/
def receiptPools (receipt : Json) : List Json := (receipt.getD "shared_pools" (.list [])).items

/-- `pool["transport"]["kind"] == "cuda_vmm"`. -/
def isCudaVmm (pool : Json) : Bool := ((pool.get "transport").get "kind").eqStr "cuda_vmm"

/-- The elastic half of the check. -/
theorem ElasticBinding.valid_of_validateElasticPool {pool : Json}
    (hstride : 0 < (pool.get "bytes_per_block").toNat)
    (h : validateElasticPool (pool.get "elastic") (pool.get "block_count").toNat
      (pool.get "bytes_per_block").toNat = .ok ()) : (ofJson pool).Valid := by
  simp only [validateElasticPool, Except.bind_eq_ok, Except.raiseIf_eq_ok] at h
  obtain ⟨minimum, -, mapped, hmapped, maximum, hmaximum, granularity, -, alignment, -, -, hbounds,
    -, -, raws, hraws, hsegments⟩ := h
  obtain ⟨rfl, hmapped_pos⟩ := positiveInt_eq_ok hmapped
  obtain ⟨rfl, -⟩ := positiveInt_eq_ok hmaximum
  simp only [not_or, not_not, not_lt] at hbounds
  refine ⟨hstride, hmapped_pos, hbounds.2.2, hbounds.1, ?_⟩
  have hsegments' : (ofJson pool).segments = raws.map Segment.ofJson := by
    simp [ofJson, nonemptyListOr_eq_ok hraws, Json.items]
  rw [hsegments']
  exact cover_of_validateElasticSegments hsegments

/-- **An accepted pool over CUDA VMM is an elastic binding.** -/
theorem ElasticBinding.valid_of_pool {pool : Json} {before : Option Bool} {live : Bool}
    (h : validateReceiptPool pool before = .ok live) (hvmm : isCudaVmm pool = true) :
    (ofJson pool).Valid := by
  simp only [validateReceiptPool, Except.bind_eq_ok] at h
  obtain ⟨pool', hpool, -, -, -, -, -, -, blockCount, hblocks, stride, hstride, -, -, -, -, -, -,
    -, -, -, -, -, -, transport, htransport, -, -, hrest⟩ := h
  obtain rfl := mapping_eq_ok hpool
  obtain rfl := mapping_eq_ok htransport
  obtain ⟨rfl, -⟩ := positiveInt_eq_ok hblocks
  obtain ⟨rfl, hstride_pos⟩ := positiveInt_eq_ok hstride
  rw [isCudaVmm] at hvmm
  rw [if_pos hvmm] at hrest
  simp only [Except.bind_eq_ok] at hrest
  obtain ⟨elastic, helastic, u, hvalid, -⟩ := hrest
  obtain rfl := mapping_eq_ok helastic
  exact valid_of_validateElasticPool hstride_pos hvalid

theorem validateReceiptPools_mem {pools : List Json} {liveResize : Option Bool}
    (h : validateReceiptPools pools liveResize = .ok ()) {pool : Json} (hmem : pool ∈ pools) :
    ∃ before live, validateReceiptPool pool before = .ok live := by
  induction pools generalizing liveResize with
  | nil => exact absurd hmem List.not_mem_nil
  | cons first pools ih =>
    simp only [validateReceiptPools, Except.bind_eq_ok] at h
    obtain ⟨live, hfirst, hrest⟩ := h
    rcases List.mem_cons.mp hmem with rfl | hmem
    · exact ⟨liveResize, live, hfirst⟩
    · exact ih hrest hmem

/-- **An elastic binding of an accepted receipt is well formed.** -/
theorem ElasticBinding.valid_of_receipt {I : Interpreter} {receipt accepted pool : Json}
    {participantId : String} (h : validateRegistrationReceipt I receipt participantId = .ok accepted)
    (hmem : pool ∈ receiptPools accepted) (hvmm : isCudaVmm pool = true) :
    (ofJson pool).Valid := by
  simp only [validateRegistrationReceipt, Except.bind_eq_ok, Except.raiseIf_eq_ok] at h
  obtain ⟨-, -, -, -, -, -, pools, hpools, u, hvalid, hcopy⟩ := h
  obtain rfl := deepcopy_eq_ok hcopy
  rw [receiptPools, listOr_eq_ok hpools, Json.items] at hmem
  obtain ⟨before, live, hpool⟩ := validateReceiptPools_mem hvalid hmem
  exact valid_of_pool hpool hvmm

end Kapsl.Vllm
