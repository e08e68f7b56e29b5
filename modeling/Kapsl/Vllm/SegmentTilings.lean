import Kapsl.Vllm.Accepted

/-!
# Vllm/SegmentTilings — the segment loops accept exactly the tilings

The two validators of VMM segments sort by offset and sweep, each with a loop of its own.  On
segments that are well typed (`WellTyped`), whatever their order, both accept exactly when the
segments are an `ExactTiling`: distinct names and handles, aligned lengths, and half-open intervals
that partition the range.

* `scanSegments_iff` — what the sweep accepts, segment by segment.
* `exactTiling_iff_scan` — sorted first, it accepts the tilings.
* `segmentValidators_accept_tilings` — so do the validators, once their scalar fields are valid.
-/

namespace Kapsl.Vllm

open Tiling

/-! ## Well-typed segments -/

/-- **A well-typed segment** — an object with a name, an offset, a positive length and a handle. -/
structure WellTyped (raw : Json) : Prop where
  isMapping : raw.isMapping = true
  segmentId : ∃ id, raw.get "segment_id" = .str id ∧ isBlank id = false
  offset : ∃ n : ℕ, raw.get "offset_bytes" = .int n
  length : ∃ n : ℕ, raw.get "length_bytes" = .int n ∧ 0 < n
  handle : ∃ n : ℕ, raw.get "handle_index" = .int n

section

variable {raw : Json} {field : String}

/-- **A well-typed segment passes its field checks.** -/
theorem WellTyped.checkSegment (h : WellTyped raw) :
    checkSegment field raw = .ok (Segment.ofJson raw) := by
  obtain ⟨id, hid, hblank⟩ := h.segmentId
  obtain ⟨offset, hoffset⟩ := h.offset
  obtain ⟨length, hlength, hpos⟩ := h.length
  obtain ⟨handle, hhandle⟩ := h.handle
  rw [Vllm.checkSegment, Segment.ofJson, hid, hoffset, hlength, hhandle, nonempty_str hblank,
    nonnegativeInt_natCast, positiveInt_natCast hpos, nonnegativeInt_natCast]
  rfl

theorem WellTyped.lengthBytes_pos (h : WellTyped raw) : 0 < (Segment.ofJson raw).lengthBytes := by
  have hcheck : Vllm.checkSegment "segment_id" raw = .ok (Segment.ofJson raw) := h.checkSegment
  exact (checkSegment_eq_ok hcheck).2

/-- Its sort key is its offset. -/
theorem WellTyped.resizeSegmentKey (h : WellTyped raw) :
    resizeSegmentKey raw = .ok ((Segment.ofJson raw).offsetBytes, raw) := by
  obtain ⟨offset, hoffset⟩ := h.offset
  rw [Vllm.resizeSegmentKey, mapping_of_isMapping h.isMapping, Segment.ofJson]
  change nonnegativeInt (raw.get "offset_bytes") _ >>= _ = _
  rw [hoffset, nonnegativeInt_natCast]
  rfl

theorem WellTyped.elasticSegmentKey (h : WellTyped raw) :
    elasticSegmentKey raw = .ok ((Segment.ofJson raw).offsetBytes, raw) := by
  obtain ⟨offset, hoffset⟩ := h.offset
  rw [Vllm.elasticSegmentKey, Segment.ofJson, hoffset, nonnegativeInt_natCast]
  rfl

end

/-! ## The sweep -/

/-- A value not seen before, in front of values not seen before nor equal to it. -/
theorem nodup_cons_iff_fresh {α : Type} {f : Json → α} {raw : Json} {raws : List Json}
    {seen : List α} :
    (((raw :: raws).map f).Nodup ∧ ∀ other ∈ raw :: raws, f other ∉ seen) ↔
      f raw ∉ seen ∧ (raws.map f).Nodup ∧ ∀ other ∈ raws, f other ∉ f raw :: seen := by
  constructor
  · rintro ⟨hnodup, hfresh⟩
    obtain ⟨hraw, hnodup⟩ := List.nodup_cons.mp hnodup
    obtain ⟨hfreshRaw, hfresh⟩ := List.forall_mem_cons.mp hfresh
    refine ⟨hfreshRaw, hnodup, fun other hother hmem => ?_⟩
    rcases List.mem_cons.mp hmem with heq | hmem
    · exact hraw (List.mem_map.mpr ⟨other, hother, heq⟩)
    · exact hfresh other hother hmem
  · rintro ⟨hfresh, hnodup, hrest⟩
    exact nodup_cons_of_fresh hfresh hnodup hrest

/-- **What the loop over sorted segments accepts**, exactly. -/
theorem scanSegments_iff {field message : String} {granularity stop : ℕ} {raws : List Json}
    (hwell : ∀ raw ∈ raws, WellTyped raw) (start : ℕ) (seenIds : List String)
    (seenHandles : List ℕ) :
    scanSegments field message granularity raws start seenIds seenHandles = .ok stop ↔
      Tiles (raws.map fun raw => (Segment.ofJson raw).span) start stop ∧
        ((raws.map fun raw => (Segment.ofJson raw).segmentId).Nodup ∧
          ∀ raw ∈ raws, (Segment.ofJson raw).segmentId ∉ seenIds) ∧
        ((raws.map fun raw => (Segment.ofJson raw).handleIndex).Nodup ∧
          ∀ raw ∈ raws, (Segment.ofJson raw).handleIndex ∉ seenHandles) ∧
        ∀ raw ∈ raws, granularity ∣ (Segment.ofJson raw).offsetBytes ∧
          granularity ∣ (Segment.ofJson raw).lengthBytes := by
  induction raws generalizing start seenIds seenHandles with
  | nil =>
    refine ⟨fun h => ⟨Except.ok.inj h, ⟨List.nodup_nil, nofun⟩, ⟨List.nodup_nil, nofun⟩, nofun⟩, ?_⟩
    exact fun h => congrArg _ h.1
  | cons raw raws ih =>
    obtain ⟨hraw, hrest⟩ := List.forall_mem_cons.mp hwell
    rw [nodup_cons_iff_fresh, nodup_cons_iff_fresh, List.forall_mem_cons, List.map_cons, tiles_cons]
    simp only [scanSegments, hraw.checkSegment, Except.bind_eq_ok, Except.ok.injEq,
      exists_eq_left', Except.raiseIf_eq_ok, exists_const, ih hrest, not_or, not_not,
      ← Nat.dvd_iff_mod_eq_zero]
    have hpos := hraw.lengthBytes_pos
    constructor
    · rintro ⟨⟨hid, hhandle, hoffset, hdvd, hdvd'⟩, htiles, hids, hhandles, hall⟩
      exact ⟨⟨hoffset, hpos, htiles⟩, ⟨hid, hids⟩, ⟨hhandle, hhandles⟩, ⟨hdvd, hdvd'⟩, hall⟩
    · rintro ⟨⟨hoffset, -, htiles⟩, ⟨hid, hids⟩, ⟨hhandle, hhandles⟩, ⟨hdvd, hdvd'⟩, hall⟩
      exact ⟨⟨hid, hhandle, hoffset, hdvd, hdvd'⟩, htiles, hids, hhandles, hall⟩

/-! ## Tilings -/

/-- The half-open interval of a segment. -/
def Segment.interval (segment : Segment) : Set ℕ :=
  Set.Ico segment.offsetBytes (segment.offsetBytes + segment.lengthBytes)

/-- **The segments tile `[start, stop)` exactly** — names and handles are their own, every length is
aligned, and the half-open intervals are disjoint with the range as their union. -/
structure ExactTiling (segments : List Segment) (granularity start stop : ℕ) : Prop where
  ids : (segments.map Segment.segmentId).Nodup
  handles : (segments.map Segment.handleIndex).Nodup
  lengths : ∀ segment ∈ segments, granularity ∣ segment.lengthBytes
  disjoint : segments.Pairwise fun s t => Disjoint s.interval t.interval
  union : ⋃ segment ∈ segments, segment.interval = Set.Ico start stop

theorem mem_iUnion_interval {segments : List Segment} {p : ℕ} :
    p ∈ ⋃ segment ∈ segments, segment.interval ↔
      ∃ span ∈ segments.map Segment.span, p ∈ points span := by
  simp only [Set.mem_iUnion, exists_prop, List.mem_map, exists_exists_and_eq_and]
  exact Iff.rfl

/-- The intervals of segments partition the range when their spans do. -/
theorem partition_map_span_iff {segments : List Segment} {start stop : ℕ}
    (hpos : ∀ segment ∈ segments, 0 < segment.lengthBytes) :
    Partition (segments.map Segment.span) start stop ↔
      (segments.Pairwise fun s t => Disjoint s.interval t.interval) ∧
        ⋃ segment ∈ segments, segment.interval = Set.Ico start stop := by
  constructor
  · intro h
    refine ⟨List.Pairwise.of_map Segment.span (fun _ _ hst => hst) h.disjoint, ?_⟩
    ext p
    exact mem_iUnion_interval.trans (h.mem_iff p)
  · rintro ⟨hdisjoint, hunion⟩
    refine ⟨List.forall_mem_map.mpr hpos, ?_, fun p => ?_⟩
    · exact hdisjoint.map Segment.span fun _ _ hst => hst
    · exact mem_iUnion_interval.symm.trans (Set.ext_iff.mp hunion p)

/-- **Sorted by offset, the sweep accepts the tilings.** -/
theorem exactTiling_iff_scan {field message : String} {granularity start stop : ℕ}
    {raws : List Json} (hwell : ∀ raw ∈ raws, WellTyped raw) (hstart : granularity ∣ start)
    (hle : start ≤ stop) :
    scanSegments field message granularity
        (sortByKey (raws.map fun raw => ((Segment.ofJson raw).offsetBytes, raw))) start [] [] =
          .ok stop ↔
      ExactTiling (raws.map Segment.ofJson) granularity start stop := by
  obtain ⟨keyed, hkeyed⟩ : ∃ keyed, keyed =
    raws.map fun raw => ((Segment.ofJson raw).offsetBytes, raw) := ⟨_, rfl⟩
  have hperm := sortByKey_perm hkeyed
  rw [← hkeyed]
  have hspans : (sortByKey keyed).map (fun raw => (Segment.ofJson raw).span) =
      ((raws.map Segment.ofJson).map Segment.span).insertionSort ByOffset := by
    rw [map_span_sortByKey (by rw [hkeyed]; simp), hkeyed, List.map_map, List.map_map]
    rfl
  have hpos : ∀ segment ∈ raws.map Segment.ofJson, 0 < segment.lengthBytes :=
    List.forall_mem_map.mpr fun raw hraw => (hwell raw hraw).lengthBytes_pos
  rw [scanSegments_iff (fun raw hraw => hwell raw (hperm.mem_iff.mp hraw)), hspans,
    tiles_insertionSort_iff hle, partition_map_span_iff hpos, (hperm.map _).nodup_iff,
    (hperm.map _).nodup_iff]
  constructor
  · rintro ⟨⟨hdisjoint, hunion⟩, ⟨hids, -⟩, ⟨hhandles, -⟩, hdvd⟩
    refine ⟨?_, ?_, List.forall_mem_map.mpr fun raw hraw => ?_, hdisjoint, hunion⟩
    · rwa [List.map_map]
    · rwa [List.map_map]
    · exact (hdvd raw (hperm.mem_iff.mpr hraw)).2
  · intro h
    have htiles := (tiles_insertionSort_iff hle).mpr
      ((partition_map_span_iff hpos).mpr ⟨h.disjoint, h.union⟩)
    rw [← hspans] at htiles
    have hlengths : ∀ raw ∈ sortByKey keyed, granularity ∣ (Segment.ofJson raw).lengthBytes :=
      fun raw hraw => h.lengths _ (List.mem_map_of_mem (hperm.mem_iff.mp hraw))
    have hoffsets := htiles.dvd_offset hstart (List.forall_mem_map.mpr hlengths)
    have hids := h.ids
    have hhandles := h.handles
    rw [List.map_map] at hids hhandles
    exact ⟨⟨h.disjoint, h.union⟩, ⟨hids, nofun⟩, ⟨hhandles, nofun⟩,
      fun raw hraw => ⟨hoffsets _ (List.mem_map_of_mem hraw), hlengths raw hraw⟩⟩

/-! ## The validators -/

/-- **The scalar fields of a resize operation are valid**, and its endpoints aligned. -/
structure ResizeScalars (operation : Json) (stage : ResizeStage)
    (fromBlocks targetBlocks stride granularity : ℕ) : Prop where
  epoch : ∃ n : ℕ, operation.get "participant_epoch" = .int n ∧ 0 < n
  generation : ∃ n : ℕ, operation.get "resize_generation" = .int n ∧ 0 < n
  binding : ∃ id, operation.get "binding_id" = .str id ∧ isBlank id = false
  stage_eq : operation.get "stage" = .str stage.name
  from_eq : operation.get "from_block_count" = .int fromBlocks
  from_pos : 0 < fromBlocks
  target_eq : operation.get "target_block_count" = .int targetBlocks
  target_pos : 0 < targetBlocks
  changes : fromBlocks ≠ targetBlocks
  direction : stage.grows = true ↔ fromBlocks < targetBlocks
  stride_eq : operation.get "bytes_per_block" = .int stride
  stride_pos : 0 < stride
  granularity_eq : operation.get "allocation_granularity_bytes" = .int granularity
  granularity_pos : 0 < granularity
  start_dvd : granularity ∣ min fromBlocks targetBlocks * stride
  stop_dvd : granularity ∣ max fromBlocks targetBlocks * stride

/-- **The scalar fields of an elastic pool are valid**, for a pool of the given size. -/
structure ElasticScalars (elastic : Json) (blockCount bytesPerBlock mappedBlocks granularity : ℕ) :
    Prop where
  stride_pos : 0 < bytesPerBlock
  mapped_eq : elastic.get "mapped_block_count" = .int mappedBlocks
  mapped_pos : 0 < mappedBlocks
  mapped_le : mappedBlocks ≤ blockCount
  maximum_eq : elastic.get "maximum_block_count" = .int blockCount
  granularity_eq : elastic.get "allocation_granularity_bytes" = .int granularity
  granularity_pos : 0 < granularity
  mapped_dvd : granularity ∣ mappedBlocks * bytesPerBlock
  maximum_dvd : granularity ∣ blockCount * bytesPerBlock
  minimum : ∃ n : ℕ, elastic.get "minimum_block_count" = .int n ∧ 0 < n ∧ n ≤ mappedBlocks ∧
    granularity ∣ n * bytesPerBlock ∧ ∃ alignment : ℕ,
      elastic.get "resize_alignment_blocks" = .int alignment ∧ 0 < alignment ∧ alignment ∣ n ∧
        alignment ∣ mappedBlocks

theorem validateResizeStage_name (stage : ResizeStage) :
    validateResizeStage (.str stage.name) = .ok stage := by
  cases stage <;> rfl

/-- The check of an operation comes down to its segments. -/
theorem ResizeScalars.check_eq {operation : Json} {stage : ResizeStage}
    {fromBlocks targetBlocks stride granularity : ℕ} {raws : List Json}
    (h : ResizeScalars operation stage fromBlocks targetBlocks stride granularity)
    (hsegments : operation.getD "segments" (.list []) = .list raws) :
    checkResizeOperation operation = validateResizeSegments stage
      (min fromBlocks targetBlocks * stride) (max fromBlocks targetBlocks * stride) granularity
        raws := by
  obtain ⟨epoch, hepoch, hepoch_pos⟩ := h.epoch
  obtain ⟨generation, hgeneration, hgeneration_pos⟩ := h.generation
  obtain ⟨id, hid, hblank⟩ := h.binding
  have hdirection : ¬stage.grows ≠ decide (targetBlocks > fromBlocks) := by
    rw [not_not, Bool.eq_iff_iff, decide_eq_true_eq]
    exact h.direction
  have haligned : ¬(min fromBlocks targetBlocks * stride % granularity ≠ 0 ∨
      max fromBlocks targetBlocks * stride % granularity ≠ 0) := by
    rw [not_or, not_not, not_not]
    exact ⟨Nat.mod_eq_zero_of_dvd h.start_dvd, Nat.mod_eq_zero_of_dvd h.stop_dvd⟩
  simp only [checkResizeOperation, hepoch, positiveInt_natCast hepoch_pos, hgeneration,
    positiveInt_natCast hgeneration_pos, hid, nonempty_str hblank, h.stage_eq,
    validateResizeStage_name, h.from_eq, positiveInt_natCast h.from_pos, h.target_eq,
    positiveInt_natCast h.target_pos, h.stride_eq, positiveInt_natCast h.stride_pos,
    h.granularity_eq, positiveInt_natCast h.granularity_pos, hsegments, listOr, Except.ok_bind,
    Except.raiseIf_neg h.changes, Except.raiseIf_neg hdirection,
    Except.raiseIf_neg haligned]

/-- The check of an elastic pool comes down to its segments. -/
theorem ElasticScalars.check_eq {elastic : Json}
    {blockCount bytesPerBlock mappedBlocks granularity : ℕ} {raws : List Json}
    (h : ElasticScalars elastic blockCount bytesPerBlock mappedBlocks granularity)
    (hsegments : elastic.get "segments" = .list raws) (hne : raws ≠ []) :
    validateElasticPool elastic blockCount bytesPerBlock =
      validateElasticSegments granularity (mappedBlocks * bytesPerBlock) raws := by
  obtain ⟨minimum, hminimum, hminimum_pos, hminimum_le, hminimum_dvd, alignment, halignment,
    halignment_pos, hdvd, hdvd'⟩ := h.minimum
  have hmaximum_pos : 0 < blockCount := h.mapped_pos.trans_le h.mapped_le
  have hfits : ¬(blockCount ≠ blockCount ∨ minimum > mappedBlocks ∨ mappedBlocks > blockCount) := by
    have := h.mapped_le
    omega
  have haligned : ¬(minimum % alignment ≠ 0 ∨ mappedBlocks % alignment ≠ 0 ∨
      minimum * bytesPerBlock % granularity ≠ 0 ∨ mappedBlocks * bytesPerBlock % granularity ≠ 0 ∨
      blockCount * bytesPerBlock % granularity ≠ 0) := by
    simp only [not_or, not_not, ← Nat.dvd_iff_mod_eq_zero]
    exact ⟨hdvd, hdvd', hminimum_dvd, h.mapped_dvd, h.maximum_dvd⟩
  simp only [validateElasticPool, hminimum, positiveInt_natCast hminimum_pos, h.mapped_eq,
    positiveInt_natCast h.mapped_pos, h.maximum_eq, positiveInt_natCast hmaximum_pos,
    h.granularity_eq, positiveInt_natCast h.granularity_pos, halignment,
    positiveInt_natCast halignment_pos, hsegments, nonemptyListOr_list hne, Except.ok_bind,
    Except.raiseIf_neg hfits, Except.raiseIf_neg haligned]

/-- A tiling of a range that is not empty has a segment. -/
theorem ExactTiling.ne_nil {raws : List Json} {granularity start stop : ℕ}
    (h : ExactTiling (raws.map Segment.ofJson) granularity start stop) (hlt : start < stop) :
    raws ≠ [] := by
  rintro rfl
  have hstart : start ∈ Set.Ico start stop := ⟨le_rfl, hlt⟩
  rw [← h.union, mem_iUnion_interval] at hstart
  obtain ⟨span, hspan, -⟩ := hstart
  exact absurd hspan List.not_mem_nil

/-- **The segment half of a physical resize accepts the tilings of the changed tail.** -/
theorem validateResizeSegments_iff {stage : ResizeStage} {start stop granularity : ℕ}
    {raws : List Json} (hphysical : stage.physical = true) (hwell : ∀ raw ∈ raws, WellTyped raw)
    (hstart : granularity ∣ start) (hlt : start < stop) :
    validateResizeSegments stage start stop granularity raws = .ok () ↔
      ExactTiling (raws.map Segment.ofJson) granularity start stop := by
  rw [← exactTiling_iff_scan hwell hstart hlt.le, validateResizeSegments, hphysical,
    Except.mapM_of_ok fun raw hraw => (hwell raw hraw).resizeSegmentKey]
  simp only [Except.ok_bind, Except.bind_eq_ok, Except.raiseIf_eq_ok, exists_const, true_and,
    not_not]
  constructor
  · rintro ⟨-, expected, hscan, rfl⟩
    exact hscan
  · intro hscan
    refine ⟨?_, stop, hscan, rfl⟩
    have hne : raws ≠ [] := ((exactTiling_iff_scan hwell hstart hlt.le).mp hscan).ne_nil hlt
    cases raws with
    | nil => exact absurd rfl hne
    | cons raw raws => rfl

/-- **The segment half of an elastic pool accepts the tilings of the mapped prefix.** -/
theorem validateElasticSegments_iff {granularity mappedBytes : ℕ} {raws : List Json}
    (hwell : ∀ raw ∈ raws, WellTyped raw) :
    validateElasticSegments granularity mappedBytes raws = .ok () ↔
      ExactTiling (raws.map Segment.ofJson) granularity 0 mappedBytes := by
  have hmappings : raws.mapM (fun segment => mapping segment "VMM segment") = .ok raws :=
    (Except.mapM_of_ok fun raw hraw => mapping_of_isMapping (hwell raw hraw).isMapping).trans
      (congrArg _ (List.map_id raws))
  rw [← exactTiling_iff_scan hwell (Nat.dvd_zero granularity) (Nat.zero_le _),
    validateElasticSegments, hmappings, Except.ok_bind,
    Except.mapM_of_ok fun raw hraw => (hwell raw hraw).elasticSegmentKey]
  simp only [Except.ok_bind, Except.bind_eq_ok, Except.raiseIf_eq_ok, not_not]
  constructor
  · rintro ⟨expected, hscan, rfl⟩
    exact hscan
  · exact fun hscan => ⟨mappedBytes, hscan, rfl⟩

theorem copies_of_deepcopy {I : Interpreter} {value copy : Json}
    (h : I.deepcopy value = .ok copy) : I.copies value = true := by
  by_contra hcopies
  rw [Interpreter.deepcopy, if_neg hcopies] at h
  exact nomatch h

/-- **The validators accept exactly the tilings** — on well-typed segments in any order, with the
scalar fields valid, a physical resize operation passes when its segments tile the changed tail, and
an elastic pool when they tile its mapped prefix. -/
theorem segmentValidators_accept_tilings :
    (∀ (operation : Json) (stage : ResizeStage) (fromBlocks targetBlocks stride granularity : ℕ)
        (raws : List Json),
      ResizeScalars operation stage fromBlocks targetBlocks stride granularity →
      stage.physical = true → operation.getD "segments" (.list []) = .list raws →
      (∀ raw ∈ raws, WellTyped raw) →
      (checkResizeOperation operation = .ok () ↔
        ExactTiling (raws.map Segment.ofJson) granularity (min fromBlocks targetBlocks * stride)
          (max fromBlocks targetBlocks * stride)) ∧
      ∀ I : Interpreter, (∃ copy, validateResizeOperation I operation = .ok copy) ↔
        I.copies operation = true ∧
          ExactTiling (raws.map Segment.ofJson) granularity (min fromBlocks targetBlocks * stride)
            (max fromBlocks targetBlocks * stride)) ∧
    ∀ (elastic : Json) (blockCount bytesPerBlock mappedBlocks granularity : ℕ) (raws : List Json),
      ElasticScalars elastic blockCount bytesPerBlock mappedBlocks granularity →
      elastic.get "segments" = .list raws → (∀ raw ∈ raws, WellTyped raw) →
      (validateElasticPool elastic blockCount bytesPerBlock = .ok () ↔
        ExactTiling (raws.map Segment.ofJson) granularity 0 (mappedBlocks * bytesPerBlock)) := by
  refine ⟨?_, ?_⟩
  · intro operation stage fromBlocks targetBlocks stride granularity raws hscalars hphysical
      hsegments hwell
    have hlt : min fromBlocks targetBlocks * stride < max fromBlocks targetBlocks * stride := by
      have := hscalars.changes
      exact Nat.mul_lt_mul_of_pos_right (by omega) hscalars.stride_pos
    have hcheck := validateResizeSegments_iff hphysical hwell hscalars.start_dvd hlt
    rw [← hscalars.check_eq hsegments] at hcheck
    refine ⟨hcheck, fun I => ?_⟩
    rw [← hcheck, validateResizeOperation]
    simp only [Except.bind_eq_ok]
    constructor
    · rintro ⟨copy, _, hok, hcopy⟩
      exact ⟨copies_of_deepcopy hcopy, hok⟩
    · rintro ⟨hcopies, hok⟩
      exact ⟨operation, (), hok, if_pos hcopies⟩
  · intro elastic blockCount bytesPerBlock mappedBlocks granularity raws hscalars hsegments hwell
    by_cases hne : raws = []
    · subst hne
      have hpos : 0 < mappedBlocks * bytesPerBlock :=
        Nat.mul_pos hscalars.mapped_pos hscalars.stride_pos
      refine ⟨fun h => ?_, fun h => absurd rfl (h.ne_nil hpos)⟩
      simp only [validateElasticPool, Except.bind_eq_ok] at h
      obtain ⟨_, -, _, -, _, -, _, -, _, -, _, -, _, -, raws, hraws, -⟩ := h
      rw [hsegments] at hraws
      cases hraws
    · rw [hscalars.check_eq hsegments hne, validateElasticSegments_iff hwell]

/-- Two segments, the later one first. -/
def tailSegments : List Json :=
  [.obj [("segment_id", .str "b"), ("offset_bytes", .int 6), ("length_bytes", .int 2),
      ("handle_index", .int 0)],
    .obj [("segment_id", .str "a"), ("offset_bytes", .int 4), ("length_bytes", .int 2),
      ("handle_index", .int 1)]]

/-- A growth from two blocks to four. -/
def tailGrowth : Json :=
  .obj [("participant_epoch", .int 1), ("resize_generation", .int 1), ("binding_id", .str "pool"),
    ("stage", .str "map_workers"), ("from_block_count", .int 2), ("target_block_count", .int 4),
    ("bytes_per_block", .int 2), ("allocation_granularity_bytes", .int 2),
    ("segments", .list tailSegments)]

/-- An elastic pool of six blocks, four of them mapped by these segments. -/
def fourMapped (segments : List Json) : Json :=
  .obj [("minimum_block_count", .int 2), ("mapped_block_count", .int 4),
    ("maximum_block_count", .int 6), ("allocation_granularity_bytes", .int 2),
    ("resize_alignment_blocks", .int 2), ("segments", .list segments)]

/-- The two segments and the one below them. -/
def prefixSegments : List Json :=
  tailSegments ++
    [.obj [("segment_id", .str "c"), ("offset_bytes", .int 0), ("length_bytes", .int 4),
      ("handle_index", .int 2)]]

theorem segmentValidators_accept_tilings_growth :
    ExactTiling (tailSegments.map Segment.ofJson) 2 4 8 ∧
      ExactTiling (prefixSegments.map Segment.ofJson) 2 0 8 ∧
        ¬ExactTiling (tailSegments.map Segment.ofJson) 2 0 8 := by
  have hscalars : ResizeScalars tailGrowth .mapWorkers 2 4 2 2 :=
    { epoch := ⟨1, rfl, by decide⟩, generation := ⟨1, rfl, by decide⟩
      binding := ⟨"pool", rfl, by decide⟩, stage_eq := rfl, from_eq := rfl, from_pos := by decide
      target_eq := rfl, target_pos := by decide, changes := by decide, direction := by decide
      stride_eq := rfl, stride_pos := by decide, granularity_eq := rfl
      granularity_pos := by decide, start_dvd := by decide, stop_dvd := by decide }
  have hwell : ∀ raw ∈ tailSegments, WellTyped raw := by
    refine List.forall_mem_cons.mpr ⟨?_, List.forall_mem_cons.mpr ⟨?_, nofun⟩⟩
    · exact ⟨rfl, ⟨"b", rfl, by decide⟩, ⟨6, rfl⟩, ⟨2, rfl, by decide⟩, ⟨0, rfl⟩⟩
    · exact ⟨rfl, ⟨"a", rfl, by decide⟩, ⟨4, rfl⟩, ⟨2, rfl, by decide⟩, ⟨1, rfl⟩⟩
  have hprefix : ∀ raw ∈ prefixSegments, WellTyped raw := by
    refine List.forall_mem_append.mpr ⟨hwell, List.forall_mem_cons.mpr ⟨?_, nofun⟩⟩
    exact ⟨rfl, ⟨"c", rfl, by decide⟩, ⟨0, rfl⟩, ⟨4, rfl, by decide⟩, ⟨2, rfl⟩⟩
  have helastic : ∀ segments, ElasticScalars (fourMapped segments) 6 2 4 2 := fun _ =>
    { stride_pos := by decide, mapped_eq := rfl, mapped_pos := by decide, mapped_le := by decide
      maximum_eq := rfl, granularity_eq := rfl, granularity_pos := by decide
      mapped_dvd := by decide, maximum_dvd := by decide
      minimum := ⟨2, rfl, by decide, by decide, by decide, 2, rfl, by decide, by decide,
        by decide⟩ }
  obtain ⟨hresize, hpool⟩ := segmentValidators_accept_tilings
  refine ⟨?_, ?_, ?_⟩
  · exact (hresize tailGrowth .mapWorkers 2 4 2 2 tailSegments hscalars rfl rfl hwell).1.mp (by rfl)
  · exact (hpool (fourMapped prefixSegments) 6 2 4 2 prefixSegments (helastic _) rfl hprefix).mp
      (by rfl)
  · refine (hpool (fourMapped tailSegments) 6 2 4 2 tailSegments (helastic _) rfl hwell).not.mp ?_
    exact fun h => by cases h

end Kapsl.Vllm
