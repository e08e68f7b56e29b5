import Kapsl.Lib.JsonSchema
import Kapsl.Vllm.PlanEmission

/-!
# Vllm/PlanSchema — every plan satisfies the schema it is published with

`plannerJsonSchema` restates what the constructors and the sizing guarantee.  The proof goes up the
document, one lemma for each level; the ranges come from `WellFormed` for a geometry and from
`sizeRank_wellFormed` for a sized rank.

`accepts_plan` is the result.
-/

namespace Kapsl.Vllm

open JsonText (Value Schema)

/-! ## `planner_json_schema` -/

namespace PlannerSchema

def positive : Schema := .integer 1 uint64Max

def nonnegative : Schema := .integer 0 uint64Max

def text : Schema := .string 1

def rankSizingProperties : List (String × Schema) :=
  [("rank", nonnegative), ("device_id", nonnegative), ("bytes_per_block", positive),
    ("sequence_blocks", positive), ("minimum_blocks", positive), ("minimum_bytes", positive),
    ("base_blocks", positive), ("headroom_blocks", nonnegative), ("desired_blocks", positive),
    ("desired_bytes", positive), ("maximum_blocks", positive), ("maximum_bytes", positive),
    ("effective_target_concurrency", positive), ("concurrency_reduced", .boolean)]

def element : Schema :=
  .object ["name", "bits", "bytes"] [("name", text), ("bits", positive), ("bytes", positive)]

def cachePolicy : Schema :=
  .oneOf [
    .object ["kind"] [("kind", .const (Value.literal "full_attention"))],
    .object ["kind", "window_tokens", "extra_retained_tokens"]
      [("kind", .const (Value.literal "sliding_window")), ("window_tokens", positive),
        ("extra_retained_tokens", nonnegative)]]

def cacheGroup : Schema :=
  .object ["group_id", "layers", "block_size_tokens", "bytes_per_group_block",
      "required_blocks_per_sequence", "kv_heads", "key_head_dim", "value_head_dim",
      "element_type", "policy"]
    [("group_id", text), ("layers", .array 1 true text), ("block_size_tokens", positive),
      ("bytes_per_group_block", positive), ("required_blocks_per_sequence", positive),
      ("kv_heads", positive), ("key_head_dim", positive), ("value_head_dim", positive),
      ("element_type", element), ("policy", cachePolicy)]

def rankGeometry : Schema :=
  .object ["rank", "device_id", "pool_bytes_per_block", "fixed_overhead_blocks",
      "required_blocks_per_sequence", "cache_groups"]
    [("rank", nonnegative), ("device_id", nonnegative), ("pool_bytes_per_block", positive),
      ("fixed_overhead_blocks", nonnegative), ("required_blocks_per_sequence", positive),
      ("cache_groups", .array 1 false cacheGroup)]

def identity : Schema :=
  .object ["adapter_id", "adapter_version", "backend_version", "profile_id", "layout_version"]
    [("adapter_id", text), ("adapter_version", text), ("backend_version", text),
      ("profile_id", text), ("layout_version", positive)]

def geometry : Schema :=
  .object ["identity", "model_fingerprint", "max_model_len", "tensor_parallel_size",
      "attention_backend", "layout_id", "total_pool_bytes_per_block", "ranks"]
    [("identity", identity), ("model_fingerprint", text), ("max_model_len", positive),
      ("tensor_parallel_size", positive),
      ("attention_backend", .const (Value.literal "FLASH_ATTN")), ("layout_id", text),
      ("total_pool_bytes_per_block", positive), ("ranks", .array 1 false rankGeometry)]

def sizingPolicy : Schema :=
  .object ["target_concurrency", "headroom_percent", "prefix_blocks", "alignment_blocks",
      "strict_concurrency"]
    [("target_concurrency", positive), ("headroom_percent", .integer 0 100),
      ("prefix_blocks", nonnegative), ("alignment_blocks", positive),
      ("strict_concurrency", .boolean), ("min_bytes", positive), ("max_bytes", positive),
      ("maximum_concurrency", positive)]

/-- `^sha256:[0-9a-f]{64}$`. -/
def digest : Schema :=
  .pattern ((JsonText.ofString "sha256:").map ([·]) ++
    List.replicate 64 (JsonText.ofString "0123456789abcdef"))

def sizing : Schema :=
  .object ["ranks", "total_desired_bytes", "total_maximum_bytes"]
    [("ranks", .array 1 false
        (.object (rankSizingProperties.map Prod.fst) rankSizingProperties)),
      ("total_desired_bytes", positive), ("total_maximum_bytes", positive)]

end PlannerSchema

/-- `planner_json_schema`. -/
def plannerJsonSchema : Schema :=
  .object ["schema_version", "status", "supported", "geometry_digest", "geometry", "policy",
      "sizing"]
    [("schema_version", .const (Value.nat 1)), ("status", .const (Value.literal "planned")),
      ("supported", .const (.bool true)), ("geometry_digest", PlannerSchema.digest),
      ("geometry", PlannerSchema.geometry), ("policy", PlannerSchema.sizingPolicy),
      ("sizing", PlannerSchema.sizing)]

/-! ## Scalars -/

theorem accepts_positive {n : ℕ} :
    PlannerSchema.positive.accepts (Value.nat n) = true ↔ InRange n := by
  rw [PlannerSchema.positive, Value.nat, Schema.accepts_integer, InRange]
  omega

theorem accepts_nonnegative {n : ℕ} :
    PlannerSchema.nonnegative.accepts (Value.nat n) = true ↔ n ≤ uint64Max := by
  rw [PlannerSchema.nonnegative, Value.nat, Schema.accepts_integer]
  omega

theorem accepts_text {s : PyStr} : PlannerSchema.text.accepts (.text s) = true ↔ s ≠ [] := by
  rw [PlannerSchema.text, Schema.accepts_string, ← List.length_pos_iff]
  exact Iff.rfl

/-! ## The geometry -/

theorem accepts_element {e : ElementType PyStr} (hname : e.name ≠ [])
    (hbits : InRange e.bits ∧ e.bits % 8 = 0) :
    PlannerSchema.element.accepts e.toDict = true := by
  have hbytes : InRange (e.bits / 8) := by
    unfold InRange at *
    omega
  refine Schema.accepts_object.mpr ⟨by simp, ?_⟩
  simp [Schema.acceptsProperty, accepts_text, accepts_positive, *]

/-- Exactly one of the two alternatives: the constants of `kind` tell them apart. -/
theorem accepts_cachePolicy {group : CacheGroupGeometry PyStr} (h : group.PolicyOk) :
    PlannerSchema.cachePolicy.accepts group.policyDict = true := by
  have hkinds : Value.literal "full_attention" ≠ Value.literal "sliding_window" := by decide +kernel
  rw [PlannerSchema.cachePolicy, Schema.accepts_oneOf, Schema.accepting, Schema.accepting,
    Schema.accepting]
  unfold CacheGroupGeometry.PolicyOk at h
  rcases hkind : group.policyKind with _ | _ <;> simp only [hkind] at h
  · simp only [CacheGroupGeometry.policyDict, h.1, hkind, CachePolicy.name]
    simp [Schema.accepts_object, Schema.acceptsProperty]
  · obtain ⟨⟨window, hwindow, hrange⟩, hextra⟩ := h
    simp only [CacheGroupGeometry.policyDict, hwindow, hkind, CachePolicy.name]
    simp [Schema.accepts_object, Schema.acceptsProperty, accepts_positive, accepts_nonnegative,
      hkinds.symm, hrange, hextra]

theorem accepts_cacheGroup {group : CacheGroupGeometry PyStr} (h : group.WellFormed) :
    PlannerSchema.cacheGroup.accepts group.toDict = true := by
  have hlayers : (Schema.array 1 true PlannerSchema.text).accepts
      (.list (group.layers.map .text)) = true := by
    refine Schema.accepts_array.mpr ⟨?_, fun _ => ?_, ?_⟩
    · rw [List.length_map]
      exact List.length_pos_iff.mpr h.layers_ne_nil
    · exact h.layers_nodup.map fun _ _ => Value.text.inj
    · intro v hv
      obtain ⟨layer, hlayer, rfl⟩ := List.mem_map.mp hv
      exact accepts_text.mpr (h.layers layer hlayer)
  have helement := accepts_element h.elementName h.elementBits
  have hpolicy := accepts_cachePolicy h.policy
  refine Schema.accepts_object.mpr ⟨by simp, ?_⟩
  simp [Schema.acceptsProperty, accepts_text, accepts_positive, h.groupId, h.blockSizeTokens,
    h.bytesPerGroupBlock, h.requiredBlocksPerSequence, h.kvHeads, h.keyHeadDim, h.valueHeadDim,
    hlayers, helement, hpolicy]

/-- A checked total of positive summands is positive. -/
theorem inRange_of_foldlM {α : Type} {f : α → ℕ} {field : String} {xs : List α} {v : ℕ}
    (hne : xs ≠ []) (hf : ∀ x ∈ xs, 1 ≤ f x)
    (h : xs.foldlM (fun total x => checkedAdd total (f x) field) 0 = .ok v) : InRange v := by
  obtain ⟨rfl, hle⟩ := (foldlM_checkedAdd_iff f field xs).mp h
  obtain ⟨x, rest, rfl⟩ := List.exists_cons_of_ne_nil hne
  have hx := hf x List.mem_cons_self
  refine ⟨?_, hle⟩
  rw [List.map_cons, List.sum_cons]
  omega

theorem accepts_rankGeometry {rank : RankGeometry PyStr} {doc : Value} (hr : rank.WellFormed)
    (h : rank.toDict = .ok doc) : PlannerSchema.rankGeometry.accepts doc = true := by
  simp only [RankGeometry.toDict, Except.bind_eq_ok, Except.pure_eq_ok] at h
  obtain ⟨required, hrequired, rfl⟩ := h
  have hrequired : InRange required := inRange_of_foldlM hr.groups_ne_nil
    (fun group hgroup => (hr.groups group hgroup).requiredBlocksPerSequence.1) hrequired
  have hgroups : (Schema.array 1 false PlannerSchema.cacheGroup).accepts
      (.list (rank.groups.map (·.toDict))) = true := by
    refine Schema.accepts_array.mpr ⟨?_, by rintro ⟨⟩, ?_⟩
    · rw [List.length_map]
      exact List.length_pos_iff.mpr hr.groups_ne_nil
    · intro v hv
      obtain ⟨group, hgroup, rfl⟩ := List.mem_map.mp hv
      exact accepts_cacheGroup (hr.groups group hgroup)
  refine Schema.accepts_object.mpr ⟨by simp, ?_⟩
  simp [Schema.acceptsProperty, accepts_positive, accepts_nonnegative, hr.rank, hr.deviceId,
    hr.poolBytesPerBlock, hr.fixedOverheadBlocks, hrequired, hgroups]

theorem accepts_identity {identity : PlannerIdentity} (h : identity.WellFormed) :
    PlannerSchema.identity.accepts identity.toDict = true := by
  have hlayout : InRange identity.layoutVersion := by
    rw [h.layoutVersion]
    exact ⟨le_rfl, by decide⟩
  refine Schema.accepts_object.mpr ⟨by simp, ?_⟩
  simp [Schema.acceptsProperty, accepts_text, accepts_positive, h.adapterId, h.adapterVersion,
    h.backendVersion, h.profileId, hlayout]

/-- **The document of a geometry is accepted.** -/
theorem accepts_geometry {d : GeometryDescriptor} {doc : Value} (hd : d.WellFormed)
    (h : d.toDict = .ok doc) : PlannerSchema.geometry.accepts doc = true := by
  simp only [GeometryDescriptor.toDict, Except.bind_eq_ok, Except.pure_eq_ok] at h
  obtain ⟨total, htotal, docs, hdocs, rfl⟩ := h
  have htotal : InRange total := inRange_of_foldlM hd.ranks_ne_nil
    (fun rank hrank => (hd.ranks rank hrank).poolBytesPerBlock.1) htotal
  have hranks : (Schema.array 1 false PlannerSchema.rankGeometry).accepts (.list docs) = true := by
    refine Schema.accepts_array.mpr ⟨?_, by rintro ⟨⟩, ?_⟩
    · rw [← (Except.mapM_eq_ok.mp hdocs).length_eq]
      exact List.length_pos_iff.mpr hd.ranks_ne_nil
    · intro v hv
      obtain ⟨rank, hrank, hdoc⟩ := Except.exists_of_mem_mapM hdocs hv
      exact accepts_rankGeometry (hd.ranks rank hrank) hdoc
  have hidentity := accepts_identity hd.identity
  refine Schema.accepts_object.mpr ⟨by simp, ?_⟩
  simp [Schema.acceptsProperty, accepts_text, accepts_positive, hd.modelFingerprint,
    hd.maxModelLen, hd.tensorParallelSize, hd.attentionBackend, hd.layoutId, htotal, hranks,
    hidentity, GeometryDescriptor.flashAttn, Value.literal]

/-! ## The policy and the digest -/

/-- A field that is set is accepted where a positive number is. -/
theorem acceptsProperty_optionalField {properties : List (String × Schema)} {key : String}
    {value : Option ℕ}
    (hkey : ∀ v, Schema.acceptsProperty properties key v = PlannerSchema.positive.accepts v)
    (hvalue : ∀ n ∈ value, InRange n) :
    ∀ field ∈ optionalField key value,
      Schema.acceptsProperty properties field.1 field.2 = true := by
  rcases value with _ | n
  · exact nofun
  · rintro field hfield
    obtain rfl := List.mem_singleton.mp hfield
    rw [hkey]
    exact accepts_positive.mpr (hvalue n rfl)

theorem accepts_sizingPolicy {policy : SizingPolicy} (h : policy.WellFormed) :
    PlannerSchema.sizingPolicy.accepts policy.toDict = true := by
  have hheadroom : (Schema.integer 0 100).accepts (Value.nat policy.headroomPercent) = true := by
    have := h.headroomPercent
    rw [Value.nat, Schema.accepts_integer]
    omega
  refine Schema.accepts_object.mpr ⟨by simp, ?_⟩
  simp only [List.forall_mem_append]
  refine ⟨⟨⟨?_, ?_⟩, ?_⟩, ?_⟩
  · simp [Schema.acceptsProperty, accepts_positive, accepts_nonnegative, h.targetConcurrency,
      hheadroom, h.prefixBlocks, h.alignmentBlocks]
  · exact acceptsProperty_optionalField (by simp [Schema.acceptsProperty]) h.minBytes
  · exact acceptsProperty_optionalField (by simp [Schema.acceptsProperty]) h.maxBytes
  · exact acceptsProperty_optionalField (by simp [Schema.acceptsProperty]) h.maximumConcurrency

theorem hexdigest_length (digest : Vector UInt8 32) : (hexdigest digest).length = 64 := by
  rw [hexdigest, List.length_flatMap]
  simp

theorem mem_hexdigest {digest : Vector UInt8 32} {c : JsonText.CodePoint}
    (h : c ∈ hexdigest digest) : c ∈ JsonText.ofString "0123456789abcdef" := by
  have htable : ((List.range 16).all fun n =>
      (JsonText.ofString "0123456789abcdef").contains (JsonText.hexDigit n)) = true := by
    decide +kernel
  simp only [List.all_eq_true, List.mem_range, List.contains_iff_mem] at htable
  obtain ⟨byte, -, hc⟩ := List.mem_flatMap.mp h
  have hbyte := byte.toNat_lt
  obtain rfl | rfl : c = JsonText.hexDigit (byte.toNat / 16) ∨
      c = JsonText.hexDigit (byte.toNat % 16) := by simpa using hc
  · exact htable _ (by omega)
  · exact htable _ (by omega)

/-- **A digest is accepted**, whatever the hash. -/
theorem accepts_digest (digest : Vector UInt8 32) :
    PlannerSchema.digest.accepts (.text (JsonText.ofString "sha256:" ++ hexdigest digest)) =
      true := by
  rw [PlannerSchema.digest, Schema.accepts_pattern]
  refine List.rel_append ?_ ?_
  · rw [List.forall₂_map_left_iff, List.forall₂_same]
    intro c _
    exact List.mem_singleton_self c
  · rw [← hexdigest_length digest]
    exact JsonText.forall₂_replicate fun c => mem_hexdigest

/-! ## The sizing -/

/-- A sized rank, in the ranges the schema gives it. -/
structure RankSizing.WellFormed (sizing : RankSizing) : Prop where
  rank : sizing.rank ≤ uint64Max
  deviceId : sizing.deviceId ≤ uint64Max
  bytesPerBlock : InRange sizing.bytesPerBlock
  sequenceBlocks : InRange sizing.sequenceBlocks
  minimumBlocks : InRange sizing.minimumBlocks
  minimumBytes : InRange sizing.minimumBytes
  baseBlocks : InRange sizing.baseBlocks
  headroomBlocks : sizing.headroomBlocks ≤ uint64Max
  desiredBlocks : InRange sizing.desiredBlocks
  desiredBytes : InRange sizing.desiredBytes
  maximumBlocks : InRange sizing.maximumBlocks
  maximumBytes : InRange sizing.maximumBytes
  effectiveTargetConcurrency : InRange sizing.effectiveTargetConcurrency

/-- A positive number of blocks whose bytes fit is in range, and so are its bytes. -/
theorem inRange_blocks {n s bytes : ℕ} (hn : 1 ≤ n) (hs : 1 ≤ s) (hbytes : bytes = n * s)
    (hlt : bytes < 2 ^ 64) : InRange n ∧ InRange bytes := by
  have hn' := Nat.le_mul_of_pos_right n hs
  have hmax : uint64Max = 2 ^ 64 - 1 := rfl
  unfold InRange
  omega

/-- The ranges the contract of a plan does not speak of: the base and the headroom. -/
theorem sizeRank_base {rank : RankGeometry PyStr} {policy : SizingPolicy} {sizing : RankSizing}
    (h : sizeRank rank policy = .ok sizing) :
    (sizing.rank = rank.rank ∧ sizing.deviceId = rank.deviceId ∧
      sizing.bytesPerBlock = rank.poolBytesPerBlock) ∧ sizing.sequenceBlocks ≤ uint64Max ∧
      (sizing.sequenceBlocks * policy.targetConcurrency ≤ sizing.baseBlocks ∧
        sizing.baseBlocks ≤ uint64Max) ∧ sizing.headroomBlocks ≤ uint64Max := by
  have hc := sizeRank_computed h
  obtain ⟨hbase, hbaseEq⟩ := hc.base
  obtain ⟨hnumerator, hheadroom⟩ := hc.headroom
  have hceil : sizing.headroomBlocks ≤ (sizing.sequenceBlocks * policy.targetConcurrency +
      policy.prefixBlocks) * policy.headroomPercent := by
    rw [hheadroom, ceilDiv_le_iff_le_mul (by omega)]
    omega
  refine ⟨hc.identity, ?_, ⟨?_, hbase⟩, hceil.trans hnumerator⟩
  · exact le_trans (Nat.le_add_left _ _) hc.minimum.1
  · omega

/-- **Every number of a sized rank is in range.** -/
theorem sizeRank_wellFormed {rank : RankGeometry PyStr} {policy : SizingPolicy}
    {sizing : RankSizing} (hrank : rank.WellFormed) (hpolicy : policy.Valid)
    (h : sizeRank rank policy = .ok sizing) : sizing.WellFormed := by
  have hcontract := sizeRank_contract rank policy sizing hrank.valid hpolicy h
  obtain ⟨⟨hnumber, hdevice, hstride⟩, hsequence, hbase, hheadroom⟩ := sizeRank_base h
  obtain ⟨⟨hs, -⟩, -⟩ := hrank.valid.bounds
  have htarget := hpolicy.wellFormed.targetConcurrency
  have hq := hcontract.sequence.2
  have hminimum : 1 ≤ sizing.minimumBlocks := by
    have := hcontract.minimum.1.2
    omega
  have hdesired := hcontract.ordered
  obtain ⟨hminB, hdesB, hmaxB⟩ := hcontract.bytes
  obtain ⟨hminLt, hdesLt, hmaxLt⟩ := hcontract.bytes_lt
  obtain ⟨hmin, hminBytes⟩ := inRange_blocks hminimum hs hminB hminLt
  obtain ⟨hdes, hdesBytes⟩ := inRange_blocks (by omega) hs hdesB hdesLt
  obtain ⟨hmax, hmaxBytes⟩ := inRange_blocks (by omega) hs hmaxB hmaxLt
  have hproduct := Nat.mul_le_mul hq htarget.1
  obtain ⟨heffective, hgreatest⟩ := hcontract.effective
  exact ⟨hnumber ▸ hrank.rank, hdevice ▸ hrank.deviceId, hstride ▸ hrank.poolBytesPerBlock,
    ⟨hq, hsequence⟩, hmin, hminBytes, ⟨by omega, hbase.2⟩, hheadroom, hdes, hdesBytes, hmax,
    hmaxBytes, heffective, hgreatest.1.1.trans htarget.2⟩

theorem accepts_rankSizing {sizing : RankSizing} (h : sizing.WellFormed) :
    (Schema.object (PlannerSchema.rankSizingProperties.map Prod.fst)
      PlannerSchema.rankSizingProperties).accepts sizing.toDict = true := by
  refine Schema.accepts_object.mpr ⟨by simp [PlannerSchema.rankSizingProperties], ?_⟩
  simp [PlannerSchema.rankSizingProperties, Schema.acceptsProperty, accepts_positive,
    accepts_nonnegative, h.rank, h.deviceId, h.bytesPerBlock, h.sequenceBlocks, h.minimumBlocks,
    h.minimumBytes, h.baseBlocks, h.headroomBlocks, h.desiredBlocks, h.desiredBytes,
    h.maximumBlocks, h.maximumBytes, h.effectiveTargetConcurrency]

/-! ## The plan -/

theorem accepts_sizing {ranks : List RankSizing} {desired maximum : ℕ} (hne : ranks ≠ [])
    (hranks : ∀ sizing ∈ ranks, sizing.WellFormed) (hdesired : InRange desired)
    (hmaximum : InRange maximum) :
    PlannerSchema.sizing.accepts (.ofFields [("ranks", .list (ranks.map (·.toDict))),
      ("total_desired_bytes", Value.nat desired), ("total_maximum_bytes", Value.nat maximum)]) =
      true := by
  have hranks : (Schema.array 1 false (.object (PlannerSchema.rankSizingProperties.map Prod.fst)
      PlannerSchema.rankSizingProperties)).accepts (.list (ranks.map (·.toDict))) = true := by
    refine Schema.accepts_array.mpr ⟨?_, nofun, ?_⟩
    · rw [List.length_map]
      exact List.length_pos_iff.mpr hne
    · intro v hv
      obtain ⟨sizing, hsizing, rfl⟩ := List.mem_map.mp hv
      exact accepts_rankSizing (hranks sizing hsizing)
  refine Schema.accepts_object.mpr ⟨by simp, ?_⟩
  simp [Schema.acceptsProperty, accepts_positive, hdesired, hmaximum, hranks]

/-- **Every plan satisfies its schema.** -/
theorem accepts_plan (sha256 : List UInt8 → Vector UInt8 32) (upper : PyStr → PyStr)
    (raw d : GeometryDescriptor) (policy : SizingPolicy) (result : PlanningResult)
    (document : Value) (hd : raw.construct upper = .ok d) (hpolicy : policy.Valid)
    (hplan : buildPlan d policy = .ok result) (hdocument : result.toDict sha256 = .ok document) :
    plannerJsonSchema.accepts document = true := by
  have hwf := GeometryDescriptor.wellFormed_of_construct hd
  have hplanned := planned_of_buildPlan hplan
  have hsized : ∀ sizing ∈ result.ranks, sizing.WellFormed := by
    intro sizing hsizing
    obtain ⟨rank, hrank, hsize⟩ := Except.exists_of_mem_mapM hplanned.ranks hsizing
    exact sizeRank_wellFormed (hwf.ranks rank hrank) hpolicy hsize
  have hne : result.ranks ≠ [] := by
    have hpos := hwf.tensorParallelSize.1
    rw [← hplanned.length] at hpos
    exact List.ne_nil_of_length_pos hpos
  simp only [PlanningResult.toDict, Except.bind_eq_ok, Except.pure_eq_ok, hplanned.geometry,
    hplanned.policy, GeometryDescriptor.geometryDigest] at hdocument
  obtain ⟨_, ⟨bytes, -, rfl⟩, geometry, hgeometry, desired, hdesired, maximum, hmaximum, rfl⟩ :=
    hdocument
  have hdesired : InRange desired :=
    inRange_of_foldlM hne (fun sizing hsizing => (hsized sizing hsizing).desiredBytes.1) hdesired
  have hmaximum : InRange maximum :=
    inRange_of_foldlM hne (fun sizing hsizing => (hsized sizing hsizing).maximumBytes.1) hmaximum
  refine Schema.accepts_object.mpr ⟨by simp, ?_⟩
  simp [Schema.acceptsProperty, accepts_digest, accepts_geometry hwf hgeometry,
    accepts_sizingPolicy hpolicy.wellFormed, accepts_sizing hne hsized hdesired hmaximum]

theorem accepts_plan_upToFour :
    ∃ result, buildPlan (pairDescriptor "FLASH_ATTN" [pairRank 0, pairRank 1]) (upTo 4) =
      .ok result ∧ ∀ sha256, ∃ document, result.toDict sha256 = .ok document ∧
        plannerJsonSchema.accepts document = true := by
  have hplan : ∃ result, buildPlan (pairDescriptor "FLASH_ATTN" [pairRank 0, pairRank 1])
      (upTo 4) = .ok result := ⟨_, rfl⟩
  obtain ⟨result, hresult⟩ := hplan
  refine ⟨result, hresult, ?_⟩
  intro sha256
  obtain ⟨document, hdocument⟩ := (toDict_returns sha256
    (GeometryDescriptor.wellFormed_of_construct construct_pair) (planned_of_buildPlan hresult)).mpr
      ⟨by decide +kernel, by decide +kernel⟩
  exact ⟨document, hdocument,
    accepts_plan sha256 asciiUpper _ _ (upTo 4) result document construct_pair rfl hresult
      hdocument⟩

end Kapsl.Vllm
