import Kapsl.Vllm.Plan

/-!
# Vllm/PlanEmission — which plans can be printed

`build_plan` checks the total it grants at first, and `to_dict` still has two things to do that can
fail: add up the virtual maxima of the ranks, and encode the canonical JSON.  Neither is implied by
a check of `build_plan`, and both run outside the `try` of `run`.

`emits_iff` says exactly which plans are printed: the maxima fit together (`MaximumFits`), and no
text of the geometry holds a surrogate.
-/

namespace Kapsl.Vllm

open JsonText (Value)

/-! ## Surrogates in a document -/

/-- Whether a text of a document holds a surrogate. -/
def hasSurrogate (v : Value) : Bool := v.content.any isSurrogate

theorem beyondAscii_isSurrogate : JsonText.BeyondAscii isSurrogate := by
  intro c hc
  rw [isSurrogate, Bool.and_eq_false_iff]
  exact .inl (decide_eq_false (by omega))

theorem isSurrogate_ofChar (c : Char) : isSurrogate (JsonText.ofChar c) = false := by
  have hvalid : c.toNat < 0xd800 ∨ 0xdfff < c.toNat ∧ c.toNat < 0x110000 := c.valid
  rw [isSurrogate, Bool.and_eq_false_iff, decide_eq_false_iff_not, decide_eq_false_iff_not]
  simp only [JsonText.ofChar]
  omega

theorem any_isSurrogate_ofString (s : String) :
    (JsonText.ofString s).any isSurrogate = false := by
  rw [List.any_eq_false]
  intro c hc
  obtain ⟨a, -, rfl⟩ := List.mem_map.mp hc
  rw [isSurrogate_ofChar]
  exact Bool.false_ne_true

@[simp] theorem hasSurrogate_nat (n : ℕ) : hasSurrogate (Value.nat n) = false := rfl

@[simp] theorem hasSurrogate_bool (b : Bool) : hasSurrogate (.bool b) = false := rfl

@[simp] theorem hasSurrogate_text (s : PyStr) : hasSurrogate (.text s) = s.any isSurrogate := rfl

@[simp] theorem hasSurrogate_literal (s : String) : hasSurrogate (Value.literal s) = false :=
  any_isSurrogate_ofString s

@[simp] theorem hasSurrogate_list (items : List Value) :
    hasSurrogate (.list items) = items.any hasSurrogate := by
  rw [hasSurrogate, Value.content, JsonText.contentItems_eq, List.any_flatMap]
  rfl

/-- The keys of a dict are written in the source. -/
@[simp] theorem hasSurrogate_ofFields (fields : List (String × Value)) :
    hasSurrogate (.ofFields fields) = fields.any fun field => hasSurrogate field.2 := by
  rw [hasSurrogate, Value.ofFields, Value.content, JsonText.contentFields_eq, List.any_flatMap,
    (List.perm_insertionSort _ fields).any_eq]
  congr 1
  funext field
  rw [List.any_append, any_isSurrogate_ofString, Bool.false_or]
  rfl

/-! ## The texts of a geometry -/

/-- The texts of a group. -/
def CacheGroupGeometry.texts (group : CacheGroupGeometry PyStr) : List PyStr :=
  group.groupId :: group.layers ++ [group.elementType.name]

/-- The texts of a descriptor. -/
def GeometryDescriptor.texts (d : GeometryDescriptor) : List PyStr :=
  [d.identity.adapterId, d.identity.adapterVersion, d.identity.backendVersion,
    d.identity.profileId, d.modelFingerprint, d.attentionBackend, d.layoutId] ++
    d.ranks.flatMap fun rank => rank.groups.flatMap (·.texts)

theorem CacheGroupGeometry.hasSurrogate_toDict (group : CacheGroupGeometry PyStr) :
    hasSurrogate group.toDict = group.texts.any fun text => text.any isSurrogate := by
  have hpolicy : hasSurrogate group.policyDict = false := by
    rw [policyDict, hasSurrogate_ofFields]
    rcases group.windowTokens with _ | window <;> simp
  simp only [toDict, texts, ElementType.toDict, hasSurrogate_ofFields, hasSurrogate_text,
    hasSurrogate_list, hasSurrogate_nat, hpolicy, List.any_cons, List.any_nil, List.any_map,
    List.any_append, Bool.or_false, Bool.false_or, Function.comp_def, Bool.or_assoc]

theorem RankGeometry.hasSurrogate_toDict {rank : RankGeometry PyStr} {doc : Value}
    (h : rank.toDict = .ok doc) :
    hasSurrogate doc =
      (rank.groups.flatMap (·.texts)).any fun text => text.any isSurrogate := by
  simp only [RankGeometry.toDict, Except.bind_eq_ok, Except.pure_eq_ok] at h
  obtain ⟨required, -, rfl⟩ := h
  simp only [hasSurrogate_ofFields, hasSurrogate_list, hasSurrogate_nat, List.any_cons,
    List.any_nil, List.any_map, List.any_flatMap, Bool.or_false, Bool.false_or, Function.comp_def,
    CacheGroupGeometry.hasSurrogate_toDict]

/-- **A surrogate in the document is a surrogate in a text of the descriptor.** -/
theorem GeometryDescriptor.hasSurrogate_toDict {d : GeometryDescriptor} {doc : Value}
    (h : d.toDict = .ok doc) :
    hasSurrogate doc = d.texts.any fun text => text.any isSurrogate := by
  simp only [GeometryDescriptor.toDict, Except.bind_eq_ok, Except.pure_eq_ok] at h
  obtain ⟨total, -, docs, hdocs, rfl⟩ := h
  have hranks : docs.any hasSurrogate =
      (d.ranks.flatMap fun rank => rank.groups.flatMap (·.texts)).any
        fun text => text.any isSurrogate := by
    have hmap := Except.map_eq_map_of_mapM (g := hasSurrogate)
      (fun rank _ doc => RankGeometry.hasSurrogate_toDict) hdocs
    have hany := congrArg (List.any · id) hmap
    simpa only [List.any_map, Function.comp_def, id, List.any_flatMap] using hany
  simp only [texts, PlannerIdentity.toDict, hasSurrogate_ofFields, hasSurrogate_text,
    hasSurrogate_list, hasSurrogate_nat, hranks, List.any_cons, List.any_nil, List.any_append,
    Bool.or_false, Bool.false_or, Bool.or_assoc]

/-! ## Encoding -/

theorem encodeUtf8_returns {text : PyStr} :
    (∃ bytes, encodeUtf8 text = .ok bytes) ↔ text.any isSurrogate = false := by
  simp only [encodeUtf8, Except.bind_eq_ok, Except.raiseIf_eq_ok, Except.pure_eq_ok,
    Bool.not_eq_true]
  constructor
  · rintro ⟨_, _, h, _⟩
    exact h
  · exact fun h => ⟨_, (), h, rfl⟩

/-- The texts of a descriptor hold no surrogate. -/
def GeometryDescriptor.NoSurrogate (d : GeometryDescriptor) : Prop :=
  ∀ text ∈ d.texts, ∀ c ∈ text, isSurrogate c = false

theorem GeometryDescriptor.noSurrogate_iff {d : GeometryDescriptor} :
    d.NoSurrogate ↔ (d.texts.any fun text => text.any isSurrogate) = false := by
  simp only [NoSurrogate, List.any_eq_false, Bool.not_eq_true]

instance (d : GeometryDescriptor) : Decidable d.NoSurrogate :=
  decidable_of_iff _ GeometryDescriptor.noSurrogate_iff.symm

/-- **The digest is computed** from a document without surrogates, and only from such. -/
theorem GeometryDescriptor.geometryDigest_returns {d : GeometryDescriptor} {doc : Value}
    {sha256 : List UInt8 → Vector UInt8 32} (h : d.toDict = .ok doc) :
    (∃ digest, d.geometryDigest sha256 = .ok digest) ↔ d.NoSurrogate := by
  have hjson : d.canonicalJson = .ok (JsonText.render
      (.ofFields [("schema_version", Value.nat 1), ("geometry", doc)])) := by
    simp only [canonicalJson, canonicalPayload, h, Except.bind_eq_ok, Except.pure_eq_ok]
    exact ⟨_, ⟨_, rfl, rfl⟩, rfl⟩
  have hcontent : (JsonText.render (.ofFields [("schema_version", Value.nat 1),
      ("geometry", doc)])).any isSurrogate = d.texts.any fun text => text.any isSurrogate := by
    rw [JsonText.any_render beyondAscii_isSurrogate, ← hasSurrogate, hasSurrogate_ofFields,
      ← hasSurrogate_toDict h]
    simp only [List.any_cons, List.any_nil, hasSurrogate_nat, Bool.or_false, Bool.false_or]
  rw [noSurrogate_iff, ← hcontent, ← encodeUtf8_returns]
  simp only [geometryDigest, hjson, Except.bind_eq_ok, Except.pure_eq_ok]
  constructor
  · rintro ⟨_, bytes, ⟨_, ⟨⟩, hbytes⟩, -⟩
    exact ⟨bytes, hbytes⟩
  · rintro ⟨bytes, hbytes⟩
    exact ⟨_, bytes, ⟨_, rfl, hbytes⟩, rfl⟩

/-! ## The virtual maxima -/

/-- The virtual maximum of a rank, in blocks: the workload at `maximum_concurrency` with its
headroom, aligned, under the cap of `max_bytes`. -/
def RankGeometry.maximumBlocks (rank : RankGeometry PyStr) (policy : SizingPolicy)
    (maximumConcurrency : ℕ) : ℕ :=
  let workload := (rank.groups.map (·.requiredBlocksPerSequence)).sum * maximumConcurrency +
    policy.prefixBlocks
  let uncapped := Nat.alignUp policy.alignmentBlocks
    (rank.fixedOverheadBlocks + workload + (workload * policy.headroomPercent) ⌈/⌉ 100)
  match policy.maxBytes with
  | none => uncapped
  | some maxBytes =>
    min uncapped (Nat.alignDown policy.alignmentBlocks (maxBytes / rank.poolBytesPerBlock))

/-- With a `maximum_concurrency`, the virtual maxima of all ranks together fit 64 bits. -/
def MaximumFits (d : GeometryDescriptor) (policy : SizingPolicy) : Prop :=
  ∀ maximumConcurrency ∈ policy.maximumConcurrency, ∀ rank ∈ d.ranks,
    d.tensorParallelSize *
      (rank.maximumBlocks policy maximumConcurrency * rank.poolBytesPerBlock) ≤ uint64Max

instance (d : GeometryDescriptor) (policy : SizingPolicy) : Decidable (MaximumFits d policy) :=
  inferInstanceAs (Decidable (∀ M ∈ policy.maximumConcurrency, ∀ rank ∈ d.ranks,
    d.tensorParallelSize * (rank.maximumBlocks policy M * rank.poolBytesPerBlock) ≤ uint64Max))

/-- **The virtual maximum of a sized rank**: what is desired without `maximum_concurrency`,
`maximumBlocks` with one. -/
theorem sizeRank_maximumBytes {rank : RankGeometry PyStr} {policy : SizingPolicy}
    {sizing : RankSizing} (h : sizeRank rank policy = .ok sizing) :
    (policy.maximumConcurrency = none → sizing.maximumBytes = sizing.desiredBytes) ∧
      ∀ M, policy.maximumConcurrency = some M →
        sizing.maximumBytes = rank.maximumBlocks policy M * rank.poolBytesPerBlock := by
  have hc := sizeRank_computed h
  obtain ⟨-, hdesB, hmaxB⟩ := hc.bytes
  have hmaximum := hc.maximum
  unfold maximumBlocksFor at hmaximum
  refine ⟨?_, ?_⟩
  · intro hnone
    simp only [hnone] at hmaximum
    rw [hmaxB, hdesB, Except.ok.inj hmaximum]
  · intro M hsome
    have hsum := foldlM_checkedAdd_eq_ok _ _ _ hc.sequence
    rw [Nat.zero_add] at hsum
    simp only [hsome, Except.bind_eq_ok, checkedAdd_eq_ok, checkedMul_eq_ok, ceilDiv_eq_ok,
      roundUp_eq_ok, Except.pure_eq_ok] at hmaximum
    obtain ⟨_, ⟨-, -, rfl⟩, _, ⟨-, rfl⟩, _, ⟨-, -, rfl⟩, _, ⟨-, -, rfl⟩, _, ⟨-, rfl⟩, _, ⟨-, rfl⟩,
      _, ⟨-, -, -, rfl⟩, _, hcap, _, -, heq⟩ := hmaximum
    have hvalue := heq.symm.trans (capMaximum_value hcap)
    rw [RankGeometry.maximumBlocks, hsum]
    exact hmaxB.trans (congrArg (· * rank.poolBytesPerBlock) hvalue)

/-! ## Which plans are printed -/

variable {d : GeometryDescriptor} {policy : SizingPolicy} {result : PlanningResult}

/-- A geometry that was planned has a document: sizing a rank has added up what its groups need. -/
theorem toDict_of_planned (hd : d.WellFormed) (h : result.Planned d policy) :
    ∃ doc, d.toDict = .ok doc := by
  obtain ⟨total, htotal⟩ := hd.total
  have hdocs : ∃ docs, d.ranks.mapM (·.toDict) = .ok docs := by
    refine Except.mapM_returns ?_
    intro rank hrank
    obtain ⟨sizing, -, hsizing⟩ := Except.exists_mem_of_mapM h.ranks hrank
    obtain ⟨required, hrequired, -⟩ := Except.bind_eq_ok.mp hsizing
    exact ⟨_, Except.bind_eq_ok.mpr ⟨required, hrequired, rfl⟩⟩
  obtain ⟨docs, hdocs⟩ := hdocs
  simp only [GeometryDescriptor.toDict, Except.bind_eq_ok, Except.pure_eq_ok]
  exact ⟨_, total, htotal, docs, hdocs, rfl⟩

/-- The ranks of a plan have one virtual maximum, so their total is a product. -/
theorem sum_maximumBytes (h : result.Planned d policy) {sizing : RankSizing}
    (hsizing : sizing ∈ result.ranks) :
    (result.ranks.map (·.maximumBytes)).sum = d.tensorParallelSize * sizing.maximumBytes := by
  obtain ⟨bytes, hbytes⟩ := h.maximum
  have hconst : result.ranks.map (·.maximumBytes) =
      List.replicate result.ranks.length sizing.maximumBytes := by
    rw [← List.map_const', List.map_inj_left]
    intro other hother
    rw [hbytes other hother, hbytes sizing hsizing]
  rw [hconst, List.sum_replicate_nat, h.length]

/-- **The maxima of a plan add up** exactly when they fit. -/
theorem totalMaximumBytes_returns (hd : d.WellFormed) (h : result.Planned d policy) :
    (∃ total, result.totalMaximumBytes = .ok total) ↔ MaximumFits d policy := by
  simp only [PlanningResult.totalMaximumBytes, foldlM_checkedAdd_iff]
  constructor
  · rintro ⟨_, rfl, hfits⟩ M hM rank hrank
    obtain ⟨sizing, hmem, hsizing⟩ := Except.exists_mem_of_mapM h.ranks hrank
    rw [← (sizeRank_maximumBytes hsizing).2 M hM, ← sum_maximumBytes h hmem]
    exact hfits
  · intro hfits
    refine ⟨_, rfl, ?_⟩
    rcases hM : policy.maximumConcurrency with _ | M
    · -- Without a maximum the total is the one `build_plan` has checked.
      obtain ⟨total, htotal⟩ := h.total
      obtain ⟨rfl, hle⟩ := (foldlM_checkedAdd_iff _ _ _).mp htotal
      have hsame : result.ranks.map (·.maximumBytes) = result.ranks.map (·.desiredBytes) := by
        rw [List.map_inj_left]
        intro sizing hsizing
        obtain ⟨rank, -, hsized⟩ := Except.exists_of_mem_mapM h.ranks hsizing
        exact (sizeRank_maximumBytes hsized).1 hM
      rw [hsame]
      exact hle
    · obtain ⟨rank, hrank⟩ := List.exists_mem_of_ne_nil _ hd.ranks_ne_nil
      obtain ⟨sizing, hmem, hsizing⟩ := Except.exists_mem_of_mapM h.ranks hrank
      rw [sum_maximumBytes h hmem, (sizeRank_maximumBytes hsizing).2 M hM]
      exact hfits M hM rank hrank

theorem toDict_returns (sha256 : List UInt8 → Vector UInt8 32) (hd : d.WellFormed)
    (h : result.Planned d policy) :
    (∃ document, result.toDict sha256 = .ok document) ↔ MaximumFits d policy ∧ d.NoSurrogate := by
  obtain ⟨doc, hdoc⟩ := toDict_of_planned hd h
  obtain ⟨total, htotal⟩ := h.total
  rw [← totalMaximumBytes_returns hd h, ← GeometryDescriptor.geometryDigest_returns hdoc]
  simp only [PlanningResult.toDict, Except.bind_eq_ok, Except.pure_eq_ok, h.geometry]
  constructor
  · rintro ⟨_, digest, hdigest, _, -, _, -, maximum, hmaximum, -⟩
    exact ⟨⟨maximum, hmaximum⟩, digest, hdigest⟩
  · rintro ⟨⟨maximum, hmaximum⟩, digest, hdigest⟩
    exact ⟨_, digest, hdigest, doc, hdoc, total, htotal, maximum, hmaximum, rfl⟩

/-- **Which plans are printed.**  A plan that `build_plan` has returned is printed, and its digest
computed, exactly when the virtual maxima of the ranks fit 64 bits together and no text of the
geometry holds a surrogate; what `build_plan` raises always ends as a structured error. -/
theorem emits_iff (sha256 : List UInt8 → Vector UInt8 32) (upper : PyStr → PyStr)
    (raw d : GeometryDescriptor) (policy : SizingPolicy) (hd : raw.construct upper = .ok d) :
    (∀ result, buildPlan d policy = .ok result →
      ((∃ document, result.toDict sha256 = .ok document) ∧
        (∃ digest, d.geometryDigest sha256 = .ok digest) ∧
        (∃ document, run sha256 d policy = .exit 0 document) ↔
          MaximumFits d policy ∧ d.NoSurrogate)) ∧
    ∀ error, buildPlan d policy = .error error →
      ∃ message, run sha256 d policy = .exit 2 (failureDict message) := by
  have hwf := GeometryDescriptor.wellFormed_of_construct hd
  refine ⟨?_, ?_⟩
  · intro result hresult
    have hplanned := planned_of_buildPlan hresult
    obtain ⟨doc, hdoc⟩ := toDict_of_planned hwf hplanned
    rw [← toDict_returns sha256 hwf hplanned]
    refine ⟨fun h => h.1, fun h => ⟨h, ?_, ?_⟩⟩
    · rw [GeometryDescriptor.geometryDigest_returns hdoc]
      exact ((toDict_returns sha256 hwf hplanned).mp h).2
    · obtain ⟨document, hdocument⟩ := h
      exact ⟨document, by rw [run, hresult]; simp only [hdocument]⟩
  · intro error herror
    obtain ⟨message, rfl⟩ := buildPlan_raisesOnly error herror
    exact ⟨message, by rw [run, herror]⟩

/-! ## Two ranks -/

/-- One sequence at first, at most this many later. -/
def upTo (maximumConcurrency : ℕ) : SizingPolicy where
  targetConcurrency := 1
  maximumConcurrency := some maximumConcurrency

theorem emits_iff_upToFour :
    let d := pairDescriptor "FLASH_ATTN" [pairRank 0, pairRank 1]
    ∃ result, buildPlan d (upTo 4) = .ok result ∧ ∀ sha256,
      (∃ document, result.toDict sha256 = .ok document) ∧
        (∃ digest, d.geometryDigest sha256 = .ok digest) ∧
        ∃ document, run sha256 d (upTo 4) = .exit 0 document := by
  intro d
  refine ⟨_, rfl, ?_⟩
  intro sha256
  refine ((emits_iff sha256 asciiUpper d d (upTo 4) construct_pair).1 _ rfl).mpr ⟨?_, ?_⟩
  · decide +kernel
  · decide +kernel

/-- **Maxima that do not fit together.**  Each of the two ranks may grow to some `6 * 2 ^ 61` bytes;
the plan is accepted, and `run` ends with an exception. -/
theorem not_emits_hugeMaximum :
    ∃ d result, d.construct asciiUpper = .ok d ∧ (upTo (2 ^ 55)).Valid ∧
      buildPlan d (upTo (2 ^ 55)) = .ok result ∧ ∀ sha256,
        (¬∃ document, result.toDict sha256 = .ok document) ∧
          ∀ code document, run sha256 d (upTo (2 ^ 55)) ≠ .exit code document := by
  have hwf := GeometryDescriptor.wellFormed_of_construct construct_pair
  have hplan : ∃ result, buildPlan (pairDescriptor "FLASH_ATTN" [pairRank 0, pairRank 1])
      (upTo (2 ^ 55)) = .ok result := ⟨_, rfl⟩
  obtain ⟨result, hresult⟩ := hplan
  refine ⟨_, result, construct_pair, rfl, hresult, ?_⟩
  intro sha256
  have hfails : ¬∃ document, result.toDict sha256 = .ok document := by
    rw [toDict_returns sha256 hwf (planned_of_buildPlan hresult)]
    rintro ⟨hfits, -⟩
    revert hfits
    decide +kernel
  refine ⟨hfails, ?_⟩
  intro code document hexit
  rw [run, hresult] at hexit
  rcases hdocument : result.toDict sha256 with error | document'
  · simp only [hdocument] at hexit
    exact nomatch hexit
  · exact hfails ⟨document', hdocument⟩

end Kapsl.Vllm
