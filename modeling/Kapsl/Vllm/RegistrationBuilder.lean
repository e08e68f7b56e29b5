import Kapsl.Vllm.RankExtraction
import Kapsl.Vllm.Registration

/-!
# Vllm/RegistrationBuilder — a registration the connector builds passes the validator

`shared_pool_registration` puts the capacity groups and the topology of a resolved configuration
together and runs `validate_registration` on the result before it is sent.  The validator's checks
are met one by one: `validateCapacityGroups_built` and `validateCacheGroups_built` follow its two
loops, each with the IDs already seen.

* `sharedPoolRegistration_ok` — on builders' output the validator never raises.
-/

namespace Kapsl.Vllm

open Except (raiseIf)

/-! ## The builder -/

/-- The features of a registration: those of `shared_pool_capabilities`, then those
`shared_pool_registration` appends. -/
def registrationFeatures (liveResize multiple granted : Bool) : List Json :=
  [.str "capacity_leasing", .str "direct_attention_access", .str "external_pool_attachment",
    .str "participant_block_selection"] ++
    (if liveResize then [.str "live_pool_resize"] else []) ++
    (if multiple then [.str "multiple_cache_groups"] else []) ++
    (if granted then [.str "provisioning_grant"] else [])

/-- `shared_pool_capabilities`, with all features of the registration. -/
def sharedPoolCapabilities (liveResize multiple granted : Bool) : Json :=
  .obj [("abi_version", abiVersion), ("tier", .str "shared_pool"),
    ("metadata_mode", .str "structured"), ("ownership", .str "kapsl_runtime"),
    ("features", .list (registrationFeatures liveResize multiple granted)),
    ("transports", .list [.obj [("kind", .str (expectedTransport liveResize))]])]

/-- The registration of a shared pool. -/
def sharedPoolFields (participantId backend modelFingerprint : String) (capabilities : Json)
    (capacityGroups : List Json) (profile topology : Json) (provisioningGrant : Option Json) :
    Json :=
  .obj ([("participant_id", .str participantId), ("backend", .str backend),
    ("model_fingerprint", .str modelFingerprint), ("capabilities", capabilities),
    ("capacity_model", .obj [("groups", .list capacityGroups)]), ("adapter_profile", profile),
    ("topology", topology)] ++
    (provisioningGrant.map fun grant => ("provisioning_grant", grant)).toList)

/-- `shared_pool_registration`. -/
def sharedPoolRegistration (I : Interpreter) (participantId modelFingerprint : String)
    (capacityGroups : List Json) (topology profile : Json) (backend : String)
    (provisioningGrant : Option Json) (liveResize : Bool) : Except PyError Json := do
  let capabilities := sharedPoolCapabilities liveResize (decide (capacityGroups.length > 1))
    provisioningGrant.isSome
  let participantId ← nonempty (.str participantId) "participant_id"
  let backend ← nonempty (.str backend) "backend"
  let modelFingerprint ← nonempty (.str modelFingerprint) "model_fingerprint"
  let topology ← I.deepcopy topology
  let registration := sharedPoolFields participantId backend modelFingerprint capabilities
    capacityGroups profile topology provisioningGrant
  validateRegistration I registration
  pure registration

/-! ## Fields -/

section Fields

variable {n : ℕ} {field : String}

theorem strictNonnegativeInteger_eq_ok {value : Json}
    (h : strictNonnegativeInteger value field = .ok n) : value = .int n := by
  unfold strictNonnegativeInteger at h
  split at h
  · next m =>
    split at h
    · exact nomatch h
    · obtain rfl := Except.ok.inj h
      congr 1
      omega
  · exact nomatch h

end Fields

/-- After group `k` the IDs from `k + 1` on are fresh. -/
theorem fresh_succ {k : ℕ} {seen : List String}
    (h : ∀ index, k ≤ index → vllmGroupId index ∉ seen) :
    ∀ index, k + 1 ≤ index → vllmGroupId index ∉ vllmGroupId k :: seen := by
  intro index hindex hmem
  obtain heq | hmem := List.mem_cons.mp hmem
  · have := vllmGroupId_injective heq
    omega
  · exact h index (by omega) hmem

/-! ## Capacity groups -/

theorem domainIdentity_cuda {I : Interpreter} {domain : Json} {d : ℕ}
    (hkind : domain.get "kind" = .str "cuda") (hdevice : domain.get "device_id" = .int d) :
    domainIdentity I domain = .ok (.cuda d) := by
  rw [domainIdentity, hkind, hdevice]
  rfl

/-- **CUDA domains with distinct devices pass.** -/
theorem validateDomains_cuda {I : Interpreter} {domains : List Json} {deviceIds : List ℕ}
    {seen : List DomainIdentity} {k : ℕ}
    (hcuda : ∀ domain ∈ domains, domain.isMapping ∧ domain.get "kind" = .str "cuda")
    (hids : ((domains.zipIdx k).mapM fun (domain, index) => strictNonnegativeInteger
      (domain.get "device_id") s!"kapsl_memory_domains[{index}].device_id") = .ok deviceIds)
    (hnodup : deviceIds.Nodup) (hfresh : ∀ d ∈ deviceIds, .cuda d ∉ seen) :
    ∃ seenDomains, validateDomains I domains seen = .ok seenDomains := by
  induction domains generalizing deviceIds seen k with
  | nil => exact ⟨seen, rfl⟩
  | cons domain domains ih =>
    obtain ⟨⟨hmapping, hkind⟩, hrest⟩ := List.forall_mem_cons.mp hcuda
    simp only [List.zipIdx_cons, List.mapM_cons, Except.bind_eq_ok, Except.pure_eq_ok] at hids
    obtain ⟨d, hd, ds, hds, rfl⟩ := hids
    obtain ⟨hnotin, hds'⟩ := List.nodup_cons.mp hnodup
    obtain ⟨hd', hfresh⟩ := List.forall_mem_cons.mp hfresh
    have hfresh' : ∀ e ∈ ds, DomainIdentity.cuda e ∉ .cuda d :: seen := by
      intro e he hmem
      obtain heq | hmem := List.mem_cons.mp hmem
      · rw [DomainIdentity.cuda.injEq] at heq
        exact hnotin (heq ▸ he)
      · exact hfresh e he hmem
    obtain ⟨seenDomains, hseen⟩ := ih hrest hds hds' hfresh'
    refine ⟨seenDomains, ?_⟩
    simp only [validateDomains, Except.bind_eq_ok, Except.raiseIf_eq_ok]
    exact ⟨domain, mapping_of_isMapping hmapping, .cuda d,
      domainIdentity_cuda hkind (strictNonnegativeInteger_eq_ok hd), (), hd', hseen⟩

/-- **The capacity groups of a resolved configuration pass**: the IDs are fresh, and every group
names the same domains. -/
theorem validateCapacityGroups_built {I : Interpreter} {domains : List Json}
    {seenDomains : List DomainIdentity} {stride blocks : ℤ} {topologies : List CacheGroupTopology}
    {k : ℕ} {seen : List String} {poolDomains : List (String × List DomainIdentity)}
    (hdomains : validateDomains I domains [] = .ok seenDomains) (hne : domains ≠ [])
    (hstride : 1 ≤ stride) (hblocks : 1 ≤ blocks)
    (hsizes : ∀ topology ∈ topologies, 1 ≤ topology.blockSizeTokens)
    (hfresh : ∀ index, k ≤ index → vllmGroupId index ∉ seen)
    (hpool : (poolDomains.lookup "vllm.pool.0").getD seenDomains = seenDomains) :
    validateCapacityGroups I true ((topologies.zipIdx k).map fun (topology, index) =>
        capacityGroup domains stride blocks index topology.blockSizeTokens) seen poolDomains =
      .ok (((topologies.zipIdx k).map fun (_, index) => vllmGroupId index).reverse ++ seen) := by
  induction topologies generalizing k seen poolDomains with
  | nil => rfl
  | cons topology topologies ih =>
    obtain ⟨hsize, hsizes⟩ := List.forall_mem_cons.mp hsizes
    have hpool' : ((poolDomains ++ [("vllm.pool.0", seenDomains)]).lookup "vllm.pool.0").getD
        seenDomains = seenDomains := by
      rw [List.lookup_append]
      rcases hlookup : poolDomains.lookup "vllm.pool.0" with _ | found
      · rfl
      · rw [hlookup] at hpool
        exact hpool
    simp only [List.zipIdx_cons, List.map_cons, validateCapacityGroups, Except.bind_eq_ok,
      Except.raiseIf_eq_ok, not_not]
    refine ⟨_, rfl, vllmGroupId k, nonempty_str (isText_vllmGroupId k).2, "vllm.pool.0", rfl, (),
      hfresh k le_rfl, _, positiveInt_natCast hsize, stride.toNat, if_neg (by omega), domains,
      nonemptyListOr_list hne,
      seenDomains, hdomains, (), ?_, (), ?_, ?_⟩
    · rw [hpool]
      exact ⟨fun _ h => h, fun _ h => h⟩
    · exact Except.bind_eq_ok.mpr ⟨blocks.toNat, if_neg (by omega), rfl⟩
    · rw [ih hsizes (fresh_succ hfresh) hpool', List.reverse_cons, List.append_assoc]
      rfl

/-! ## Topology -/

/-- Layers counted from `next` have fresh indices. -/
theorem validateLayers_built {layers : List String} {next : ℕ} {seen : List ℕ}
    (hlayers : ∀ layer ∈ layers, IsText layer) (hseen : ∀ index ∈ seen, index < next) :
    validateLayers (topologyLayers next layers) seen = .ok () := by
  induction layers generalizing next seen with
  | nil => rfl
  | cons layer layers ih =>
    obtain ⟨hlayer, hlayers⟩ := List.forall_mem_cons.mp hlayers
    have hseen' : ∀ index ∈ next :: seen, index < next + 1 := by
      intro index hindex
      obtain rfl | hindex := List.mem_cons.mp hindex
      · omega
      · have := hseen index hindex
        omega
    have hfresh : next ∉ seen := fun hmem => absurd (hseen next hmem) (lt_irrefl next)
    simp only [topologyLayers, List.zipIdx_cons, List.map_cons, validateLayers, Except.bind_eq_ok,
      Except.raiseIf_eq_ok]
    exact ⟨_, rfl, next, nonnegativeInt_natCast, (), hfresh, (),
      Except.bind_eq_ok.mpr ⟨layer, nonempty_str hlayer.2, rfl⟩, ih hlayers hseen'⟩

/-- Every certified dtype has a wire form that passes. -/
theorem validateElementType_built {I : Interpreter} {name : String} {bits : ℕ} {element : Json}
    (hname : dtypeBits name = some bits) (h : wireElementType name = .ok element) :
    element.isMapping ∧ validateElementType I element = .ok () := by
  unfold dtypeBits at hname
  split at hname
  case h_12 => exact nomatch hname
  all_goals
    obtain rfl := Except.ok.inj h
    exact ⟨rfl, rfl⟩

theorem validateGeometry_built {I : Interpreter} {layoutId : String} {index : ℕ}
    {group : CacheGroupTopology} {element : Json} (hgroup : group.Certified index)
    (h : wireElementType group.elementType.name = .ok element) :
    validateGeometry I (topologyGeometry layoutId group element) = .ok () := by
  obtain ⟨hmapping, helement⟩ := validateElementType_built (I := I) hgroup.elementType h
  simp only [validateGeometry, Except.bind_eq_ok, Except.raiseIf_eq_ok, Except.forM_eq_ok]
  refine ⟨(), by rintro ⟨⟩, (), ?_, element, mapping_of_isMapping hmapping, (), helement, _, rfl, ?_⟩
  · intro field hfield
    simp only [List.mem_cons, List.not_mem_nil, or_false] at hfield
    obtain rfl | rfl | rfl | rfl := hfield
    · exact ⟨_, positiveInt_natCast hgroup.blockSizeTokens, rfl⟩
    · exact ⟨_, positiveInt_natCast hgroup.kvHeads, rfl⟩
    · exact ⟨_, positiveInt_natCast hgroup.keyHeadDim, rfl⟩
    · exact ⟨_, positiveInt_natCast hgroup.valueHeadDim, rfl⟩
  · exact ⟨"backend_native", rfl, rfl⟩

theorem validatePolicy_built {group : CacheGroupTopology} {index : ℕ}
    (hgroup : group.Certified index) : validatePolicy (topologyPolicy group) = .ok () := by
  have hwindow := hgroup.window
  rcases hkind : group.policyKind with _ | _
  · simp only [topologyPolicy, hkind]
    rfl
  · simp only [hkind] at hwindow
    obtain ⟨window, hsome, hpos⟩ := hwindow
    simp only [topologyPolicy, hkind, hsome, validatePolicy, Except.bind_eq_ok]
    exact ⟨true, rfl, (), rfl, Except.bind_eq_ok.mpr ⟨window, positiveInt_natCast hpos, rfl⟩⟩

/-- **The cache groups of a topology pass.** -/
theorem validateCacheGroups_built {I : Interpreter} {layoutId : String}
    {topologies : List CacheGroupTopology} {k next : ℕ} {items : List Json} {seen : List String}
    (hcertified : ∀ pair ∈ topologies.zipIdx k, pair.1.Certified pair.2)
    (hfresh : ∀ index, k ≤ index → vllmGroupId index ∉ seen)
    (h : topologyGroups layoutId topologies next = .ok items) :
    validateCacheGroups I items seen =
      .ok (((topologies.zipIdx k).map fun (_, index) => vllmGroupId index).reverse ++ seen) := by
  induction topologies generalizing k next items seen with
  | nil =>
    obtain rfl := Except.ok.inj h
    rfl
  | cons topology topologies ih =>
    rw [List.zipIdx_cons] at hcertified
    obtain ⟨hgroup, hcertified⟩ := List.forall_mem_cons.mp hcertified
    simp only [topologyGroups, topologyGroup, Except.bind_eq_ok, Except.pure_eq_ok] at h
    obtain ⟨_, ⟨element, helement, rfl⟩, rest, hrest, rfl⟩ := h
    have hlayers : topologyLayers next topology.layers ≠ [] := by
      rw [topologyLayers, Ne, List.map_eq_nil_iff, List.zipIdx_eq_nil_iff]
      exact hgroup.layers_ne_nil
    have hpolicy : (topologyPolicy topology).isMapping := by
      unfold topologyPolicy
      split <;> rfl
    have hid : nonempty (.str topology.groupId) "topology group_id" = .ok (vllmGroupId k) := by
      rw [hgroup.groupId]
      exact nonempty_str (isText_vllmGroupId k).2
    simp only [validateCacheGroups, Except.bind_eq_ok, Except.raiseIf_eq_ok]
    refine ⟨_, rfl, vllmGroupId k, hid, (), hfresh k le_rfl, _, nonemptyListOr_list hlayers, (),
      validateLayers_built hgroup.layers (by rintro _ ⟨⟩), _, rfl, (), validateGeometry_built hgroup helement,
      _, mapping_of_isMapping hpolicy, (), validatePolicy_built hgroup, ?_⟩
    rw [ih hcertified (fresh_succ hfresh) hrest, List.zipIdx_cons, List.map_cons,
      List.reverse_cons, List.append_assoc]
    rfl

/-! ## The copy of the topology -/

/-- Whether a value nests lists and objects at most `depth` deep. -/
def Json.nestsWithin : ℕ → Json → Bool
  | _, .null | _, .bool _ | _, .int _ | _, .float _ | _, .str _ => true
  | 0, .list _ | 0, .obj _ => false
  | depth + 1, .list items => items.all (nestsWithin depth)
  | depth + 1, .obj fields => fields.all fun field => nestsWithin depth field.2

theorem nestsWithin_topologyGroup {layoutId : String} {next : ℕ} {group : CacheGroupTopology}
    {item : Json} (h : topologyGroup layoutId next group = .ok item) : item.nestsWithin 3 := by
  simp only [topologyGroup, Except.bind_eq_ok, Except.pure_eq_ok] at h
  obtain ⟨element, helement, rfl⟩ := h
  have hlayers : (topologyLayers next group.layers).all (Json.nestsWithin 1) := by
    rw [topologyLayers, List.all_map, List.all_eq_true]
    exact fun _ _ => rfl
  have hpolicy : (topologyPolicy group).nestsWithin 2 := by
    unfold topologyPolicy
    split
    · rcases group.windowTokens with _ | window <;> rfl
    · rfl
  have helement : element.nestsWithin 1 := by
    unfold wireElementType at helement
    simp only at helement
    split at helement
    · exact Except.ok.inj helement ▸ rfl
    · split at helement
      · cases helement
      · exact Except.ok.inj helement ▸ rfl
  simp [Json.nestsWithin, hlayers, hpolicy, helement, topologyGeometry]

theorem nestsWithin_topologyGroups {layoutId : String} {groups : List CacheGroupTopology} {next : ℕ}
    {items : List Json} (h : topologyGroups layoutId groups next = .ok items) :
    items.all (Json.nestsWithin 3) := by
  induction groups generalizing next items with
  | nil => exact Except.ok.inj h ▸ rfl
  | cons group groups ih =>
    simp only [topologyGroups, Except.bind_eq_ok, Except.pure_eq_ok] at h
    obtain ⟨first, hfirst, rest, hrest, rfl⟩ := h
    rw [List.all_cons, nestsWithin_topologyGroup hfirst, ih hrest]
    rfl

/-- **A topology nests no deeper than its layers do.** -/
theorem nestsWithin_vllmTopology {I : Interpreter} {classifier : CacheSpecClassifier}
    {config : ResolvedConfig} {modelFingerprint : String} {worldSize : ℕ} {topology : Json}
    (h : vllmTopology I classifier config modelFingerprint worldSize = .ok topology) :
    topology.nestsWithin 5 := by
  simp only [vllmTopology, Except.bind_eq_ok, Except.pure_eq_ok] at h
  obtain ⟨-, -, groups, -, items, hitems, rfl⟩ := h
  have hgroups := nestsWithin_topologyGroups hitems
  simp [Json.nestsWithin, hgroups, abiVersion]

/-! ## The registration -/

section Capabilities

variable {liveResize multiple granted : Bool}

theorem requireFeatures_built :
    requireFeatures (registrationFeatures liveResize multiple granted) = .ok () := by
  rcases liveResize with _ | _ <;> rcases multiple with _ | _ <;> rcases granted with _ | _ <;> rfl

theorem hasFeature_live :
    hasFeature (registrationFeatures liveResize multiple granted) "live_pool_resize" =
      liveResize := by
  rcases liveResize with _ | _ <;> rcases multiple with _ | _ <;> rcases granted with _ | _ <;> rfl

theorem hasFeature_multiple :
    hasFeature (registrationFeatures liveResize multiple granted) "multiple_cache_groups" =
      multiple := by
  rcases liveResize with _ | _ <;> rcases multiple with _ | _ <;> rcases granted with _ | _ <;> rfl

theorem hasFeature_grant :
    hasFeature (registrationFeatures liveResize multiple granted) "provisioning_grant" =
      granted := by
  rcases liveResize with _ | _ <;> rcases multiple with _ | _ <;> rcases granted with _ | _ <;> rfl

end Capabilities

theorem validateSharedPoolTier_built {registration profile : Json}
    {liveResize multiple granted : Bool}
    (hprofile : registration.get "adapter_profile" = profile) (hmapping : profile.isMapping)
    (h : validateAdapterProfile profile = .ok ()) :
    validateSharedPoolTier registration (sharedPoolCapabilities liveResize multiple granted)
      (registrationFeatures liveResize multiple granted)
      [.obj [("kind", .str (expectedTransport liveResize))]] = .ok () := by
  simp only [validateSharedPoolTier, Except.bind_eq_ok, Except.raiseIf_eq_ok, hasFeature_live,
    hprofile]
  refine ⟨(), by rintro ⟨⟩, (), by rintro ⟨⟩, (), requireFeatures_built, (), ?_, (),
    fun h => h.2 rfl, profile,
    mapping_of_isMapping hmapping, h⟩
  rcases liveResize with _ | _
  · rintro ⟨⟩
  · rintro ⟨⟩

theorem length_topologyGroups {layoutId : String} {groups : List CacheGroupTopology} {next : ℕ}
    {items : List Json} (h : topologyGroups layoutId groups next = .ok items) :
    items.length = groups.length := by
  induction groups generalizing next items with
  | nil => exact Except.ok.inj h ▸ rfl
  | cons group groups ih =>
    simp only [topologyGroups, Except.bind_eq_ok, Except.pure_eq_ok] at h
    obtain ⟨first, -, rest, hrest, rfl⟩ := h
    rw [List.length_cons, List.length_cons, ih hrest]

theorem validateTopologyShard_built {worldSize : ℕ} (h : 1 ≤ worldSize) :
    validateTopologyShard (.obj [("tensor_parallel_rank", .int 0),
      ("tensor_parallel_world_size", .int worldSize), ("pipeline_parallel_rank", .int 0),
      ("pipeline_parallel_world_size", .int 1)]) = .ok () := by
  simp only [validateTopologyShard, Except.bind_eq_ok, Except.raiseIf_eq_ok]
  exact ⟨worldSize, positiveInt_natCast h, 1, rfl, 0, rfl, 0, rfl, by omega⟩

/-- **A topology passes against the IDs of its own groups.** -/
theorem validateTopology_built {I : Interpreter} {classifier : CacheSpecClassifier}
    {config : ResolvedConfig} {modelFingerprint : String} {worldSize : ℕ} {topology : Json}
    {topologies : List CacheGroupTopology} {liveResize multiple granted : Bool}
    (hworld : 1 ≤ worldSize) (hmultiple : topologies.length > 1 → multiple = true)
    (hextract : extractCacheGroupTopologies I classifier config = .ok topologies)
    (h : vllmTopology I classifier config modelFingerprint worldSize = .ok topology) :
    validateTopology I topology modelFingerprint
      ((topologies.zipIdx.map fun (_, index) => vllmGroupId index).reverse ++ [])
      (sharedPoolCapabilities liveResize multiple granted)
      (registrationFeatures liveResize multiple granted) = .ok () := by
  obtain ⟨hne, hcertified, -⟩ := certified_of_extractCacheGroupTopologies hextract
  simp only [vllmTopology, hextract, Except.bind_eq_ok, Except.pure_eq_ok, Except.ok.injEq] at h
  obtain ⟨-, -, _, rfl, items, hitems, rfl⟩ := h
  have hlength := length_topologyGroups hitems
  have hitems_ne : items ≠ [] := by
    rw [← List.length_pos_iff, hlength, List.length_pos_iff]
    exact hne
  simp only [validateTopology, Except.bind_eq_ok, Except.raiseIf_eq_ok, hasFeature_multiple]
  refine ⟨abiVersion, rfl, (), by rintro ⟨⟩, abiVersion, rfl, (), ?_, (), ?_, _, rfl, (),
    validateTopologyShard_built hworld, items, nonemptyListOr_list hitems_ne, (), ?_, _,
    validateCacheGroups_built hcertified (by rintro _ _ ⟨⟩) hitems, ?_⟩
  · decide +kernel
  · have hself : (modelFingerprint == modelFingerprint) = true := beq_self_eq_true _
    change ¬(modelFingerprint == modelFingerprint) = false
    rw [hself]
    rintro ⟨⟩
  · rintro ⟨hmany, hfalse⟩
    exact absurd (hmultiple (hlength ▸ hmany)) (by rw [hfalse]; rintro ⟨⟩)
  · exact not_not.mpr ⟨fun _ h => h, fun _ h => h⟩

theorem vllmBackingGeometry_stride_pos {config : KvCacheConfig} {bytes blocks stride : ℤ}
    (h : vllmBackingGeometry config = .ok (bytes, blocks, stride)) : 1 ≤ stride := by
  simp only [vllmBackingGeometry, Except.bind_eq_ok, Except.raiseIf_eq_ok, Except.pure_eq_ok,
    Prod.mk.injEq, not_or] at h
  obtain ⟨-, -, -, -, -, ⟨-, hpos⟩, -, -, rfl⟩ := h
  omega

/-- What `_vllm_capacity_groups` built. -/
theorem vllmCapacityGroups_built {I : Interpreter} {classifier : CacheSpecClassifier}
    {config : ResolvedConfig} {memoryDomains capacity : List Json}
    (h : vllmCapacityGroups I classifier config memoryDomains = .ok capacity) :
    ∃ topologies, ∃ stride blocks : ℤ, extractCacheGroupTopologies I classifier config =
      .ok topologies ∧ 1 ≤ stride ∧ 1 ≤ blocks ∧
      capacity = topologies.zipIdx.map fun (topology, index) =>
        capacityGroup memoryDomains stride blocks index topology.blockSizeTokens := by
  simp only [vllmCapacityGroups, Except.bind_eq_ok, Except.pure_eq_ok] at h
  obtain ⟨-, -, blocks, hblocks, topologies, hextract, -, -, ⟨bytes, configured, stride⟩, hbacking,
    -, -, -, -, rfl⟩ := h
  refine ⟨topologies, stride, blocks, hextract, ?_, one_le_of_positiveIntegerValue hblocks, rfl⟩
  simp only [ResolvedConfig.backingGeometry, Except.bind_eq_ok] at hbacking
  obtain ⟨n, -, hbacking⟩ := hbacking
  split at hbacking
  · exact vllmBackingGeometry_stride_pos hbacking
  · obtain ⟨sizes, -, hbacking⟩ := Except.bind_eq_ok.mp hbacking
    exact vllmBackingGeometry_stride_pos hbacking

theorem validateGrantPresence_built {participantId backend modelFingerprint : String}
    {capabilities profile topology : Json} {capacityGroups : List Json} {grant : Option Json}
    {liveResize multiple : Bool}
    (hgrant : ∀ g ∈ grant, g.isMapping ∧ validateProvisioningGrant g = .ok ()) :
    validateGrantPresence (sharedPoolFields participantId backend modelFingerprint capabilities
      capacityGroups profile topology grant)
      (registrationFeatures liveResize multiple grant.isSome) true = .ok () := by
  obtain _ | grant := grant
  · simp only [validateGrantPresence, hasFeature_grant]
    rfl
  · obtain ⟨hmapping, hvalid⟩ := hgrant grant rfl
    have hnull : grant.isNull = false := by
      obtain _ | _ | _ | _ | _ | _ | fields := grant <;> first | rfl | cases hmapping
    have hget : (sharedPoolFields participantId backend modelFingerprint capabilities
        capacityGroups profile topology (some grant)).get "provisioning_grant" = grant := rfl
    simp only [validateGrantPresence, hasFeature_grant, hget, hnull, Except.bind_eq_ok,
      Except.raiseIf_eq_ok]
    exact ⟨(), fun h => h rfl, Except.bind_eq_ok.mpr ⟨(), rfl,
      Except.bind_eq_ok.mpr ⟨grant, mapping_of_isMapping hmapping, hvalid⟩⟩⟩

/-- **The parts of a registration pass together.** -/
theorem validateRegistration_built {I : Interpreter} {participantId modelFingerprint : String}
    {capacity : List Json} {profile topology : Json} {grant : Option Json}
    {liveResize multiple : Bool} {seen : List String} (hparticipant : isBlank participantId = false)
    (hfingerprint : isBlank modelFingerprint = false)
    (hprofile : profile.isMapping ∧ validateAdapterProfile profile = .ok ())
    (hne : capacity ≠ []) (hcapacity : validateCapacityGroups I true capacity [] [] = .ok seen)
    (hmapping : topology.isMapping)
    (htopology : validateTopology I topology modelFingerprint seen
      (sharedPoolCapabilities liveResize multiple grant.isSome)
      (registrationFeatures liveResize multiple grant.isSome) = .ok ())
    (hgrant : ∀ g ∈ grant, g.isMapping ∧ validateProvisioningGrant g = .ok ()) :
    validateRegistration I (sharedPoolFields participantId "vllm" modelFingerprint
      (sharedPoolCapabilities liveResize multiple grant.isSome) capacity profile topology grant) =
        .ok () := by
  simp only [validateRegistration, Except.bind_eq_ok, Except.raiseIf_eq_ok]
  refine ⟨participantId, nonempty_str hparticipant, "vllm", rfl, modelFingerprint,
    nonempty_str hfingerprint, _, rfl, abiVersion, rfl, (), by rintro ⟨⟩, _, rfl, (), by rintro ⟨⟩, true, ?_,
    _, rfl, capacity, nonemptyListOr_list hne, seen, hcapacity, (), ?_,
    validateGrantPresence_built hgrant⟩
  · exact Except.bind_eq_ok.mpr ⟨(), validateSharedPoolTier_built rfl hprofile.1 hprofile.2, rfl⟩
  · exact Except.bind_eq_ok.mpr ⟨topology, mapping_of_isMapping hmapping, htopology⟩

/-- An accepted map leaves one distinct device to each rank. -/
theorem domainDeviceIds_of_validated {config : RankMapOption} {memoryDomains : List Json}
    {map : Option RankDeviceMap} (h : validatedSharedRankDeviceMap config memoryDomains
      (.int memoryDomains.length) = .ok map) :
    1 ≤ memoryDomains.length ∧
      ∃ deviceIds, domainDeviceIds memoryDomains = .ok deviceIds ∧ deviceIds.Nodup := by
  simp only [validatedSharedRankDeviceMap, Except.bind_eq_ok, Except.raiseIf_eq_ok, not_or,
    not_not] at h
  obtain ⟨n, hn, deviceIds, hids, -, ⟨-, hnodup⟩, -⟩ := h
  obtain ⟨hpos, hsize⟩ := LiveResize.positiveInteger_eq_ok hn
  exact ⟨hpos.trans_eq hsize, deviceIds, hids, hnodup⟩

/-- **A registration built for a shared pool is valid.**  Capacity groups, topology and rank map
that the builders accept for CUDA domains, one for each tensor-parallel rank, together with a
non-blank participant ID, a stripped fingerprint, a complete profile and a valid grant or none: the
registration is built, and passes. -/
theorem sharedPoolRegistration_ok (I : Interpreter) (classifier : CacheSpecClassifier)
    (config : ResolvedConfig) (mapOption : RankMapOption) (memoryDomains capacity : List Json)
    (topology profile : Json) (map : Option RankDeviceMap) (participantId modelFingerprint : String)
    (grant : Option Json) (liveResize : Bool)
    (hcopies : ∀ value : Json, value.nestsWithin 5 → I.copies value)
    (hcuda : ∀ domain ∈ memoryDomains, domain.isMapping ∧ domain.get "kind" = .str "cuda")
    (hcapacity : vllmCapacityGroups I classifier config memoryDomains = .ok capacity)
    (htopology : vllmTopology I classifier config modelFingerprint memoryDomains.length =
      .ok topology)
    (hmap : validatedSharedRankDeviceMap mapOption memoryDomains (.int memoryDomains.length) =
      .ok map)
    (hparticipant : isBlank participantId = false) (hfingerprint : IsText modelFingerprint)
    (hprofile : profile.isMapping ∧ validateAdapterProfile profile = .ok ())
    (hgrant : ∀ g ∈ grant, g.isMapping ∧ validateProvisioningGrant g = .ok ()) :
    ∃ registration, sharedPoolRegistration I participantId modelFingerprint capacity topology
      profile "vllm" grant liveResize = .ok registration ∧
        validateRegistration I registration = .ok () := by
  obtain ⟨topologies, stride, blocks, hextract, hstride, hblocks, hbuilt⟩ :=
    vllmCapacityGroups_built hcapacity
  obtain ⟨hworld, deviceIds, hids, hnodup⟩ := domainDeviceIds_of_validated hmap
  obtain ⟨hne, -, -⟩ := certified_of_extractCacheGroupTopologies hextract
  obtain ⟨seenDomains, hdomains⟩ := validateDomains_cuda (I := I) hcuda hids hnodup
    fun _ _ => List.not_mem_nil
  have hdomains_ne : memoryDomains ≠ [] := List.length_pos_iff.mp hworld
  have hsizes : ∀ topology ∈ topologies, 1 ≤ topology.blockSizeTokens := by
    intro group hgroup
    obtain ⟨index, hcertified⟩ := exists_certified hextract group hgroup
    exact hcertified.blockSizeTokens
  have hgroups : validateCapacityGroups I true capacity [] [] = .ok
      ((topologies.zipIdx.map fun (_, index) => vllmGroupId index).reverse ++ []) := by
    rw [hbuilt]
    exact validateCapacityGroups_built hdomains hdomains_ne hstride hblocks hsizes
      (fun _ _ => List.not_mem_nil) rfl
  have hlength : capacity.length = topologies.length := by
    rw [hbuilt, List.length_map, List.length_zipIdx]
  have hcapacity_ne : capacity ≠ [] := by
    rw [← List.length_pos_iff, hlength, List.length_pos_iff]
    exact hne
  have hmapping : topology.isMapping := by
    simp only [vllmTopology, Except.bind_eq_ok, Except.pure_eq_ok] at htopology
    obtain ⟨-, -, _, -, _, -, rfl⟩ := htopology
    rfl
  have hcopy : I.deepcopy topology = .ok topology :=
    if_pos (hcopies topology (nestsWithin_vllmTopology htopology))
  have hvalid : validateRegistration I (sharedPoolFields participantId "vllm" modelFingerprint
      (sharedPoolCapabilities liveResize (decide (capacity.length > 1)) grant.isSome) capacity
      profile topology grant) = .ok () := by
    refine validateRegistration_built hparticipant hfingerprint.2 hprofile hcapacity_ne hgroups
      hmapping (validateTopology_built hworld ?_ hextract htopology) hgrant
    rw [hlength]
    exact fun hmany => decide_eq_true hmany
  refine ⟨_, ?_, hvalid⟩
  simp only [sharedPoolRegistration, Except.bind_eq_ok, Except.pure_eq_ok]
  exact ⟨participantId, nonempty_str hparticipant, "vllm", rfl, modelFingerprint,
    nonempty_str hfingerprint.2, topology, hcopy, (), hvalid, rfl⟩

/-- A complete adapter profile. -/
def smallProfile : Json :=
  .obj [("adapter_id", .str "kapsl-vllm"), ("adapter_version", .str "0.1.0"),
    ("backend_version", .str "0.11.0"), ("profile_id", .str "packed-cuda-ipc")]

/-- A grant that is accepted. -/
def smallGrant : Json :=
  .obj [("token", .str "token"), ("geometry_digest", .str <| "sha256:" ++
      "00000000000000000000000000000000" ++ "00000000000000000000000000000000"),
    ("authority_generation", .int 1), ("expires_at_unix_ms", .int 1)]

/-- One CUDA device. -/
def oneDevice : List Json := [.obj [("kind", .str "cuda"), ("device_id", .int 0)]]

theorem sharedPoolRegistration_ok_twoGroups :
    ∃ capacity topology registration,
      vllmCapacityGroups ClientCall.heartbeatClient.interpreter windowClassifier twoGroups
        oneDevice = .ok capacity ∧
      vllmTopology ClientCall.heartbeatClient.interpreter windowClassifier twoGroups "model" 1 =
        .ok topology ∧
      sharedPoolRegistration ClientCall.heartbeatClient.interpreter "p" "model" capacity topology
        smallProfile "vllm" (some smallGrant) true = .ok registration ∧
      validateRegistration ClientCall.heartbeatClient.interpreter registration = .ok () := by
  have hcuda : ∀ domain ∈ oneDevice, domain.isMapping ∧ domain.get "kind" = .str "cuda" := by
    intro domain hdomain
    obtain rfl := List.mem_singleton.mp hdomain
    exact ⟨rfl, rfl⟩
  obtain ⟨registration, hbuilt, hvalid⟩ := sharedPoolRegistration_ok
    ClientCall.heartbeatClient.interpreter windowClassifier twoGroups .absent oneDevice _ _
    smallProfile none "p" "model" (some smallGrant) true (fun _ _ => rfl) hcuda rfl rfl rfl
    (by decide +kernel) ⟨by decide +kernel, by decide +kernel⟩ ⟨rfl, rfl⟩
    (fun g hg => Option.some.inj hg ▸ ⟨rfl, by decide +kernel⟩)
  exact ⟨_, _, registration, rfl, rfl, hbuilt, hvalid⟩

end Kapsl.Vllm
