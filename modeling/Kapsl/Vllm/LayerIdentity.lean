import Kapsl.Vllm.RankExtraction

/-!
# Vllm/LayerIdentity — the layers a worker attaches against the layers it registered

The registered topology and the worker's `VllmSharedPoolHook` number the layers of a resolved
configuration independently: each runs over the groups and counts.  The topology takes its names
from `_extract_group_topology`, which strips them; the hook keeps `str(layer_name)` as it is, and
`attachment_views` emits that.

* `attached_eq_registered_iff` — the attached layers are the registered ones, each once, exactly
  when no layer name has white space at its ends.
* `attached_ne_registered_paddedName` — one padded name, and the two differ.
-/

namespace Kapsl.Vllm

open Except (raiseIf)

/-! ## The hook -/

/-- `_layer_identity`: the group ID and the index of each layer name, in insertion order. -/
abbrev LayerIdentity := List (String × String × ℕ)

/-- The inner loop of `VllmSharedPoolHook.__init__`: the layers of one group. -/
def identifyLayers (I : Interpreter) (groupIndex : ℕ) :
    List String → LayerIdentity → ℕ → Except PyError (LayerIdentity × ℕ)
  | [], identity, nextLayerIndex => .ok (identity, nextLayerIndex)
  | name :: names, identity, nextLayerIndex => do
    raiseIf (name ∈ identity.map Prod.fst) (.sharedPoolImportError <|
      "vLLM KV layer " ++ I.repr name ++ " appears in more than one cache group")
    identifyLayers I groupIndex names
      (identity ++ [(name, vllmGroupId groupIndex, nextLayerIndex)]) (nextLayerIndex + 1)

/-- The outer loop. -/
def identifyGroups (I : Interpreter) :
    List (RawGroup × ℕ) → LayerIdentity → ℕ → Except PyError LayerIdentity
  | [], identity, _ => .ok identity
  | (group, groupIndex) :: groups, identity, nextLayerIndex =>
    match group.layerNames with
    | none => .error (.typeError "layer_names is not iterable")
    | some layerNames => do
      let (identity, nextLayerIndex) ←
        identifyLayers I groupIndex layerNames identity nextLayerIndex
      identifyGroups I groups identity nextLayerIndex

/-- The imported tensor: where its storage starts, and its size. -/
structure ImportedTensor where
  dataPtr : ℤ
  nbytes : ℤ

/-- What construction obtains from CUDA and from vLLM's modules. -/
structure HookEnvironment where
  /-- `CudaVmmBuffer(…)` or `CudaIpcBuffer(…)`. -/
  importBuffer : Except PyError ImportedTensor
  /-- `_install`, which patches vLLM's allocator. -/
  install : Except PyError Unit
  /-- `int(value)`. -/
  int : Json → Except PyError ℤ

/-- The fields of a `VllmSharedPoolHook` that are set once. -/
structure VllmSharedPoolHook where
  expectedBytes : ℤ
  maximumBlocks : ℤ
  bindingId : String
  layerIdentity : LayerIdentity
  startupMappedBlocks : Option ℤ

/-- The transport half of `VllmSharedPoolHook.__init__`.  Returns `_startup_mapped_blocks`. -/
def importTransport (env : HookEnvironment) (binding : Json) (handles : Option (List ℕ))
    (conformance : Bool) : Except PyError (Option ℤ) := do
  let kind := (binding.get "transport").get "kind"
  raiseIf (conformance = true ∧ kind.eqStr "cuda_vmm" = false)
    (.sharedPoolImportError "shared-pool conformance mode requires CUDA VMM transport")
  if kind.eqStr "cuda_vmm" then do
    raiseIf (handles = none)
      (.sharedPoolImportError "CUDA VMM binding requires out-of-band allocation handles")
    let elastic := binding.get "elastic"
    raiseIf (elastic.isMapping = false)
      (.sharedPoolImportError "CUDA VMM binding has no elastic geometry")
    match elastic.get? "mapped_block_count" with
    | none => .error (.keyError "mapped_block_count")
    | some mapped => do
      let mappedBlocks ← env.int mapped
      let _ ← env.importBuffer
      pure (some mappedBlocks)
  else if kind.eqStr "cuda_ipc" then do
    raiseIf (handles.getD [] ≠ [])
      (.sharedPoolImportError "fixed CUDA IPC binding cannot consume OS handles")
    raiseIf ((binding.get? "descriptor").isNone) (.keyError "descriptor")
    let _ ← env.importBuffer
    pure none
  else .error (.sharedPoolImportError "unsupported shared-pool CUDA transport")

/-- `VllmSharedPoolHook.__init__`. -/
def VllmSharedPoolHook.init (I : Interpreter) (env : HookEnvironment) (binding : Json)
    (config : ResolvedConfig) (handles : Option (List ℕ)) (conformance : Bool) :
    Except PyError VllmSharedPoolHook := do
  let (allocationBytes, maximumBlocks, _) ← config.backingGeometry
  match binding.get? "binding_id", config.kvCacheGroups with
  | none, _ => .error (.keyError "binding_id")
  | some _, none => .error (.typeError "kv_cache_groups is not iterable")
  | some rawBindingId, some groups => do
    let bindingId ← I.str rawBindingId
    let layerIdentity ← identifyGroups I groups.zipIdx [] 0
    let startupMappedBlocks ← importTransport env binding handles conformance
    env.install
    pure { expectedBytes := allocationBytes, maximumBlocks, bindingId, layerIdentity,
           startupMappedBlocks }

/-! ## Attachment views -/

/-- A KV tensor as `attachment_views` reads it. -/
structure KvTensor where
  storagePtr : ℤ
  dataPtr : ℤ
  shape : List ℤ
  stride : List ℤ
  elementSize : ℤ

/-- `_tensor_span_bytes`. -/
def tensorSpanBytes (tensor : KvTensor) : Except PyError ℤ := do
  raiseIf (tensor.shape = [] ∨ tensor.shape.length ≠ tensor.stride.length ∨
      tensor.shape.any (· ≤ 0) = true)
    (.sharedPoolImportError "vLLM KV tensors must have a non-empty shape")
  raiseIf (tensor.stride.any (· < 0) = true)
    (.sharedPoolImportError "negative-stride vLLM KV tensors are unsupported")
  raiseIf (tensor.elementSize ≤ 0)
    (.sharedPoolImportError "vLLM KV tensor element size must be positive")
  let finalElement := ((tensor.shape.zip tensor.stride).map fun (size, stride) =>
    (size - 1) * stride).sum
  pure ((finalElement + 1) * tensor.elementSize)

/-- The fields of a hook that change: `_used` and the imported tensor, `None` once released. -/
structure HookState where
  used : Bool
  tensor : Option ImportedTensor

/-- `kv_caches`: a tensor for each registered layer name. -/
abbrev KvCaches := List (String × KvTensor)

/-- The text of a list of names. -/
def reprNames (I : Interpreter) (names : List String) : String :=
  "[" ++ ", ".intercalate (names.map I.repr) ++ "]"

namespace VllmSharedPoolHook

/-- The names a hook expects. -/
def expectedLayers (hook : VllmSharedPoolHook) : List String := hook.layerIdentity.map Prod.fst

/-- The view of one layer. -/
def attachmentView (I : Interpreter) (hook : VllmSharedPoolHook) (rawBase : ℤ)
    (kvCaches : KvCaches) (layer : String × String × ℕ) : Except PyError Json :=
  match kvCaches.lookup layer.1 with
  | none => .error (.keyError layer.1)
  | some tensor => do
    raiseIf (tensor.storagePtr ≠ rawBase) (.sharedPoolImportError <| "vLLM KV tensor " ++
      I.repr layer.1 ++ " does not alias the imported CUDA storage")
    let offsetBytes := tensor.dataPtr - rawBase
    let lengthBytes ← tensorSpanBytes tensor
    raiseIf (offsetBytes < 0 ∨ offsetBytes + lengthBytes > hook.expectedBytes)
      (.sharedPoolImportError <| "vLLM KV tensor " ++ I.repr layer.1 ++
        " extends outside the imported allocation")
    pure <| .obj [("group_id", .str layer.2.1),
      ("layer", .obj [("index", .int layer.2.2), ("name", .str layer.1)]),
      ("offset_bytes", .int offsetBytes), ("length_bytes", .int lengthBytes)]

/-- `attachment_views`. -/
def attachmentViews (I : Interpreter) (hook : VllmSharedPoolHook) (state : HookState)
    (kvCaches : KvCaches) : Except PyError (List Json) := do
  raiseIf (state.used = false) (.sharedPoolImportError
    "vLLM cannot attach before consuming the imported KV allocation")
  match state.tensor with
  | none => .error (.sharedPoolImportError "CUDA IPC mapping was released before attachment")
  | some raw => do
    let expected := hook.expectedLayers
    let actual := kvCaches.map Prod.fst
    raiseIf (¬sameSet actual expected) (.sharedPoolImportError <|
      "vLLM registered KV layers that differ from the negotiated topology: missing=" ++
        reprNames I ((expected.filter (· ∉ actual)).insertionSort (· ≤ ·)) ++ ", unexpected=" ++
        reprNames I ((actual.filter (· ∉ expected)).insertionSort (· ≤ ·)))
    raiseIf (raw.nbytes ≠ hook.expectedBytes)
      (.sharedPoolImportError "imported CUDA storage size changed before attachment")
    let layers := hook.layerIdentity.insertionSort fun a b => a.2.2 ≤ b.2.2
    layers.mapM (hook.attachmentView I raw.dataPtr kvCaches)

end VllmSharedPoolHook

/-! ## Layers by group, index and name -/

/-- A layer: its group ID, its index, its name. -/
abbrev LayerTriple := String × ℕ × String

/-- The layers of one group of a topology. -/
def groupLayers (group : Json) : List LayerTriple :=
  (group.get "layers").items.map fun layer =>
    ((group.get "group_id").toStr, (layer.get "index").toNat, (layer.get "name").toStr)

/-- The layers of a registered topology. -/
def registeredLayers (topology : Json) : List LayerTriple :=
  (topology.get "cache_groups").items.flatMap groupLayers

/-- The layer of an attachment view. -/
def attachedLayer (view : Json) : LayerTriple :=
  ((view.get "group_id").toStr, ((view.get "layer").get "index").toNat,
    ((view.get "layer").get "name").toStr)

/-- The names of each group under its ID, as vLLM gave them. -/
def ResolvedConfig.namedGroups (config : ResolvedConfig) : List (String × List String) :=
  (config.kvCacheGroups.getD []).zipIdx.map fun (group, index) =>
    (vllmGroupId index, group.layerNames.getD [])

/-- The layers of named groups, counted across the groups. -/
def numberLayers : List (String × List String) → ℕ → List LayerTriple
  | [], _ => []
  | (groupId, names) :: groups, next =>
    (names.zipIdx next).map (fun (name, index) => (groupId, index, name)) ++
      numberLayers groups (next + names.length)

/-- The layer with its name stripped. -/
def stripName (layer : LayerTriple) : LayerTriple := (layer.1, layer.2.1, strip layer.2.2)

theorem stripName_eq_iff {layer : LayerTriple} :
    stripName layer = layer ↔ strip layer.2.2 = layer.2.2 := by
  rw [stripName, Prod.ext_iff, Prod.ext_iff]
  simp

theorem numberLayers_map_strip (groups : List (String × List String)) (next : ℕ) :
    numberLayers (groups.map fun group => (group.1, group.2.map strip)) next =
      (numberLayers groups next).map stripName := by
  induction groups generalizing next with
  | nil => rfl
  | cons group groups ih =>
    simp only [List.map_cons, numberLayers, List.map_append, List.length_map, ih,
      List.zipIdx_map, List.map_map]
    rfl

/-- The indices count up. -/
theorem map_index_numberLayers (groups : List (String × List String)) (next : ℕ) :
    ∃ length, (numberLayers groups next).map (·.2.1) = List.range' next length := by
  induction groups generalizing next with
  | nil => exact ⟨0, rfl⟩
  | cons group groups ih =>
    obtain ⟨length, hlength⟩ := ih (next + group.2.length)
    refine ⟨group.2.length + length, ?_⟩
    rw [numberLayers, List.map_append, hlength, List.map_map, ← List.range'_append_1]
    exact congrArg (· ++ _) (List.zipIdx_map_snd next group.2)

/-- **No two layers share an index.** -/
theorem numberLayers_inj {groups : List (String × List String)} {next : ℕ} {a b : LayerTriple}
    (ha : a ∈ numberLayers groups next) (hb : b ∈ numberLayers groups next) (h : a.2.1 = b.2.1) :
    a = b := by
  obtain ⟨length, hlength⟩ := map_index_numberLayers groups next
  have hnodup : ((numberLayers groups next).map (·.2.1)).Nodup := hlength ▸ List.nodup_range'
  exact List.inj_on_of_nodup_map hnodup ha hb h

theorem nodup_numberLayers (groups : List (String × List String)) (next : ℕ) :
    (numberLayers groups next).Nodup := by
  obtain ⟨length, hlength⟩ := map_index_numberLayers groups next
  exact List.Nodup.of_map _ (hlength ▸ List.nodup_range')

theorem map_name_numberLayers (groups : List (String × List String)) (next : ℕ) :
    (numberLayers groups next).map (·.2.2) = groups.flatMap Prod.snd := by
  induction groups generalizing next with
  | nil => rfl
  | cons group groups ih =>
    rw [numberLayers, List.map_append, ih, List.map_map, List.flatMap_cons]
    exact congrArg (· ++ _) (List.zipIdx_map_fst next group.2)

/-! ## What the topology registers -/

theorem layers_of_extractGroupTopology {I : Interpreter} {classifier : CacheSpecClassifier}
    {rawGroup : RawGroup} {index : ℕ} {group : CacheGroupTopology}
    (h : extractGroupTopology I classifier rawGroup index = .ok group) :
    (group.groupId, group.layers) =
      (vllmGroupId index, (rawGroup.layerNames.getD []).map strip) := by
  rw [(certified_of_extractGroupTopology h).groupId]
  rw [extractGroupTopology] at h
  split at h
  · cases h
  · next names hnames =>
    simp only [Except.bind_eq_ok, Except.raiseIf_eq_ok] at h
    obtain ⟨layers, hlayers, -, -, hspec⟩ := h
    have hstrip : layers = names.map strip :=
      Except.eq_map_of_mapM (fun name layer hlayer => (text_eq_ok.mp hlayer).2.symm) hlayers
    split at hspec
    · cases hspec
    · simp only [extractSpecTopology, Except.bind_eq_ok, Except.pure_eq_ok] at hspec
      obtain ⟨_, -, _, -, _, -, _, -, _, -, -, -, _, -, _, -, _, -, _, -, _, -, -, -, -, -, _, -,
        _, -, rfl⟩ := hspec
      rw [hnames, Option.getD_some, hstrip]

theorem flatMap_groupLayers {layoutId : String} {groups : List CacheGroupTopology} {next : ℕ}
    {items : List Json} (h : topologyGroups layoutId groups next = .ok items) :
    items.flatMap groupLayers =
      numberLayers (groups.map fun group => (group.groupId, group.layers)) next := by
  induction groups generalizing next items with
  | nil =>
    obtain rfl := Except.ok.inj h
    rfl
  | cons group groups ih =>
    simp only [topologyGroups, topologyGroup, Except.bind_eq_ok, Except.pure_eq_ok] at h
    obtain ⟨_, ⟨elementType, -, rfl⟩, rest, hrest, rfl⟩ := h
    rw [List.flatMap_cons, ih hrest, List.map_cons, numberLayers]
    refine congrArg (· ++ _) ?_
    exact List.map_map

/-- **The topology holds the stripped names**, numbered across the groups. -/
theorem registeredLayers_eq {I : Interpreter} {classifier : CacheSpecClassifier}
    {config : ResolvedConfig} {modelFingerprint : String} {worldSize : ℕ} {topology : Json}
    (h : vllmTopology I classifier config modelFingerprint worldSize = .ok topology) :
    registeredLayers topology = (numberLayers config.namedGroups 0).map stripName := by
  simp only [vllmTopology, extractCacheGroupTopologies, Except.bind_eq_ok, Except.pure_eq_ok] at h
  obtain ⟨-, -, groups, ⟨-, -, _, hgroups, -, -, rfl⟩, items, hitems, rfl⟩ := h
  have hnamed := Except.map_eq_map_of_mapM
    (fun pair _ group hgroup => layers_of_extractGroupTopology hgroup) hgroups
  refine (flatMap_groupLayers hitems).trans ?_
  rw [hnamed, ← numberLayers_map_strip, ResolvedConfig.namedGroups, List.map_map]
  rfl

/-! ## What the hook expects -/

/-- The layer that an entry of `_layer_identity` stands for. -/
def identityTriple (entry : String × String × ℕ) : LayerTriple := (entry.2.1, entry.2.2, entry.1)

theorem identifyLayers_eq_ok {I : Interpreter} {groupIndex : ℕ} {names : List String}
    {identity : LayerIdentity} {next : ℕ} {result : LayerIdentity × ℕ}
    (h : identifyLayers I groupIndex names identity next = .ok result) :
    result.1.map identityTriple = identity.map identityTriple ++
      (names.zipIdx next).map (fun (name, index) => (vllmGroupId groupIndex, index, name)) ∧
      result.2 = next + names.length := by
  induction names generalizing identity next with
  | nil =>
    obtain rfl := Except.ok.inj h
    exact ⟨(List.append_nil _).symm, rfl⟩
  | cons name names ih =>
    simp only [identifyLayers, Except.bind_eq_ok] at h
    obtain ⟨-, -, hrest⟩ := h
    obtain ⟨hmap, hnext⟩ := ih hrest
    refine ⟨?_, ?_⟩
    · rw [hmap, List.map_append, List.append_assoc, List.zipIdx_cons]
      rfl
    · rw [hnext, List.length_cons]
      omega

/-- **The hook keeps the names as they are**, numbered the same way. -/
theorem identifyGroups_eq_ok {I : Interpreter} {groups : List (RawGroup × ℕ)}
    {identity result : LayerIdentity} {next : ℕ}
    (h : identifyGroups I groups identity next = .ok result) :
    result.map identityTriple = identity.map identityTriple ++
      numberLayers (groups.map fun (group, index) =>
        (vllmGroupId index, group.layerNames.getD [])) next := by
  induction groups generalizing identity next with
  | nil =>
    obtain rfl := Except.ok.inj h
    exact (List.append_nil _).symm
  | cons pair groups ih =>
    obtain ⟨group, index⟩ := pair
    rw [identifyGroups] at h
    split at h
    · exact nomatch h
    · next names hnames =>
      obtain ⟨middle, hmiddle, hrest⟩ := Except.bind_eq_ok.mp h
      obtain ⟨hmap, hnext⟩ := identifyLayers_eq_ok hmiddle
      simp only [ih hrest, hmap, hnext, List.append_assoc, List.map_cons, hnames,
        Option.getD_some, numberLayers]

theorem VllmSharedPoolHook.init_eq_ok {I : Interpreter} {env : HookEnvironment} {binding : Json}
    {config : ResolvedConfig} {handles : Option (List ℕ)} {conformance : Bool}
    {hook : VllmSharedPoolHook}
    (h : VllmSharedPoolHook.init I env binding config handles conformance = .ok hook) :
    hook.layerIdentity.map identityTriple = numberLayers config.namedGroups 0 := by
  simp only [VllmSharedPoolHook.init, Except.bind_eq_ok] at h
  obtain ⟨geometry, -, h⟩ := h
  split at h
  · exact nomatch h
  · exact nomatch h
  · next groups _ hgroups =>
    simp only [Except.bind_eq_ok, Except.pure_eq_ok] at h
    obtain ⟨_, -, identity, hidentity, _, -, -, -, rfl⟩ := h
    rw [ResolvedConfig.namedGroups, hgroups, Option.getD_some]
    exact identifyGroups_eq_ok hidentity

/-- **The views are those of the expected layers**, one each. -/
theorem VllmSharedPoolHook.attachmentViews_eq_ok {I : Interpreter} {hook : VllmSharedPoolHook}
    {state : HookState} {kvCaches : KvCaches} {views : List Json}
    (h : hook.attachmentViews I state kvCaches = .ok views) :
    (views.map attachedLayer).Perm (hook.layerIdentity.map identityTriple) := by
  simp only [VllmSharedPoolHook.attachmentViews, Except.bind_eq_ok] at h
  obtain ⟨-, -, h⟩ := h
  split at h
  · cases h
  · next raw _ =>
    simp only [Except.bind_eq_ok] at h
    obtain ⟨-, -, -, -, h⟩ := h
    have hround : ∀ entry ∈ hook.layerIdentity.insertionSort fun a b => a.2.2 ≤ b.2.2, ∀ view,
        hook.attachmentView I raw.dataPtr kvCaches entry = .ok view →
          attachedLayer view = identityTriple entry := by
      intro entry _ view hview
      rw [VllmSharedPoolHook.attachmentView] at hview
      split at hview
      · cases hview
      · simp only [Except.bind_eq_ok, Except.pure_eq_ok] at hview
        obtain ⟨-, -, _, -, -, -, rfl⟩ := hview
        rfl
    rw [Except.map_eq_map_of_mapM hround h]
    exact (List.perm_insertionSort _ _).map _

/-- **When the attached layers are the registered ones.**  For a configuration whose topology was
built and whose hook was constructed, whatever mapping the hook accepts later: the views name the
registered layers, each exactly once, if and only if no layer name has white space at its ends. -/
theorem attached_eq_registered_iff (I : Interpreter) (classifier : CacheSpecClassifier)
    (env : HookEnvironment) (binding : Json) (config : ResolvedConfig)
    (handles : Option (List ℕ)) (conformance : Bool) (modelFingerprint : String) (worldSize : ℕ)
    (topology : Json) (hook : VllmSharedPoolHook) (state : HookState) (kvCaches : KvCaches)
    (views : List Json)
    (htopology : vllmTopology I classifier config modelFingerprint worldSize = .ok topology)
    (hhook : VllmSharedPoolHook.init I env binding config handles conformance = .ok hook)
    (hviews : hook.attachmentViews I state kvCaches = .ok views) :
    ((∀ layer, layer ∈ registeredLayers topology ↔ layer ∈ views.map attachedLayer) ∧
        (views.map attachedLayer).Nodup) ↔
      ∀ group ∈ config.namedGroups, ∀ name ∈ group.2, strip name = name := by
  have hperm := VllmSharedPoolHook.attachmentViews_eq_ok hviews
  rw [VllmSharedPoolHook.init_eq_ok hhook] at hperm
  have hnodup : (views.map attachedLayer).Nodup := hperm.nodup_iff.mpr (nodup_numberLayers _ _)
  have hnames : (∀ group ∈ config.namedGroups, ∀ name ∈ group.2, strip name = name) ↔
      ∀ layer ∈ numberLayers config.namedGroups 0, stripName layer = layer := by
    rw [← List.forall_mem_flatMap, ← map_name_numberLayers config.namedGroups 0,
      List.forall_mem_map]
    exact forall₂_congr fun layer _ => stripName_eq_iff.symm
  rw [hnames, registeredLayers_eq htopology]
  simp only [hperm.mem_iff, hnodup, and_true]
  constructor
  · intro hsame layer hlayer
    have hstripped := (hsame (stripName layer)).mp (List.mem_map_of_mem hlayer)
    exact numberLayers_inj hstripped hlayer rfl
  · intro hstrip layer
    rw [List.map_congr_left hstrip, List.map_id']

/-! ## Two attachments -/

/-- A worker that imports `nbytes` bytes at address 4096. -/
def importing (nbytes : ℤ) : HookEnvironment where
  importBuffer := .ok { dataPtr := 4096, nbytes }
  install := .ok ()
  int := fun value => .ok value.toNat

/-- A fixed CUDA IPC binding. -/
def ipcBinding : Json :=
  .obj [("binding_id", .str "binding-0"), ("descriptor", .str "cuda-ipc:0"),
    ("transport", .obj [("kind", .str "cuda_ipc")])]

/-- Sixteen bytes of half-precision values, from the start of the import. -/
def smallTensor : KvTensor where
  storagePtr := 4096
  dataPtr := 4096
  shape := [4, 2]
  stride := [2, 1]
  elementSize := 2

/-- The hook of a worker that has allocated its caches in `nbytes` imported bytes. -/
def allocated (nbytes : ℤ) : HookState where
  used := true
  tensor := some { dataPtr := 4096, nbytes }

/-- A tensor for each layer of `twoGroups`. -/
def twoGroupsCaches : KvCaches :=
  ["layer.0", "layer.1", "layer.2", "layer.3"].map fun name => (name, smallTensor)

theorem attached_eq_registered_iff_twoGroups :
    ∃ topology hook views,
      vllmTopology ClientCall.heartbeatClient.interpreter windowClassifier twoGroups "model" 1 =
        .ok topology ∧
      VllmSharedPoolHook.init ClientCall.heartbeatClient.interpreter (importing 64) ipcBinding
        twoGroups none false = .ok hook ∧
      hook.attachmentViews ClientCall.heartbeatClient.interpreter (allocated 64)
        twoGroupsCaches = .ok views ∧
      (∀ layer, layer ∈ registeredLayers topology ↔ layer ∈ views.map attachedLayer) ∧
        (views.map attachedLayer).Nodup := by
  refine ⟨_, _, _, rfl, rfl, rfl, ?_⟩
  refine (attached_eq_registered_iff ClientCall.heartbeatClient.interpreter windowClassifier
    (importing 64) ipcBinding twoGroups none false "model" 1 _ _ (allocated 64) twoGroupsCaches _
    rfl rfl rfl).mpr ?_
  decide +kernel

/-- One group of one layer, whose name starts with a blank. -/
def paddedName : ResolvedConfig where
  kvCacheGroups := some
    [{ layerNames := some [" layer.0"], kvCacheSpec := some (.plain smallLayer) }]
  numBlocks := .int 2
  kvCacheTensors := [.int 16]
  kvCacheLayout := some "NHD"

/-- **A padded name is registered without its blank and attached with it.** -/
theorem attached_ne_registered_paddedName :
    ∃ topology hook views,
      vllmTopology ClientCall.heartbeatClient.interpreter windowClassifier paddedName "model" 1 =
        .ok topology ∧
      VllmSharedPoolHook.init ClientCall.heartbeatClient.interpreter (importing 16) ipcBinding
        paddedName none false = .ok hook ∧
      hook.attachmentViews ClientCall.heartbeatClient.interpreter (allocated 16)
        [(" layer.0", smallTensor)] = .ok views ∧
      ("vllm.group.0", 0, "layer.0") ∈ registeredLayers topology ∧
      ("vllm.group.0", 0, "layer.0") ∉ views.map attachedLayer := by
  refine ⟨_, _, _, rfl, rfl, rfl, ?_, ?_⟩
  · decide +kernel
  · decide +kernel

end Kapsl.Vllm
