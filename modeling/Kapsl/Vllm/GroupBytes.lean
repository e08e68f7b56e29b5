import Kapsl.Vllm.RankExtraction
import Kapsl.Vllm.Sizing

/-!
# Vllm/GroupBytes — one accounting for plain and wrapped specs

A group is sized in one of two ways: a plain spec multiplies its page by the number of layers, a
uniform wrapper sums the pages of its members.

* `bytesPerGroupBlock_eq` — either way, a group's block holds what its geometry says.
* `extractSpecTopology_wrapped` — a wrapper around copies of a plain spec is accepted, with the
  topology of that spec up to the page, because every check of the members is a check of one of
  them (`uniform_replicate`).
* `groupBytes_exact` puts the two together, over whole configurations and the sized groups.
-/

namespace Kapsl.Vllm

open Except (raiseIf)

variable {I : Interpreter} {classifier : CacheSpecClassifier}

/-! ## The bytes of a block -/

/-- The bytes of one layer's page: a key and a value of each head, for each token. -/
def CacheGroupTopology.densePageBytes (group : CacheGroupTopology) : ℕ :=
  group.blockSizeTokens * group.kvHeads *
    ((group.keyHeadDim + group.valueHeadDim) * (group.elementType.bits / 8))

theorem checkPages_eq_ok {members : List SpecAttributes} {bytes : ℕ} {u : Unit} :
    checkPages members bytes = .ok u ↔
      ∀ member ∈ members, positiveAttr [member.pageSizeBytes] "page_size_bytes" = .ok bytes := by
  simp only [checkPages, Except.forM_eq_ok, Except.bind_eq_ok, Except.raiseIf_eq_ok, not_not]
  refine forall₂_congr fun member _ => ?_
  constructor
  · rintro ⟨_, h, heq⟩
    exact heq ▸ h
  · exact fun h => ⟨_, h, rfl⟩

/-- **A dense layout checks every page** against the one geometry of the group. -/
theorem checkPages_of_dense {members : List SpecAttributes} {elementType : ElementType}
    {blockSize kvHeads keyHeadDim valueHeadDim : ℕ} {u : Unit}
    (h : validateDenseAttentionLayout members elementType blockSize kvHeads keyHeadDim
      valueHeadDim = .ok u) :
    ∀ member ∈ members, positiveAttr [member.pageSizeBytes] "page_size_bytes" =
      .ok (blockSize * kvHeads * ((keyHeadDim + valueHeadDim) * (elementType.bits / 8))) := by
  simp only [validateDenseAttentionLayout, Except.bind_eq_ok, checkedAdd_eq_ok,
    checkedMul_eq_ok] at h
  obtain ⟨_, -, _, -, _, -, _, -, _, -, _, ⟨-, rfl⟩, _, ⟨-, -, rfl⟩, _, -, _, ⟨-, -, rfl⟩, _,
    ⟨-, -, rfl⟩, _, hpages, -⟩ := h
  exact checkPages_eq_ok.mp hpages

/-- **The pages of a wrapper add up** to its members' number of equal ones. -/
theorem groupBytes_eq_ok {spec : CacheSpec} {members : List SpecAttributes}
    {layers : List String} {pageSize dense bytes : ℕ}
    (hmembers : memberSpecs spec layers = .ok members)
    (hpage : positiveAttr [spec.attributes.pageSizeBytes] "page_size_bytes" = .ok pageSize)
    (hpages : ∀ member ∈ members,
      positiveAttr [member.pageSizeBytes] "page_size_bytes" = .ok dense)
    (h : groupBytes spec members pageSize layers.length = .ok bytes) :
    bytes = layers.length * dense ∧ bytes ≤ uint64Max := by
  obtain attributes | ⟨attributes, wrapped⟩ := spec
  · obtain rfl := Except.ok.inj hmembers
    have hdense := hpages attributes List.mem_cons_self
    obtain rfl := Except.ok.inj (hpage.symm.trans hdense)
    obtain ⟨-, hle, rfl⟩ := checkedMul_eq_ok.mp h
    exact ⟨Nat.mul_comm _ _, hle⟩
  · simp only [memberSpecs, Except.bind_eq_ok] at hmembers
    obtain ⟨_, -, hmembers⟩ := hmembers
    have hlength : members.length = layers.length :=
      (Except.mapM_eq_ok.mp hmembers).length_eq.symm
    rw [groupBytes, Except.mapM_of_ok (g := fun _ => dense) hpages, Except.ok_bind] at h
    simp only [Except.bind_eq_ok, Except.raiseIf_eq_ok, Except.pure_eq_ok, not_not] at h
    obtain ⟨_, -, total, htotal, _, rfl, rfl⟩ := h
    obtain ⟨hsum, hle⟩ := (foldlM_checkedAdd_iff id _ _).mp htotal
    rw [List.map_id, List.map_const', List.sum_replicate, smul_eq_mul, hlength] at hsum
    exact ⟨hsum.symm, hle⟩

/-- **A block holds what the geometry of its group says**, and its size has 64 bits. -/
theorem bytesPerGroupBlock_eq {index : ℕ} {layers : List String} {spec : CacheSpec}
    {group : CacheGroupTopology}
    (h : extractSpecTopology I classifier index layers spec = .ok group) :
    group.bytesPerGroupBlock = group.layers.length * group.densePageBytes ∧
      group.bytesPerGroupBlock ≤ uint64Max := by
  simp only [extractSpecTopology, Except.bind_eq_ok, Except.raiseIf_eq_ok, Except.pure_eq_ok] at h
  obtain ⟨_, -, _, hpage, _, hmembers, _, -, _, -, -, -, _, -, _, -, _, -, _, -, _, -, _, hdense,
    _, -, _, -, _, hbytes, rfl⟩ := h
  exact groupBytes_eq_ok hmembers hpage (checkPages_of_dense hdense) hbytes

/-- The page of an extracted group has 64 bits. -/
theorem pageSizeBytes_le {index : ℕ} {layers : List String} {spec : CacheSpec}
    {group : CacheGroupTopology}
    (h : extractSpecTopology I classifier index layers spec = .ok group) :
    group.pageSizeBytes ≤ uint64Max := by
  simp only [extractSpecTopology, Except.bind_eq_ok, Except.pure_eq_ok] at h
  obtain ⟨_, -, _, hpage, _, -, _, -, _, -, _, -, _, -, _, -, _, -, _, -, _, -, _, -, _, -, _, -, _,
    -, rfl⟩ := h
  exact (positiveAttr_eq_ok hpage).2.2

/-! ## Checking copies is checking one of them -/

section

variable {n : ℕ} {attributes : SpecAttributes} {value : PyValue} {field mixed message : String}

theorem uniform_singleton {α : Type} (eq : α → α → Bool) (v : α) :
    uniform eq [v] field = .ok v := rfl

/-- **Copies agree**, if a value equals itself. -/
theorem uniform_replicate {α : Type} {eq : α → α → Bool} {v : α} (hn : n ≠ 0)
    (hv : eq v v = true) : uniform eq (List.replicate n v) field = .ok v := by
  obtain ⟨m, rfl⟩ := Nat.exists_eq_succ_of_ne_zero hn
  rw [List.replicate_succ, uniform, if_pos]
  exact List.all_eq_true.mpr fun w hw => (List.eq_of_mem_replicate hw).symm ▸ hv

theorem mapM_replicate {α β : Type} {f : α → Except PyError β} {a : α} {b : β}
    (h : f a = .ok b) : (List.replicate n a).mapM f = .ok (List.replicate n b) := by
  rw [← List.map_replicate (f := fun _ => b)]
  exact Except.mapM_of_ok fun x hx => (List.eq_of_mem_replicate hx).symm ▸ h

theorem mapM_singleton {α β : Type} {f : α → Except PyError β} {a : α} {bs : List β} :
    [a].mapM f = .ok bs ↔ ∃ b, f a = .ok b ∧ bs = [b] := by
  rw [Except.mapM_eq_ok]
  simp only [List.forall₂_cons_left_iff, List.forall₂_nil_left_iff]
  exact ⟨fun ⟨b, _, h, hnil, heq⟩ => ⟨b, h, hnil ▸ heq⟩, fun ⟨b, h, heq⟩ => ⟨b, _, h, rfl, heq⟩⟩

theorem any_replicate {α : Type} {p : α → Bool} {a : α} (h : ¬[a].any p = true) :
    ¬(List.replicate n a).any p = true := by
  simp only [List.any_eq_true, List.mem_singleton, exists_eq_left] at h
  simp only [List.any_eq_true, not_exists, not_and]
  exact fun b hb => (List.eq_of_mem_replicate hb).symm ▸ h

/-- A value that reads as a number of 64 bits equals itself; only NaN does not. -/
theorem pyEq_of_uintValue {m : ℕ} {allowZero : Bool}
    (h : uintValue value field allowZero = .ok m) : PyValue.pyEq value value = true := by
  unfold uintValue at h
  split at h
  · simp [PyValue.pyEq, PyValue.number?]
  · exact nomatch h

theorem uniformAttr_replicate {read : SpecAttributes → List PyValue} {v : ℕ} (hn : n ≠ 0)
    (h : uniformAttr [attributes] read field mixed = .ok v) :
    uniformAttr (List.replicate n attributes) read field mixed = .ok v := by
  simp only [uniformAttr, Except.bind_eq_ok, mapM_singleton] at h
  obtain ⟨_, ⟨w, hw, rfl⟩, huniform⟩ := h
  obtain rfl := Except.ok.inj huniform
  have hvalues := mapM_replicate (n := n) (f := fun member => positiveAttr (read member) field) hw
  rw [uniformAttr, hvalues, Except.ok_bind]
  exact uniform_replicate hn (beq_self_eq_true w)

/-- A packed size that was accepted equals itself. -/
theorem pyEq_of_checkPacked {dense : ℕ} {u : Unit}
    (h : checkPacked [value] mixed field dense message = .ok u) :
    PyValue.pyEq value value = true := by
  rw [checkPacked, uniform_singleton, Except.ok_bind] at h
  by_cases hnone : value = .none
  · subst hnone
    rfl
  · rw [if_neg hnone, Except.bind_eq_ok] at h
    obtain ⟨_, hm, -⟩ := h
    exact pyEq_of_uintValue hm

theorem checkPacked_replicate {dense : ℕ} {u : Unit} (hn : n ≠ 0)
    (h : checkPacked [value] mixed field dense message = .ok u) :
    checkPacked (List.replicate n value) mixed field dense message = .ok u := by
  rw [checkPacked, uniform_replicate hn (pyEq_of_checkPacked h)]
  exact h

/-- **Copies in a wrapper account for its page**, if it is the sum of theirs. -/
theorem groupBytes_copies {wrapper : SpecAttributes} {members : SpecMembers} {page layers : ℕ}
    (hn : n ≠ 0) (hpage : positiveAttr [attributes.pageSizeBytes] "page_size_bytes" = .ok page)
    (htotal : n * page ≤ uint64Max) :
    groupBytes (.uniform wrapper members) (List.replicate n attributes) (n * page) layers =
      .ok (n * page) := by
  have hpages := mapM_replicate (n := n)
    (f := fun member : SpecAttributes => positiveAttr [member.pageSizeBytes] "page_size_bytes")
    hpage
  have hsum : ((List.replicate n page).map id).sum = n * page := by
    rw [List.map_id, List.sum_replicate, smul_eq_mul]
  simp only [groupBytes, hpages, Except.ok_bind, uniform_replicate hn (beq_self_eq_true page),
    Except.bind_eq_ok, Except.raiseIf_eq_ok, Except.pure_eq_ok]
  exact ⟨_, (foldlM_checkedAdd_iff id _ _).mpr ⟨hsum, htotal⟩, (), not_not.mpr rfl, trivial⟩

/-- **The layout of copies** is the layout of one. -/
theorem validateDense_replicate {elementType : ElementType}
    {blockSize kvHeads keyHeadDim valueHeadDim : ℕ} {u : Unit} (hn : n ≠ 0)
    (h : validateDenseAttentionLayout [attributes] elementType blockSize kvHeads keyHeadDim
      valueHeadDim = .ok u) :
    validateDenseAttentionLayout (List.replicate n attributes) elementType blockSize kvHeads
      keyHeadDim valueHeadDim = .ok u := by
  simp only [validateDenseAttentionLayout, Except.bind_eq_ok, Except.raiseIf_eq_ok,
    List.map_cons, List.map_nil, uniform_singleton, mapM_singleton, Except.ok.injEq] at h
  obtain ⟨quantization, rfl, _, hquant, _, hpadded, _, hslots, _, rfl, dimensions, hdimensions,
    bytes, hbytes, _, hstate, elements, helements, page, hpage, _, hpages, _, ⟨ratio, hratio, rfl⟩,
    _, huniform, hone⟩ := h
  obtain rfl := Except.ok.inj huniform
  have hmember := checkPages_eq_ok.mp hpages attributes List.mem_cons_self
  simp only [validateDenseAttentionLayout, List.map_replicate, Except.bind_eq_ok,
    Except.raiseIf_eq_ok]
  refine ⟨_, uniform_replicate hn (beq_self_eq_true _), (), hquant, (), any_replicate hpadded, _,
    checkPacked_replicate hn hslots, _, uniform_replicate hn (pyEq_of_checkPacked hstate), _,
    hdimensions, _, hbytes, _, checkPacked_replicate hn hstate, _, helements, _, hpage, (),
    checkPages_eq_ok.mpr ?_, _, mapM_replicate hratio, _,
    uniform_replicate hn (beq_self_eq_true _), hone⟩
  exact fun member hm => (List.eq_of_mem_replicate hm).symm ▸ hmember

theorem extractPolicyWindow_replicate {policy : CachePolicy} {window : Option ℕ} (hn : n ≠ 0)
    (h : extractPolicyWindow [attributes] policy = .ok window) :
    extractPolicyWindow (List.replicate n attributes) policy = .ok window := by
  obtain _ | _ := policy
  · exact h
  · simp only [extractPolicyWindow, extractWindow, Except.bind_eq_ok, Except.raiseIf_eq_ok,
      List.map_cons, List.map_nil, uniform_singleton, Except.ok.injEq] at h
    obtain ⟨_, ⟨_, rfl, _, hset, tokens, htokens, _, rfl, retained, hretained, hrest⟩, hwindow⟩ := h
    simp only [extractPolicyWindow, extractWindow, List.map_replicate, Except.bind_eq_ok,
      Except.raiseIf_eq_ok]
    exact ⟨_, ⟨_, uniform_replicate hn (pyEq_of_uintValue htokens), (), hset, tokens, htokens, _,
      uniform_replicate hn (pyEq_of_uintValue hretained), retained, hretained, hrest⟩, hwindow⟩

end

/-! ## A wrapper around copies -/

/-- **`wrapper` wraps a copy of a plain spec for each layer** — under the layer's name, with the
same block size, the sum of the members' pages and the sum of what they need for one sequence. -/
structure Wraps (attributes : SpecAttributes) (layers : List String) (wrapper : SpecAttributes)
    (members : SpecMembers) : Prop where
  keys : (members.toList.map Prod.fst).Perm (layers.map .name)
  copies : ∀ member ∈ members.toList, member.2 = .plain attributes
  blockSize : wrapper.blockSize = attributes.blockSize
  pageSizeBytes : ∀ page, attributes.pageSizeBytes = .int page →
    wrapper.pageSizeBytes = .int (members.toList.map fun _ => page).sum
  maxMemoryUsageBytes : ∀ bytes, attributes.maxMemoryUsageBytes = some (.ok (.int bytes)) →
    (members.toList.map fun _ => bytes).sum < 2 ^ 64 ∧
      wrapper.maxMemoryUsageBytes = some (.ok (.int (members.toList.map fun _ => bytes).sum))

section

variable {attributes wrapper : SpecAttributes} {members : SpecMembers} {layers : List String}

theorem Wraps.length_eq (h : Wraps attributes layers wrapper members) :
    members.toList.length = layers.length := by
  have hlength := h.keys.length_eq
  rwa [List.length_map, List.length_map] at hlength

/-- A sum over the members is a product with the number of layers. -/
theorem Wraps.sum_eq (h : Wraps attributes layers wrapper members) (z : ℤ) :
    (members.toList.map fun _ => z).sum = layers.length * z := by
  rw [List.map_const', List.sum_replicate, h.length_eq, nsmul_eq_mul]

theorem Wraps.get_eq (h : Wraps attributes layers wrapper members) {name : String}
    (hname : name ∈ layers) : members.get name = .ok (.plain attributes) := by
  obtain ⟨member, hmember, hkey⟩ :=
    List.mem_map.mp (h.keys.mem_iff.mpr (List.mem_map_of_mem hname))
  have hsome : (members.toList.lookup (.name name)).isSome := by
    rw [List.lookup_isSome_iff]
    exact ⟨member, hmember, by rw [hkey]; exact beq_self_eq_true _⟩
  obtain ⟨spec, hspec⟩ := Option.isSome_iff_exists.mp hsome
  obtain ⟨before, after, hlist, -⟩ := List.lookup_eq_some_iff.mp hspec
  have hcopy := h.copies (.name name, spec) (by rw [hlist]; simp)
  simp only [SpecMembers.get, hspec]
  exact congrArg _ hcopy

/-- **The members of a wrapper** are as many copies as there are layers. -/
theorem Wraps.memberSpecs_eq (h : Wraps attributes layers wrapper members) :
    memberSpecs (.uniform wrapper members) layers =
      .ok (List.replicate layers.length attributes) := by
  have htexts : (members.toList.map fun member => member.1.text).Perm layers := by
    have := h.keys.map MemberKey.text
    rwa [List.map_map, List.map_map, show MemberKey.text ∘ MemberKey.name = id from rfl,
      List.map_id] at this
  rw [memberSpecs, Except.raiseIf_neg, Except.ok_bind, ← List.map_const']
  · refine Except.mapM_of_ok fun name hname => ?_
    rw [h.get_eq hname]
    rfl
  · rw [not_not]
    exact ⟨fun t ht => htexts.mem_iff.mp ht, fun name hname => htexts.mem_iff.mpr hname⟩

theorem resolveMemberKinds_copies {kind : CachePolicy}
    (hkind : classify I classifier (.plain attributes) = .ok kind) :
    ∀ members : SpecMembers, (∀ member ∈ members.toList, member.2 = .plain attributes) →
      resolveMemberKinds I classifier members = .ok (members.toList.map fun _ => kind)
  | .nil, _ => rfl
  | .cons key spec rest, h => by
      rw [SpecMembers.toList, List.forall_mem_cons] at h
      obtain ⟨rfl, hrest⟩ := h
      rw [resolveMemberKinds, resolveVllmCacheSpecKind, hkind, Except.ok_bind,
        resolveMemberKinds_copies hkind rest hrest]
      rfl

/-- **The kind of a wrapper** is that of its copies. -/
theorem Wraps.kind_eq {kind : CachePolicy} (h : Wraps attributes layers wrapper members)
    (hne : layers ≠ []) (hkind : classify I classifier (.plain attributes) = .ok kind)
    (hsame : classify I classifier (.uniform wrapper members) =
      classify I classifier (.plain attributes)) :
    resolveVllmCacheSpecKind I classifier (.uniform wrapper members) = .ok kind := by
  have hmembers : ¬members.toList.isEmpty = true := by
    rw [List.isEmpty_iff_length_eq_zero, h.length_eq]
    exact fun hzero => hne (List.length_eq_zero_iff.mp hzero)
  have hall : ¬(members.toList.map fun _ => kind).any (· ≠ kind) = true := by simp
  rw [resolveVllmCacheSpecKind, hsame, hkind, Except.ok_bind, Except.raiseIf_neg hmembers,
    Except.ok_bind, resolveMemberKinds_copies hkind members h.copies, Except.ok_bind,
    Except.raiseIf_neg hall]
  rfl

/-- **A wrapper around copies has the topology of the spec it copies**, but for its page, which is
the sum of theirs. -/
theorem extractSpecTopology_wrapped {index : ℕ} {group : CacheGroupTopology} (hne : layers ≠ [])
    (h : extractSpecTopology I classifier index layers (.plain attributes) = .ok group)
    (hwraps : Wraps attributes layers wrapper members)
    (hsame : classify I classifier (.uniform wrapper members) =
      classify I classifier (.plain attributes)) :
    extractSpecTopology I classifier index layers (.uniform wrapper members) =
      .ok { group with pageSizeBytes := group.layers.length * group.pageSizeBytes } := by
  have hn : layers.length ≠ 0 := fun hzero => hne (List.length_eq_zero_iff.mp hzero)
  simp only [extractSpecTopology, Except.bind_eq_ok, Except.raiseIf_eq_ok, Except.pure_eq_ok] at h
  obtain ⟨blockSize, hblock, page, hpage, _, hmembers, kind, hkind, memberBlock, hmemberBlock, _,
    heq, kvHeads, hheads, keyDim, hkey, valueDim, hvalue, types, htypes, elementType, htype, _,
    hdense, _, hchunks, window, hwindow, bytes, hbytes, rfl⟩ := h
  obtain rfl := Except.ok.inj hmembers
  obtain ⟨type, htypeOk, rfl⟩ := mapM_singleton.mp htypes
  obtain rfl := Except.ok.inj htype
  obtain ⟨-, hle, rfl⟩ := checkedMul_eq_ok.mp hbytes
  obtain ⟨hmem, hpos, -⟩ := positiveAttr_eq_ok hpage
  have hattr : attributes.pageSizeBytes = .int page := (List.mem_singleton.mp hmem).symm
  have hwrapped := hwraps.pageSizeBytes page hattr
  rw [hwraps.sum_eq] at hwrapped
  have htotal : layers.length * page ≤ uint64Max := by rwa [Nat.mul_comm]
  have hpages : positiveAttr [wrapper.pageSizeBytes] "page_size_bytes" =
      .ok (layers.length * page) := by
    rw [hwrapped]
    exact uintValue_eq_ok.mpr ⟨by push_cast; rfl,
      Nat.mul_pos (Nat.pos_of_ne_zero hn) hpos, htotal⟩
  simp only [extractSpecTopology, Except.bind_eq_ok, Except.raiseIf_eq_ok, Except.pure_eq_ok]
  refine ⟨blockSize, ?_, _, hpages, _, hwraps.memberSpecs_eq, kind,
    hwraps.kind_eq hne hkind hsame, memberBlock, uniformAttr_replicate hn hmemberBlock, (), heq,
    kvHeads, uniformAttr_replicate hn hheads, keyDim, uniformAttr_replicate hn hkey, valueDim,
    uniformAttr_replicate hn hvalue, _, mapM_replicate htypeOk, _,
    uniform_replicate hn (beq_self_eq_true _), (), validateDense_replicate hn hdense, (),
    any_replicate hchunks, window, extractPolicyWindow_replicate hn hwindow, layers.length * page,
    ?_, ?_⟩
  · rw [CacheSpec.attributes, hwraps.blockSize]
    exact hblock
  · exact groupBytes_copies hn hpage htotal
  · simp only [Nat.mul_comm page]

end

/-! ## Whole configurations -/

/-- The group at an index, with another spec. -/
def RawGroup.withSpec (group : RawGroup) (spec : CacheSpec) : RawGroup :=
  { group with kvCacheSpec := some spec }

/-- A configuration with another group at an index. -/
def ResolvedConfig.setGroup (config : ResolvedConfig) (index : ℕ) (group : RawGroup) :
    ResolvedConfig :=
  { config with kvCacheGroups := config.kvCacheGroups.map (·.set index group) }

/-- The topology of a group in a wrapper. -/
def CacheGroupTopology.wrapped (group : CacheGroupTopology) : CacheGroupTopology :=
  { group with pageSizeBytes := group.layers.length * group.pageSizeBytes }

section

variable {attributes wrapper : SpecAttributes} {members : SpecMembers} {raw : RawGroup}
  {index : ℕ} {group : CacheGroupTopology}

/-- **A group that was extracted** has a spec, and keeps its stripped layer names. -/
theorem extractGroupTopology_eq_ok
    (h : extractGroupTopology I classifier raw index = .ok group) :
    ∃ spec, raw.kvCacheSpec = some spec ∧ group.layers ≠ [] ∧
      extractSpecTopology I classifier index group.layers spec = .ok group ∧
      ∃ names, raw.layerNames = some names ∧
        (names.mapM fun layer => text layer "layer name") = .ok group.layers := by
  unfold extractGroupTopology at h
  obtain hnone | ⟨names, hnames⟩ := Option.eq_none_or_eq_some raw.layerNames
  · simp only [hnone] at h
    cases h
  simp only [hnames, Except.bind_eq_ok, Except.raiseIf_eq_ok] at h
  obtain ⟨layers, hlayers, _, hne, h⟩ := h
  obtain hnone | ⟨spec, hspec⟩ := Option.eq_none_or_eq_some raw.kvCacheSpec
  · simp only [hnone] at h
    cases h
  simp only [hspec] at h
  have heq : group.layers = layers := by
    simp only [extractSpecTopology, Except.bind_eq_ok, Except.pure_eq_ok] at h
    obtain ⟨_, -, _, -, _, -, _, -, _, -, _, -, _, -, _, -, _, -, _, -, _, -, _, -, _, -, _, -, _,
      -, rfl⟩ := h
    rfl
  subst heq
  exact ⟨spec, hspec, hne, h, names, hnames, hlayers⟩

theorem extractGroupTopology_wrapped (hspec : raw.kvCacheSpec = some (.plain attributes))
    (h : extractGroupTopology I classifier raw index = .ok group)
    (hwraps : Wraps attributes group.layers wrapper members)
    (hsame : classify I classifier (.uniform wrapper members) =
      classify I classifier (.plain attributes)) :
    extractGroupTopology I classifier (raw.withSpec (.uniform wrapper members)) index =
      .ok group.wrapped := by
  obtain ⟨spec, hspec', hne, h, names, hnames, hlayers⟩ := extractGroupTopology_eq_ok h
  obtain rfl := Option.some.inj (hspec'.symm.trans hspec)
  simp only [extractGroupTopology, RawGroup.withSpec, hnames, hlayers, Except.ok_bind,
    Except.raiseIf_neg hne]
  exact extractSpecTopology_wrapped hne h hwraps hsame

/-- What one sequence needs is an integer its spec computed. -/
theorem maximumSequenceBytes_eq_ok {spec : CacheSpec} (hspec : raw.kvCacheSpec = some spec)
    {bytes : ℕ} : maximumSequenceBytes raw index = .ok bytes ↔
      spec.attributes.maxMemoryUsageBytes = some (.ok (.int bytes)) ∧ InRange bytes := by
  simp only [maximumSequenceBytes, hspec, Option.bind_some]
  split
  · next h => simp [h]
  · next value h =>
    rw [h, uintValue_eq_ok]
    simp [InRange]
  · next h => simp [h]
  · next h => simp [h]

/-- **The blocks one sequence needs** are the same: what it needs and the page both grow with the
number of layers. -/
theorem sizeGroup_wrapped {geometry : CacheGroupGeometry}
    (hspec : raw.kvCacheSpec = some (.plain attributes)) (hne : group.layers ≠ [])
    (hwraps : Wraps attributes group.layers wrapper members)
    (hle : group.layers.length * group.pageSizeBytes ≤ uint64Max)
    (h : sizeGroup raw group index = .ok geometry) :
    sizeGroup (raw.withSpec (.uniform wrapper members)) group.wrapped index = .ok geometry := by
  have hn : 0 < group.layers.length := List.length_pos_iff.mpr hne
  obtain ⟨bytes, hbytes, h⟩ := Except.bind_eq_ok.mp h
  obtain ⟨blocks, hblocks, h⟩ := Except.bind_eq_ok.mp h
  obtain ⟨-, ⟨hpage, -⟩, rfl⟩ := ceilDiv_eq_ok.mp hblocks
  obtain ⟨hmaximum, hrange⟩ := (maximumSequenceBytes_eq_ok hspec).mp hbytes
  obtain ⟨hsum, hwrapper⟩ := hwraps.maxMemoryUsageBytes bytes hmaximum
  rw [hwraps.sum_eq, ← Nat.cast_mul] at hsum hwrapper
  have hfits : group.layers.length * bytes ≤ uint64Max := by
    unfold uint64Max
    omega
  have hspec' : (raw.withSpec (.uniform wrapper members)).kvCacheSpec =
      some (.uniform wrapper members) := rfl
  have hbytes' : maximumSequenceBytes (raw.withSpec (.uniform wrapper members)) index =
      .ok (group.layers.length * bytes) :=
    (maximumSequenceBytes_eq_ok hspec').mpr ⟨hwrapper, Nat.mul_pos hn hrange.1, hfits⟩
  have hblocks' : ceilDiv (group.layers.length * bytes) group.wrapped.pageSizeBytes
      "required_blocks_per_sequence" = .ok (bytes ⌈/⌉ group.pageSizeBytes) :=
    ceilDiv_eq_ok.mpr ⟨hfits, ⟨Nat.mul_pos hn hpage, hle⟩,
      Nat.mul_ceilDiv_mul_left bytes hn hpage⟩
  rw [sizeGroup, hbytes', Except.ok_bind, hblocks']
  exact h

end

/-- Replacing a group by its wrapped form changes no layer. -/
theorem flatMap_layers_set {groups : List CacheGroupTopology} {index : ℕ}
    {group : CacheGroupTopology} (h : groups[index]? = some group) :
    (groups.set index group.wrapped).flatMap (·.layers) = groups.flatMap (·.layers) := by
  obtain ⟨hlt, rfl⟩ := List.getElem?_eq_some_iff.mp h
  rw [List.flatMap_def, List.flatMap_def, List.map_set]
  refine congrArg List.flatten (List.ext_getElem (by simp) fun j hj hj' => ?_)
  rw [List.getElem_set]
  split
  · next heq =>
    subst heq
    simp [CacheGroupTopology.wrapped]
  · rfl

/-- **Group bytes are exact, and wrapping changes nothing else.**  Every extracted group's block
holds its layers' dense pages and has 64 bits; and if a plain spec is replaced by a wrapper around
a copy for each layer, the extraction still succeeds, with the same topologies but for the page, and
the group is sized the same. -/
theorem groupBytes_exact {config : ResolvedConfig} {groups : List CacheGroupTopology}
    (h : extractCacheGroupTopologies I classifier config = .ok groups) :
    (∀ group ∈ groups,
      group.bytesPerGroupBlock = group.layers.length * group.blockSizeTokens * group.kvHeads *
        (group.keyHeadDim + group.valueHeadDim) * (group.elementType.bits / 8) ∧
      group.bytesPerGroupBlock < 2 ^ 64) ∧
    ∀ index raw attributes group,
      (config.kvCacheGroups.getD [])[index]? = some raw →
      raw.kvCacheSpec = some (.plain attributes) → groups[index]? = some group →
      ∀ wrapper members, Wraps attributes group.layers wrapper members →
        classify I classifier (.uniform wrapper members) =
          classify I classifier (.plain attributes) →
        extractCacheGroupTopologies I classifier
            (config.setGroup index (raw.withSpec (.uniform wrapper members))) =
          .ok (groups.set index group.wrapped) ∧
        ∀ geometry, sizeGroup raw group index = .ok geometry →
          sizeGroup (raw.withSpec (.uniform wrapper members)) group.wrapped index =
            .ok geometry := by
  simp only [extractCacheGroupTopologies, Except.bind_eq_ok, Except.raiseIf_eq_ok,
    Except.pure_eq_ok] at h
  obtain ⟨_, hraw, _, hgroups, _, hnodup, rfl⟩ := h
  have hbytes : ∀ raw index group, extractGroupTopology I classifier raw index = .ok group →
      group.bytesPerGroupBlock = group.layers.length * group.densePageBytes ∧
        group.bytesPerGroupBlock ≤ uint64Max := by
    intro raw index group hgroup
    obtain ⟨_, -, -, hspec, -⟩ := extractGroupTopology_eq_ok hgroup
    exact bytesPerGroupBlock_eq hspec
  refine ⟨fun group hgroup => ?_, ?_⟩
  · obtain ⟨pair, -, hpair⟩ := Except.exists_of_mem_mapM hgroups hgroup
    obtain ⟨heq, hle⟩ := hbytes _ _ _ hpair
    refine ⟨?_, Nat.lt_of_le_of_lt hle (by decide)⟩
    rw [heq, CacheGroupTopology.densePageBytes]
    simp only [Nat.mul_assoc]
  · intro index raw attributes group hraw' hspec hgroup wrapper members hwraps hsame
    have hround : extractGroupTopology I classifier raw index = .ok group :=
      Except.mapM_zipIdx_getElem hgroups hraw' hgroup
    have hwrapped := extractGroupTopology_wrapped hspec hround hwraps hsame
    obtain ⟨_, -, hne, -⟩ := extractGroupTopology_eq_ok hround
    obtain ⟨_, -, -, hfound, -⟩ := extractGroupTopology_eq_ok hwrapped
    have hset : (config.setGroup index (raw.withSpec (.uniform wrapper members))).kvCacheGroups.getD
        [] = (config.kvCacheGroups.getD []).set index
          (raw.withSpec (.uniform wrapper members)) := by
      unfold ResolvedConfig.setGroup
      obtain hnone | ⟨raws, hsome⟩ := Option.eq_none_or_eq_some config.kvCacheGroups
      · simp [hnone]
      · simp [hsome]
    refine ⟨?_, fun geometry hsize => sizeGroup_wrapped hspec hne hwraps (pageSizeBytes_le hfound)
      hsize⟩
    simp only [extractCacheGroupTopologies, hset, Except.bind_eq_ok, Except.raiseIf_eq_ok,
      Except.pure_eq_ok]
    exact ⟨(), fun hnil => hraw (by simpa using hnil), _,
      Except.mapM_zipIdx_set hgroups hwrapped, (), by rwa [flatMap_layers_set hgroup], rfl⟩

/-- The members of a wrapper around a copy for each layer. -/
def copiesOf (attributes : SpecAttributes) : List String → SpecMembers
  | [] => .nil
  | layer :: layers => .cons (.name layer) (.plain attributes) (copiesOf attributes layers)

/-- A wrapper for the plain group of `twoGroups`: two pages, and twice the bytes. -/
def wrappedLayer : SpecAttributes :=
  { smallLayer with
    pageSizeBytes := .int 16
    maxMemoryUsageBytes := some (.ok (.int 80)) }

theorem wraps_wrappedLayer : Wraps smallLayer ["layer.0", "layer.1"] wrappedLayer
    (copiesOf smallLayer ["layer.0", "layer.1"]) where
  keys := .refl _
  copies := by
    simp [copiesOf, SpecMembers.toList]
  blockSize := rfl
  pageSizeBytes := by
    rintro page hpage
    obtain rfl := PyValue.int.inj hpage
    rfl
  maxMemoryUsageBytes := by
    rintro bytes hbytes
    obtain rfl := PyValue.int.inj (Except.ok.inj (Option.some.inj hbytes))
    exact ⟨by decide, rfl⟩

/-- What is extracted of the plain group of `twoGroups`. -/
def plainTopology : CacheGroupTopology where
  groupId := "vllm.group.0"
  layers := ["layer.0", "layer.1"]
  blockSizeTokens := 2
  pageSizeBytes := 8
  bytesPerGroupBlock := 16
  kvHeads := 1
  keyHeadDim := 1
  valueHeadDim := 1
  elementType := { name := "float16", bits := 16 }
  policyKind := .fullAttention

/-- The plain group of `twoGroups`, wrapped. -/
def wrappedGroup : RawGroup where
  layerNames := some ["layer.0", "layer.1"]
  kvCacheSpec := some (.uniform wrappedLayer (copiesOf smallLayer ["layer.0", "layer.1"]))

theorem groupBytes_exact_twoGroups : ∃ second geometry,
    extractCacheGroupTopologies ClientCall.heartbeatClient.interpreter windowClassifier
      (twoGroups.setGroup 0 wrappedGroup) =
      .ok [{ plainTopology with pageSizeBytes := 16 }, second] ∧
    sizeGroup wrappedGroup { plainTopology with pageSizeBytes := 16 } 0 = .ok geometry ∧
      geometry.requiredBlocksPerSequence = 5 := by
  have hextract : ∃ second, extractCacheGroupTopologies ClientCall.heartbeatClient.interpreter
      windowClassifier twoGroups = .ok [plainTopology, second] := ⟨_, rfl⟩
  obtain ⟨second, hextract⟩ := hextract
  obtain ⟨hwrapped, hsize⟩ := (groupBytes_exact hextract).2 0 _ smallLayer plainTopology rfl rfl rfl
    wrappedLayer _ wraps_wrappedLayer rfl
  exact ⟨second, _, hwrapped, hsize _ rfl, rfl⟩

end Kapsl.Vllm
