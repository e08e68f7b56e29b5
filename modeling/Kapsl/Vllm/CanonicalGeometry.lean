import Kapsl.Vllm.Geometry

/-!
# Vllm/CanonicalGeometry — one canonical JSON for one geometry

The digest that binds a provisioning grant is taken over the canonical JSON of a descriptor.  Two
sorts forget the order the ranks and the groups of each rank were supplied in; every field of the
constructed descriptor can be read back from the document.

* `RankGeometry.construct_of_reordered`, `GeometryDescriptor.construct_of_reordered` — another order
  builds the same object.
* `CacheGroupGeometry.toDict_inj`, `RankGeometry.toDict_inj`, `GeometryDescriptor.toDict_inj` — a
  document determines what it was written from.
* `canonicalJson_canonical` — both, of the canonical JSON.
-/

namespace Kapsl.Vllm

open JsonText (Value)

/-! ## Another order builds the same object -/

/-- The same rank with its groups in another order. -/
def RankGeometry.Reordered (r r' : RankGeometry PyStr) : Prop :=
  ∃ groups, r.groups.Perm groups ∧ r' = { r with groups }

/-- The same descriptor with its ranks, and the groups of each, in another order. -/
def GeometryDescriptor.Reordered (d d' : GeometryDescriptor) : Prop :=
  ∃ reordered ranks, List.Forall₂ RankGeometry.Reordered d.ranks reordered ∧
    reordered.Perm ranks ∧ d' = { d with ranks }

theorem RankGeometry.postInit_of_perm {r built : RankGeometry PyStr}
    {groups : List (CacheGroupGeometry PyStr)} (hperm : r.groups.Perm groups)
    (h : r.postInit = .ok built) : RankGeometry.postInit { r with groups } = .ok built := by
  have hids : (r.groups.map (·.groupId)).Nodup := by
    simp only [RankGeometry.postInit, Except.bind_eq_ok, Except.raiseIf_eq_ok, not_not] at h
    obtain ⟨_, -, _, -, _, -, _, -, -, -, -, hids, -⟩ := h
    exact ((List.perm_insertionSort _ r.groups).map _).nodup_iff.mp hids
  have hsorted := List.insertionSort_eq_of_perm (·.groupId) hperm hids
  unfold RankGeometry.postInit at h ⊢
  rwa [← hsorted]

/-- **The order of the groups is forgotten.** -/
theorem RankGeometry.construct_of_reordered {r r' built : RankGeometry PyStr}
    (hreordered : r.Reordered r') (h : r.construct = .ok built) : r'.construct = .ok built := by
  obtain ⟨groups, hperm, rfl⟩ := hreordered
  obtain ⟨constructed, hgroups, hbuilt⟩ := Except.bind_eq_ok.mp h
  obtain ⟨constructed', hgroups', hperm'⟩ := Except.mapM_perm hperm hgroups
  exact Except.bind_eq_ok.mpr ⟨constructed', hgroups',
    postInit_of_perm (r := { r with groups := constructed }) hperm' hbuilt⟩

theorem GeometryDescriptor.postInit_of_perm {upper : PyStr → PyStr} {d built : GeometryDescriptor}
    {ranks : List (RankGeometry PyStr)} (hperm : d.ranks.Perm ranks)
    (h : d.postInit upper = .ok built) :
    GeometryDescriptor.postInit upper { d with ranks } = .ok built := by
  have hranks : (d.ranks.map (·.rank)).Nodup := by
    simp only [GeometryDescriptor.postInit, Except.bind_eq_ok] at h
    obtain ⟨_, -, _, -, _, -, _, -, _, -, _, -, _, hchecked, -⟩ := h
    exact ((List.perm_insertionSort _ d.ranks).map _).nodup_iff.mp (nodup_rank hchecked)
  have hsorted := List.insertionSort_eq_of_perm (·.rank) hperm hranks
  unfold GeometryDescriptor.postInit at h ⊢
  rwa [← hsorted]

/-- **The order of the ranks, and of the groups in each, is forgotten.** -/
theorem GeometryDescriptor.construct_of_reordered {upper : PyStr → PyStr}
    {raw raw' d : GeometryDescriptor} (hreordered : raw.Reordered raw')
    (h : raw.construct upper = .ok d) : raw'.construct upper = .ok d := by
  obtain ⟨reordered, ranks, hgroups, hperm, rfl⟩ := hreordered
  simp only [GeometryDescriptor.construct, Except.bind_eq_ok] at h ⊢
  obtain ⟨identity, hidentity, constructed, hranks, hbuilt⟩ := h
  have hmiddle := Except.mapM_of_forall₂ (f := RankGeometry.construct)
    (fun _ _ _ => RankGeometry.construct_of_reordered) hgroups hranks
  obtain ⟨constructed', hranks', hperm'⟩ := Except.mapM_perm hperm hmiddle
  exact ⟨identity, hidentity, constructed', hranks',
    postInit_of_perm (d := { raw with identity, ranks := constructed }) hperm' hbuilt⟩

/-! ## A document determines what it was written from -/

theorem Value.nat_inj {m n : ℕ} : Value.nat m = Value.nat n ↔ m = n := by
  rw [Value.nat, Value.nat, JsonText.Value.int.injEq, Int.natCast_inj]

theorem ElementType.toDict_inj {e e' : ElementType PyStr} (h : e.toDict = e'.toDict) : e = e' := by
  have hfields := JsonText.Value.ofFields_inj (by rfl) (by simp) h
  simp only [List.cons.injEq, Prod.mk.injEq, JsonText.Value.text.injEq, Value.nat_inj] at hfields
  obtain ⟨⟨-, hname⟩, ⟨-, hbits⟩, -⟩ := hfields
  cases e
  cases e'
  simp_all

/-- A policy is read back from its kind and, where one slides, its window. -/
theorem CacheGroupGeometry.policyDict_inj {g g' : CacheGroupGeometry PyStr} (hg : g.PolicyOk)
    (hg' : g'.PolicyOk) (h : g.policyDict = g'.policyDict) :
    g.policyKind = g'.policyKind ∧ g.windowTokens = g'.windowTokens ∧
      g.extraRetainedTokens = g'.extraRetainedTokens := by
  unfold PolicyOk at hg hg'
  unfold policyDict at h
  rcases hkind : g.policyKind with _ | _ <;> rcases hkind' : g'.policyKind with _ | _ <;>
    simp only [hkind, hkind'] at hg hg' h
  · rw [hg.1, hg'.1, hg.2, hg'.2]
    exact ⟨rfl, rfl, rfl⟩
  · obtain ⟨⟨window, hwindow, -⟩, -⟩ := hg'
    simp only [hg.1, hwindow] at h
    exact absurd (JsonText.Value.perm_of_ofFields h).length_eq (by simp)
  · obtain ⟨⟨window, hwindow, -⟩, -⟩ := hg
    simp only [hg'.1, hwindow] at h
    exact absurd (JsonText.Value.perm_of_ofFields h).length_eq (by simp)
  · obtain ⟨⟨window, hwindow, -⟩, -⟩ := hg
    obtain ⟨⟨window', hwindow', -⟩, -⟩ := hg'
    simp only [hwindow, hwindow'] at h
    have hfields := JsonText.Value.ofFields_inj (by rfl) (by simp) h
    simp only [List.cons.injEq, Prod.mk.injEq, Value.nat_inj] at hfields
    obtain ⟨-, ⟨-, hwindows⟩, ⟨-, hextra⟩, -⟩ := hfields
    exact ⟨rfl, by rw [hwindow, hwindow', hwindows], hextra⟩

/-- **The document of a group determines the group.** -/
theorem CacheGroupGeometry.toDict_inj {g g' : CacheGroupGeometry PyStr} (hg : g.WellFormed)
    (hg' : g'.WellFormed) (h : g.toDict = g'.toDict) : g = g' := by
  have hfields := JsonText.Value.ofFields_inj (by rfl) (by simp) h
  simp only [List.cons.injEq, Prod.mk.injEq, JsonText.Value.text.injEq,
    JsonText.Value.list.injEq, Value.nat_inj] at hfields
  obtain ⟨⟨-, hid⟩, ⟨-, hlayers⟩, ⟨-, hblock⟩, ⟨-, hbytes⟩, ⟨-, hrequired⟩, ⟨-, hheads⟩, ⟨-, hkey⟩,
    ⟨-, hvalue⟩, ⟨-, helement⟩, ⟨-, hpolicy⟩, -⟩ := hfields
  have htexts : Function.Injective JsonText.Value.text := fun _ _ => JsonText.Value.text.inj
  obtain ⟨hkind, hwindow, hextra⟩ := policyDict_inj hg.policy hg'.policy hpolicy
  rcases g with ⟨⟩
  rcases g' with ⟨⟩
  simp only [CacheGroupGeometry.mk.injEq]
  exact ⟨hid, List.map_injective_iff.mpr htexts hlayers, hblock, hbytes, hrequired, hheads, hkey,
    hvalue, ElementType.toDict_inj helement, hkind, hwindow, hextra⟩

theorem CacheGroupGeometry.map_toDict_inj {gs gs' : List (CacheGroupGeometry PyStr)}
    (hgs : ∀ g ∈ gs, g.WellFormed) (hgs' : ∀ g ∈ gs', g.WellFormed)
    (h : gs.map (·.toDict) = gs'.map (·.toDict)) : gs = gs' := by
  induction gs generalizing gs' with
  | nil => exact (List.map_eq_nil_iff.mp h.symm).symm
  | cons g gs ih =>
    obtain ⟨g', rest, rfl, hdoc, hrest⟩ := List.map_eq_cons_iff.mp h.symm
    obtain ⟨hg, hgs⟩ := List.forall_mem_cons.mp hgs
    obtain ⟨hg', hrest'⟩ := List.forall_mem_cons.mp hgs'
    rw [toDict_inj hg hg' hdoc.symm, ih hgs hrest' hrest.symm]

/-- **The document of a rank determines the rank.** -/
theorem RankGeometry.toDict_inj {r r' : RankGeometry PyStr} {v : Value} (hr : r.WellFormed)
    (hr' : r'.WellFormed) (h : r.toDict = .ok v) (h' : r'.toDict = .ok v) : r = r' := by
  simp only [RankGeometry.toDict, Except.bind_eq_ok, Except.pure_eq_ok] at h h'
  obtain ⟨required, -, rfl⟩ := h
  obtain ⟨required', -, heq⟩ := h'
  have hfields := JsonText.Value.ofFields_inj (by rfl) (by simp) heq
  simp only [List.cons.injEq, Prod.mk.injEq, JsonText.Value.list.injEq, Value.nat_inj] at hfields
  obtain ⟨⟨-, hrank⟩, ⟨-, hdevice⟩, ⟨-, hpool⟩, ⟨-, hoverhead⟩, -, ⟨-, hgroups⟩, -⟩ := hfields
  have hgroups := CacheGroupGeometry.map_toDict_inj hr'.groups hr.groups hgroups
  rcases r with ⟨⟩
  rcases r' with ⟨⟩
  simp only [RankGeometry.mk.injEq]
  exact ⟨hrank.symm, hdevice.symm, hpool.symm, hgroups.symm, hoverhead.symm⟩

theorem PlannerIdentity.toDict_inj {i i' : PlannerIdentity} (h : i.toDict = i'.toDict) :
    i = i' := by
  have hfields := JsonText.Value.ofFields_inj (by rfl) (by simp) h
  simp only [List.cons.injEq, Prod.mk.injEq, JsonText.Value.text.injEq, Value.nat_inj] at hfields
  obtain ⟨⟨-, hadapter⟩, ⟨-, hversion⟩, ⟨-, hbackend⟩, ⟨-, hprofile⟩, ⟨-, hlayout⟩, -⟩ := hfields
  rcases i with ⟨⟩
  rcases i' with ⟨⟩
  simp only [PlannerIdentity.mk.injEq]
  exact ⟨hadapter, hversion, hbackend, hprofile, hlayout⟩

/-- **The document of a descriptor determines the descriptor.** -/
theorem GeometryDescriptor.toDict_inj {d d' : GeometryDescriptor} {v : Value} (hd : d.WellFormed)
    (hd' : d'.WellFormed) (h : d.toDict = .ok v) (h' : d'.toDict = .ok v) : d = d' := by
  simp only [GeometryDescriptor.toDict, Except.bind_eq_ok, Except.pure_eq_ok] at h h'
  obtain ⟨total, -, docs, hdocs, rfl⟩ := h
  obtain ⟨total', -, docs', hdocs', heq⟩ := h'
  have hfields := JsonText.Value.ofFields_inj (by rfl) (by simp) heq
  simp only [List.cons.injEq, Prod.mk.injEq, JsonText.Value.text.injEq,
    JsonText.Value.list.injEq, Value.nat_inj] at hfields
  obtain ⟨⟨-, hidentity⟩, ⟨-, hfingerprint⟩, ⟨-, hlen⟩, ⟨-, htp⟩, ⟨-, hbackend⟩, ⟨-, hlayout⟩, -,
    ⟨-, rfl⟩, -⟩ := hfields
  have hranks : d'.ranks = d.ranks := by
    refine Except.mapM_inj ?_ hdocs' hdocs
    intro r' hr' r hr doc
    exact RankGeometry.toDict_inj (hd'.ranks r' hr') (hd.ranks r hr)
  have hidentity := PlannerIdentity.toDict_inj hidentity
  rcases d with ⟨⟩
  rcases d' with ⟨⟩
  simp only [GeometryDescriptor.mk.injEq]
  exact ⟨hidentity.symm, hfingerprint.symm, hlen.symm, htp.symm, hbackend.symm, hlayout.symm,
    hranks.symm⟩

/-- The canonical JSON determines the document. -/
theorem GeometryDescriptor.canonicalJson_inj {d d' : GeometryDescriptor} {json : PyStr}
    (hd : d.WellFormed) (hd' : d'.WellFormed) (h : d.canonicalJson = .ok json)
    (h' : d'.canonicalJson = .ok json) : d = d' := by
  simp only [canonicalJson, canonicalPayload, Except.bind_eq_ok, Except.pure_eq_ok] at h h'
  obtain ⟨payload, ⟨doc, hdoc, rfl⟩, rfl⟩ := h
  obtain ⟨payload', ⟨doc', hdoc', rfl⟩, heq⟩ := h'
  have hfields := JsonText.Value.ofFields_inj (by rfl) (by simp) (JsonText.render_injective heq)
  simp only [List.cons.injEq, Prod.mk.injEq] at hfields
  obtain ⟨-, ⟨-, rfl⟩, -⟩ := hfields
  exact toDict_inj hd hd' hdoc hdoc'

/-! ## The canonical JSON -/

/-- **The canonical JSON is canonical**: supplying the ranks, or the groups of any rank, in another
order leaves it unchanged, and two descriptors have one canonical JSON exactly when they are equal
field by field. -/
theorem canonicalJson_canonical (upper : PyStr → PyStr) :
    (∀ raw raw' d : GeometryDescriptor, raw.Reordered raw' → raw.construct upper = .ok d →
      ∃ d', raw'.construct upper = .ok d' ∧ d'.canonicalJson = d.canonicalJson ∧
        ∀ sha256, d'.geometryDigest sha256 = d.geometryDigest sha256) ∧
    ∀ (raw raw' d d' : GeometryDescriptor) (json json' : PyStr),
      raw.construct upper = .ok d → raw'.construct upper = .ok d' →
      d.canonicalJson = .ok json → d'.canonicalJson = .ok json' → (json = json' ↔ d = d') := by
  refine ⟨?_, ?_⟩
  · intro raw raw' d hreordered hd
    exact ⟨d, GeometryDescriptor.construct_of_reordered hreordered hd, rfl, fun _ => rfl⟩
  · intro raw raw' d d' json json' hd hd' hjson hjson'
    have hwf := GeometryDescriptor.wellFormed_of_construct hd
    have hwf' := GeometryDescriptor.wellFormed_of_construct hd'
    constructor
    · rintro rfl
      exact GeometryDescriptor.canonicalJson_inj hwf hwf' hjson hjson'
    · rintro rfl
      exact Except.ok.inj (hjson.symm.trans hjson')

/-! ## Two ranks -/

/-- `str.upper` on ASCII. -/
def asciiUpper (s : PyStr) : PyStr :=
  s.map fun c => if 97 ≤ c.val ∧ c.val ≤ 122 then ⟨c.val - 32, by omega⟩ else c

/-- A rank with a full-attention group and one whose window slides. -/
def pairRank (rank : ℕ) : RankGeometry PyStr where
  rank
  deviceId := rank
  poolBytesPerBlock := 64
  fixedOverheadBlocks := 1
  groups := [
    { groupId := JsonText.ofString "a", layers := [JsonText.ofString "l.0"], blockSizeTokens := 16
      bytesPerGroupBlock := 64, requiredBlocksPerSequence := 4, kvHeads := 1, keyHeadDim := 8
      valueHeadDim := 8, elementType := { name := JsonText.ofString "float16", bits := 16 }
      policyKind := .fullAttention },
    { groupId := JsonText.ofString "b", layers := [JsonText.ofString "l.1"], blockSizeTokens := 16
      bytesPerGroupBlock := 32, requiredBlocksPerSequence := 2, kvHeads := 1, keyHeadDim := 8
      valueHeadDim := 8, elementType := { name := JsonText.ofString "float16", bits := 16 }
      policyKind := .slidingWindow, windowTokens := some 32 }]

/-- A descriptor over these ranks. -/
def pairDescriptor (backend : String) (ranks : List (RankGeometry PyStr)) : GeometryDescriptor where
  identity :=
    { adapterId := JsonText.ofString "kapsl-vllm", adapterVersion := JsonText.ofString "1"
      backendVersion := JsonText.ofString "0.11", profileId := JsonText.ofString "p" }
  modelFingerprint := JsonText.ofString "m"
  maxModelLen := 64
  tensorParallelSize := ranks.length
  attentionBackend := JsonText.ofString backend
  layoutId := JsonText.ofString "packed"
  ranks

theorem construct_pair :
    (pairDescriptor "FLASH_ATTN" [pairRank 0, pairRank 1]).construct asciiUpper =
      .ok (pairDescriptor "FLASH_ATTN" [pairRank 0, pairRank 1]) := by decide +kernel

theorem canonicalJson_canonical_twoRanks :
    let built := pairDescriptor "FLASH_ATTN" [pairRank 0, pairRank 1]
    let other := { built with modelFingerprint := JsonText.ofString "n" }
    (∃ d', (pairDescriptor "flash_attn" [{ pairRank 1 with groups := (pairRank 1).groups.reverse },
        pairRank 0]).construct asciiUpper = .ok d' ∧ d'.canonicalJson = built.canonicalJson ∧
        ∀ sha256, d'.geometryDigest sha256 = built.geometryDigest sha256) ∧
      ∃ json json', built.canonicalJson = .ok json ∧ other.canonicalJson = .ok json' ∧
        json ≠ json' := by
  intro built other
  obtain ⟨horder, hfields⟩ := canonicalJson_canonical asciiUpper
  have hraw : (pairDescriptor "flash_attn" [pairRank 0, pairRank 1]).construct asciiUpper =
      .ok built := by decide +kernel
  have hother : other.construct asciiUpper = .ok other := by decide +kernel
  refine ⟨horder _ _ built ⟨[pairRank 0, { pairRank 1 with groups := (pairRank 1).groups.reverse }],
    _, ?_, List.Perm.swap _ _ _, rfl⟩ hraw, _, _, rfl, rfl, ?_⟩
  · exact .cons ⟨_, .refl _, rfl⟩ (.cons ⟨_, (List.reverse_perm _).symm, rfl⟩ .nil)
  · intro heq
    have hne : built.modelFingerprint ≠ other.modelFingerprint := by decide
    exact hne (congrArg _ ((hfields _ _ _ _ _ _ construct_pair hother rfl rfl).mp heq))

end Kapsl.Vllm
