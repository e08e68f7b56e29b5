import Kapsl.Lib.JsonText
import Kapsl.Lib.KeySort
import Kapsl.Lib.Trim
import Kapsl.Vllm.Planning
import Kapsl.Vllm.Registration

/-!
# Vllm/Geometry — geometry descriptors and their canonical JSON

A geometry is built from the bottom: element types, cache groups, ranks, the descriptor, each by its
own `__post_init__`.  `construct` runs them all on what the caller supplied, so a descriptor is what
`construct` returned.  The texts of a geometry are Python strings, which may hold lone surrogates.

The digest of a provisioning grant is taken over `canonical_json` of the descriptor.

`WellFormed` says what construction guarantees of each level; `wellFormed_of_construct` is all that
later proofs read of the constructors.
-/

namespace Kapsl.Vllm

open Except (raiseIf)
open JsonText (CodePoint Value)

/-! ## Python strings -/

/-- A Python `str`. -/
abbrev PyStr := JsonText.Text

/-- The code points `str.strip()` removes. -/
def isSpaceCode (c : CodePoint) : Bool :=
  let n := c.val
  (9 ≤ n && n ≤ 13) || (28 ≤ n && n ≤ 32) || n = 0x85 || n = 0xa0 || n = 0x1680 ||
    (0x2000 ≤ n && n ≤ 0x200a) || n = 0x2028 || n = 0x2029 || n = 0x202f || n = 0x205f ||
    n = 0x3000

instance : PyText PyStr where
  toLinearOrder := inferInstance
  strip := List.trim isSpaceCode
  isBlank := fun value => value.all isSpaceCode

/-- A surrogate, which UTF-8 has no encoding for. -/
def isSurrogate (c : CodePoint) : Bool := 0xd800 ≤ c.val && c.val ≤ 0xdfff

/-- The UTF-8 bytes of a code point that is no surrogate. -/
def utf8Bytes (c : CodePoint) : List UInt8 :=
  let n := c.val
  if n < 0x80 then [.ofNat n]
  else if n < 0x800 then [.ofNat (0xc0 + n / 64), .ofNat (0x80 + n % 64)]
  else if n < 0x10000 then
    [.ofNat (0xe0 + n / 4096), .ofNat (0x80 + n / 64 % 64), .ofNat (0x80 + n % 64)]
  else
    [.ofNat (0xf0 + n / 262144), .ofNat (0x80 + n / 4096 % 64), .ofNat (0x80 + n / 64 % 64),
      .ofNat (0x80 + n % 64)]

/-- `text.encode("utf-8")`. -/
def encodeUtf8 (text : PyStr) : Except PyError (List UInt8) := do
  raiseIf (text.any isSurrogate = true)
    (.unicodeEncodeError "'utf-8' codec can't encode character: surrogates not allowed")
  pure (text.flatMap utf8Bytes)

/-- `hexdigest()`: two digits a byte. -/
def hexdigest (digest : Vector UInt8 32) : PyStr :=
  digest.toList.flatMap fun byte =>
    [JsonText.hexDigit (byte.toNat / 16), JsonText.hexDigit (byte.toNat % 16)]

/-- An unsigned integer in a document. -/
def Value.nat (n : ℕ) : Value := .int n

/-- A string literal in a document. -/
def Value.literal (s : String) : Value := .text (JsonText.ofString s)

/-! ## The dataclasses -/

/-- `PlannerIdentity`. -/
structure PlannerIdentity where
  adapterId : PyStr
  adapterVersion : PyStr
  backendVersion : PyStr
  profileId : PyStr
  layoutVersion : ℕ := 1
  deriving DecidableEq

/-- `GeometryDescriptor`. -/
structure GeometryDescriptor where
  identity : PlannerIdentity
  modelFingerprint : PyStr
  maxModelLen : ℕ
  tensorParallelSize : ℕ
  attentionBackend : PyStr
  layoutId : PyStr
  ranks : List (RankGeometry PyStr)
  deriving DecidableEq

/-- `PlannerIdentity.__post_init__`. -/
def PlannerIdentity.postInit (self : PlannerIdentity) : Except PyError PlannerIdentity := do
  let adapterId ← text self.adapterId "adapter_id"
  let adapterVersion ← text self.adapterVersion "adapter_version"
  let backendVersion ← text self.backendVersion "backend_version"
  let profileId ← text self.profileId "profile_id"
  let _ ← uint self.layoutVersion "layout_version"
  raiseIf (self.layoutVersion ≠ 1) (.planningError "unsupported packed-layout contract version")
  pure { self with adapterId, adapterVersion, backendVersion, profileId }

/-- `PlannerIdentity.to_dict`. -/
def PlannerIdentity.toDict (self : PlannerIdentity) : Value :=
  .ofFields [("adapter_id", .text self.adapterId), ("adapter_version", .text self.adapterVersion),
    ("backend_version", .text self.backendVersion), ("profile_id", .text self.profileId),
    ("layout_version", Value.nat self.layoutVersion)]

/-- `ElementType.to_dict`. -/
def ElementType.toDict (self : ElementType PyStr) : Value :=
  .ofFields [("name", .text self.name), ("bits", Value.nat self.bits),
    ("bytes", Value.nat (self.bits / 8))]

/-- The policy in `CacheGroupGeometry.to_dict`. -/
def CacheGroupGeometry.policyDict (self : CacheGroupGeometry PyStr) : Value :=
  .ofFields (("kind", Value.literal self.policyKind.name) ::
    match self.windowTokens with
    | none => []
    | some windowTokens => [("window_tokens", Value.nat windowTokens),
        ("extra_retained_tokens", Value.nat self.extraRetainedTokens)])

/-- `CacheGroupGeometry.to_dict`. -/
def CacheGroupGeometry.toDict (self : CacheGroupGeometry PyStr) : Value :=
  .ofFields [("group_id", .text self.groupId), ("layers", .list (self.layers.map .text)),
    ("block_size_tokens", Value.nat self.blockSizeTokens),
    ("bytes_per_group_block", Value.nat self.bytesPerGroupBlock),
    ("required_blocks_per_sequence", Value.nat self.requiredBlocksPerSequence),
    ("kv_heads", Value.nat self.kvHeads), ("key_head_dim", Value.nat self.keyHeadDim),
    ("value_head_dim", Value.nat self.valueHeadDim), ("element_type", self.elementType.toDict),
    ("policy", self.policyDict)]

/-- `RankGeometry.to_dict`. -/
def RankGeometry.toDict (self : RankGeometry PyStr) : Except PyError Value := do
  let required ← self.requiredBlocksPerSequence
  pure <| .ofFields [("rank", Value.nat self.rank), ("device_id", Value.nat self.deviceId),
    ("pool_bytes_per_block", Value.nat self.poolBytesPerBlock),
    ("fixed_overhead_blocks", Value.nat self.fixedOverheadBlocks),
    ("required_blocks_per_sequence", Value.nat required),
    ("cache_groups", .list (self.groups.map (·.toDict)))]

namespace GeometryDescriptor

/-- `total_pool_bytes_per_block`. -/
def totalPoolBytesPerBlock (self : GeometryDescriptor) : Except PyError ℕ :=
  self.ranks.foldlM (fun total rank =>
    checkedAdd total rank.poolBytesPerBlock "total_pool_bytes_per_block") 0

/-- The certified attention backend. -/
def flashAttn : PyStr := JsonText.ofString "FLASH_ATTN"

/-- Whether a rank has the cache geometry of the first. -/
def sameShape (first rank : RankGeometry PyStr) : Prop :=
  rank.poolBytesPerBlock = first.poolBytesPerBlock ∧
    rank.fixedOverheadBlocks = first.fixedOverheadBlocks ∧
    rank.groups.map (·.toDict) = first.groups.map (·.toDict)

instance (first rank : RankGeometry PyStr) : Decidable (sameShape first rank) :=
  inferInstanceAs (Decidable (_ ∧ _ ∧ _))

/-- The rank checks of `GeometryDescriptor.__post_init__`. -/
def checkRanks (tensorParallelSize : ℕ) (ranks : List (RankGeometry PyStr)) :
    Except PyError Unit := do
  raiseIf (ranks.length ≠ tensorParallelSize)
    (.planningError "rank geometry must cover the tensor-parallel world")
  raiseIf (¬sameSet (ranks.map (·.rank)) (List.range tensorParallelSize))
    (.planningError "rank geometry is duplicated or out of range")
  raiseIf (¬(ranks.map (·.deviceId)).Nodup)
    (.planningError "rank geometry must use distinct device IDs")
  raiseIf (∃ first ∈ ranks.head?, ∃ rank ∈ ranks.tail, ¬sameShape first rank) (.planningError <|
    "the certified shared-pool profile requires identical cache " ++
      "geometry on every tensor-parallel rank")

/-- `GeometryDescriptor.__post_init__`, given `str.upper`. -/
def postInit (upper : PyStr → PyStr) (self : GeometryDescriptor) :
    Except PyError GeometryDescriptor := do
  let modelFingerprint ← text self.modelFingerprint "model_fingerprint"
  let attentionBackend ← text self.attentionBackend "attention_backend"
  let attentionBackend := upper attentionBackend
  raiseIf (attentionBackend ≠ flashAttn) (.planningError
    "the current certified shared-pool profile requires FLASH_ATTN")
  let layoutId ← text self.layoutId "layout_id"
  let _ ← uint self.maxModelLen "max_model_len"
  let _ ← uint self.tensorParallelSize "tensor_parallel_size"
  let ranks := self.ranks.insertionSort fun a b => a.rank ≤ b.rank
  checkRanks self.tensorParallelSize ranks
  let descriptor : GeometryDescriptor :=
    { self with modelFingerprint, attentionBackend, layoutId, ranks }
  let _ ← descriptor.totalPoolBytesPerBlock
  pure descriptor

/-- `GeometryDescriptor.to_dict`. -/
def toDict (self : GeometryDescriptor) : Except PyError Value := do
  let total ← self.totalPoolBytesPerBlock
  let ranks ← self.ranks.mapM (·.toDict)
  pure <| .ofFields [("identity", self.identity.toDict),
    ("model_fingerprint", .text self.modelFingerprint),
    ("max_model_len", Value.nat self.maxModelLen),
    ("tensor_parallel_size", Value.nat self.tensorParallelSize),
    ("attention_backend", .text self.attentionBackend), ("layout_id", .text self.layoutId),
    ("total_pool_bytes_per_block", Value.nat total), ("ranks", .list ranks)]

/-- `canonical_payload`. -/
def canonicalPayload (self : GeometryDescriptor) : Except PyError Value := do
  let geometry ← self.toDict
  pure (.ofFields [("schema_version", Value.nat 1), ("geometry", geometry)])

/-- `canonical_json(self.canonical_payload())`. -/
def canonicalJson (self : GeometryDescriptor) : Except PyError PyStr := do
  let payload ← self.canonicalPayload
  pure (JsonText.render payload)

/-- `geometry_digest`, given `hashlib.sha256`. -/
def geometryDigest (sha256 : List UInt8 → Vector UInt8 32) (self : GeometryDescriptor) :
    Except PyError PyStr := do
  let encoded ← self.canonicalJson >>= encodeUtf8
  pure (JsonText.ofString "sha256:" ++ hexdigest (sha256 encoded))

end GeometryDescriptor

/-! ## Construction -/

/-- A cache group, with its element type. -/
def CacheGroupGeometry.construct (raw : CacheGroupGeometry PyStr) :
    Except PyError (CacheGroupGeometry PyStr) := do
  let elementType ← raw.elementType.postInit
  CacheGroupGeometry.postInit { raw with elementType }

/-- A rank, with its groups. -/
def RankGeometry.construct (raw : RankGeometry PyStr) : Except PyError (RankGeometry PyStr) := do
  let groups ← raw.groups.mapM CacheGroupGeometry.construct
  RankGeometry.postInit { raw with groups }

/-- A descriptor, with everything in it. -/
def GeometryDescriptor.construct (upper : PyStr → PyStr) (raw : GeometryDescriptor) :
    Except PyError GeometryDescriptor := do
  let identity ← raw.identity.postInit
  let ranks ← raw.ranks.mapM RankGeometry.construct
  GeometryDescriptor.postInit upper { raw with identity, ranks }

/-! ## What construction guarantees -/

/-- What `_text` returns is not empty, and `_text` leaves it alone. -/
theorem text_of_text {value stripped : PyStr} {field : String}
    (h : text value field = .ok stripped) :
    stripped ≠ [] ∧ text stripped field = .ok stripped := by
  simp only [text, Except.bind_eq_ok, Except.raiseIf_eq_ok, Except.pure_eq_ok] at h ⊢
  obtain ⟨-, hblank, rfl⟩ := h
  have hblank' : ¬(value.all isSpaceCode) = true := hblank
  have hstrip : (List.trim isSpaceCode value).all isSpaceCode = value.all isSpaceCode :=
    List.all_trim
  refine ⟨?_, (), ?_, List.trim_trim⟩
  · intro hnil
    change List.trim isSpaceCode value = [] at hnil
    rw [hnil] at hstrip
    exact hblank' hstrip.symm
  · change ¬(List.trim isSpaceCode value).all isSpaceCode = true
    rw [hstrip]
    exact hblank'

/-- The policy of a group: a window where one slides, nothing else. -/
def CacheGroupGeometry.PolicyOk (group : CacheGroupGeometry PyStr) : Prop :=
  match group.policyKind with
  | .slidingWindow => (∃ window, group.windowTokens = some window ∧ InRange window) ∧
      group.extraRetainedTokens ≤ uint64Max
  | .fullAttention => group.windowTokens = none ∧ group.extraRetainedTokens = 0

/-- A group as its constructor leaves it. -/
structure CacheGroupGeometry.WellFormed (group : CacheGroupGeometry PyStr) : Prop where
  groupId : group.groupId ≠ []
  layers_ne_nil : group.layers ≠ []
  layers_nodup : group.layers.Nodup
  layers : ∀ layer ∈ group.layers, layer ≠ []
  blockSizeTokens : InRange group.blockSizeTokens
  bytesPerGroupBlock : InRange group.bytesPerGroupBlock
  requiredBlocksPerSequence : InRange group.requiredBlocksPerSequence
  kvHeads : InRange group.kvHeads
  keyHeadDim : InRange group.keyHeadDim
  valueHeadDim : InRange group.valueHeadDim
  elementName : group.elementType.name ≠ []
  elementBits : InRange group.elementType.bits ∧ group.elementType.bits % 8 = 0
  policy : group.PolicyOk
  /-- The constructors accept it as it stands. -/
  stable : group.postInit = .ok group ∧ group.elementType.postInit = .ok group.elementType

theorem CacheGroupGeometry.policyOk_of_check {group : CacheGroupGeometry PyStr} {u : Unit}
    (h : group.checkPolicy = .ok u) : group.PolicyOk := by
  unfold checkPolicy at h
  unfold PolicyOk
  rcases hkind : group.policyKind with _ | _ <;> rcases hwindow : group.windowTokens with _ | window
  all_goals
    simp only [hkind, hwindow, Except.bind_eq_ok, Except.raiseIf_eq_ok, uint_eq_ok,
      uint_allowZero_eq_ok] at h
  · obtain ⟨_, -, hextra⟩ := h
    refine ⟨rfl, ?_⟩
    by_contra hne
    exact hextra ⟨by decide, hne⟩
  · obtain ⟨_, ⟨⟩, -⟩ := h
  · obtain ⟨_, ⟨⟩, -⟩ := h
  · obtain ⟨_, ⟨hrange, -⟩, _, ⟨hextra, -⟩, -⟩ := h
    exact ⟨⟨window, rfl, hrange⟩, hextra⟩

theorem ElementType.postInit_of_postInit {raw element : ElementType PyStr}
    (h : raw.postInit = .ok element) :
    element.name ≠ [] ∧ (InRange element.bits ∧ element.bits % 8 = 0) ∧
      element.postInit = .ok element := by
  simp only [ElementType.postInit, Except.bind_eq_ok, Except.raiseIf_eq_ok, Except.pure_eq_ok,
    uint_eq_ok, not_not] at h ⊢
  obtain ⟨name, hname, _, hbits, -, hbytes, rfl⟩ := h
  obtain ⟨hne, hstable⟩ := text_of_text hname
  exact ⟨hne, ⟨hbits.1, hbytes⟩, name, hstable, _, hbits, (), hbytes, rfl⟩

theorem CacheGroupGeometry.wellFormed_of_construct {raw group : CacheGroupGeometry PyStr}
    (h : raw.construct = .ok group) : group.WellFormed := by
  simp only [CacheGroupGeometry.construct, CacheGroupGeometry.postInit, Except.bind_eq_ok,
    Except.raiseIf_eq_ok, Except.pure_eq_ok, uint_eq_ok, not_or, not_not] at h
  obtain ⟨element, helement, groupId, hid, layers, hlayers, -, ⟨hne, hnodup⟩, _, ⟨hblock, rfl⟩, _,
    ⟨hbytes, rfl⟩, _, ⟨hrequired, rfl⟩, _, ⟨hheads, rfl⟩, _, ⟨hkey, rfl⟩, _, ⟨hvalue, rfl⟩, _,
    hpolicy, rfl⟩ := h
  obtain ⟨hname, hbits, hstable⟩ := ElementType.postInit_of_postInit helement
  obtain ⟨hid, hidStable⟩ := text_of_text hid
  have htexts : ∀ layer ∈ layers, layer ≠ [] ∧ text layer "layer name" = .ok layer := by
    intro layer hlayer
    obtain ⟨rawLayer, -, hraw⟩ := Except.exists_of_mem_mapM hlayers hlayer
    exact text_of_text hraw
  refine ⟨hid, hne, hnodup, fun layer hlayer => (htexts layer hlayer).1, hblock, hbytes, hrequired,
    hheads, hkey, hvalue, hname, hbits, policyOk_of_check hpolicy, ?_, hstable⟩
  simp only [CacheGroupGeometry.postInit, Except.bind_eq_ok, Except.raiseIf_eq_ok,
    Except.pure_eq_ok, uint_eq_ok, not_or, not_not]
  exact ⟨groupId, hidStable, layers,
    Except.mapM_eq_ok.mpr (List.forall₂_same.mpr fun layer hlayer => (htexts layer hlayer).2), (),
    ⟨hne, hnodup⟩, _, ⟨hblock, rfl⟩, _, ⟨hbytes, rfl⟩, _, ⟨hrequired, rfl⟩, _, ⟨hheads, rfl⟩, _,
    ⟨hkey, rfl⟩, _, ⟨hvalue, rfl⟩, _, hpolicy, rfl⟩

/-- A rank as its constructor leaves it. -/
structure RankGeometry.WellFormed (r : RankGeometry PyStr) : Prop where
  rank : r.rank ≤ uint64Max
  deviceId : r.deviceId ≤ uint64Max
  poolBytesPerBlock : InRange r.poolBytesPerBlock
  fixedOverheadBlocks : r.fixedOverheadBlocks ≤ uint64Max
  groups_ne_nil : r.groups ≠ []
  groups : ∀ group ∈ r.groups, group.WellFormed
  /-- The constructors accept it as it stands. -/
  valid : r.Valid

theorem RankGeometry.wellFormed_of_construct {raw r : RankGeometry PyStr}
    (h : raw.construct = .ok r) : r.WellFormed := by
  simp only [RankGeometry.construct, RankGeometry.postInit, Except.bind_eq_ok, uint_eq_ok,
    uint_allowZero_eq_ok, Except.raiseIf_eq_ok, Except.pure_eq_ok, not_not] at h
  obtain ⟨groups, hgroups, _, ⟨hrank, rfl⟩, _, ⟨hdevice, rfl⟩, _, ⟨hpool, rfl⟩, _,
    ⟨hoverhead, rfl⟩, -, hne, -, hids, stride, hstride, -, hequal, -, hlayers, rfl⟩ := h
  have hbuilt : ∀ group ∈ groups.insertionSort fun a b => a.groupId ≤ b.groupId,
      group.WellFormed := by
    intro group hgroup
    rw [List.mem_insertionSort] at hgroup
    obtain ⟨rawGroup, -, hraw⟩ := Except.exists_of_mem_mapM hgroups hgroup
    exact CacheGroupGeometry.wellFormed_of_construct hraw
  refine ⟨hrank, hdevice, hpool, hoverhead, hne, hbuilt, ⟨fun g hg => (hbuilt g hg).stable.1,
    fun g hg => (hbuilt g hg).stable.2, ?_⟩⟩
  have hsorted :=
    List.insertionSort_insertionSort (fun g : CacheGroupGeometry PyStr => g.groupId) groups
  simp only [RankGeometry.postInit, Except.bind_eq_ok, uint_eq_ok,
    uint_allowZero_eq_ok, Except.raiseIf_eq_ok, Except.pure_eq_ok, not_not, hsorted]
  exact ⟨_, ⟨hrank, rfl⟩, _, ⟨hdevice, rfl⟩, _, ⟨hpool, rfl⟩, _, ⟨hoverhead, rfl⟩, (), hne, (),
    hids, stride, hstride, (), hequal, (), hlayers, trivial⟩

/-- An identity as its constructor leaves it. -/
structure PlannerIdentity.WellFormed (identity : PlannerIdentity) : Prop where
  adapterId : identity.adapterId ≠ []
  adapterVersion : identity.adapterVersion ≠ []
  backendVersion : identity.backendVersion ≠ []
  profileId : identity.profileId ≠ []
  layoutVersion : identity.layoutVersion = 1

theorem PlannerIdentity.wellFormed_of_postInit {raw identity : PlannerIdentity}
    (h : raw.postInit = .ok identity) : identity.WellFormed := by
  simp only [PlannerIdentity.postInit, Except.bind_eq_ok, uint_eq_ok, Except.raiseIf_eq_ok,
    Except.pure_eq_ok, not_not] at h
  obtain ⟨_, hadapter, _, hversion, _, hbackend, _, hprofile, _, -, -, hlayout, rfl⟩ := h
  exact ⟨(text_of_text hadapter).1, (text_of_text hversion).1, (text_of_text hbackend).1,
    (text_of_text hprofile).1, hlayout⟩

/-- A descriptor as its constructor leaves it. -/
structure GeometryDescriptor.WellFormed (d : GeometryDescriptor) : Prop where
  identity : d.identity.WellFormed
  modelFingerprint : d.modelFingerprint ≠ []
  maxModelLen : InRange d.maxModelLen
  tensorParallelSize : InRange d.tensorParallelSize
  attentionBackend : d.attentionBackend = flashAttn
  layoutId : d.layoutId ≠ []
  ranks : ∀ rank ∈ d.ranks, rank.WellFormed
  checked : checkRanks d.tensorParallelSize d.ranks = .ok ()
  total : ∃ total, d.totalPoolBytesPerBlock = .ok total

/-- **What `construct` returns is well formed.** -/
theorem GeometryDescriptor.wellFormed_of_construct {upper : PyStr → PyStr}
    {raw d : GeometryDescriptor} (h : raw.construct upper = .ok d) : d.WellFormed := by
  simp only [GeometryDescriptor.construct, GeometryDescriptor.postInit, Except.bind_eq_ok,
    uint_eq_ok, Except.raiseIf_eq_ok, Except.pure_eq_ok, not_not] at h
  obtain ⟨identity, hidentity, ranks, hranks, _, hfingerprint, _, -, -, hbackend, _, hlayout, _,
    ⟨hlen, rfl⟩, _, ⟨htp, rfl⟩, _, hchecked, total, htotal, rfl⟩ := h
  refine ⟨PlannerIdentity.wellFormed_of_postInit hidentity, (text_of_text hfingerprint).1, hlen,
    htp, hbackend, (text_of_text hlayout).1, ?_, hchecked, total, htotal⟩
  intro rank hrank
  rw [List.mem_insertionSort] at hrank
  obtain ⟨rawRank, -, hraw⟩ := Except.exists_of_mem_mapM hranks hrank
  exact RankGeometry.wellFormed_of_construct hraw

/-- The rank checks, read back. -/
theorem GeometryDescriptor.checkRanks_eq_ok {n : ℕ} {ranks : List (RankGeometry PyStr)} {u : Unit} :
    checkRanks n ranks = .ok u ↔ ranks.length = n ∧ sameSet (ranks.map (·.rank)) (List.range n) ∧
      (ranks.map (·.deviceId)).Nodup ∧
      ∀ first ∈ ranks.head?, ∀ rank ∈ ranks.tail, sameShape first rank := by
  simp only [checkRanks, Except.bind_eq_ok, Except.raiseIf_eq_ok, not_not, not_exists, not_and]
  constructor
  · rintro ⟨_, hlength, _, hranks, _, hdevices, hshape⟩
    exact ⟨hlength, hranks, hdevices, hshape⟩
  · rintro ⟨hlength, hranks, hdevices, hshape⟩
    exact ⟨(), hlength, (), hranks, (), hdevices, hshape⟩

theorem GeometryDescriptor.WellFormed.ranks_ne_nil {d : GeometryDescriptor} (h : d.WellFormed) :
    d.ranks ≠ [] := by
  have hlength := (checkRanks_eq_ok.mp h.checked).1
  have hpos := h.tensorParallelSize.1
  rw [← hlength] at hpos
  exact List.ne_nil_of_length_pos hpos

/-- **No two ranks of a descriptor have one number.** -/
theorem GeometryDescriptor.nodup_rank {n : ℕ} {ranks : List (RankGeometry PyStr)}
    (h : checkRanks n ranks = .ok ()) : (ranks.map (·.rank)).Nodup := by
  obtain ⟨hlength, hranks, -⟩ := checkRanks_eq_ok.mp h
  have hsub : (List.range n).Subperm (ranks.map (·.rank)) :=
    List.nodup_range.subperm hranks.2
  refine (hsub.perm_of_length_le ?_).nodup_iff.mp List.nodup_range
  rw [List.length_map, List.length_range, hlength]

end Kapsl.Vllm
