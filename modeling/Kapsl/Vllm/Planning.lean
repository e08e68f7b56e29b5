import Mathlib.Data.List.Sort
import Mathlib.Data.String.Basic
import Kapsl.Lib.Alignment
import Kapsl.Lib.Except
import Kapsl.Vllm.Python

/-!
# Vllm/Planning — checked arithmetic, rank geometry, and the sizing of one rank

The planner works in unsigned 64-bit arithmetic that raises instead of wrapping.  Each helper has
one lemma that reads its arguments and its value back from a successful call (`checkedAdd_eq_ok`,
…); every later proof goes through those.  A dataclass is valid when its own `__post_init__` accepts
it unchanged.
-/

namespace Kapsl.Vllm

open Except (raiseIf)

/-- `UINT64_MAX`. -/
def uint64Max : ℕ := 2 ^ 64 - 1

/-- A positive 64-bit number. -/
def InRange (n : ℕ) : Prop := 1 ≤ n ∧ n ≤ uint64Max

/-! ## Checked arithmetic -/

/-- `_uint`: a value in range, zero admitted or not. -/
def uint (value : ℕ) (field : String) (allowZero : Bool := false) : Except PyError ℕ := do
  raiseIf (value < (if allowZero then 0 else 1) ∨ value > uint64Max)
    (.planningError (field ++ " must be a " ++ (if allowZero then "non-negative" else "positive")
      ++ " unsigned 64-bit integer"))
  pure value

/-- `checked_add`. -/
def checkedAdd (left right : ℕ) (field : String) : Except PyError ℕ := do
  let left ← uint left field true
  let right ← uint right field true
  raiseIf (left + right > uint64Max)
    (.planningError (field ++ " overflows unsigned 64-bit arithmetic"))
  pure (left + right)

/-- `checked_mul`. -/
def checkedMul (left right : ℕ) (field : String) : Except PyError ℕ := do
  let left ← uint left field true
  let right ← uint right field true
  raiseIf (left * right > uint64Max)
    (.planningError (field ++ " overflows unsigned 64-bit arithmetic"))
  pure (left * right)

/-- `ceil_div`. -/
def ceilDiv (value divisor : ℕ) (field : String) : Except PyError ℕ := do
  let value ← uint value field true
  let divisor ← uint divisor (field ++ " divisor")
  pure (value / divisor + if value % divisor ≠ 0 then 1 else 0)

/-- `round_up`. -/
def roundUp (value alignment : ℕ) (field : String) : Except PyError ℕ := do
  let value ← uint value field true
  let alignment ← uint alignment (field ++ " alignment")
  let quotient ← ceilDiv value alignment field
  checkedMul quotient alignment field

/-- `round_down`. -/
def roundDown (value alignment : ℕ) (field : String) : Except PyError ℕ := do
  let value ← uint value field true
  let alignment ← uint alignment (field ++ " alignment")
  pure (value - value % alignment)

variable {value left right divisor alignment v : ℕ} {field : String}

@[simp] theorem uint_allowZero_eq_ok :
    uint value field true = .ok v ↔ value ≤ uint64Max ∧ value = v := by
  simp only [uint, Except.bind_eq_ok, Except.raiseIf_eq_ok, Except.pure_eq_ok]
  simp

@[simp] theorem uint_eq_ok :
    uint value field = .ok v ↔ (1 ≤ value ∧ value ≤ uint64Max) ∧ value = v := by
  simp only [uint, Except.bind_eq_ok, Except.raiseIf_eq_ok, Except.pure_eq_ok]
  simp [Nat.one_le_iff_ne_zero]

@[simp] theorem checkedAdd_eq_ok :
    checkedAdd left right field = .ok v ↔ left + right ≤ uint64Max ∧ left + right = v := by
  simp only [checkedAdd, Except.bind_eq_ok, uint_allowZero_eq_ok, Except.raiseIf_eq_ok,
    Except.pure_eq_ok]
  constructor
  · rintro ⟨_, ⟨_, rfl⟩, _, ⟨_, rfl⟩, _, h, rfl⟩
    exact ⟨by omega, rfl⟩
  · rintro ⟨h, rfl⟩
    exact ⟨_, ⟨by omega, rfl⟩, _, ⟨by omega, rfl⟩, (), by omega, rfl⟩

/-- `checked_mul` also rejects a factor out of range, which only a zero partner could hide. -/
theorem checkedMul_eq_ok :
    checkedMul left right field = .ok v ↔
      (left ≤ uint64Max ∧ right ≤ uint64Max) ∧ left * right ≤ uint64Max ∧ left * right = v := by
  simp only [checkedMul, Except.bind_eq_ok, uint_allowZero_eq_ok, Except.raiseIf_eq_ok,
    Except.pure_eq_ok]
  constructor
  · rintro ⟨_, ⟨h₁, rfl⟩, _, ⟨h₂, rfl⟩, _, h, rfl⟩
    exact ⟨⟨h₁, h₂⟩, by omega, rfl⟩
  · rintro ⟨⟨h₁, h₂⟩, h, rfl⟩
    exact ⟨_, ⟨h₁, rfl⟩, _, ⟨h₂, rfl⟩, (), by omega, rfl⟩

theorem ceilDiv_eq_ok :
    ceilDiv value divisor field = .ok v ↔
      value ≤ uint64Max ∧ (1 ≤ divisor ∧ divisor ≤ uint64Max) ∧ value ⌈/⌉ divisor = v := by
  simp only [ceilDiv, Except.bind_eq_ok, uint_allowZero_eq_ok, uint_eq_ok, Except.pure_eq_ok]
  constructor
  · rintro ⟨_, ⟨h, rfl⟩, _, ⟨hd, rfl⟩, rfl⟩
    exact ⟨h, hd, (Nat.div_add_ite_mod_eq_ceilDiv value hd.1).symm⟩
  · rintro ⟨h, hd, rfl⟩
    exact ⟨_, ⟨h, rfl⟩, _, ⟨hd, rfl⟩, Nat.div_add_ite_mod_eq_ceilDiv value hd.1⟩

/-- **`round_up` returns the aligned value** — exactly when it fits. -/
theorem roundUp_eq_ok :
    roundUp value alignment field = .ok v ↔
      (1 ≤ alignment ∧ alignment ≤ uint64Max) ∧ value ≤ uint64Max ∧
        Nat.alignUp alignment value ≤ uint64Max ∧ Nat.alignUp alignment value = v := by
  simp only [roundUp, Except.bind_eq_ok, uint_allowZero_eq_ok, uint_eq_ok, ceilDiv_eq_ok,
    checkedMul_eq_ok]
  constructor
  · rintro ⟨_, ⟨h, rfl⟩, _, ⟨ha, rfl⟩, _, ⟨-, -, rfl⟩, -, hle, rfl⟩
    exact ⟨ha, h, hle, rfl⟩
  · rintro ⟨ha, h, hle, rfl⟩
    have hq : value ⌈/⌉ alignment ≤ uint64Max :=
      le_trans ((ceilDiv_le_iff_le_mul ha.1).mpr (Nat.le_mul_of_pos_left value ha.1)) h
    exact ⟨_, ⟨h, rfl⟩, _, ⟨ha, rfl⟩, _, ⟨h, ha, rfl⟩, ⟨hq, ha.2⟩, hle, rfl⟩

theorem roundDown_eq_ok :
    roundDown value alignment field = .ok v ↔
      value ≤ uint64Max ∧ (1 ≤ alignment ∧ alignment ≤ uint64Max) ∧
        Nat.alignDown alignment value = v := by
  simp only [roundDown, Except.bind_eq_ok, uint_allowZero_eq_ok, uint_eq_ok, Except.pure_eq_ok]
  constructor
  · rintro ⟨_, ⟨h, rfl⟩, _, ⟨ha, rfl⟩, rfl⟩
    exact ⟨h, ha, rfl⟩
  · rintro ⟨h, ha, rfl⟩
    exact ⟨_, ⟨h, rfl⟩, _, ⟨ha, rfl⟩, rfl⟩

/-! ## The dataclasses -/

/-- What the constructors do with a Python text: they compare, strip and test it. -/
class PyText (τ : Type) extends LinearOrder τ where
  strip : τ → τ
  isBlank : τ → Bool

instance : PyText String where
  toLinearOrder := inferInstance
  strip := strip
  isBlank := isBlank

variable {τ : Type} [PyText τ]

/-- `_text`. -/
def text (value : τ) (field : String) : Except PyError τ := do
  raiseIf (PyText.isBlank value) (.planningError (field ++ " must be a non-empty string"))
  pure (PyText.strip value)

/-- `ElementType`. -/
structure ElementType (τ : Type := String) where
  name : τ
  bits : ℕ
  deriving DecidableEq

/-- The certified cache policies, `policy_kind`. -/
inductive CachePolicy
  | fullAttention
  | slidingWindow
  deriving DecidableEq

/-- The wire name of a policy. -/
def CachePolicy.name : CachePolicy → String
  | fullAttention => "full_attention"
  | slidingWindow => "sliding_window"

/-- `CacheGroupGeometry`. -/
structure CacheGroupGeometry (τ : Type := String) where
  groupId : τ
  layers : List τ
  blockSizeTokens : ℕ
  bytesPerGroupBlock : ℕ
  requiredBlocksPerSequence : ℕ
  kvHeads : ℕ
  keyHeadDim : ℕ
  valueHeadDim : ℕ
  elementType : ElementType τ
  policyKind : CachePolicy
  windowTokens : Option ℕ := none
  extraRetainedTokens : ℕ := 0
  deriving DecidableEq

/-- `ElementType.__post_init__`. -/
def ElementType.postInit (self : ElementType τ) : Except PyError (ElementType τ) := do
  let name ← text self.name "element_type.name"
  let _ ← uint self.bits "element_type.bits"
  raiseIf (self.bits % 8 ≠ 0) (.planningError
    "the certified packed CUDA-IPC profile requires byte-addressable elements")
  pure { self with name }

/-- The policy part of `CacheGroupGeometry.__post_init__`: only a sliding window has a window and
may retain extra tokens. -/
def CacheGroupGeometry.checkPolicy (self : CacheGroupGeometry τ) : Except PyError Unit := do
  match self.policyKind, self.windowTokens with
  | .slidingWindow, none =>
    .error (.planningError "sliding-window groups require window_tokens")
  | .slidingWindow, some window =>
    let _ ← uint window "window_tokens"
  | .fullAttention, some _ =>
    .error (.planningError "full-attention groups cannot set window_tokens")
  | .fullAttention, none => pure ()
  let _ ← uint self.extraRetainedTokens "extra_retained_tokens" true
  raiseIf (self.policyKind ≠ .slidingWindow ∧ self.extraRetainedTokens ≠ 0)
    (.planningError "only sliding-window groups can retain extra trailing tokens")

/-- `CacheGroupGeometry.__post_init__`. -/
def CacheGroupGeometry.postInit (self : CacheGroupGeometry τ) :
    Except PyError (CacheGroupGeometry τ) := do
  let groupId ← text self.groupId "group_id"
  let layers ← self.layers.mapM fun layer => text layer "layer name"
  raiseIf (layers = [] ∨ ¬layers.Nodup)
    (.planningError "cache-group layer names must be non-empty and unique")
  let _ ← uint self.blockSizeTokens "block_size_tokens"
  let _ ← uint self.bytesPerGroupBlock "bytes_per_group_block"
  let _ ← uint self.requiredBlocksPerSequence "required_blocks_per_sequence"
  let _ ← uint self.kvHeads "kv_heads"
  let _ ← uint self.keyHeadDim "key_head_dim"
  let _ ← uint self.valueHeadDim "value_head_dim"
  self.checkPolicy
  pure { self with groupId, layers }

/-- `RankGeometry`. -/
structure RankGeometry (τ : Type := String) where
  rank : ℕ
  deviceId : ℕ
  poolBytesPerBlock : ℕ
  groups : List (CacheGroupGeometry τ)
  fixedOverheadBlocks : ℕ := 1
  deriving DecidableEq

/-- `shared_pool_block_stride`. -/
def sharedPoolBlockStride (groups : List (CacheGroupGeometry τ)) : Except PyError ℕ := do
  raiseIf (groups = []) (.planningError "shared pool requires at least one cache group")
  let strides ← groups.mapM fun group => uint group.bytesPerGroupBlock "bytes_per_group_block"
  pure (strides.foldl max 0)

/-- `RankGeometry.__post_init__`; the groups it is given are themselves valid. -/
def RankGeometry.postInit (self : RankGeometry τ) : Except PyError (RankGeometry τ) := do
  let _ ← uint self.rank "rank" true
  let _ ← uint self.deviceId "device_id" true
  let _ ← uint self.poolBytesPerBlock "pool_bytes_per_block"
  let _ ← uint self.fixedOverheadBlocks "fixed_overhead_blocks" true
  let groups := self.groups.insertionSort fun a b => a.groupId ≤ b.groupId
  raiseIf (groups = []) (.planningError "rank geometry requires at least one cache group")
  raiseIf (¬(groups.map (·.groupId)).Nodup)
    (.planningError "rank cache-group IDs must be unique")
  let stride ← sharedPoolBlockStride groups
  raiseIf (self.poolBytesPerBlock ≠ stride) (.planningError
    "shared pool block stride must equal the largest cache-group stride")
  raiseIf (¬(groups.flatMap (·.layers)).Nodup) (.planningError
    "cache-group layer names must be globally unique within a rank")
  pure { self with groups }

/-- A geometry its own constructors accept as it stands. -/
structure RankGeometry.Valid (r : RankGeometry τ) : Prop where
  groups : ∀ group ∈ r.groups, group.postInit = .ok group
  elements : ∀ group ∈ r.groups, group.elementType.postInit = .ok group.elementType
  rank : r.postInit = .ok r

/-- `RankGeometry.required_blocks_per_sequence`. -/
def RankGeometry.requiredBlocksPerSequence (self : RankGeometry τ) : Except PyError ℕ :=
  self.groups.foldlM (fun total group =>
    checkedAdd total group.requiredBlocksPerSequence "required_blocks_per_sequence") 0

/-- `SizingPolicy`. -/
structure SizingPolicy where
  targetConcurrency : ℕ
  maximumConcurrency : Option ℕ := none
  headroomPercent : ℕ := 0
  prefixBlocks : ℕ := 0
  alignmentBlocks : ℕ := 1
  minBytes : Option ℕ := none
  maxBytes : Option ℕ := none
  strictConcurrency : Bool := false
  deriving DecidableEq

/-- An optional field that is checked only when it is set. -/
def optionalUint (value : Option ℕ) (field : String) : Except PyError Unit :=
  match value with
  | none => .ok ()
  | some n => do
    let _ ← uint n field

/-- `SizingPolicy.__post_init__`. -/
def SizingPolicy.postInit (self : SizingPolicy) : Except PyError SizingPolicy := do
  let _ ← uint self.targetConcurrency "target_concurrency"
  optionalUint self.maximumConcurrency "maximum_concurrency"
  raiseIf (∃ m ∈ self.maximumConcurrency, m < self.targetConcurrency)
    (.planningError "maximum_concurrency cannot be below target_concurrency")
  let _ ← uint self.headroomPercent "headroom_percent" true
  raiseIf (self.headroomPercent > 100) (.planningError "headroom_percent cannot exceed 100")
  let _ ← uint self.prefixBlocks "prefix_blocks" true
  let _ ← uint self.alignmentBlocks "alignment_blocks"
  optionalUint self.minBytes "min_bytes"
  optionalUint self.maxBytes "max_bytes"
  raiseIf (∃ lo ∈ self.minBytes, ∃ hi ∈ self.maxBytes, lo > hi)
    (.planningError "min_bytes cannot exceed max_bytes")
  pure self

/-- A policy its own constructor accepts. -/
def SizingPolicy.Valid (self : SizingPolicy) : Prop := self.postInit = .ok self

/-- `RankSizing`. -/
structure RankSizing where
  rank : ℕ
  deviceId : ℕ
  bytesPerBlock : ℕ
  sequenceBlocks : ℕ
  minimumBlocks : ℕ
  minimumBytes : ℕ
  baseBlocks : ℕ
  headroomBlocks : ℕ
  desiredBlocks : ℕ
  desiredBytes : ℕ
  maximumBlocks : ℕ
  maximumBytes : ℕ
  effectiveTargetConcurrency : ℕ
  concurrencyReduced : Bool
  deriving DecidableEq, Repr

/-! ## `size_rank` -/

/-- The `min_bytes` branch of `size_rank`: the floor in blocks, `None` without `min_bytes`. -/
def floorBlocks (rank : RankGeometry τ) (policy : SizingPolicy) (minimumBytes : ℕ) :
    Except PyError (Option ℕ) :=
  match policy.minBytes with
  | none => .ok none
  | some minBytes => do
    raiseIf (minBytes < minimumBytes) (.planningError
      s!"rank {rank.rank} min_bytes is below the one max_model_len sequence minimum")
    let blocks ← ceilDiv minBytes rank.poolBytesPerBlock "min_bytes"
    let floor ← roundUp blocks policy.alignmentBlocks "min_bytes blocks"
    pure (some floor)

/-- The `max_bytes` branch of `size_rank`: `desired_blocks` under the cap. -/
def capDesired (rank : RankGeometry τ) (policy : SizingPolicy) (minimumBlocks : ℕ)
    (floor : Option ℕ) (desiredBlocks : ℕ) : Except PyError ℕ :=
  match policy.maxBytes with
  | none => .ok desiredBlocks
  | some maxBytes => do
    let capBlocks ← roundDown (maxBytes / rank.poolBytesPerBlock) policy.alignmentBlocks
      "max_bytes blocks"
    raiseIf (capBlocks < minimumBlocks) (.planningError
      s!"rank {rank.rank} max_bytes cannot hold one max_model_len sequence")
    raiseIf (∃ f ∈ floor, capBlocks < f)
      (.planningError "min_bytes and max_bytes conflict after block alignment")
    pure (min desiredBlocks capBlocks)

/-- The `max_bytes` cap inside the `maximum_concurrency` branch. -/
def capMaximum (rank : RankGeometry τ) (policy : SizingPolicy) (uncapped : ℕ) : Except PyError ℕ :=
  match policy.maxBytes with
  | none => .ok uncapped
  | some maxBytes => do
    let maximumCap ← roundDown (maxBytes / rank.poolBytesPerBlock) policy.alignmentBlocks
      "maximum max_bytes blocks"
    pure (min uncapped maximumCap)

/-- The `maximum_concurrency` branch of `size_rank`: `maximum_blocks`. -/
def maximumBlocksFor (rank : RankGeometry τ) (policy : SizingPolicy)
    (sequenceBlocks desiredBlocks : ℕ) : Except PyError ℕ :=
  match policy.maximumConcurrency with
  | none => .ok desiredBlocks
  | some maximumConcurrency => do
    let workload ← checkedMul sequenceBlocks maximumConcurrency "maximum workload blocks"
    let workload ← checkedAdd workload policy.prefixBlocks "maximum workload blocks"
    let numerator ← checkedMul workload policy.headroomPercent "maximum headroom blocks"
    let headroom ← ceilDiv numerator 100 "maximum headroom blocks"
    let base ← checkedAdd rank.fixedOverheadBlocks workload "maximum blocks"
    let unaligned ← checkedAdd base headroom "maximum blocks"
    let uncapped ← roundUp unaligned policy.alignmentBlocks "maximum blocks"
    let maximumBlocks ← capMaximum rank policy uncapped
    raiseIf (maximumBlocks < desiredBlocks) (.planningError
      "maximum_concurrency capacity cannot fit the initial target after caps")
    pure maximumBlocks

/-- `size_rank`. -/
def sizeRank (rank : RankGeometry τ) (policy : SizingPolicy) : Except PyError RankSizing := do
  let sequenceBlocks ← rank.requiredBlocksPerSequence
  let minimumUnaligned ← checkedAdd rank.fixedOverheadBlocks sequenceBlocks "minimum_blocks"
  let minimumBlocks ← roundUp minimumUnaligned policy.alignmentBlocks "minimum_blocks"
  let minimumBytes ← checkedMul minimumBlocks rank.poolBytesPerBlock "minimum_bytes"
  let workloadBlocks ← checkedMul sequenceBlocks policy.targetConcurrency "workload_blocks"
  let workloadAndPrefix ← checkedAdd workloadBlocks policy.prefixBlocks "base_blocks"
  let headroomNumerator ← checkedMul workloadAndPrefix policy.headroomPercent "headroom_blocks"
  let headroomBlocks ← ceilDiv headroomNumerator 100 "headroom_blocks"
  let baseBlocks ← checkedAdd rank.fixedOverheadBlocks workloadAndPrefix "base_blocks"
  let desiredUnaligned ← checkedAdd baseBlocks headroomBlocks "desired_blocks"
  let desiredBlocks ← roundUp desiredUnaligned policy.alignmentBlocks "desired_blocks"
  let floor ← floorBlocks rank policy minimumBytes
  let desiredBlocks ← capDesired rank policy minimumBlocks floor
    (max desiredBlocks (floor.getD 0))
  let desiredBytes ← checkedMul desiredBlocks rank.poolBytesPerBlock "desired_bytes"
  let maximumBlocks ← maximumBlocksFor rank policy sequenceBlocks desiredBlocks
  let maximumBytes ← checkedMul maximumBlocks rank.poolBytesPerBlock "maximum_bytes"
  -- Python integers: the subtraction may go below zero and `//` rounds down.
  let usableForSequences : Int := desiredBlocks - rank.fixedOverheadBlocks
  let effective : Int := min policy.targetConcurrency (usableForSequences.fdiv sequenceBlocks)
  raiseIf (effective < 1)
    (.planningError "resolved plan cannot hold one max_model_len sequence")
  let reduced := decide (effective < policy.targetConcurrency)
  raiseIf (reduced = true ∧ policy.strictConcurrency = true) (.planningError
    s!"rank {rank.rank} max_bytes reduces target concurrency from {policy.targetConcurrency} to {effective} in strict mode")
  pure
    { rank := rank.rank
      deviceId := rank.deviceId
      bytesPerBlock := rank.poolBytesPerBlock
      sequenceBlocks
      minimumBlocks
      minimumBytes
      baseBlocks
      headroomBlocks
      desiredBlocks
      desiredBytes
      maximumBlocks
      maximumBytes
      effectiveTargetConcurrency := effective.toNat
      concurrencyReduced := reduced }

end Kapsl.Vllm
