import Kapsl.Vllm.CanonicalGeometry
import Kapsl.Vllm.Sizing

/-!
# Vllm/Plan — plans over all ranks, and the command that prints them

`build_plan` sizes every rank and constructs a `PlanningResult`, which checks that the ranks agree.
`run` prints the document of the result once `build_plan` has returned; only what `build_plan`
raises is turned into the structured error.

`planned_of_buildPlan` reads a plan back: which ranks it sizes, what they agree on, which totals
were checked.
-/

namespace Kapsl.Vllm

open Except (raiseIf)
open JsonText (Value)

/-! ## The documents -/

/-- A field that is left out of a document unless it is set. -/
def optionalField (key : String) (value : Option ℕ) : List (String × Value) :=
  match value with
  | none => []
  | some n => [(key, Value.nat n)]

/-- `SizingPolicy.to_dict`. -/
def SizingPolicy.toDict (self : SizingPolicy) : Value :=
  .ofFields ([("target_concurrency", Value.nat self.targetConcurrency),
    ("headroom_percent", Value.nat self.headroomPercent),
    ("prefix_blocks", Value.nat self.prefixBlocks),
    ("alignment_blocks", Value.nat self.alignmentBlocks),
    ("strict_concurrency", .bool self.strictConcurrency)] ++
    optionalField "min_bytes" self.minBytes ++ optionalField "max_bytes" self.maxBytes ++
    optionalField "maximum_concurrency" self.maximumConcurrency)

/-- `RankSizing.to_dict`. -/
def RankSizing.toDict (self : RankSizing) : Value :=
  .ofFields [("rank", Value.nat self.rank), ("device_id", Value.nat self.deviceId),
    ("bytes_per_block", Value.nat self.bytesPerBlock),
    ("sequence_blocks", Value.nat self.sequenceBlocks),
    ("minimum_blocks", Value.nat self.minimumBlocks),
    ("minimum_bytes", Value.nat self.minimumBytes), ("base_blocks", Value.nat self.baseBlocks),
    ("headroom_blocks", Value.nat self.headroomBlocks),
    ("desired_blocks", Value.nat self.desiredBlocks),
    ("desired_bytes", Value.nat self.desiredBytes),
    ("maximum_blocks", Value.nat self.maximumBlocks),
    ("maximum_bytes", Value.nat self.maximumBytes),
    ("effective_target_concurrency", Value.nat self.effectiveTargetConcurrency),
    ("concurrency_reduced", .bool self.concurrencyReduced)]

/-! ## `PlanningResult` -/

/-- `PlanningResult`. -/
structure PlanningResult where
  geometry : GeometryDescriptor
  policy : SizingPolicy
  ranks : List RankSizing
  deriving DecidableEq

namespace PlanningResult

/-- `total_desired_bytes`. -/
def totalDesiredBytes (self : PlanningResult) : Except PyError ℕ :=
  self.ranks.foldlM (fun total rank => checkedAdd total rank.desiredBytes "total_desired_bytes") 0

/-- `total_maximum_bytes`. -/
def totalMaximumBytes (self : PlanningResult) : Except PyError ℕ :=
  self.ranks.foldlM (fun total rank => checkedAdd total rank.maximumBytes "total_maximum_bytes") 0

/-- `PlanningResult.__post_init__`. -/
def postInit (self : PlanningResult) : Except PyError PlanningResult := do
  raiseIf (self.ranks.length ≠ self.geometry.tensorParallelSize)
    (.planningError "sizing results must cover every rank")
  raiseIf (¬sameSet (self.ranks.map (·.rank)) (List.range self.ranks.length))
    (.planningError "sizing result ranks are duplicated or out of range")
  raiseIf ((self.ranks.map (·.desiredBlocks)).dedup.length ≠ 1)
    (.planningError "vLLM tensor-parallel ranks require one block count")
  raiseIf ((self.ranks.map (·.desiredBytes)).dedup.length ≠ 1) (.planningError
    "the pinned vLLM exact-byte CLI requires the same byte grant on every rank")
  raiseIf ((self.ranks.map (·.maximumBlocks)).dedup.length ≠ 1 ∨
      (self.ranks.map (·.maximumBytes)).dedup.length ≠ 1)
    (.planningError "vLLM tensor-parallel ranks require one virtual maximum")
  raiseIf (∃ rank ∈ self.ranks, rank.maximumBlocks < rank.desiredBlocks)
    (.planningError "virtual maximum cannot be below initial capacity")
  let _ ← self.totalDesiredBytes
  pure self

/-- `PlanningResult.to_dict`. -/
def toDict (sha256 : List UInt8 → Vector UInt8 32) (self : PlanningResult) :
    Except PyError Value := do
  let digest ← self.geometry.geometryDigest sha256
  let geometry ← self.geometry.toDict
  let totalDesired ← self.totalDesiredBytes
  let totalMaximum ← self.totalMaximumBytes
  pure <| .ofFields [("schema_version", Value.nat 1), ("status", Value.literal "planned"),
    ("supported", .bool true), ("geometry_digest", .text digest), ("geometry", geometry),
    ("policy", self.policy.toDict),
    ("sizing", .ofFields [("ranks", .list (self.ranks.map (·.toDict))),
      ("total_desired_bytes", Value.nat totalDesired),
      ("total_maximum_bytes", Value.nat totalMaximum)])]

end PlanningResult

/-- `build_plan`. -/
def buildPlan (geometry : GeometryDescriptor) (policy : SizingPolicy) :
    Except PyError PlanningResult := do
  let ranks ← geometry.ranks.mapM (sizeRank · policy)
  PlanningResult.postInit { geometry, policy, ranks }

/-! ## `run` -/

/-- How `run` ends: it printed a document and returned, or an exception left it. -/
inductive RunEnd
  | exit (code : ℕ) (document : Value)
  | uncaught (error : PyError)

/-- The structured error that `run` prints for a failed plan. -/
def failureDict (message : String) : Value :=
  .ofFields [("schema_version", Value.nat 1), ("status", Value.literal "error"),
    ("supported", .bool false),
    ("error", .ofFields [("kind", Value.literal "planning_failed"),
      ("message", Value.literal message)])]

/-- `run`, once it has a geometry and a policy.  The document is computed outside the `try`. -/
def run (sha256 : List UInt8 → Vector UInt8 32) (geometry : GeometryDescriptor)
    (policy : SizingPolicy) : RunEnd :=
  match buildPlan geometry policy with
  | .error (.planningError message) => .exit 2 (failureDict message)
  | .error error => .uncaught error
  | .ok result =>
    match result.toDict sha256 with
    | .error error => .uncaught error
    | .ok document => .exit 0 document

/-! ## Reading a plan back -/

/-- What a plan says: it sizes the ranks of the geometry one by one, and the ranks agree. -/
structure PlanningResult.Planned (d : GeometryDescriptor) (p : SizingPolicy)
    (result : PlanningResult) : Prop where
  geometry : result.geometry = d
  policy : result.policy = p
  ranks : d.ranks.mapM (sizeRank · p) = .ok result.ranks
  length : result.ranks.length = d.tensorParallelSize
  maximum : ∃ bytes, ∀ sizing ∈ result.ranks, sizing.maximumBytes = bytes
  total : ∃ total, result.totalDesiredBytes = .ok total

/-- **A plan that was built, read back.** -/
theorem planned_of_buildPlan {geometry : GeometryDescriptor} {policy : SizingPolicy}
    {result : PlanningResult} (h : buildPlan geometry policy = .ok result) :
    result.Planned geometry policy := by
  simp only [buildPlan, PlanningResult.postInit, Except.bind_eq_ok, Except.raiseIf_eq_ok,
    Except.pure_eq_ok, not_or, not_not] at h
  obtain ⟨ranks, hranks, -, hlength, -, -, -, -, -, -, -, ⟨-, hmaximum⟩, -, -, total, htotal,
    rfl⟩ := h
  obtain ⟨bytes, -, hbytes⟩ := List.forall_eq_of_dedup hmaximum
  refine ⟨rfl, rfl, hranks, hlength, ⟨bytes, fun sizing hsizing => ?_⟩, total, htotal⟩
  exact hbytes _ (List.mem_map_of_mem hsizing)

/-! ## What planning raises -/

/-- `isinstance(error, PlanningError)`. -/
def PyError.IsPlanning (e : PyError) : Prop := ∃ message, e = .planningError message

section Raises

open PyError (IsPlanning)

variable {rank : RankGeometry PyStr} {policy : SizingPolicy}

theorem planningError_raisesOnly {c : Prop} [Decidable c] {message : String} :
    Except.RaisesOnly IsPlanning (raiseIf c (.planningError message)) :=
  Except.raisesOnly_raiseIf ⟨message, rfl⟩

theorem uint_raisesOnly {value : ℕ} {field : String} {allowZero : Bool} :
    Except.RaisesOnly IsPlanning (uint value field allowZero) :=
  planningError_raisesOnly.bind fun _ _ => Except.raisesOnly_pure

theorem checkedAdd_raisesOnly {left right : ℕ} {field : String} :
    Except.RaisesOnly IsPlanning (checkedAdd left right field) :=
  uint_raisesOnly.bind fun _ _ => uint_raisesOnly.bind fun _ _ =>
    planningError_raisesOnly.bind fun _ _ => Except.raisesOnly_pure

theorem checkedMul_raisesOnly {left right : ℕ} {field : String} :
    Except.RaisesOnly IsPlanning (checkedMul left right field) :=
  uint_raisesOnly.bind fun _ _ => uint_raisesOnly.bind fun _ _ =>
    planningError_raisesOnly.bind fun _ _ => Except.raisesOnly_pure

theorem ceilDiv_raisesOnly {value divisor : ℕ} {field : String} :
    Except.RaisesOnly IsPlanning (ceilDiv value divisor field) :=
  uint_raisesOnly.bind fun _ _ => uint_raisesOnly.bind fun _ _ => Except.raisesOnly_pure

theorem roundUp_raisesOnly {value alignment : ℕ} {field : String} :
    Except.RaisesOnly IsPlanning (roundUp value alignment field) :=
  uint_raisesOnly.bind fun _ _ => uint_raisesOnly.bind fun _ _ =>
    ceilDiv_raisesOnly.bind fun _ _ => checkedMul_raisesOnly

theorem roundDown_raisesOnly {value alignment : ℕ} {field : String} :
    Except.RaisesOnly IsPlanning (roundDown value alignment field) :=
  uint_raisesOnly.bind fun _ _ => uint_raisesOnly.bind fun _ _ => Except.raisesOnly_pure

theorem foldlM_raisesOnly {α : Type} (f : α → ℕ) (field : String) (xs : List α) (init : ℕ) :
    Except.RaisesOnly IsPlanning
      (xs.foldlM (fun total x => checkedAdd total (f x) field) init) := by
  induction xs generalizing init with
  | nil => exact Except.raisesOnly_pure
  | cons x xs ih =>
    rw [List.foldlM_cons]
    exact checkedAdd_raisesOnly.bind fun total _ => ih total

theorem floorBlocks_raisesOnly {minimumBytes : ℕ} :
    Except.RaisesOnly IsPlanning (floorBlocks rank policy minimumBytes) := by
  unfold floorBlocks
  rcases policy.minBytes with _ | minBytes
  · exact Except.raisesOnly_ok
  · exact planningError_raisesOnly.bind fun _ _ => ceilDiv_raisesOnly.bind fun _ _ =>
      roundUp_raisesOnly.bind fun _ _ => Except.raisesOnly_pure

theorem capDesired_raisesOnly {minimumBlocks wish : ℕ} {floor : Option ℕ} :
    Except.RaisesOnly IsPlanning (capDesired rank policy minimumBlocks floor wish) := by
  unfold capDesired
  rcases policy.maxBytes with _ | maxBytes
  · exact Except.raisesOnly_ok
  · exact roundDown_raisesOnly.bind fun _ _ => planningError_raisesOnly.bind fun _ _ =>
      planningError_raisesOnly.bind fun _ _ => Except.raisesOnly_pure

theorem capMaximum_raisesOnly {uncapped : ℕ} :
    Except.RaisesOnly IsPlanning (capMaximum rank policy uncapped) := by
  unfold capMaximum
  rcases policy.maxBytes with _ | maxBytes
  · exact Except.raisesOnly_ok
  · exact roundDown_raisesOnly.bind fun _ _ => Except.raisesOnly_pure

theorem maximumBlocksFor_raisesOnly {sequenceBlocks desiredBlocks : ℕ} :
    Except.RaisesOnly IsPlanning
      (maximumBlocksFor rank policy sequenceBlocks desiredBlocks) := by
  unfold maximumBlocksFor
  rcases policy.maximumConcurrency with _ | maximumConcurrency
  · exact Except.raisesOnly_ok
  · refine checkedMul_raisesOnly.bind fun _ _ => checkedAdd_raisesOnly.bind fun _ _ => ?_
    refine checkedMul_raisesOnly.bind fun _ _ => ceilDiv_raisesOnly.bind fun _ _ => ?_
    refine checkedAdd_raisesOnly.bind fun _ _ => checkedAdd_raisesOnly.bind fun _ _ => ?_
    refine roundUp_raisesOnly.bind fun _ _ => capMaximum_raisesOnly.bind fun _ _ => ?_
    exact planningError_raisesOnly.bind fun _ _ => Except.raisesOnly_pure

/-- **Sizing a rank raises nothing but `PlanningError`.** -/
theorem sizeRank_raisesOnly : Except.RaisesOnly IsPlanning (sizeRank rank policy) := by
  refine (foldlM_raisesOnly _ _ _ _).bind fun _ _ => checkedAdd_raisesOnly.bind fun _ _ => ?_
  refine roundUp_raisesOnly.bind fun _ _ => checkedMul_raisesOnly.bind fun _ _ => ?_
  refine checkedMul_raisesOnly.bind fun _ _ => checkedAdd_raisesOnly.bind fun _ _ => ?_
  refine checkedMul_raisesOnly.bind fun _ _ => ceilDiv_raisesOnly.bind fun _ _ => ?_
  refine checkedAdd_raisesOnly.bind fun _ _ => checkedAdd_raisesOnly.bind fun _ _ => ?_
  refine roundUp_raisesOnly.bind fun _ _ => floorBlocks_raisesOnly.bind fun _ _ => ?_
  refine capDesired_raisesOnly.bind fun _ _ => checkedMul_raisesOnly.bind fun _ _ => ?_
  refine maximumBlocksFor_raisesOnly.bind fun _ _ => checkedMul_raisesOnly.bind fun _ _ => ?_
  refine planningError_raisesOnly.bind fun _ _ => ?_
  exact planningError_raisesOnly.bind fun _ _ => Except.raisesOnly_pure

/-- **`build_plan` raises nothing but `PlanningError`**, which `run` catches. -/
theorem buildPlan_raisesOnly {geometry : GeometryDescriptor} :
    Except.RaisesOnly IsPlanning (buildPlan geometry policy) := by
  refine (Except.RaisesOnly.mapM fun _ _ => sizeRank_raisesOnly).bind fun _ _ => ?_
  refine planningError_raisesOnly.bind fun _ _ => planningError_raisesOnly.bind fun _ _ => ?_
  refine planningError_raisesOnly.bind fun _ _ => planningError_raisesOnly.bind fun _ _ => ?_
  refine planningError_raisesOnly.bind fun _ _ => planningError_raisesOnly.bind fun _ _ => ?_
  exact (foldlM_raisesOnly _ _ _ _).bind fun _ _ => Except.raisesOnly_pure

end Raises

end Kapsl.Vllm
