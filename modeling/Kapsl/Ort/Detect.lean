import Mathlib.Algebra.Order.Field.Basic
import Mathlib.Order.WithBot
import Kapsl.Lib.Greedy
import Kapsl.Ort.Tensor

/-!
# Ort/Detect — boxes from the output of a detection model

`detect` reads one candidate box from each anchor of the grid that the model returns, drops those
whose score is too low, and leaves out a box that overlaps too much with a better one of its class
(`non_max_suppression`).

Coordinates and scores are exact: `F` is an ordered field, and `ofBytes` and `toBytes` stand for the
encoding of `f32`.  Reading outside of a slice panics.
-/

namespace Kapsl.Ort.Detect

open Except (raiseIf)

variable {F : Type} [Field F] [LinearOrder F]

/-- How a postprocessor stops without a result. -/
inductive Stop
  | error (e : FfiError)
  | panicked
  deriving DecidableEq

/-! ## Tensors of floats -/

/-- `parse_f32`. -/
def parseF32 (ofBytes : UInt8 → UInt8 → UInt8 → UInt8 → F) : List UInt8 → List F
  | a :: b :: c :: d :: data => ofBytes a b c d :: parseF32 ofBytes data
  | _ => []

/-- `f32_values`. -/
def f32Values (ofBytes : UInt8 → UInt8 → UInt8 → UInt8 → F) (output : OwnedTensor)
    (task : String) : Except FfiError (List F) := do
  raiseIf (output.dtype ≠ .f32 ∨ output.data.length % 4 ≠ 0)
    (backendError s!"{task} requires a float32 ONNX output")
  return parseF32 ofBytes output.data

/-- `dimension`. -/
def dimension (value : ℤ) (label : String) : Except FfiError ℕ := do
  raiseIf (value < 0) (backendError s!"{label} dimension is {value}")
  return value.toNat

/-- The fold of `require_elements`. -/
def checkedProduct (label : String) (total dimension : ℕ) : Except FfiError ℕ := do
  raiseIf (usizeBound ≤ total * dimension) (backendError s!"{label} shape overflows")
  return total * dimension

/-- `require_elements`. -/
def requireElements (actual : ℕ) (dimensions : List ℕ) (label : String) :
    Except FfiError Unit := do
  let expected ← dimensions.foldlM (checkedProduct label) 1
  raiseIf (actual ≠ expected)
    (backendError s!"{label} output has {actual} values, shape implies {expected}")

/-- `f32_tensor`. -/
def f32Tensor (toBytes : F → List UInt8) (name : String) (shape : List ℤ) (values : List F) :
    OwnedTensor where
  name := name
  dtype := .f32
  shape := shape
  data := values.flatMap toBytes

/-! ## The configuration -/

/-- `BoxFormat`. -/
inductive BoxFormat
  | xywh
  | xyxy
  deriving DecidableEq

/-- `DetectConfig`. -/
structure DetectConfig (F : Type) where
  numClasses : ℕ
  scoreThreshold : F
  iouThreshold : F
  maxDetections : ℕ
  boxFormat : BoxFormat
  objectness : Bool
  transposed : Bool
  classAgnostic : Bool

/-- `DetectConfig::validate`. -/
def DetectConfig.validate (config : DetectConfig F) : Except FfiError Unit := do
  raiseIf (config.numClasses = 0) (invalidArgument "detect num_classes must be non-zero")
  -- An exact number is finite.
  raiseIf (¬(0 ≤ config.iouThreshold ∧ config.iouThreshold ≤ 1))
    (invalidArgument
      "detect thresholds must be finite and iou_threshold must be within 0..=1")
  raiseIf (config.maxDetections = 0) (invalidArgument "detect max_detections must be non-zero")

/-- The first channel of the class scores. -/
def DetectConfig.classOffset (config : DetectConfig F) : ℕ := 4 + config.objectness.toNat

/-- `DetectConfig::channels`, whose sum wraps. -/
def DetectConfig.channels (config : DetectConfig F) : ℕ :=
  (config.classOffset + config.numClasses) % usizeBound

/-! ## Candidates -/

/-- `Candidate`. -/
structure Candidate (F : Type) where
  x1 : F
  y1 : F
  x2 : F
  y2 : F
  score : F
  class' : ℕ
  deriving DecidableEq

/-- The values of the output, with the sizes they are read by. -/
structure Grid (F : Type) where
  values : List F
  anchors : ℕ
  channels : ℕ
  transposed : Bool

/-- Where the value of an anchor and a channel stands. -/
def Grid.index (grid : Grid F) (anchor channel : ℕ) : ℕ :=
  if grid.transposed then channel * grid.anchors + anchor else anchor * grid.channels + channel

/-- The closure `at` of `detect`. -/
def Grid.at' (grid : Grid F) (anchor channel : ℕ) : Except Stop F :=
  match grid.values[grid.index anchor channel]? with
  | some value => .ok value
  | none => .error .panicked

/-- One turn of the loop over the classes; `⊥` is `f32::NEG_INFINITY`. -/
def scanClass (grid : Grid F) (anchor classOffset : ℕ) (best : WithBot F × ℕ) (class' : ℕ) :
    Except Stop (WithBot F × ℕ) := do
  let score ← grid.at' anchor (classOffset + class')
  return if best.1 < score then (↑score, class') else best

/-- The corners of a box. -/
def BoxFormat.corners (format : BoxFormat) (a b c d : F) : F × F × F × F :=
  match format with
  | .xywh => (a - c / (2 : ℕ), b - d / (2 : ℕ), a + c / (2 : ℕ), b + d / (2 : ℕ))
  | .xyxy => (a, b, c, d)

/-- The score of an anchor: that of its best class, times the objectness if there is one. -/
def readScore (config : DetectConfig F) (grid : Grid F) (anchor : ℕ) (bestScore : WithBot F) :
    Except Stop (WithBot F) :=
  if config.objectness then do
    let objectness ← grid.at' anchor 4
    return bestScore.map (objectness * ·)
  else
    return bestScore

/-- The candidate `detect` pushes for an anchor. -/
def readCandidate (config : DetectConfig F) (grid : Grid F) (anchor : ℕ) (score : F)
    (bestClass : ℕ) : Except Stop (Candidate F) := do
  let a ← grid.at' anchor 0
  let b ← grid.at' anchor 1
  let c ← grid.at' anchor 2
  let d ← grid.at' anchor 3
  let (x1, y1, x2, y2) := config.boxFormat.corners a b c d
  return { x1, y1, x2, y2, score, class' := bestClass }

/-- One turn of the loop over the anchors. -/
def decodeAnchor (config : DetectConfig F) (grid : Grid F) (anchor : ℕ) :
    Except Stop (Option (Candidate F)) := do
  let (bestScore, bestClass) ← (List.range config.numClasses).foldlM
    (scanClass grid anchor config.classOffset) (⊥, 0)
  match ← readScore config grid anchor bestScore with
  -- No class was scanned, which a valid configuration excludes.
  | none => return none
  | some score =>
    if score < config.scoreThreshold then
      return none
    else
      return some (← readCandidate config grid anchor score bestClass)

/-! ## Suppression -/

/-- `intersection_over_union`. -/
def intersectionOverUnion (left right : Candidate F) : F :=
  let width := max (min left.x2 right.x2 - max left.x1 right.x1) 0
  let height := max (min left.y2 right.y2 - max left.y1 right.y1) 0
  let intersection := width * height
  let leftArea := max (left.x2 - left.x1) 0 * max (left.y2 - left.y1) 0
  let rightArea := max (right.x2 - right.x1) 0 * max (right.y2 - right.y1) 0
  let union := leftArea + rightArea - intersection
  if union ≤ 0 then 0 else intersection / union

/-- The test of the inner loop of `non_max_suppression`. -/
def Suppresses (iouThreshold : F) (classAgnostic : Bool)
    (existing candidate : Candidate F) : Prop :=
  (classAgnostic ∨ existing.class' = candidate.class') ∧
    iouThreshold < intersectionOverUnion existing candidate

instance (iouThreshold : F) (classAgnostic : Bool) :
    DecidableRel (Suppresses iouThreshold classAgnostic) := fun existing candidate =>
  inferInstanceAs (Decidable ((classAgnostic ∨ existing.class' = candidate.class') ∧
    iouThreshold < intersectionOverUnion existing candidate))

/-- The stable sort of `non_max_suppression`. -/
def sortByScore (candidates : List (Candidate F)) : List (Candidate F) :=
  candidates.mergeSort fun left right => decide (right.score ≤ left.score)

/-- `non_max_suppression`. -/
def nonMaxSuppression (candidates : List (Candidate F)) (iouThreshold : F)
    (classAgnostic : Bool) : List (Candidate F) :=
  Greedy.survivors (Suppresses iouThreshold classAgnostic) (sortByScore candidates)

/-! ## Detection -/

/-- The sizes `detect` reads from the shape. -/
def gridShape (shape : List ℤ) : Except FfiError (ℕ × ℕ) :=
  match shape with
  | [first, second] => do
    return (← dimension first "detection grid", ← dimension second "detection grid")
  | [1, first, second] => do
    return (← dimension first "detection grid", ← dimension second "detection grid")
  | shape => .error (backendError
      s!"detection expects [anchors, channels] or [1, anchors, channels], got {shape}")

/-- The checks `detect` starts with. -/
def readGrid (ofBytes : UInt8 → UInt8 → UInt8 → UInt8 → F) (output : OwnedTensor)
    (config : DetectConfig F) : Except FfiError (Grid F) := do
  let values ← f32Values ofBytes output "detection"
  let (first, second) ← gridShape output.shape
  let (anchors, channels) := if config.transposed then (second, first) else (first, second)
  raiseIf (channels ≠ config.channels)
    (backendError (s!"detection output has {channels} channels, " ++
      s!"configuration requires {config.channels}"))
  requireElements values.length [anchors, channels] "detection"
  return { values, anchors, channels, transposed := config.transposed }

/-- The row of a detection. -/
def Candidate.row (detection : Candidate F) : List F :=
  [detection.x1, detection.y1, detection.x2, detection.y2, detection.score, detection.class']

/-- The tensor `detect` returns. -/
def detections (toBytes : F → List UInt8) (kept : List (Candidate F)) : OwnedTensor :=
  let values := kept.flatMap Candidate.row
  f32Tensor toBytes "detections" [(values.length / 6 : ℕ), 6] values

/-- `detect`. -/
def detect (ofBytes : UInt8 → UInt8 → UInt8 → UInt8 → F) (toBytes : F → List UInt8)
    (output : OwnedTensor) (config : DetectConfig F) : Except Stop OwnedTensor := do
  let grid ← (readGrid ofBytes output config).mapError .error
  let decoded ← (List.range grid.anchors).mapM (decodeAnchor config grid)
  let kept := nonMaxSuppression decoded.reduceOption config.iouThreshold config.classAgnostic
  return detections toBytes (kept.take config.maxDetections)

end Kapsl.Ort.Detect
