import Mathlib.Data.Rat.Floor
import Kapsl.Lib.Except
import Kapsl.Lib.KeySort
import Kapsl.Vllm.Python

/-!
# Ort/Parity — captures of two routes, and the report that compares them

A capture is a JSON object that a run of the conformance harness has written; a report compares the
captures of the embedded route with those of the native pack.  `build_report` collects one text for
each gate that fails, and passes when there is none.

Captures are read as they come from `json.loads`: a value of the wrong type raises, and a missing
one has the default the harness gives it.  Floats, and the texts the library makes of values, are
those of the interpreter (`Runtime`).
-/

namespace Kapsl.Ort.Parity

open Kapsl.Vllm (Json JsonFloat)
open Except (raiseIf)

/-! ## The interpreter -/

/-- What leaves a function of the harness instead of its result. -/
inductive Raised
  | parityError (message : String)
  | typeError
  | keyError
  | attributeError
  | valueError
  | overflowError
  deriving DecidableEq

/-- The element formats of floating tensors. -/
inductive FloatFormat
  | e
  | f
  | d
  deriving DecidableEq

/-- `struct.calcsize`. -/
def FloatFormat.size : FloatFormat → ℕ
  | e => 2
  | f => 4
  | d => 8

/-- The parts of Python that the report is computed with; `F` is `float`. -/
structure Runtime (F : Type) where
  /-- `int(text)`. -/
  parseInt : String → Except Raised ℤ
  /-- `float(text)`. -/
  parseFloat : String → Except Raised F
  /-- `int(x)` of a float. -/
  truncate : JsonFloat → Except Raised ℤ
  /-- `float(n)`, which overflows. -/
  ofInt : ℤ → Except Raised F
  ofJson : JsonFloat → F
  /-- A literal of the source. -/
  literal : ℚ → F
  /-- `str(value)`. -/
  str : Json → String
  /-- `json.dumps(value, sort_keys=True)`. -/
  dumps : Json → String
  lower : String → String
  /-- `base64.b64decode(text, validate=True)`, unless it raises `ValueError`. -/
  b64decode : String → Option (List UInt8)
  /-- `struct.iter_unpack`. -/
  unpack : FloatFormat → List UInt8 → List F
  isNaN : F → Bool
  isInf : F → Bool
  eq : F → F → Bool
  lt : F → F → Bool
  le : F → F → Bool
  /-- `n > x`. -/
  intGt : ℤ → F → Bool
  add : F → F → F
  sub : F → F → F
  mul : F → F → F
  div : F → F → F
  abs : F → F
  max : F → F → F
  floor : F → ℕ
  ceil : F → ℕ
  sum : List F → F
  sorted : List F → List F
  median : List F → F

namespace Runtime

variable {F : Type} (R : Runtime F)

def zero : F := R.literal 0

def nan : F := R.ofJson .nan

/-- `int(value)`. -/
def toInt : Json → Except Raised ℤ
  | .int n => .ok n
  | .bool b => .ok (if b then 1 else 0)
  | .float x => R.truncate x
  | .str s => R.parseInt s
  | _ => .error .typeError

/-- `float(value)`. -/
def toFloat : Json → Except Raised F
  | .int n => R.ofInt n
  | .bool b => R.ofInt (if b then 1 else 0)
  | .float x => .ok (R.ofJson x)
  | .str s => R.parseFloat s
  | _ => .error .typeError

end Runtime

/-- `mapping.get(key, default)`. -/
def dictGet (value : Json) (key : String) (default : Json := .null) : Except Raised Json :=
  if value.isMapping then .ok (value.getD key default) else .error .attributeError

/-- `value[key]`. -/
def getItem (value : Json) (key : String) : Except Raised Json :=
  if value.isMapping then
    match value.get? key with
    | some item => .ok item
    | none => .error .keyError
  else .error .typeError

theorem dictGet_eq_ok {value default item : Json} {key : String} :
    dictGet value key default = .ok item ↔
      value.isMapping = true ∧ value.getD key default = item := by
  unfold dictGet
  split
  · next h => exact ⟨fun heq => ⟨h, Except.ok.inj heq⟩, fun heq => congrArg _ heq.2⟩
  · next h => exact ⟨nofun, fun heq => absurd heq.1 h⟩

theorem getItem_eq_ok {value item : Json} {key : String} (h : getItem value key = .ok item) :
    value.get key = item := by
  unfold getItem at h
  split at h
  · split at h
    · next hitem =>
      rw [Json.get, hitem, Option.getD_some]
      exact Except.ok.inj h
    · exact nomatch h
  · exact nomatch h

/-- `for item in value`. -/
def iterate : Json → Except Raised (List Json)
  | .list items => .ok items
  | .obj fields => .ok (fields.map fun field => .str field.1)
  | .str s => .ok (s.toList.map fun c => .str (.singleton c))
  | _ => .error .typeError

/-- `len(value)`. -/
def len : Json → Except Raised ℕ
  | .list items => .ok items.length
  | .obj fields => .ok fields.length
  | .str s => .ok s.length
  | _ => .error .typeError

/-! ## The configuration -/

/-- The gates. -/
structure Gates (F : Type) where
  maxAbsError : F
  maxRelError : F
  minThroughputRatio : F
  maxP95LatencyRatio : F
  maxP99LatencyRatio : F
  maxModelMemoryRatio : F
  maxModelMemoryIncreaseBytes : F
  maxPeakRssRatio : F
  maxPeakRssIncreaseBytes : F
  maxStartupRatio : F
  requireZeroFailures : Bool
  requireModelMemory : Bool
  requireProcessIdentity : Bool
  requireProcessRss : Bool
  requireRouteEvidence : Bool
  requireStartupEvidence : Bool

/-- What `build_report` reads of a configuration: the IDs of the payloads, the concurrency points of
the workload, the gates. -/
structure Config (F : Type) where
  suiteId : String
  identity : Json
  payloads : List String
  concurrency : List ℤ
  gates : Gates F

/-- `require_mapping`. -/
def requireMapping (value : Json) (label : String) : Except Raised Json := do
  raiseIf (¬value.isMapping) (.parityError (label ++ " must be an object"))
  pure value

/-- `require_positive_int`. -/
def requirePositiveInt (value : Json) (label : String) : Except Raised ℤ :=
  match value with
  | .int n => do
    raiseIf (n ≤ 0) (.parityError (label ++ " must be a positive integer"))
    pure n
  | _ => .error (.parityError (label ++ " must be a positive integer"))

/-- A field that must be a string other than white space. -/
def requireText (config : Json) (field : String) : Except Raised String :=
  match config.get field with
  | .str s => do
    raiseIf (Vllm.isBlank s = true) (.parityError (field ++ " must be a non-empty string"))
    pure s
  | _ => .error (.parityError (field ++ " must be a non-empty string"))

/-- The payloads of `resolve_config`, from number `index` on. -/
def resolvePayloads (seen : List String) (index : ℕ) : List Json → Except Raised (List String)
  | [] => pure seen
  | payload :: rest => do
    let payload ← requireMapping payload s!"payloads[{index}]"
    match payload.get "id" with
    | .str id =>
      raiseIf (id = "") (.parityError s!"payloads[{index}].id must be a non-empty string")
      raiseIf (id ∈ seen) (.parityError s!"duplicate payload id: {id}")
      let _ ← requireMapping (payload.get "request") s!"payloads[{index}].request"
      resolvePayloads (seen ++ [id]) (index + 1) rest
    | _ => .error (.parityError s!"payloads[{index}].id must be a non-empty string")

/-- `workload.concurrency` in `resolve_config`. -/
def resolveConcurrency (concurrency : Json) : Except Raised (List ℤ) :=
  match concurrency with
  | .list items => do
    raiseIf (items.isEmpty = true)
      (.parityError "workload.concurrency must be a non-empty array")
    let points ← items.mapM (requirePositiveInt · "workload.concurrency entry")
    raiseIf (¬points.Nodup) (.parityError "workload.concurrency entries must be unique")
    pure points
  | _ => .error (.parityError "workload.concurrency must be a non-empty array")

section Loader

variable {F : Type} (R : Runtime F)

/-- `require_nonnegative_number`. -/
def requireNonnegativeNumber (value : Json) (label : String) : Except Raised F :=
  match value with
  | .int _ | .float _ => do
    let number ← R.toFloat value
    raiseIf (R.isNaN number = true ∨ R.isInf number = true ∨ R.lt number R.zero = true)
      (.parityError (label ++ " must be a finite non-negative number"))
    pure number
  | _ => .error (.parityError (label ++ " must be a non-negative number"))

/-- A numeric gate, with its default. -/
def numberGate (gates : Json) (field : String) (default : ℚ) : Except Raised F :=
  requireNonnegativeNumber R (gates.getD field (.float (.finite default))) ("gates." ++ field)

/-- A boolean gate; the default is on. -/
def booleanGate (gates : Json) (field : String) : Except Raised Bool :=
  match gates.getD field (.bool true) with
  | .bool b => .ok b
  | _ => .error (.parityError ("gates." ++ field ++ " must be boolean"))

/-- The gates of `resolve_config`. -/
def resolveGates (gates : Json) : Except Raised (Gates F) := do
  let gates ← requireMapping gates "gates"
  let maxAbsError ← numberGate R gates "max_abs_error" 1e-5
  let maxRelError ← numberGate R gates "max_rel_error" 1e-4
  let minThroughputRatio ← numberGate R gates "min_throughput_ratio" 0.95
  let maxP95LatencyRatio ← numberGate R gates "max_p95_latency_ratio" 1.05
  let maxP99LatencyRatio ← numberGate R gates "max_p99_latency_ratio" 1.10
  let maxModelMemoryRatio ← numberGate R gates "max_model_memory_ratio" 1.05
  let maxModelMemoryIncreaseBytes ←
    numberGate R gates "max_model_memory_increase_bytes" (16 * 1024 * 1024)
  let maxPeakRssRatio ← numberGate R gates "max_peak_rss_ratio" 1.05
  let maxPeakRssIncreaseBytes ←
    numberGate R gates "max_peak_rss_increase_bytes" (32 * 1024 * 1024)
  let maxStartupRatio ← numberGate R gates "max_startup_ratio" 1.20
  let requireZeroFailures ← booleanGate gates "require_zero_failures"
  let requireModelMemory ← booleanGate gates "require_model_memory"
  let requireProcessIdentity ← booleanGate gates "require_process_identity"
  let requireProcessRss ← booleanGate gates "require_process_rss"
  let requireRouteEvidence ← booleanGate gates "require_route_evidence"
  let requireStartupEvidence ← booleanGate gates "require_startup_evidence"
  pure
    { maxAbsError, maxRelError, minThroughputRatio, maxP95LatencyRatio, maxP99LatencyRatio
      maxModelMemoryRatio, maxModelMemoryIncreaseBytes, maxPeakRssRatio, maxPeakRssIncreaseBytes
      maxStartupRatio, requireZeroFailures, requireModelMemory, requireProcessIdentity
      requireProcessRss, requireRouteEvidence, requireStartupEvidence }

/-- `resolve_config`, given the identity that was resolved against the file system. -/
def resolveConfig (identity : Json) (config : Json) : Except Raised (Config F) := do
  raiseIf (¬(config.get "schema_version").eqInt 1) (.parityError "schema_version must be 1")
  let suiteId ← requireText config "suite_id"
  let _ ← requireText config "task_profile"
  let payloads ←
    match config.get "payloads" with
    | .list (payload :: rest) => resolvePayloads [] 0 (payload :: rest)
    | _ => .error (.parityError "payloads must be a non-empty array")
  let workload ← requireMapping (config.get "workload") "workload"
  let concurrency ← resolveConcurrency (workload.getD "concurrency" (.list [.int 1, .int 4]))
  let gates ← resolveGates R (config.get "gates")
  pure { suiteId, identity, payloads, concurrency, gates }

end Loader

/-! ## Tensors -/

section Tensors

variable {F : Type} (R : Runtime F)

/-- `FLOAT_FORMATS`. -/
def floatFormat (dtype : String) : Option FloatFormat :=
  match dtype with
  | "float16" | "f16" => some .e
  | "float32" | "f32" => some .f
  | "float64" | "f64" => some .d
  | _ => none

/-- `tensor_bytes`. -/
def tensorBytes (tensor : Json) : Except Raised (List UInt8) :=
  match tensor.get? "data_base64" with
  | none => .error (.parityError "capture tensor bytes are invalid")
  | some data =>
    match R.b64decode (R.str data) with
    | none => .error (.parityError "capture tensor bytes are invalid")
    | some bytes => .ok bytes

/-- What `compare_tensors` returns. -/
structure Comparison (F : Type) where
  passed : Bool
  reason : String
  maxAbsError : Option F := none
  maxRelError : Option F := none

/-- The loop of `compare_tensors` over the elements, from number `index` on. -/
def compareElements (maxAbsError maxRelError : F) :
    ℕ → F → F → List (F × F) → Comparison F
  | _, observedAbs, observedRel, [] =>
    { passed := true, reason := "within tolerance"
      maxAbsError := some observedAbs, maxRelError := some observedRel }
  | index, observedAbs, observedRel, (left, right) :: rest =>
    if R.isNaN left || R.isNaN right then
      if !(R.isNaN left && R.isNaN right) then
        { passed := false, reason := s!"NaN mismatch at element {index}" }
      else compareElements maxAbsError maxRelError (index + 1) observedAbs observedRel rest
    else if R.isInf left || R.isInf right then
      if !R.eq left right then
        { passed := false, reason := s!"infinity mismatch at element {index}" }
      else compareElements maxAbsError maxRelError (index + 1) observedAbs observedRel rest
    else
      let absolute := R.abs (R.sub left right)
      let scale := R.max (R.abs left) (R.abs right)
      let relative := if R.eq scale R.zero then R.zero else R.div absolute scale
      let observedAbs := R.max observedAbs absolute
      let observedRel := R.max observedRel relative
      if R.lt (R.add maxAbsError (R.mul maxRelError scale)) absolute then
        { passed := false, reason := s!"numeric tolerance exceeded at element {index}"
          maxAbsError := some observedAbs, maxRelError := some observedRel }
      else compareElements maxAbsError maxRelError (index + 1) observedAbs observedRel rest

/-- `compare_tensors`. -/
def compareTensors (baseline candidate : Json) (maxAbsError maxRelError : F) :
    Except Raised (Comparison F) := do
  if !(baseline.get "shape").pyEq (candidate.get "shape") then
    return { passed := false, reason := "shape mismatch" }
  if !(baseline.get "dtype").pyEq (candidate.get "dtype") then
    return { passed := false, reason := "dtype mismatch" }
  let baselineBytes ← tensorBytes R baseline
  let candidateBytes ← tensorBytes R candidate
  if baselineBytes.length ≠ candidateBytes.length then
    return { passed := false, reason := "byte-length mismatch" }
  let dtype ← getItem baseline "dtype"
  match floatFormat (R.lower (R.str dtype)) with
  | none =>
    if baselineBytes = candidateBytes then
      return { passed := true, reason := "exact"
               maxAbsError := some R.zero, maxRelError := some R.zero }
    else return { passed := false, reason := "non-floating tensor bytes differ" }
  | some format =>
    if baselineBytes.length % format.size ≠ 0 then
      return { passed := false, reason := "floating tensor is not element-aligned" }
    return compareElements R maxAbsError maxRelError 0 R.zero R.zero
      ((R.unpack format baselineBytes).zip (R.unpack format candidateBytes))

/-- `capture_tensor`. -/
def captureTensor (capture : Json) (payloadId : String) : Except Raised Json := do
  let correctness := capture.get "correctness"
  raiseIf (¬correctness.isMapping)
    (.parityError "capture correctness evidence must be an object")
  let payload := correctness.get payloadId
  raiseIf (¬payload.isMapping ∨ ¬(payload.get "tensor").isMapping)
    (.parityError s!"capture has no tensor evidence for payload {payloadId}")
  pure (payload.get "tensor")

end Tensors

/-! ## Aggregation -/

section Aggregation

variable {F : Type} (R : Runtime F)

/-- `percentile`; the values are not empty. -/
def percentile (values : List F) (fraction : ℚ) : F :=
  let ordered := R.sorted values
  let rank := R.mul (R.literal (ordered.length - 1 : ℕ)) (R.literal fraction)
  let lower := R.floor rank
  let upper := R.ceil rank
  if lower = upper then ordered.getD lower R.nan
  else
    let weight := R.sub rank (R.literal lower)
    R.add (R.mul (ordered.getD lower R.nan) (R.sub (R.literal 1) weight))
      (R.mul (ordered.getD upper R.nan) weight)

/-- What a concurrency point is judged by. -/
structure Point (F : Type) where
  failures : ℤ
  throughput : F
  p95 : Option F
  p99 : Option F

/-- What the captures of a variant are judged by. -/
structure Aggregate (F : Type) where
  performance : List (ℤ × Point F)
  peakRssBytes : Option ℤ
  modelMemoryUsageMax : ℤ
  startupSecondsMedian : Option F
  failures : ℤ

/-- The trials of a capture. -/
def trialsOf (capture : Json) : Except Raised (List Json) := do
  let trials ← dictGet capture "trials" (.list [])
  iterate trials

/-- The trials of a capture, each with its concurrency. -/
def pointsOf (capture : Json) : Except Raised (List (ℤ × Json)) := do
  let trials ← trialsOf capture
  trials.mapM fun trial => do
    let concurrency ← getItem trial "concurrency"
    let concurrency ← R.toInt concurrency
    pure (concurrency, trial)

/-- One entry of `aggregates`. -/
def aggregatePoint (trials : List Json) : Except Raised (Point F) := do
  let latencies ← trials.mapM fun trial => do
    let values ← dictGet trial "latencies_ms" (.list [])
    let values ← iterate values
    values.mapM R.toFloat
  let successes ← trials.mapM fun trial => do
    let count ← dictGet trial "successes" (.int 0)
    R.toInt count
  let failures ← trials.mapM fun trial => do
    let count ← dictGet trial "failures" (.int 0)
    R.toInt count
  let durations ← trials.mapM fun trial => do
    let seconds ← dictGet trial "duration_seconds" (.float (.finite 0))
    R.toFloat seconds
  let duration := R.sum durations
  let throughput ←
    if R.lt R.zero duration then do
      let successes ← R.ofInt successes.sum
      pure (R.div successes duration)
    else pure R.zero
  let latencies := latencies.flatten
  pure
    { failures := failures.sum
      throughput
      p95 := if latencies.isEmpty then none else some (percentile R latencies 0.95)
      p99 := if latencies.isEmpty then none else some (percentile R latencies 0.99) }

/-- The concurrency points of a list of trials, in order. -/
def levels (points : List (ℤ × Json)) : List ℤ :=
  (points.map Prod.fst).dedup.insertionSort (· ≤ ·)

/-- `capture.get("memory", {}).get("peak_rss_bytes")`. -/
def peakRss (capture : Json) : Except Raised Json := do
  let memory ← dictGet capture "memory" (.obj [])
  dictGet memory "peak_rss_bytes"

/-- `aggregate_captures`. -/
def aggregateCaptures (captures : List Json) : Except Raised (Aggregate F) := do
  let points ← captures.mapM (pointsOf R)
  let points := points.flatten
  let performance ← (levels points).mapM fun level => do
    let point ← aggregatePoint R ((points.filter (·.1 = level)).map Prod.snd)
    pure (level, point)
  let rss ← captures.mapM peakRss
  let rss ← (rss.filter (!·.isNull)).mapM R.toInt
  let modelMemory ← captures.mapM fun capture => do
    let memory ← dictGet capture "memory" (.obj [])
    let usage ← dictGet memory "model_memory_usage_max" (.int 0)
    R.toInt usage
  let startups ←
    ((captures.map (·.get "startup_seconds")).filter (!·.isNull)).mapM R.toFloat
  let failures ← captures.mapM fun capture => do
    let warmups ← dictGet capture "warmup_failures" (.list [])
    let warmups ← len warmups
    let trials ← trialsOf capture
    let failures ← trials.mapM fun trial => do
      let count ← dictGet trial "failures" (.int 0)
      R.toInt count
    pure (warmups + failures.sum)
  pure
    { performance
      peakRssBytes := rss.max?
      modelMemoryUsageMax := modelMemory.max?.getD 0
      startupSecondsMedian := if startups.isEmpty then none else some (R.median startups)
      failures := failures.sum }

/-- `ratio`. -/
def ratio (numerator denominator : Option F) : Option F :=
  match numerator, denominator with
  | some n, some d => if R.le d R.zero then none else some (R.div n d)
  | _, _ => none

end Aggregation

/-! ## The report -/

section Report

variable {F : Type} (R : Runtime F)

/-- The two routes. -/
inductive Variant
  | baseline
  | candidate
  deriving DecidableEq

def Variant.name : Variant → String
  | baseline => "baseline"
  | candidate => "candidate"

/-- The value of `KAPSL_GENERIC_NATIVE_PACKS` on a route. -/
def Variant.switch : Variant → String
  | baseline => "0"
  | candidate => "1"

/-- `CAPTURE_KIND`. -/
def captureKind : String := "kapsl-ort-cpu-capture"

/-- The first loop of `build_report`: what is no capture of the variant is an error, a capture
without route evidence a failure. -/
def checkCapture (config : Config F) (variant : Variant) (capture : Json) :
    Except Raised (List String) := do
  let kind ← dictGet capture "kind"
  raiseIf (¬kind.eqStr captureKind) (.parityError "comparison input is not an ORT CPU capture")
  raiseIf (¬(capture.get "suite_id").eqStr config.suiteId)
    (.parityError "capture suite_id does not match the configuration")
  raiseIf (¬(capture.get "identity").pyEq config.identity)
    (.parityError "capture identity does not match the configuration")
  raiseIf (¬(capture.get "variant").eqStr variant.name) (.parityError
    (variant.name ++ " input contains a " ++ R.str (capture.get "variant") ++ " capture"))
  if config.gates.requireRouteEvidence then
    let evidence ← dictGet capture "route_evidence" (.obj [])
    let verified ← dictGet evidence "verified" (.bool false)
    if verified.truthy then pure []
    else pure [R.str (capture.get "variant") ++ " session " ++
      R.str (capture.get "session_index") ++ " lacks route evidence"]
  else pure []

/-- `capture.get("process")`, where it is a `dict`. -/
def processRecord (capture : Json) : Option Json :=
  if (capture.get "process").isMapping then some (capture.get "process") else none

/-- The texts of a field of the process records, where it is set. -/
def recordTexts (key : String) (captures : List Json) : List String :=
  ((captures.filterMap processRecord).filter fun record => (record.get key).truthy).map
    fun record => R.str (record.get key)

/-- Whether no process record of the variant has another route switch. -/
def switchesMatch (variant : Variant) (captures : List Json) : Bool :=
  (captures.filterMap processRecord).all fun record =>
    (record.get "generic_native_packs").eqStr variant.switch

/-- `process_identity_verified`. -/
def processIdentityVerified (baseline candidate : List Json) : Bool :=
  let all := baseline ++ candidate
  (all.filterMap processRecord).length == all.length &&
    (recordTexts R "executable_sha256" all).dedup.length == 1 &&
    (recordTexts R "argv_sha256" all).dedup.length == 1 &&
    (recordTexts R "cwd" all).dedup.length == 1 &&
    switchesMatch .baseline baseline && switchesMatch .candidate candidate

/-- The failures of a payload: its tensor in each capture against the first baseline capture. -/
def payloadFailures (gates : Gates F) (first : Json) (rest : List Json) (payloadId : String) :
    Except Raised (List String) := do
  let reference ← captureTensor first payloadId
  let comparisons ← rest.mapM fun capture => do
    let tensor ← captureTensor capture payloadId
    compareTensors R reference tensor gates.maxAbsError gates.maxRelError
  if comparisons.all (·.passed) then pure []
  else pure [s!"payload {payloadId} failed tensor parity"]

/-- One text if a condition holds. -/
def failIf (condition : Bool) (message : String) : List String :=
  if condition then [message] else []

/-- Whether a ratio is missing or fails its gate. -/
def missingOr (ratio : Option F) (fails : F → Bool) : Bool :=
  match ratio with
  | none => true
  | some x => fails x

/-- The failures of a concurrency point. -/
def pointFailures (gates : Gates F) (left right : Point F) : List String :=
  failIf (missingOr (ratio R (some right.throughput) (some left.throughput)) fun x =>
      R.lt x gates.minThroughputRatio) "throughput ratio below gate" ++
    failIf (missingOr (ratio R right.p95 left.p95) fun x => R.lt gates.maxP95LatencyRatio x)
      "p95 latency ratio above gate" ++
    failIf (missingOr (ratio R right.p99 left.p99) fun x => R.lt gates.maxP99LatencyRatio x)
      "p99 latency ratio above gate" ++
    failIf (gates.requireZeroFailures && (left.failures ≠ 0 || right.failures ≠ 0))
      "request failures observed"

/-- The concurrency points that both variants have measured. -/
def performanceFailures (gates : Gates F) (baseline candidate : Aggregate F) : List String :=
  let left := baseline.performance.map Prod.fst
  let right := candidate.performance.map Prod.fst
  failIf (!(left.all right.contains && right.all left.contains))
      "baseline and candidate concurrency points differ" ++
    baseline.performance.flatMap fun (level, point) =>
      match candidate.performance.lookup level with
      | none => []
      | some other => (pointFailures R gates point other).map fun item =>
          s!"concurrency {level}: " ++ item

/-- The gate on the memory the engine reports for the model. -/
def modelMemoryFailures (gates : Gates F) (baseline candidate : Aggregate F) :
    Except Raised (List String) := do
  let usage ← R.ofInt baseline.modelMemoryUsageMax
  let limit := R.add (R.mul usage gates.maxModelMemoryRatio) gates.maxModelMemoryIncreaseBytes
  if gates.requireModelMemory &&
      (baseline.modelMemoryUsageMax ≤ 0 || candidate.modelMemoryUsageMax ≤ 0) then
    pure ["model memory evidence is unavailable"]
  else
    pure (failIf (R.intGt candidate.modelMemoryUsageMax limit)
      "candidate model memory exceeds gate")

/-- The gate on the peak RSS. -/
def rssFailures (gates : Gates F) (baseline candidate : Aggregate F) :
    Except Raised (List String) :=
  match baseline.peakRssBytes, candidate.peakRssBytes with
  | some left, some right => do
    let bytes ← R.ofInt left
    let limit := R.add (R.mul bytes gates.maxPeakRssRatio) gates.maxPeakRssIncreaseBytes
    pure (failIf (R.intGt right limit) "candidate peak RSS exceeds gate")
  | _, _ => pure (failIf gates.requireProcessRss "process RSS evidence is unavailable")

/-- The gate on the startup time. -/
def startupFailures (gates : Gates F) (baseline candidate : Aggregate F) : List String :=
  match ratio R candidate.startupSecondsMedian baseline.startupSecondsMedian with
  | none => failIf gates.requireStartupEvidence "process startup evidence is unavailable"
  | some x => failIf (R.lt gates.maxStartupRatio x) "candidate startup latency exceeds gate"

/-- The status of a report. -/
inductive Status
  | passed
  | failed
  deriving DecidableEq

/-- What a report decides. -/
structure Report where
  status : Status
  failures : List String
  processIdentityVerified : Bool

/-- `build_report`. -/
def buildReport (config : Config F) (baseline candidate : List Json) :
    Except Raised Report := do
  let gates := config.gates
  raiseIf (baseline.isEmpty = true ∨ candidate.isEmpty = true)
    (.parityError "comparison requires at least one capture for each variant")
  let baselineRoutes ← baseline.mapM (checkCapture R config .baseline)
  let candidateRoutes ← candidate.mapM (checkCapture R config .candidate)
  let all := baseline ++ candidate
  let startupMethods := (all.map fun capture => R.dumps (capture.get "startup_measurement")).dedup
  let verified := processIdentityVerified R baseline candidate
  let payloads ← config.payloads.mapM
    (payloadFailures R gates (baseline.headD .null) (baseline.tail ++ candidate))
  let left ← aggregateCaptures R baseline
  let right ← aggregateCaptures R candidate
  let modelMemory ← modelMemoryFailures R gates left right
  let rss ← rssFailures R gates left right
  let failures := baselineRoutes.flatten ++ candidateRoutes.flatten ++
    failIf (1 < startupMethods.length)
      "startup measurement methods or polling intervals differ" ++
    failIf (gates.requireProcessIdentity && !verified)
      "owned-process binary, arguments, working directory, or route switch differ" ++
    payloads.flatten ++ performanceFailures R gates left right ++ modelMemory ++ rss ++
    startupFailures R gates left right ++
    failIf (gates.requireZeroFailures && (left.failures ≠ 0 || right.failures ≠ 0))
      "capture contains warmup or measured request failures"
  pure
    { status := if failures.isEmpty then .passed else .failed
      failures
      processIdentityVerified := verified }

/-- `compare_command`: the configuration it has resolved, and its report. -/
def compareCommand (identity config : Json) (baseline candidate : List Json) :
    Except Raised (Config F × Report) := do
  let config ← resolveConfig R identity config
  let report ← buildReport R config baseline candidate
  pure (config, report)

end Report

end Kapsl.Ort.Parity
