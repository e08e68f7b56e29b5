import Kapsl.Lib.Except
import Kapsl.Lib.Sha256
import Kapsl.Vllm.Python

/-!
# Vllm/Certification — the hardware reports that authorise a shared pool

`validateCertificationReport` checks the report of a hardware probe, and `allowlistEntry` makes the
runtime's allowlist value of a report that passed.  The report is decoded JSON; what a check keeps
of it for later ones is read back out of it (`Matrix`, `Seen`).

* `scanRanks_eq_ok` — when the loop over the ranks returns, each of them passed and none came twice.
* `reportPassed_of_validate` — what a report that passed says, section by section.

`decimal` says which characters beyond ASCII Python takes for decimal digits.
-/

namespace Kapsl.Vllm

open Except (raiseIf)

/-- `value is True`. -/
def Json.isTrue : Json → Bool
  | .bool b => b
  | _ => false

/-- What a check of `value is True` lets through. -/
theorem Json.eq_true_of_isTrue {value : Json} (h : ¬value.isTrue.not = true) :
    value = .bool true := by
  unfold Json.isTrue at h
  split at h
  · next b => rw [show b = true by simpa using h]
  · exact absurd rfl h

theorem Json.eq_str_of_eqStr {value : Json} {text : String} (h : value.eqStr text = true) :
    value = .str text := by
  unfold Json.eqStr at h
  split at h
  · rw [beq_iff_eq.mp h]
  · exact absurd h Bool.false_ne_true

namespace Certification

/-- The exceptions the validator raises or lets through. -/
inductive Refusal
  | certificationError (message : String)
  | overflowError (message : String)
  deriving DecidableEq, Repr

/-- `CertificationError(message)`. -/
def refuse (message : String) : Refusal := .certificationError message

/-! ## Field checks -/

/-- `_mapping`. -/
def mapping (value : Json) (field : String) : Except Refusal Json :=
  if value.isMapping then .ok value else .error (refuse s!"{field} must be an object")

/-- What an allowlist value may not contain. -/
def delimiters : List Char := [',', '\n', '\r', '\x00']

/-- `_safe_field`. -/
def safeField (value : Json) (field : String) : Except Refusal String :=
  match value with
  | .str s =>
    if isBlank s then .error (refuse s!"{field} must be a non-empty string")
    else if s.toList.any (delimiters.contains ·) then
      .error (refuse s!"{field} contains an unsafe delimiter")
    else .ok s
  | _ => .error (refuse s!"{field} must be a non-empty string")

/-- `text[7:]`, what follows `sha256:`. -/
def afterScheme (text : String) : String := .ofList (text.toList.drop 7)

/-- `_sha256_id`. -/
def sha256Id (decimal : Char → Option (Fin 10)) (value : Json) (field : String) :
    Except Refusal String := do
  let text ← safeField value field
  raiseIf (¬("sha256:".toList <+: text.toList) ∨ text.toList.length ≠ 71)
    (refuse s!"{field} must contain a SHA-256 digest")
  raiseIf (HexText.parse isPySpace decimal (afterScheme text) = none)
    (refuse s!"{field} contains a non-hex digest")
  return text

/-- `_hex_digest`. -/
def hexDigest (decimal : Char → Option (Fin 10)) (value : Json) (field : String) :
    Except Refusal String := do
  let text ← safeField value field
  raiseIf (text.toList.length ≠ 64) (refuse s!"{field} must contain 64 hex digits")
  raiseIf (HexText.parse isPySpace decimal text = none)
    (refuse s!"{field} contains a non-hex digest")
  return text

/-- `_positive_int`. -/
def positiveInt (value : Json) (field : String) : Except Refusal ℕ :=
  match value with
  | .int n =>
    if n ≤ 0 then .error (refuse s!"{field} must be a positive integer") else .ok n.toNat
  | _ => .error (refuse s!"{field} must be a positive integer")

/-- `_nonnegative_int`. -/
def nonnegativeInt (value : Json) (field : String) : Except Refusal ℕ :=
  match value with
  | .int n =>
    if n < 0 then .error (refuse s!"{field} must be a non-negative integer") else .ok n.toNat
  | _ => .error (refuse s!"{field} must be a non-negative integer")

/-- `isinstance(value, Sequence) and not isinstance(value, (str, bytes))`, else an error. -/
def arrayOr (value : Json) (message : String) : Except Refusal (List Json) :=
  match value with
  | .list items => .ok items
  | _ => .error (refuse message)

/-- `for field in fields: check(object.get(field), f"{name}.{field}")`. -/
def checkFields {α : Type} (check : Json → String → Except Refusal α) (object : Json)
    (name : String) (fields : List String) : Except Refusal Unit :=
  fields.forM fun field => do
    let _ ← check (object.get field) s!"{name}.{field}"

section

variable {decimal : Char → Option (Fin 10)} {value : Json} {field text : String} {n : ℕ}

theorem mapping_eq_ok {object : Json} : mapping value field = .ok object ↔
    value.isMapping = true ∧ value = object := by
  unfold mapping
  split
  · next h => exact ⟨fun heq => ⟨h, Except.ok.inj heq⟩, fun heq => congrArg _ heq.2⟩
  · next h => exact ⟨nofun, fun heq => absurd heq.1 h⟩

/-- What a safe field is. -/
structure Safe (text : String) : Prop where
  nonblank : isBlank text = false
  plain : ∀ c ∈ text.toList, c ∉ delimiters

theorem safeField_eq_ok : safeField value field = .ok text ↔ value = .str text ∧ Safe text := by
  cases value with
  | str s =>
    rw [safeField, Json.str.injEq]
    split
    · next h => exact ⟨nofun, fun ⟨heq, hs⟩ => by rw [heq, hs.nonblank] at h; exact nomatch h⟩
    · next hblank =>
      split
      · next h =>
        obtain ⟨c, hc, hmem⟩ := List.any_eq_true.mp h
        exact ⟨nofun, fun ⟨heq, hs⟩ =>
          absurd (List.contains_iff_mem.mp hmem) (hs.plain c (heq ▸ hc))⟩
      · next h =>
        rw [List.any_eq_true] at h
        refine ⟨fun heq => ?_, fun heq => congrArg _ heq.1⟩
        obtain rfl := Except.ok.inj heq
        exact ⟨rfl, Bool.eq_false_iff.mpr hblank,
          fun c hc hmem => h ⟨c, hc, List.contains_iff_mem.mpr hmem⟩⟩
  | _ => exact ⟨nofun, fun h => nomatch h.1⟩

/-- **What passes for a digest**: 64 characters that the reader of numbers accepts. -/
structure ReadsAsDigest (decimal : Char → Option (Fin 10)) (text : String) : Prop where
  length : text.toList.length = 64
  reads : ∃ v, HexText.parse isPySpace decimal text = some v

theorem readsAsDigest_of_sha256Id (h : sha256Id decimal value field = .ok text) :
    ReadsAsDigest decimal (afterScheme text) ∧ value = .str text ∧
      "sha256:".toList ++ (afterScheme text).toList = text.toList := by
  simp only [sha256Id, Except.bind_eq_ok, Except.raiseIf_eq_ok, Except.pure_eq_ok,
    safeField_eq_ok] at h
  obtain ⟨text', ⟨hvalue, -⟩, -, hshape, -, hreads, rfl⟩ := h
  obtain ⟨⟨tail, htail⟩, hlength⟩ := not_or.mp hshape |>.imp not_not.mp not_not.mp
  have hafter : (afterScheme text').toList = tail := by
    rw [afterScheme, String.toList_ofList, ← htail]
    rfl
  have hseven : "sha256:".toList.length = 7 := rfl
  have hsum := congrArg List.length htail
  rw [List.length_append, hlength] at hsum
  refine ⟨⟨?_, Option.ne_none_iff_exists'.mp hreads⟩, hvalue, ?_⟩
  · rw [hafter]
    omega
  · rw [hafter, htail]

theorem readsAsDigest_of_hexDigest (h : hexDigest decimal value field = .ok text) :
    ReadsAsDigest decimal text ∧ value = .str text := by
  simp only [hexDigest, Except.bind_eq_ok, Except.raiseIf_eq_ok, Except.pure_eq_ok,
    safeField_eq_ok] at h
  obtain ⟨text', ⟨hvalue, -⟩, -, hlength, -, hreads, rfl⟩ := h
  exact ⟨⟨not_not.mp hlength, Option.ne_none_iff_exists'.mp hreads⟩, hvalue⟩

theorem positiveInt_eq_ok : positiveInt value field = .ok n ↔ value = .int n ∧ 0 < n := by
  cases value with
  | int i =>
    rw [positiveInt, Json.int.injEq]
    split
    · exact ⟨nofun, fun h => by omega⟩
    · rw [Except.ok.injEq]
      omega
  | _ => exact ⟨nofun, fun h => nomatch h.1⟩

theorem nonnegativeInt_eq_ok : nonnegativeInt value field = .ok n ↔ value = .int n := by
  cases value with
  | int i =>
    rw [nonnegativeInt, Json.int.injEq]
    split
    · exact ⟨nofun, fun h => by omega⟩
    · rw [Except.ok.injEq]
      omega
  | _ => exact ⟨nofun, fun h => nomatch h⟩

theorem arrayOr_eq_ok {items : List Json} {message : String} :
    arrayOr value message = .ok items ↔ value = .list items := by
  cases value with
  | list xs => rw [arrayOr, Except.ok.injEq, Json.list.injEq]
  | _ => exact ⟨nofun, fun h => nomatch h⟩

theorem checkFields_eq_ok {α : Type} {check : Json → String → Except Refusal α} {object : Json}
    {name : String} {fields : List String} {u : Unit} :
    checkFields check object name fields = .ok u ↔
      ∀ field ∈ fields, ∃ a, check (object.get field) s!"{name}.{field}" = .ok a := by
  simp only [checkFields, Except.forM_eq_ok, Except.bind_eq_ok, Except.pure_eq_ok, and_true]

end

/-! ## The sections before the ranks -/

/-- The fields of the allowlist value. -/
def profileFields : List String :=
  ["adapter_id", "adapter_version", "backend_version", "profile_id"]

/-- The digests of `environment`. -/
def buildFields : List String := ["adapter_build_id", "backend_build_id", "runtime_build_id"]

/-- The plain texts of `environment`. -/
def versionFields : List String := ["torch_version", "cuda_runtime_version", "cuda_driver_version"]

/-- The plain texts of `matrix`. -/
def matrixFields : List String := ["attention_backend", "kv_layout", "dtype"]

/-- The numbers of `matrix.cache_geometry`. -/
def geometryFields : List String :=
  ["num_blocks", "block_size", "num_kv_heads", "num_query_heads", "head_size", "dense_page_bytes",
    "guard_bytes_per_block", "padded_page_bytes", "allocation_bytes"]

/-- `REQUIRED_GATES`. -/
def requiredGates : List String :=
  ["contract", "allocator_attachment", "backend_native_write", "backend_native_read", "lifecycle",
    "parallel_coverage"]

/-- What the checks of `matrix` leave for those of the ranks. -/
structure Matrix where
  worldSize : ℕ
  geometry : Json
  devices : List ℕ

/-- A number of the geometry, once it is known to be one. -/
def Matrix.size (m : Matrix) (field : String) : ℕ := (m.geometry.get field).toNat

/-- The checks of `environment`. -/
def validateEnvironment (decimal : Char → Option (Fin 10)) (report : Json) :
    Except Refusal Unit := do
  let environment ← mapping (report.get "environment") "environment"
  checkFields (sha256Id decimal) environment "environment" buildFields
  checkFields safeField environment "environment" versionFields

/-- The checks of `matrix`. -/
def validateMatrix (report : Json) : Except Refusal Matrix := do
  let matrix ← mapping (report.get "matrix") "matrix"
  let worldSize ← positiveInt (matrix.get "tensor_parallel_world_size")
    "matrix.tensor_parallel_world_size"
  checkFields safeField matrix "matrix" matrixFields
  let geometry ← mapping (matrix.get "cache_geometry") "matrix.cache_geometry"
  checkFields positiveInt geometry "matrix.cache_geometry" geometryFields
  let size := fun field => (geometry.get field).toNat
  raiseIf (size "padded_page_bytes" ≠ size "dense_page_bytes" + size "guard_bytes_per_block")
    (refuse "cache page and guard byte accounting is inconsistent")
  raiseIf (size "allocation_bytes" ≠ size "num_blocks" * size "padded_page_bytes")
    (refuse "cache allocation byte accounting is inconsistent")
  let devices ← arrayOr (matrix.get "devices") "matrix.devices must be an array"
  raiseIf (devices.length ≠ worldSize) (refuse "matrix.devices must cover the declared world")
  let devices ← devices.zipIdx.mapM fun (device, index) =>
    nonnegativeInt device s!"matrix.devices[{index}]"
  raiseIf (devices.dedup.length ≠ worldSize) (refuse "matrix devices must be distinct")
  return { worldSize, geometry, devices }

/-- The checks of `gates`. -/
def validateGates (report : Json) : Except Refusal Unit := do
  let gates ← mapping (report.get "gates") "gates"
  let missing := requiredGates.filter fun name => (gates.get? name).isNone
  raiseIf (missing ≠ [])
    (refuse ("certification is missing required gates: " ++ ", ".intercalate missing))
  requiredGates.forM fun name => do
    let gate ← mapping (gates.get name) s!"gates.{name}"
    raiseIf (gate.get "passed").isTrue.not (refuse s!"certification gate '{name}' did not pass")
    let _ ← safeField (gate.get "evidence") s!"gates.{name}.evidence"

/-! ## The evidence of a rank -/

/-- The gates of a rank. -/
inductive RankGate
  | allocatorAttachment
  | backendNativeWrite
  | backendNativeRead
  deriving DecidableEq

/-- The key of a gate. -/
def RankGate.name : RankGate → String
  | .allocatorAttachment => "allocator_attachment"
  | .backendNativeWrite => "backend_native_write"
  | .backendNativeRead => "backend_native_read"

/-- In the order of the loop over them. -/
def RankGate.all : List RankGate := [.allocatorAttachment, .backendNativeWrite, .backendNativeRead]

/-- The integers from here on do not round to a finite float. -/
def floatLimit : ℕ := 2 ^ 1024 - 2 ^ 970

/-- A number that is no `bool` and that `math.isfinite` holds of, with its value. -/
def finiteNumber (value : Json) (message : String) : Except Refusal ℚ :=
  match value with
  | .int n =>
    if floatLimit ≤ n.natAbs then .error (.overflowError "int too large to convert to float")
    else .ok n
  | .float (.finite q) => .ok q
  | _ => .error (refuse message)

/-- `_validate_rank_gate_evidence` for the gate `allocator_attachment`. -/
def validateAttachment (decimal : Char → Option (Fin 10)) (m : Matrix) (path : String)
    (evidence : Json) : Except Refusal Unit := do
  raiseIf (evidence.get "allocator_poisoned").isTrue.not
    (refuse s!"{path} did not poison the native allocator")
  raiseIf ((evidence.get "pytorch_cuda_allocation_delta_bytes").eqInt 0).not
    (refuse s!"{path} observed a second CUDA allocation")
  let importedBytes ← positiveInt (evidence.get "imported_bytes") s!"{path}.imported_bytes"
  raiseIf (importedBytes ≠ m.size "allocation_bytes")
    (refuse s!"{path} imported byte count is inconsistent")
  let _ ← positiveInt (evidence.get "view_count") s!"{path}.view_count"
  let _ ← hexDigest decimal (evidence.get "raw_sha256_before_write")
    s!"{path}.raw_sha256_before_write"

/-- `_validate_rank_gate_evidence` for the gate `backend_native_write`. -/
def validateWrite (decimal : Char → Option (Fin 10)) (m : Matrix) (path : String)
    (evidence : Json) : Except Refusal Unit := do
  let _ ← safeField (evidence.get "native_function") s!"{path}.native_function"
  let _ ← hexDigest decimal (evidence.get "raw_sha256_after_write")
    s!"{path}.raw_sha256_after_write"
  let guardBytes ← positiveInt (evidence.get "guard_bytes_checked") s!"{path}.guard_bytes_checked"
  raiseIf (guardBytes ≠ m.size "guard_bytes_per_block" * m.size "num_blocks")
    (refuse s!"{path} guard coverage is incomplete")
  let _ ← positiveInt (evidence.get "prefill_tokens") s!"{path}.prefill_tokens"
  raiseIf ((evidence.get "decode_writes").eqInt 2).not
    (refuse s!"{path} did not perform two decode writes")
  raiseIf ((evidence.get "maximum_block_index").eqInt (m.size "num_blocks" - 1 : ℤ)).not
    (refuse s!"{path} did not write the maximum block")
  raiseIf (evidence.get "production_implementation_binding").isTrue.not
    (refuse s!"{path} is not bound to production vLLM")

/-- `_validate_rank_gate_evidence` for the gate `backend_native_read`. -/
def validateRead (path : String) (evidence : Json) : Except Refusal Unit := do
  let _ ← safeField (evidence.get "native_function") s!"{path}.native_function"
  let _ ← safeField (evidence.get "implementation") s!"{path}.implementation"
  let _ ← positiveInt (evidence.get "flash_attention_version") s!"{path}.flash_attention_version"
  let delta ← finiteNumber (evidence.get "causal_mutation_max_delta")
    s!"{path} has no causal mutation delta"
  raiseIf (delta ≤ 0) (refuse s!"{path} causal mutation did not change output")
  raiseIf (evidence.get "production_implementation_binding").isTrue.not
    (refuse s!"{path} is not bound to production vLLM")

/-- `_validate_rank_gate_evidence`. -/
def validateRankGateEvidence (decimal : Char → Option (Fin 10)) (gate : RankGate)
    (evidence : Json) (m : Matrix) (index : ℕ) : Except Refusal Unit :=
  let path := s!"ranks[{index}].gates.{gate.name}.evidence"
  match gate with
  | .allocatorAttachment => validateAttachment decimal m path evidence
  | .backendNativeWrite => validateWrite decimal m path evidence
  | .backendNativeRead => validateRead path evidence

/-! ## The loop over the ranks -/

/-- What the loop has seen. -/
structure Seen where
  ranks : List ℕ
  bindings : List String
  devices : List ℕ

/-- The fields of a rank's `lifecycle`. -/
def lifecycleFields : List String :=
  ["activation_after_all_attachments", "live_lease_detach_rejected", "cancellation_release",
    "capacity_exhaustion_rejected", "heartbeat_renewal", "post_deactivation_reserve_rejected"]

/-- `bytes([0x5A]) * size`, hashed. -/
def sentinelHash (size : ℕ) : Except Refusal String := do
  raiseIf (2 ^ 63 ≤ size) (.overflowError "cannot fit 'int' into an index-sized integer")
  return Sha256.hexdigest (List.replicate size 0x5a)

/-- The checks of a rank's numbers and names: what the loop has seen after them. -/
def validateIdentity (m : Matrix) (seen : Seen) (rank : Json) (index : ℕ) :
    Except Refusal Seen := do
  let rankIndex ← nonnegativeInt (rank.get "rank") s!"ranks[{index}].rank"
  raiseIf (m.worldSize ≤ rankIndex ∨ rankIndex ∈ seen.ranks)
    (refuse "rank coverage is duplicated or out of range")
  let bindingId ← safeField (rank.get "binding_id") s!"ranks[{index}].binding_id"
  raiseIf (bindingId ∈ seen.bindings) (refuse "physical binding IDs must be unique per rank")
  let deviceId ← nonnegativeInt (rank.get "device_id") s!"ranks[{index}].device_id"
  raiseIf (deviceId ∈ seen.devices ∨ deviceId ∉ m.devices)
    (refuse "rank device coverage is duplicated or unexpected")
  return ⟨rankIndex :: seen.ranks, bindingId :: seen.bindings, deviceId :: seen.devices⟩

/-- The check of a rank's device. -/
def validateDevice (rank : Json) (index : ℕ) : Except Refusal Unit := do
  let device ← mapping (rank.get "device") s!"ranks[{index}].device"
  let _ ← safeField (device.get "name") s!"ranks[{index}].device.name"
  let _ ← safeField (device.get "compute_capability") s!"ranks[{index}].device.compute_capability"
  let _ ← positiveInt (device.get "total_memory_bytes") s!"ranks[{index}].device.total_memory_bytes"

/-- The evidence of a gate that is known to have some. -/
def gateEvidence (rankGates : Json) (gate : RankGate) (index : ℕ) : Except Refusal Json := do
  let name := gate.name
  let object ← mapping (rankGates.get name) s!"ranks[{index}].gates.{name}"
  mapping (object.get "evidence") s!"ranks[{index}].gates.{name}.evidence"

/-- The checks of a rank's gates. -/
def validateRankGates (decimal : Char → Option (Fin 10)) (m : Matrix) (rankIndex : ℕ)
    (rank : Json) (index : ℕ) : Except Refusal Unit := do
  let rankGates ← mapping (rank.get "gates") s!"ranks[{index}].gates"
  RankGate.all.forM fun gate => do
    let name := gate.name
    let object ← mapping (rankGates.get name) s!"ranks[{index}].gates.{name}"
    raiseIf (object.get "passed").isTrue.not
      (refuse s!"rank {rankIndex} gate '{name}' did not pass")
    let evidence ← mapping (object.get "evidence") s!"ranks[{index}].gates.{name}.evidence"
    validateRankGateEvidence decimal gate evidence m index
  let allocatorEvidence ← gateEvidence rankGates .allocatorAttachment index
  let writeEvidence ← gateEvidence rankGates .backendNativeWrite index
  let sentinel ← sentinelHash (m.size "allocation_bytes")
  let beforeWrite := allocatorEvidence.get "raw_sha256_before_write"
  raiseIf (beforeWrite.eqStr sentinel).not
    (refuse s!"rank {rankIndex} did not initialize the whole pool sentinel")
  raiseIf ((writeEvidence.get "raw_sha256_after_write").eqStr beforeWrite.toStr)
    (refuse s!"rank {rankIndex} native writer did not change Kapsl memory")

/-- The checks of a rank's `lifecycle`. -/
def validateLifecycle (rankIndex : ℕ) (rank : Json) (index : ℕ) : Except Refusal Unit := do
  let lifecycle ← mapping (rank.get "lifecycle") s!"ranks[{index}].lifecycle"
  lifecycleFields.forM fun field =>
    raiseIf (lifecycle.get field).isTrue.not
      (refuse s!"rank {rankIndex} has incomplete lifecycle evidence")

/-- One round of the loop. -/
def validateRank (decimal : Char → Option (Fin 10)) (m : Matrix) (seen : Seen) (raw : Json)
    (index : ℕ) : Except Refusal Seen := do
  let rank ← mapping raw s!"ranks[{index}]"
  let after ← validateIdentity m seen rank index
  let rankIndex := (rank.get "rank").toNat
  raiseIf (rank.get "passed").isTrue.not (refuse s!"rank {rankIndex} did not pass")
  validateDevice rank index
  validateRankGates decimal m rankIndex rank index
  validateLifecycle rankIndex rank index
  return after

/-- The loop, from the rank at `index` on. -/
def scanRanks (decimal : Char → Option (Fin 10)) (m : Matrix) :
    Seen → ℕ → List Json → Except Refusal Seen
  | seen, _, [] => .ok seen
  | seen, index, raw :: rest => do
    let seen ← validateRank decimal m seen raw index
    scanRanks decimal m seen (index + 1) rest

/-- The checks of `ranks`. -/
def validateRanks (decimal : Char → Option (Fin 10)) (report : Json) (m : Matrix) :
    Except Refusal Unit := do
  let ranks ← arrayOr (report.get "ranks") "ranks must be an array"
  let received := ranks.length
  let expected := m.worldSize
  raiseIf (received ≠ expected)
    (refuse s!"expected {expected} rank reports, received {received}")
  let seen ← scanRanks decimal m ⟨[], [], []⟩ 0 ranks
  raiseIf (seen.ranks.toFinset ≠ Finset.range m.worldSize)
    (refuse "rank reports do not cover the declared world")
  raiseIf (seen.devices.toFinset ≠ m.devices.toFinset)
    (refuse "rank reports do not cover the declared devices")

/-- `validate_certification_report`. -/
def validateCertificationReport (decimal : Char → Option (Fin 10)) (report : Json) :
    Except Refusal Unit := do
  raiseIf ((report.get "schema_version").eqInt 1).not
    (refuse "unsupported certification schema version")
  raiseIf ((report.get "status").eqStr "passed").not
    (refuse "certification status is not passed")
  let profile ← mapping (report.get "profile") "profile"
  checkFields safeField profile "profile" profileFields
  validateEnvironment decimal report
  let m ← validateMatrix report
  validateGates report
  validateRanks decimal report m

/-- `allowlist_entry`. -/
def allowlistEntry (decimal : Char → Option (Fin 10)) (report : Json) : Except Refusal String := do
  validateCertificationReport decimal report
  let profile ← mapping (report.get "profile") "profile"
  return ",".intercalate (profileFields.map fun field => (profile.get field).toStr)

/-! ## What the sections have said when they passed -/

/-- `report["matrix"]["cache_geometry"]`. -/
def geometry (report : Json) : Json := (report.get "matrix").get "cache_geometry"

/-- The reports of the ranks. -/
def rankReports (report : Json) : List Json := (report.get "ranks").items

/-- `rank["gates"][gate]["evidence"]`. -/
def evidence (rank : Json) (gate : RankGate) : Json :=
  ((rank.get "gates").get gate.name).get "evidence"

section

variable {decimal : Char → Option (Fin 10)} {report : Json} {m : Matrix}

/-- **A matrix that passed**: the sizes are numbers that account for each other, and there is one
device for each rank. -/
structure MatrixPassed (report : Json) (m : Matrix) : Prop where
  worldSize : (report.get "matrix").get "tensor_parallel_world_size" = .int m.worldSize
  geometry_eq : m.geometry = geometry report
  size : ∀ field ∈ geometryFields, m.geometry.get field = .int (m.size field)
  padded : m.size "padded_page_bytes" = m.size "dense_page_bytes" + m.size "guard_bytes_per_block"
  allocation : m.size "allocation_bytes" = m.size "num_blocks" * m.size "padded_page_bytes"
  devices : (report.get "matrix").get "devices" = .list (m.devices.map fun d : ℕ => .int d)
  devices_length : m.devices.length = m.worldSize
  devices_nodup : m.devices.Nodup

theorem matrixPassed_of_validateMatrix (h : validateMatrix report = .ok m) :
    MatrixPassed report m := by
  simp only [validateMatrix, Except.bind_eq_ok, Except.raiseIf_eq_ok, Except.pure_eq_ok,
    mapping_eq_ok, positiveInt_eq_ok, checkFields_eq_ok, arrayOr_eq_ok, not_not] at h
  obtain ⟨_, ⟨-, rfl⟩, worldSize, ⟨hworld, -⟩, -, -, _, ⟨-, rfl⟩, -, hsizes, -, hpadded, -,
    hallocation, items, hitems, -, hlength, devices, hdevices, -, hdedup, rfl⟩ := h
  have hmap : devices.map (fun d : ℕ => Json.int d) = items := by
    have hfst := Except.map_eq_map_of_mapM (g := fun d : ℕ => Json.int d) (k := Prod.fst)
      (fun _ _ y hy => (nonnegativeInt_eq_ok.mp hy).symm) hdevices
    rwa [List.zipIdx_map_fst] at hfst
  have hcount : devices.length = worldSize := by rw [← hlength, ← hmap, List.length_map]
  refine ⟨hworld, rfl, fun field hfield => ?_, hpadded, hallocation, hmap ▸ hitems, hcount, ?_⟩
  · obtain ⟨n, hn, -⟩ := hsizes field hfield
    simp only [Matrix.size, hn, Json.toNat, Int.toNat_natCast]
  · rw [← List.dedup_eq_self]
    exact (List.dedup_sublist devices).eq_of_length (hdedup.trans hcount.symm)

/-- The gates that are required have passed. -/
theorem passed_of_validateGates (h : validateGates report = .ok ()) {name : String}
    (hname : name ∈ requiredGates) :
    ((report.get "gates").get name).get "passed" = .bool true := by
  simp only [validateGates, Except.bind_eq_ok, Except.raiseIf_eq_ok, Except.pure_eq_ok,
    Except.forM_eq_ok, mapping_eq_ok] at h
  obtain ⟨_, ⟨-, rfl⟩, -, -, hgates⟩ := h
  obtain ⟨_, ⟨-, rfl⟩, -, hpassed, -⟩ := hgates name hname
  exact Json.eq_true_of_isTrue hpassed

/-- The builds are named by what passes for a digest. -/
theorem builds_of_validateEnvironment (h : validateEnvironment decimal report = .ok ())
    {field : String} (hfield : field ∈ buildFields) :
    ∃ text, (report.get "environment").get field = .str text ∧
      ReadsAsDigest decimal (afterScheme text) ∧
      "sha256:".toList ++ (afterScheme text).toList = text.toList := by
  simp only [validateEnvironment, Except.bind_eq_ok, mapping_eq_ok, checkFields_eq_ok] at h
  obtain ⟨_, ⟨-, rfl⟩, -, hbuilds, -⟩ := h
  obtain ⟨text, htext⟩ := hbuilds field hfield
  obtain ⟨hreads, hvalue, hscheme⟩ := readsAsDigest_of_sha256Id htext
  exact ⟨text, hvalue, hreads, hscheme⟩

end

/-! ## What the loop over the ranks has established -/

/-- What a rank says of itself. -/
structure Identity where
  rank : ℕ
  bindingId : String
  deviceId : ℕ
  deriving Inhabited

/-- A rank's report says who it is. -/
structure Names (raw : Json) (id : Identity) : Prop where
  rank : raw.get "rank" = .int id.rank
  bindingId : raw.get "binding_id" = .str id.bindingId
  deviceId : raw.get "device_id" = .int id.deviceId

namespace Seen

variable {seen : Seen} {id : Identity} {ids : List Identity}

/-- Another rank seen. -/
def add (seen : Seen) (id : Identity) : Seen :=
  ⟨id.rank :: seen.ranks, id.bindingId :: seen.bindings, id.deviceId :: seen.devices⟩

/-- Nothing of the rank was seen before. -/
structure Fresh (seen : Seen) (id : Identity) : Prop where
  rank : id.rank ∉ seen.ranks
  bindingId : id.bindingId ∉ seen.bindings
  deviceId : id.deviceId ∉ seen.devices

/-- **The invariant of the loop**: nothing was seen twice. -/
structure Distinct (seen : Seen) : Prop where
  ranks : seen.ranks.Nodup
  bindings : seen.bindings.Nodup
  devices : seen.devices.Nodup

theorem Distinct.add (h : seen.Distinct) (hfresh : seen.Fresh id) : (seen.add id).Distinct :=
  ⟨h.ranks.cons hfresh.rank, h.bindings.cons hfresh.bindingId, h.devices.cons hfresh.deviceId⟩

/-- What a run of the loop adds. -/
theorem foldl_add (ids : List Identity) (seen : Seen) : ids.foldl add seen =
    ⟨(ids.map (·.rank)).reverse ++ seen.ranks, (ids.map (·.bindingId)).reverse ++ seen.bindings,
      (ids.map (·.deviceId)).reverse ++ seen.devices⟩ := by
  induction ids generalizing seen with
  | nil => rfl
  | cons id ids ih => simp only [List.foldl_cons, ih, add, List.map_cons, List.reverse_cons,
      List.append_assoc, List.singleton_append]

end Seen

/-- **A rank that passed**: it and its gates say so, its bytes are those of the geometry, and the
digests of its memory read as different texts, the first one the sentinel's. -/
structure RankPassed (decimal : Char → Option (Fin 10)) (m : Matrix) (rank : Json) : Prop where
  passed : rank.get "passed" = .bool true
  gates : ∀ gate : RankGate, ((rank.get "gates").get gate.name).get "passed" = .bool true
  lifecycle : ∀ field ∈ lifecycleFields, (rank.get "lifecycle").get field = .bool true
  imported : (evidence rank .allocatorAttachment).get "imported_bytes" =
    .int (m.size "allocation_bytes")
  guards : (evidence rank .backendNativeWrite).get "guard_bytes_checked" =
    .int (m.size "guard_bytes_per_block" * m.size "num_blocks" : ℕ)
  digests : ∃ before after,
    (evidence rank .allocatorAttachment).get "raw_sha256_before_write" = .str before ∧
    (evidence rank .backendNativeWrite).get "raw_sha256_after_write" = .str after ∧
    before = Sha256.hexdigest (List.replicate (m.size "allocation_bytes") 0x5a) ∧
    ReadsAsDigest decimal after ∧ after ≠ before

section

variable {decimal : Char → Option (Fin 10)} {m : Matrix} {seen after : Seen} {rank raw : Json}
  {rankIndex index : ℕ} {path : String} {e : Json}

theorem identity_of_validateIdentity (h : validateIdentity m seen rank index = .ok after) :
    ∃ id, Names rank id ∧ seen.Fresh id ∧ after = seen.add id := by
  simp only [validateIdentity, Except.bind_eq_ok, Except.raiseIf_eq_ok, Except.pure_eq_ok,
    nonnegativeInt_eq_ok, safeField_eq_ok, not_or] at h
  obtain ⟨r, hr, -, ⟨-, hrank⟩, bindingId, ⟨hb, -⟩, -, hbinding, d, hd, -, ⟨hdevice, -⟩, rfl⟩ := h
  exact ⟨⟨r, bindingId, d⟩, ⟨hr, hb, hd⟩, ⟨hrank, hbinding, hdevice⟩, rfl⟩

theorem imported_of_validateAttachment (h : validateAttachment decimal m path e = .ok ()) :
    e.get "imported_bytes" = .int (m.size "allocation_bytes") := by
  simp only [validateAttachment, Except.bind_eq_ok, Except.raiseIf_eq_ok, positiveInt_eq_ok,
    not_not] at h
  obtain ⟨-, -, -, -, n, ⟨hn, -⟩, -, rfl, -⟩ := h
  exact hn

theorem written_of_validateWrite (h : validateWrite decimal m path e = .ok ()) :
    e.get "guard_bytes_checked" = .int (m.size "guard_bytes_per_block" * m.size "num_blocks" : ℕ) ∧
      ∃ text, e.get "raw_sha256_after_write" = .str text ∧ ReadsAsDigest decimal text := by
  simp only [validateWrite, Except.bind_eq_ok, Except.raiseIf_eq_ok, positiveInt_eq_ok,
    not_not] at h
  obtain ⟨-, -, text, htext, n, ⟨hn, -⟩, -, rfl, -⟩ := h
  obtain ⟨hreads, hvalue⟩ := readsAsDigest_of_hexDigest htext
  exact ⟨hn, text, hvalue, hreads⟩

theorem eq_of_sentinelHash {size : ℕ} {text : String} (h : sentinelHash size = .ok text) :
    text = Sha256.hexdigest (List.replicate size 0x5a) := by
  simp only [sentinelHash, Except.bind_eq_ok, Except.pure_eq_ok] at h
  obtain ⟨-, -, rfl⟩ := h
  rfl

theorem eq_of_gateEvidence {gate : RankGate}
    (h : gateEvidence (rank.get "gates") gate index = .ok e) : e = evidence rank gate := by
  simp only [gateEvidence, Except.bind_eq_ok, mapping_eq_ok] at h
  obtain ⟨_, ⟨-, rfl⟩, -, rfl⟩ := h
  rfl

theorem RankGate.mem_all (gate : RankGate) : gate ∈ RankGate.all := by
  cases gate <;> decide

/-- What the checks of a rank's gates have established. -/
theorem gates_of_validateRankGates
    (h : validateRankGates decimal m rankIndex rank index = .ok ()) :
    (∀ gate : RankGate, ((rank.get "gates").get gate.name).get "passed" = .bool true) ∧
      (∀ gate, validateRankGateEvidence decimal gate (evidence rank gate) m index = .ok ()) ∧
      (evidence rank .allocatorAttachment).get "raw_sha256_before_write" =
        .str (Sha256.hexdigest (List.replicate (m.size "allocation_bytes") 0x5a)) ∧
      (evidence rank .backendNativeWrite).get "raw_sha256_after_write" ≠
        (evidence rank .allocatorAttachment).get "raw_sha256_before_write" := by
  simp only [validateRankGates, Except.bind_eq_ok, Except.raiseIf_eq_ok, Except.forM_eq_ok,
    mapping_eq_ok] at h
  obtain ⟨_, ⟨-, rfl⟩, -, hgates, allocator, hallocator, write, hwrite, sentinel, hsentinel, -,
    hbefore, hafter⟩ := h
  obtain rfl := eq_of_gateEvidence hallocator
  obtain rfl := eq_of_gateEvidence hwrite
  obtain rfl := eq_of_sentinelHash hsentinel
  have hstr := Json.eq_str_of_eqStr (by simpa using hbefore)
  refine ⟨fun gate => ?_, fun gate => ?_, hstr, fun heq => hafter ?_⟩
  · obtain ⟨_, ⟨-, rfl⟩, -, hpassed, -⟩ := hgates gate gate.mem_all
    exact Json.eq_true_of_isTrue hpassed
  · obtain ⟨_, ⟨-, rfl⟩, -, -, _, ⟨-, rfl⟩, hevidence⟩ := hgates gate gate.mem_all
    exact hevidence
  · rw [heq, hstr]
    exact beq_self_eq_true _

/-- **One round**: the rank is a new one, and it passed. -/
theorem passed_of_validateRank (h : validateRank decimal m seen raw index = .ok after) :
    ∃ id, Names raw id ∧ seen.Fresh id ∧ after = seen.add id ∧ RankPassed decimal m raw := by
  simp only [validateRank, Except.bind_eq_ok, Except.raiseIf_eq_ok, Except.pure_eq_ok,
    mapping_eq_ok] at h
  obtain ⟨_, ⟨-, rfl⟩, seen', hidentity, -, hpassed, -, -, _, hgates, _, hlifecycle, rfl⟩ := h
  obtain ⟨id, hnames, hfresh, rfl⟩ := identity_of_validateIdentity hidentity
  obtain ⟨hgatesPassed, hevidence, hbefore, hafter⟩ := gates_of_validateRankGates hgates
  obtain ⟨hguards, text, htext, hreads⟩ := written_of_validateWrite (hevidence .backendNativeWrite)
  simp only [validateLifecycle, Except.bind_eq_ok, Except.raiseIf_eq_ok, Except.forM_eq_ok,
    mapping_eq_ok] at hlifecycle
  obtain ⟨_, ⟨-, rfl⟩, hfields⟩ := hlifecycle
  refine ⟨id, hnames, hfresh, rfl, ⟨Json.eq_true_of_isTrue hpassed, hgatesPassed,
    fun field hfield => Json.eq_true_of_isTrue (hfields field hfield),
    imported_of_validateAttachment (hevidence .allocatorAttachment), hguards,
    ⟨_, text, hbefore, htext, rfl, hreads, fun heq => hafter ?_⟩⟩⟩
  rw [htext, hbefore, heq]

/-- **The loop**: every rank passed, none of them twice. -/
theorem scanRanks_eq_ok {ranks : List Json} (h : scanRanks decimal m seen index ranks = .ok after)
    (hseen : seen.Distinct) : after.Distinct ∧ (∀ rank ∈ ranks, RankPassed decimal m rank) ∧
      ∃ ids, List.Forall₂ Names ranks ids ∧ after = ids.foldl Seen.add seen := by
  induction ranks generalizing seen index with
  | nil =>
    obtain rfl := Except.ok.inj h
    exact ⟨hseen, nofun, [], .nil, rfl⟩
  | cons raw rest ih =>
    obtain ⟨seen', hround, hrest⟩ := Except.bind_eq_ok.mp h
    obtain ⟨id, hnames, hfresh, rfl, hpassed⟩ := passed_of_validateRank hround
    obtain ⟨hafter, hall, ids, hids, rfl⟩ := ih hrest (hseen.add hfresh)
    exact ⟨hafter, List.forall_mem_cons.mpr ⟨hpassed, hall⟩, id :: ids, .cons hnames hids, rfl⟩

end

/-! ## The whole report -/

/-- **A report that passed**, section by section. -/
structure ReportPassed (decimal : Char → Option (Fin 10)) (report : Json) (m : Matrix)
    (ids : List Identity) : Prop where
  isMapping : (report.get "profile").isMapping = true
  profile : ∀ field ∈ profileFields, ∃ text,
    (report.get "profile").get field = .str text ∧ Safe text
  builds : ∀ field ∈ buildFields, ∃ text, (report.get "environment").get field = .str text ∧
    ReadsAsDigest decimal (afterScheme text) ∧
      "sha256:".toList ++ (afterScheme text).toList = text.toList
  matrix : MatrixPassed report m
  gates : ∀ name ∈ requiredGates, ((report.get "gates").get name).get "passed" = .bool true
  ranks : ∀ rank ∈ rankReports report, RankPassed decimal m rank
  names : List.Forall₂ Names (rankReports report) ids
  ranks_nodup : (ids.map (·.rank)).Nodup
  mem_ranks : ∀ r, r ∈ ids.map (·.rank) ↔ r < m.worldSize
  bindings_nodup : (ids.map (·.bindingId)).Nodup
  devices_nodup : (ids.map (·.deviceId)).Nodup
  mem_devices : ∀ d, d ∈ ids.map (·.deviceId) ↔ d ∈ m.devices

theorem reportPassed_of_validate {decimal : Char → Option (Fin 10)} {report : Json}
    (h : validateCertificationReport decimal report = .ok ()) :
    ∃ m ids, ReportPassed decimal report m ids := by
  simp only [validateCertificationReport, validateRanks, Except.bind_eq_ok, Except.raiseIf_eq_ok,
    mapping_eq_ok, checkFields_eq_ok, safeField_eq_ok, arrayOr_eq_ok, not_not] at h
  obtain ⟨-, -, -, -, _, ⟨hmapping, rfl⟩, -, hprofile, _, henvironment, m, hmatrix, _, hgates,
    ranks, hranks, -, -, seen, hscan, -, hworld, hdevices⟩ := h
  obtain ⟨hdistinct, hpassed, ids, hnames, rfl⟩ :=
    scanRanks_eq_ok hscan ⟨.nil, .nil, .nil⟩
  rw [Seen.foldl_add] at hdistinct hworld hdevices
  simp only [List.append_nil, List.toFinset_reverse] at hdistinct hworld hdevices
  have hreports : rankReports report = ranks := by rw [rankReports, hranks, Json.items]
  rw [← hreports] at hpassed hnames
  exact ⟨m, ids,
    { isMapping := hmapping
      profile := hprofile
      builds := fun _ => builds_of_validateEnvironment henvironment
      matrix := matrixPassed_of_validateMatrix hmatrix
      gates := fun _ => passed_of_validateGates hgates
      ranks := hpassed
      names := hnames
      ranks_nodup := List.nodup_reverse.mp hdistinct.ranks
      mem_ranks := fun r => by rw [← List.mem_toFinset, hworld, Finset.mem_range]
      bindings_nodup := List.nodup_reverse.mp hdistinct.bindings
      devices_nodup := List.nodup_reverse.mp hdistinct.devices
      mem_devices := fun d => by rw [← List.mem_toFinset, hdevices, List.mem_toFinset] }⟩

end Certification

end Kapsl.Vllm
