import Mathlib.Algebra.Order.BigOperators.Ring.List
import Mathlib.Algebra.Order.Ring.Nat
import Mathlib.Data.List.GetD
import Kapsl.Ort.Tensor

/-!
# Ort/WireTensors — which requests the wire admits, and what the adapter publishes on it

`request_tensors` reads the tensors of a request out of host memory; `result_owner` lays a tensor
out for the host to read.  A pointer is null or the memory it points to: the host promises as many
entries as the view says.  The sizes and flag bits of the ABI are parameters.

* `requestTensors_exact` — a request is admitted exactly when each view presents its tensor and the
  names are distinct; what is admitted is `Validated`.
* `published_request` — tensors that the adapter published are admitted as a request exactly when
  their names, ranks and sizes are, and then they are read back as they were.
-/

namespace Kapsl.Ort.Wire

open Except (raiseIf okOr)

/-! ## The views of the ABI -/

/-- The kinds of memory: the two the host can read, or another one. -/
inductive MemoryKind
  | host
  | hostPinned
  | other (code : UInt32)
  deriving DecidableEq, Inhabited

instance : Inhabited Dtype := ⟨.u8⟩

/-- What the crate of the ABI fixes, and how a failed UTF-8 conversion is reported. -/
structure Abi where
  requestSize : ℕ
  namedTensorSize : ℕ
  tensorViewSize : ℕ
  wireFormat : UInt32
  contiguous : UInt32
  readOnly : UInt32
  utf8Error : List UInt8 → String
  /-- A flag is a bit. -/
  contiguous_ne : contiguous ≠ 0

/-- Null, or the memory behind the pointer. -/
abbrev Pointer (α : Type) := Option (ℕ → α)

/-- `slice::from_raw_parts`. -/
def Pointer.slice {α : Type} (p : Pointer α) (len : ℕ) : List α :=
  p.elim [] fun memory => (List.range len).map memory

/-- `KapslTensorViewV1`. -/
structure TensorView where
  structSize : ℕ
  dtype : Dtype
  memoryKind : MemoryKind
  flags : UInt32
  deviceId : ℤ
  rank : ℕ
  shape : Pointer ℤ
  data : Pointer UInt8
  byteLen : ℕ
  deriving Inhabited

/-- `KapslNamedTensorViewV1`; its name is what `as_bytes` answers. -/
structure NamedTensorView where
  structSize : ℕ
  reserved : ℕ
  name : Option (List UInt8)
  tensor : TensorView
  deriving Inhabited

/-- `KapslInferenceRequestV1`, as far as `request_tensors` reads it. -/
structure InferenceRequest where
  structSize : ℕ
  requestId : ℕ
  wireFormat : UInt32
  reserved : ℕ
  inputCount : ℕ
  inputs : Pointer NamedTensorView

/-- `MAX_INPUTS`. -/
def maxInputs : ℕ := 256

/-- `MAX_NAME_BYTES`. -/
def maxNameBytes : ℕ := 1024

/-- `MAX_TENSOR_RANK`. -/
def maxTensorRank : ℕ := 32

/-! ## Reading a request -/

/-- The check of `tensor.memory_kind`. -/
def hostMemory : MemoryKind → Except FfiError Unit
  | .host | .hostPinned => .ok ()
  | .other code => .error (invalidArgument s!"CPU ORT adapter cannot consume memory kind {code}")

variable (abi : Abi)

/-- `tensor_from_wire`. -/
def tensorFromWire (input : NamedTensorView) : Except FfiError BorrowedTensor := do
  raiseIf (input.structSize < abi.namedTensorSize ∨ input.tensor.structSize < abi.tensorViewSize)
    (invalidArgument "native ORT tensor view is truncated")
  raiseIf (input.reserved ≠ 0)
    (invalidArgument "native ORT named tensor has a non-zero reserved field")
  let nameBytes ← okOr input.name (invalidArgument "native ORT tensor name has a null pointer")
  raiseIf (nameBytes = [] ∨ maxNameBytes < nameBytes.length)
    (invalidArgument s!"native ORT tensor names must contain 1..={maxNameBytes} bytes")
  let name ← okOr (String.fromUTF8? ⟨nameBytes.toArray⟩)
    (invalidArgument s!"native ORT tensor name is not UTF-8: {abi.utf8Error nameBytes}")
  let tensor := input.tensor
  raiseIf (tensor.flags &&& abi.contiguous = 0 ∨
      tensor.flags &&& ~~~(abi.contiguous ||| abi.readOnly) ≠ 0)
    (invalidArgument "native ORT accepts only contiguous tensors with known flags")
  hostMemory tensor.memoryKind
  raiseIf (tensor.deviceId ≠ -1)
    (invalidArgument "CPU ORT host tensors must use device_id -1")
  raiseIf (maxTensorRank < tensor.rank ∨ 0 < tensor.rank ∧ tensor.shape = none)
    (invalidArgument s!"native ORT tensor rank must be at most {maxTensorRank}")
  let shape := if tensor.rank = 0 then [] else Pointer.slice tensor.shape tensor.rank
  let elements ← shapeElements shape
  let elementBytes ← dtypeBytes tensor.dtype
  raiseIf (usizeBound ≤ elements * elementBytes)
    (invalidArgument "native ORT tensor byte length overflows")
  raiseIf (tensor.byteLen ≠ elements * elementBytes ∨ 0 < tensor.byteLen ∧ tensor.data = none)
    (invalidArgument
      s!"native ORT tensor `{name}` requires {elements * elementBytes} bytes, received {tensor.byteLen}")
  let data := if tensor.byteLen = 0 then [] else Pointer.slice tensor.data tensor.byteLen
  return { name, dtype := tensor.dtype, shape, data }

/-- The scan for two inputs of one name: the name of the first that has a later namesake. -/
def repeatedName : List BorrowedTensor → Option String
  | [] => none
  | tensor :: rest =>
    if rest.any (·.name = tensor.name) then some tensor.name else repeatedName rest

/-- One turn of the loop over the inputs. -/
def readInput (inputs : ℕ → NamedTensorView) (index : ℕ) : Except FfiError BorrowedTensor := do
  raiseIf ((inputs index).structSize < abi.namedTensorSize)
    (invalidArgument s!"native ORT named tensor {index} is truncated")
  tensorFromWire abi (inputs index)

/-- `request_tensors`; the pointer to the request may be null. -/
def requestTensors (request : Option InferenceRequest) :
    Except FfiError (ℕ × List BorrowedTensor) := do
  let request ← okOr request (invalidArgument "native ORT request is null")
  raiseIf (request.structSize < abi.requestSize)
    (invalidArgument "native ORT request struct is truncated")
  raiseIf (request.wireFormat ≠ abi.wireFormat ∨ request.reserved ≠ 0)
    (invalidArgument "native ORT request has an unsupported wire format or reserved value")
  raiseIf (request.inputCount = 0 ∨ maxInputs < request.inputCount)
    (invalidArgument s!"native ORT request must contain 1..={maxInputs} inputs")
  let inputs ← okOr request.inputs
    (invalidArgument s!"native ORT request must contain 1..={maxInputs} inputs")
  let tensors ← (List.range request.inputCount).mapM (readInput abi inputs)
  match repeatedName tensors with
  | some name => throw (invalidArgument s!"native ORT request repeats input name `{name}`")
  | none => return (request.requestId, tensors)

/-! ## What is published -/

/-- `OwnedTensor::as_borrowed`. -/
def asBorrowed (tensor : OwnedTensor) : BorrowedTensor where
  name := tensor.name
  dtype := tensor.dtype
  shape := tensor.shape
  data := tensor.data

/-- A vector as the memory behind `as_ptr`. -/
def Pointer.ofList {α : Type} [Inhabited α] (values : List α) : Pointer α :=
  some fun i => values.getD i default

/-- The bytes of a string. -/
def nameBytes (name : String) : List UInt8 := name.toByteArray.data.toList

/-- The view of a tensor that the adapter owns. -/
def publishedView (tensor : OwnedTensor) : NamedTensorView where
  structSize := abi.namedTensorSize
  reserved := 0
  name := some (nameBytes tensor.name)
  tensor := {
    structSize := abi.tensorViewSize
    dtype := tensor.dtype
    memoryKind := .host
    flags := abi.contiguous ||| abi.readOnly
    deviceId := -1
    rank := tensor.shape.length
    shape := .ofList tensor.shape
    data := .ofList tensor.data
    byteLen := tensor.data.length }

/-- `result_owner`. -/
def resultOwner (tensor : OwnedTensor) : Except FfiError NamedTensorView := do
  raiseIf (2 ^ 32 ≤ tensor.shape.length)
    (backendError "ORT output rank exceeds backend ABI v1")
  raiseIf (2 ^ 64 ≤ tensor.data.length)
    (backendError "ORT output byte length exceeds backend ABI v1")
  return publishedView abi tensor

/-- The request of a host for these views. -/
def requestOf (requestId : ℕ) (views : List NamedTensorView) : InferenceRequest where
  structSize := abi.requestSize
  requestId := requestId
  wireFormat := abi.wireFormat
  reserved := 0
  inputCount := views.length
  inputs := .ofList views

/-- The adapter publishes tensors, and the host asks for them as one request. -/
def passOn (requestId : ℕ) (tensors : List OwnedTensor) :
    Except FfiError (ℕ × List BorrowedTensor) := do
  let views ← tensors.mapM (resultOwner abi)
  requestTensors abi (some (requestOf abi requestId views))

/-! ## What a view presents -/

/-- **A fold of checked products is one checked product**, of positive dimensions. -/
theorem shapeElementsFrom_eq_ok {shape : List ℤ} {elements n : ℕ} (hbound : elements < usizeBound) :
    shapeElementsFrom elements shape = .ok n ↔
      (∀ d ∈ shape, 0 < d) ∧ elements * (shape.map Int.toNat).prod = n ∧ n < usizeBound := by
  induction shape generalizing elements with
  | nil =>
    simp only [shapeElementsFrom, Except.ok.injEq, List.map_nil, List.prod_nil, mul_one]
    exact ⟨fun h => ⟨fun d hd => absurd hd List.not_mem_nil, h, h ▸ hbound⟩, fun h => h.2.1⟩
  | cons d shape ih =>
    simp only [shapeElementsFrom, List.forall_mem_cons, List.map_cons, List.prod_cons]
    split_ifs with hneg hzero hover
    · exact ⟨nofun, fun h => absurd h.1.1 (by omega)⟩
    · exact ⟨nofun, fun h => absurd h.1.1 (by omega)⟩
    · refine ⟨nofun, fun ⟨⟨_, hpos⟩, hprod, hn⟩ => absurd hn ?_⟩
      have hone : 0 < (shape.map Int.toNat).prod := by
        refine CanonicallyOrderedAdd.list_prod_pos.mpr ?_
        intro m hm
        obtain ⟨k, hk, rfl⟩ := List.mem_map.mp hm
        have := hpos k hk
        omega
      rw [← hprod, ← mul_assoc, not_lt]
      exact hover.trans (Nat.le_mul_of_pos_right _ hone)
    · rw [ih (not_le.mp hover), mul_assoc]
      exact ⟨fun h => ⟨⟨by omega, h.1⟩, h.2⟩, fun h => ⟨h.1.2, h.2⟩⟩

theorem shapeElements_eq_ok {shape : List ℤ} {n : ℕ} :
    shapeElements shape = .ok n ↔
      (∀ d ∈ shape, 0 < d) ∧ (shape.map Int.toNat).prod = n ∧ n < usizeBound := by
  rw [shapeElements, shapeElementsFrom_eq_ok (by simp [usizeBound]), one_mul]

/-- **What it takes for a view to present a tensor.** -/
structure Presents (view : NamedTensorView) (t : BorrowedTensor) : Prop where
  named_size : abi.namedTensorSize ≤ view.structSize
  view_size : abi.tensorViewSize ≤ view.tensor.structSize
  reserved : view.reserved = 0
  name : ∃ bytes, view.name = some bytes ∧ bytes ≠ [] ∧ bytes.length ≤ maxNameBytes ∧
    String.fromUTF8? ⟨bytes.toArray⟩ = some t.name
  contiguous : view.tensor.flags &&& abi.contiguous ≠ 0
  known_flags : view.tensor.flags &&& ~~~(abi.contiguous ||| abi.readOnly) = 0
  host : hostMemory view.tensor.memoryKind = .ok ()
  device : view.tensor.deviceId = -1
  dtype : view.tensor.dtype = t.dtype
  rank : view.tensor.rank = t.shape.length
  rank_le : t.shape.length ≤ maxTensorRank
  shape : t.shape ≠ [] → ∃ memory, view.tensor.shape = some memory ∧
    t.shape = (List.range t.shape.length).map memory
  positive : ∀ d ∈ t.shape, 0 < d
  bytes : ∃ size, dtypeBytes t.dtype = .ok size ∧
    t.data.length = (t.shape.map Int.toNat).prod * size
  usize : (t.shape.map Int.toNat).prod < usizeBound ∧ t.data.length < usizeBound
  byteLen : view.tensor.byteLen = t.data.length
  data : t.data ≠ [] → ∃ memory, view.tensor.data = some memory ∧
    t.data = (List.range t.data.length).map memory

/-- A slice of memory that is there when it is read. -/
theorem slice_eq_iff {α : Type} {p : Pointer α} {len : ℕ} (hnull : ¬(0 < len ∧ p = none))
    {values : List α} :
    (if len = 0 then [] else Pointer.slice p len) = values ↔ len = values.length ∧
      (values ≠ [] → ∃ memory, p = some memory ∧
        values = (List.range values.length).map memory) := by
  rcases Nat.eq_zero_or_pos len with rfl | hpos
  · rw [if_pos rfl]
    constructor
    · rintro rfl
      exact ⟨rfl, fun h => absurd rfl h⟩
    · rintro ⟨hlen, -⟩
      exact (List.length_eq_zero_iff.mp hlen.symm).symm
  · obtain ⟨memory, rfl⟩ : ∃ memory, p = some memory :=
      Option.ne_none_iff_exists'.mp fun h => hnull ⟨hpos, h⟩
    rw [if_neg hpos.ne', Pointer.slice, Option.elim_some]
    constructor
    · rintro rfl
      exact ⟨by simp, fun _ => ⟨memory, rfl, by simp⟩⟩
    · rintro ⟨hlen, hvalues⟩
      obtain ⟨_, hmemory, heq⟩ := hvalues (List.ne_nil_of_length_pos (hlen ▸ hpos))
      obtain rfl := Option.some.inj hmemory
      rw [hlen]
      exact heq.symm

variable {abi} {view : NamedTensorView} {t : BorrowedTensor}

/-- **`tensor_from_wire` answers with the tensor the view presents**, and with nothing else. -/
theorem tensorFromWire_eq_ok : tensorFromWire abi view = .ok t ↔ Presents abi view t := by
  simp only [tensorFromWire, Except.bind_eq_ok, Except.raiseIf_eq_ok, Except.okOr_eq_ok,
    Except.pure_eq_ok, exists_const, not_or, not_lt, not_not, shapeElements_eq_ok, not_le]
  constructor
  · rintro ⟨⟨hsize, hview⟩, hreserved, bytes, hname, ⟨hne, hlen⟩, name, hutf8, ⟨hcont, hflags⟩,
      ⟨⟩, hhost, hdev, ⟨hrank, hshape⟩, n, ⟨hpos, hn, hnu⟩, size, hbytes, hbu, ⟨hbl, hdata⟩, rfl⟩
    obtain ⟨hr, hsh⟩ := (slice_eq_iff hshape).mp rfl
    obtain ⟨hl, hd⟩ := (slice_eq_iff hdata).mp rfl
    exact {
      named_size := hsize
      view_size := hview
      reserved := hreserved
      name := ⟨bytes, hname, hne, hlen, hutf8⟩
      contiguous := hcont
      known_flags := hflags
      host := hhost
      device := hdev
      dtype := rfl
      rank := hr
      rank_le := hr ▸ hrank
      shape := hsh
      positive := hpos
      bytes := ⟨size, hbytes, by rw [← hl, hbl, ← hn]⟩
      usize := ⟨hn ▸ hnu, by rw [← hl, hbl]; exact hbu⟩
      byteLen := hl
      data := hd }
  · intro h
    obtain ⟨bytes, hname, hne, hlen, hutf8⟩ := h.name
    obtain ⟨size, hsize, hcount⟩ := h.bytes
    have hshape : ¬(0 < view.tensor.rank ∧ view.tensor.shape = none) := by
      rintro ⟨hpos, hnone⟩
      obtain ⟨memory, hmemory, -⟩ := h.shape (List.ne_nil_of_length_pos (h.rank ▸ hpos))
      cases hnone.symm.trans hmemory
    have hdata : ¬(0 < view.tensor.byteLen ∧ view.tensor.data = none) := by
      rintro ⟨hpos, hnone⟩
      obtain ⟨memory, hmemory, -⟩ := h.data (List.ne_nil_of_length_pos (h.byteLen ▸ hpos))
      cases hnone.symm.trans hmemory
    have hs := (slice_eq_iff hshape).mpr ⟨h.rank, h.shape⟩
    have hd := (slice_eq_iff hdata).mpr ⟨h.byteLen, h.data⟩
    refine ⟨⟨h.named_size, h.view_size⟩, h.reserved, bytes, hname, ⟨hne, hlen⟩, t.name, hutf8,
      ⟨h.contiguous, h.known_flags⟩, (), h.host, h.device, ⟨h.rank ▸ h.rank_le, hshape⟩, _,
      ⟨hs ▸ h.positive, rfl, hs ▸ h.usize.1⟩, size, h.dtype ▸ hsize, ?_, ⟨?_, hdata⟩, ?_⟩
    · rw [hs, ← hcount]
      exact h.usize.2
    · rw [hs, ← hcount]
      exact h.byteLen
    · rw [hs, hd, h.dtype]

/-! ## What a request carries -/

variable (abi) in
/-- **What it takes for a request to carry its inputs.** -/
structure Carries (request : InferenceRequest) (requestId : ℕ) (inputs : List BorrowedTensor) :
    Prop where
  size : abi.requestSize ≤ request.structSize
  wireFormat : request.wireFormat = abi.wireFormat
  reserved : request.reserved = 0
  requestId : request.requestId = requestId
  count : request.inputCount = inputs.length
  nonempty : inputs ≠ []
  count_le : inputs.length ≤ maxInputs
  presents : ∃ views, request.inputs = some views ∧
    ∀ i (h : i < inputs.length), Presents abi (views i) inputs[i]
  distinct : (inputs.map BorrowedTensor.name).Nodup

theorem readInput_eq_ok {views : ℕ → NamedTensorView} {index : ℕ} :
    readInput abi views index = .ok t ↔ Presents abi (views index) t := by
  simp only [readInput, Except.bind_eq_ok, Except.raiseIf_eq_ok, exists_const, not_lt,
    tensorFromWire_eq_ok]
  exact and_iff_right_of_imp Presents.named_size

/-- The scan finds nothing exactly when the names are distinct. -/
theorem repeatedName_eq_none {inputs : List BorrowedTensor} :
    repeatedName inputs = none ↔ (inputs.map BorrowedTensor.name).Nodup := by
  induction inputs with
  | nil => simp [repeatedName]
  | cons t inputs ih =>
    rw [repeatedName, List.map_cons, List.nodup_cons]
    split_ifs with h
    · obtain ⟨u, hu, heq⟩ := List.any_eq_true.mp h
      refine ⟨nofun, fun hn => absurd ?_ hn.1⟩
      exact of_decide_eq_true heq ▸ List.mem_map_of_mem hu
    · rw [ih]
      refine (and_iff_right fun hmem => h ?_).symm
      obtain ⟨u, hu, heq⟩ := List.mem_map.mp hmem
      exact List.any_eq_true.mpr ⟨u, hu, decide_eq_true heq⟩

/-- A loop over the indices that reads one input a turn. -/
theorem mapM_range_eq_ok {f : ℕ → Except FfiError BorrowedTensor} {count : ℕ}
    {inputs : List BorrowedTensor} :
    (List.range count).mapM f = .ok inputs ↔
      count = inputs.length ∧ ∀ i (h : i < inputs.length), f i = .ok inputs[i] := by
  rw [Except.mapM_eq_ok, List.forall₂_iff_get]
  simp only [List.length_range, List.get_eq_getElem, List.getElem_range]
  exact and_congr_right fun hlen => ⟨fun h i hi => h i (hlen ▸ hi) hi, fun h i _ hi => h i hi⟩

/-- **`request_tensors` answers with what the request carries**, and with nothing else. -/
theorem requestTensors_eq_ok {request : Option InferenceRequest} {requestId : ℕ}
    {inputs : List BorrowedTensor} : requestTensors abi request = .ok (requestId, inputs) ↔
      ∃ r, request = some r ∧ Carries abi r requestId inputs := by
  simp only [requestTensors, Except.bind_eq_ok, Except.raiseIf_eq_ok, Except.okOr_eq_ok,
    exists_const, not_or, not_lt, not_not, mapM_range_eq_ok, readInput_eq_ok]
  constructor
  · rintro ⟨r, rfl, hsize, ⟨hformat, hreserved⟩, ⟨hpos, hle⟩, views, hviews, tensors,
      ⟨hcount, hpresents⟩, h⟩
    split at h
    · cases h
    · next hnone =>
      obtain ⟨rfl, rfl⟩ := Prod.mk.inj (Except.ok.inj h)
      exact ⟨r, rfl, {
        size := hsize
        wireFormat := hformat
        reserved := hreserved
        requestId := rfl
        count := hcount
        nonempty := fun hnil => hpos (by simp [hcount, hnil])
        count_le := hcount ▸ hle
        presents := ⟨views, hviews, hpresents⟩
        distinct := repeatedName_eq_none.mp hnone }⟩
  · rintro ⟨r, rfl, h⟩
    obtain ⟨views, hviews, hpresents⟩ := h.presents
    refine ⟨r, rfl, h.size, ⟨h.wireFormat, h.reserved⟩, ⟨?_, h.count ▸ h.count_le⟩, views, hviews,
      inputs, ⟨h.count, hpresents⟩, ?_⟩
    · rw [h.count]
      exact fun hzero => h.nonempty (List.length_eq_zero_iff.mp hzero)
    · rw [repeatedName_eq_none.mpr h.distinct, h.requestId]
      rfl

/-- **What a request carries is validated.** -/
theorem Carries.validated {r : InferenceRequest} {requestId : ℕ} {inputs : List BorrowedTensor}
    (h : Carries abi r requestId inputs) : Validated inputs := by
  refine ⟨h.nonempty, fun t ht => ?_⟩
  obtain ⟨i, hi, rfl⟩ := List.mem_iff_getElem.mp ht
  obtain ⟨views, -, hpresents⟩ := h.presents
  obtain ⟨size, hsize, hlen⟩ := (hpresents i hi).bytes
  exact ⟨_, size, shapeElements_eq_ok.mpr ⟨(hpresents i hi).positive, rfl, (hpresents i hi).usize.1⟩,
    hsize, hlen⟩

/-- **The wire admits exactly the requests that carry their inputs**, and what it admits is
validated, of distinct names. -/
theorem requestTensors_exact (abi : Abi) (request : Option InferenceRequest) (requestId : ℕ)
    (inputs : List BorrowedTensor) :
    (requestTensors abi request = .ok (requestId, inputs) ↔
      ∃ r, request = some r ∧ Carries abi r requestId inputs) ∧
    (requestTensors abi request = .ok (requestId, inputs) →
      Validated inputs ∧ (inputs.map BorrowedTensor.name).Nodup) := by
  refine ⟨requestTensors_eq_ok, fun h => ?_⟩
  obtain ⟨r, -, hr⟩ := requestTensors_eq_ok.mp h
  exact ⟨hr.validated, hr.distinct⟩

/-! ## Published tensors as a request -/

/-- **What a published tensor must be** for a request to take it. -/
structure Admissible (t : OwnedTensor) : Prop where
  name : nameBytes t.name ≠ [] ∧ (nameBytes t.name).length ≤ maxNameBytes
  rank : t.shape.length ≤ maxTensorRank
  positive : ∀ d ∈ t.shape, 0 < d
  bytes : ∃ size, dtypeBytes t.dtype = .ok size ∧
    t.data.length = (t.shape.map Int.toNat).prod * size
  usize : (t.shape.map Int.toNat).prod < usizeBound ∧ t.data.length < usizeBound

@[simp] theorem fromUTF8?_nameBytes (name : String) :
    String.fromUTF8? ⟨(nameBytes name).toArray⟩ = some name := by
  have hbytes : (⟨(nameBytes name).toArray⟩ : ByteArray) = name.toByteArray := by
    rw [nameBytes, Array.toArray_toList]
  rw [hbytes, String.fromUTF8?, dif_pos name.isValidUTF8]
  rfl

/-- A vector is what its memory holds. -/
theorem map_ofList {α : Type} [Inhabited α] (values : List α) :
    (List.range values.length).map (fun i => values.getD i default) = values := by
  refine List.ext_getElem (by simp) fun i _ hi => ?_
  rw [List.getElem_map, List.getElem_range, List.getD_eq_getElem _ _ hi]

theorem resultOwner_eq_ok {t : OwnedTensor} : resultOwner abi t = .ok view ↔
    t.shape.length < 2 ^ 32 ∧ t.data.length < 2 ^ 64 ∧ publishedView abi t = view := by
  simp only [resultOwner, Except.bind_eq_ok, Except.raiseIf_eq_ok, Except.pure_eq_ok, exists_const,
    not_le]

/-- A flag is among the flags it is joined with. -/
theorem or_and_ne_zero {a b : UInt32} (ha : a ≠ 0) : (a ||| b) &&& a ≠ 0 := by
  have habsorb : (a ||| b) &&& a = a := by
    refine UInt32.toBitVec_inj.mp ?_
    ext i hi
    simp only [UInt32.toBitVec_and, UInt32.toBitVec_or, BitVec.getElem_and, BitVec.getElem_or]
    exact Bool.and_eq_right_iff_imp.mpr fun h => by rw [h, Bool.true_or]
  rwa [habsorb]

/-- **A published view presents its tensor**, if anything. -/
theorem presents_publishedView {u : OwnedTensor} :
    Presents abi (publishedView abi u) t ↔ t = asBorrowed u ∧ Admissible u := by
  constructor
  · intro h
    obtain ⟨bytes, hname, hne, hlen, hutf8⟩ := h.name
    obtain rfl := Option.some.inj hname
    have hshape : t.shape = u.shape := by
      rcases hnil : t.shape with _ | ⟨d, ds⟩
      · refine (List.length_eq_zero_iff.mp ?_).symm
        have := h.rank
        simpa [publishedView, hnil] using this
      · obtain ⟨memory, hmemory, heq⟩ := h.shape (by simp [hnil])
        obtain rfl := Option.some.inj hmemory
        rw [← hnil, heq, ← h.rank]
        exact map_ofList u.shape
    have hdata : t.data = u.data := by
      rcases hnil : t.data with _ | ⟨d, ds⟩
      · refine (List.length_eq_zero_iff.mp ?_).symm
        have := h.byteLen
        simpa [publishedView, hnil] using this
      · obtain ⟨memory, hmemory, heq⟩ := h.data (by simp [hnil])
        obtain rfl := Option.some.inj hmemory
        rw [← hnil, heq, ← h.byteLen]
        exact map_ofList u.data
    have hdtype : u.dtype = t.dtype := h.dtype
    have htname : u.name = t.name := Option.some.inj ((fromUTF8?_nameBytes u.name).symm.trans hutf8)
    refine ⟨?_, ⟨hne, hlen⟩, hshape ▸ h.rank_le, hshape ▸ h.positive, ?_, ?_⟩
    · rcases t with ⟨tname, tdtype, tshape, tdata⟩
      simp only at hshape hdata hdtype htname
      rw [hshape, hdata, ← hdtype, ← htname]
      rfl
    · rw [hdtype, ← hshape, ← hdata]
      exact h.bytes
    · rw [← hshape, ← hdata]
      exact h.usize
  · rintro ⟨rfl, h⟩
    exact {
      named_size := le_rfl
      view_size := le_rfl
      reserved := rfl
      name := ⟨_, rfl, h.name.1, h.name.2, fromUTF8?_nameBytes u.name⟩
      contiguous := or_and_ne_zero abi.contiguous_ne
      known_flags := UInt32.and_not_self
      host := rfl
      device := rfl
      dtype := rfl
      rank := rfl
      rank_le := h.rank
      shape := fun _ => ⟨_, rfl, (map_ofList u.shape).symm⟩
      positive := h.positive
      bytes := h.bytes
      usize := h.usize
      byteLen := rfl
      data := fun _ => ⟨_, rfl, (map_ofList u.data).symm⟩ }

/-- Publishing a list of tensors is publishing each of them. -/
theorem mapM_resultOwner {tensors : List OwnedTensor} {views : List NamedTensorView} :
    tensors.mapM (resultOwner abi) = .ok views ↔
      (∀ t ∈ tensors, t.shape.length < 2 ^ 32 ∧ t.data.length < 2 ^ 64) ∧
        tensors.map (publishedView abi) = views := by
  constructor
  · intro h
    refine ⟨fun t ht => ?_, ?_⟩
    · obtain ⟨view, -, hview⟩ := Except.exists_mem_of_mapM h ht
      have := resultOwner_eq_ok.mp hview
      exact ⟨this.1, this.2.1⟩
    · refine (Except.eq_map_of_mapM (fun t view hview => ?_) h).symm
      exact (resultOwner_eq_ok.mp hview).2.2.symm
  · rintro ⟨hsmall, rfl⟩
    exact Except.mapM_of_ok fun t ht => resultOwner_eq_ok.mpr ⟨(hsmall t ht).1, (hsmall t ht).2, rfl⟩

/-- An admissible tensor can be published. -/
theorem Admissible.small {u : OwnedTensor} (h : Admissible u) :
    u.shape.length < 2 ^ 32 ∧ u.data.length < 2 ^ 64 :=
  ⟨lt_of_le_of_lt h.rank (by simp [maxTensorRank]), h.usize.2⟩

/-- **A request of published views carries their tensors**, if anything. -/
theorem carries_requestOf {requestId requestId' : ℕ} {tensors : List OwnedTensor}
    {inputs : List BorrowedTensor} :
    Carries abi (requestOf abi requestId (tensors.map (publishedView abi))) requestId' inputs ↔
      requestId = requestId' ∧ inputs = tensors.map asBorrowed ∧ tensors ≠ [] ∧
        tensors.length ≤ maxInputs ∧ (tensors.map OwnedTensor.name).Nodup ∧
        ∀ t ∈ tensors, Admissible t := by
  have hview : ∀ i (h : i < tensors.length),
      (tensors.map (publishedView abi)).getD i default = publishedView abi tensors[i] := by
    intro i h
    rw [List.getD_eq_getElem _ _ (by simpa using h), List.getElem_map]
  have hnames : (tensors.map asBorrowed).map BorrowedTensor.name = tensors.map OwnedTensor.name := by
    rw [List.map_map]
    rfl
  constructor
  · intro h
    have hlen : tensors.length = inputs.length := by
      have hcount := h.count
      rwa [requestOf, List.length_map] at hcount
    obtain ⟨_, hmemory, hpresents⟩ := h.presents
    obtain rfl := Option.some.inj hmemory
    have hpublished : ∀ i (hi : i < tensors.length),
        inputs[i] = asBorrowed tensors[i] ∧ Admissible tensors[i] := by
      intro i hi
      have hp : Presents abi ((tensors.map (publishedView abi)).getD i default) inputs[i] :=
        hpresents i (hlen ▸ hi)
      rw [hview i hi] at hp
      exact presents_publishedView.mp hp
    obtain rfl : inputs = tensors.map asBorrowed := by
      refine List.ext_getElem (by simp [hlen]) fun i hi _ => ?_
      rw [List.getElem_map]
      exact (hpublished i (hlen ▸ hi)).1
    refine ⟨h.requestId, rfl, fun hnil => h.nonempty (by simp [hnil]), hlen ▸ h.count_le,
      hnames ▸ h.distinct, fun t ht => ?_⟩
    obtain ⟨i, hi, rfl⟩ := List.mem_iff_getElem.mp ht
    exact (hpublished i hi).2
  · rintro ⟨rfl, rfl, hne, hle, hnodup, hadmissible⟩
    exact {
      size := le_rfl
      wireFormat := rfl
      reserved := rfl
      requestId := rfl
      count := by simp [requestOf]
      nonempty := by simpa using hne
      count_le := by simpa using hle
      presents := by
        refine ⟨_, rfl, fun i hi => ?_⟩
        have hi' : i < tensors.length := by simpa using hi
        show Presents abi ((tensors.map (publishedView abi)).getD i default) _
        rw [hview i hi', List.getElem_map]
        exact presents_publishedView.mpr ⟨rfl, hadmissible _ (List.getElem_mem hi')⟩
      distinct := hnames ▸ hnodup }

/-- **What the adapter publishes, it admits again** exactly when there are tensors, not too many,
of distinct names and each admissible; and then it reads back the tensors it published. -/
theorem published_request (abi : Abi) (requestId requestId' : ℕ) (tensors : List OwnedTensor)
    (inputs : List BorrowedTensor) :
    passOn abi requestId tensors = .ok (requestId', inputs) ↔
      requestId = requestId' ∧ inputs = tensors.map asBorrowed ∧ tensors ≠ [] ∧
        tensors.length ≤ maxInputs ∧ (tensors.map OwnedTensor.name).Nodup ∧
        ∀ t ∈ tensors, Admissible t := by
  simp only [passOn, Except.bind_eq_ok, mapM_resultOwner, requestTensors_eq_ok]
  constructor
  · rintro ⟨views, ⟨-, rfl⟩, r, hr, hcarries⟩
    obtain rfl := Option.some.inj hr
    exact carries_requestOf.mp hcarries
  · intro h
    exact ⟨_, ⟨fun t ht => (h.2.2.2.2.2 t ht).small, rfl⟩, _, rfl, carries_requestOf.mpr h⟩

end Kapsl.Ort.Wire
