import Kapsl.Lib.Strided
import Kapsl.Vllm.LayerIdentity

/-!
# Vllm/AttachmentBounds — the bytes that an attached tensor can reach

A worker proves that each KV tensor of vLLM lies within the imported storage by the span of the
tensor, which `_tensor_span_bytes` computes from its last index alone.  That index addresses the
last element whatever the strides are (`Strided.isGreatest_offsets`), so the check lets a tensor
through exactly when no valid index leaves the storage (`attachmentView_returns_iff`), and
`attachment_views` succeeds exactly when that holds of every layer (`attachmentViews_exact`).
-/

namespace Kapsl.Vllm

open Except (raiseIf)
open Strided (offsets linear lastIndex)

/-- **A view that can be attached** — its shape addresses something, and no stride is negative. -/
structure KvTensor.Strided (tensor : KvTensor) : Prop where
  nonempty : tensor.shape ≠ []
  rank : tensor.shape.length = tensor.stride.length
  sizes : ∀ size ∈ tensor.shape, 0 < size
  strides : ∀ stride ∈ tensor.stride, 0 ≤ stride
  elementSize : 0 < tensor.elementSize

/-- The bytes that the valid indices of a tensor address. -/
def KvTensor.bytes (tensor : KvTensor) : Set ℤ :=
  {byte | ∃ offset ∈ offsets tensor.shape tensor.stride, ∃ k, 0 ≤ k ∧ k < tensor.elementSize ∧
    byte = tensor.dataPtr + offset * tensor.elementSize + k}

/-- Every byte a tensor can reach lies in `[0, expectedBytes)` of the storage at `rawBase`. -/
def KvTensor.InBounds (tensor : KvTensor) (rawBase expectedBytes : ℤ) : Prop :=
  ∀ byte ∈ tensor.bytes, 0 ≤ byte - rawBase ∧ byte - rawBase < expectedBytes

variable {tensor : KvTensor} {rawBase expectedBytes span : ℤ}

/-- The sum of the source is the offset of the last index. -/
theorem sum_finalElement (shape strides : List ℤ) :
    ((shape.zip strides).map fun (size, stride) => (size - 1) * stride).sum =
      linear (lastIndex shape) strides := by
  rw [linear, lastIndex, List.zipWith_map_left, List.zip, List.map_zipWith]

theorem tensorSpanBytes_eq_ok : tensorSpanBytes tensor = .ok span ↔ tensor.Strided ∧
    span = (1 + linear (lastIndex tensor.shape) tensor.stride) * tensor.elementSize := by
  simp only [tensorSpanBytes, Except.bind_eq_ok, Except.raiseIf_eq_ok, Except.pure_eq_ok,
    exists_const, sum_finalElement, not_or, not_not]
  constructor
  · rintro ⟨⟨hne, hrank, hsizes⟩, hstrides, helement, rfl⟩
    refine ⟨⟨hne, hrank, ?_, ?_, by omega⟩, by rw [add_comm]⟩
    · simpa using hsizes
    · simpa using hstrides
  · rintro ⟨h, rfl⟩
    refine ⟨⟨h.nonempty, h.rank, ?_⟩, ?_, h.elementSize.not_ge, by rw [add_comm]⟩
    · simpa using h.sizes
    · simpa using h.strides

/-- **The span ends where the largest offset does.** -/
theorem KvTensor.Strided.isGreatest (h : tensor.Strided) :
    IsGreatest (offsets tensor.shape tensor.stride)
      (linear (lastIndex tensor.shape) tensor.stride) :=
  Strided.isGreatest_offsets h.sizes h.strides

/-- **The check of a view** — the first byte is not before the storage and the span not past its
end, which holds of every byte in between. -/
theorem KvTensor.Strided.inBounds_iff (h : tensor.Strided) :
    tensor.InBounds rawBase expectedBytes ↔ 0 ≤ tensor.dataPtr - rawBase ∧
      tensor.dataPtr - rawBase +
        (1 + linear (lastIndex tensor.shape) tensor.stride) * tensor.elementSize ≤
          expectedBytes := by
  have hleast := Strided.isLeast_offsets h.sizes h.strides
  have hgreatest := h.isGreatest
  have helement := h.elementSize
  set last := linear (lastIndex tensor.shape) tensor.stride
  have hspan : (1 + last) * tensor.elementSize =
      last * tensor.elementSize + tensor.elementSize := by rw [add_mul, one_mul, add_comm]
  rw [hspan]
  constructor
  · intro hbytes
    have hfirst := hbytes _ ⟨0, hleast.1, 0, le_rfl, helement, rfl⟩
    have hlast := hbytes _ ⟨last, hgreatest.1, tensor.elementSize - 1, by omega, by omega, rfl⟩
    omega
  · rintro ⟨hstart, hend⟩ byte ⟨offset, hoffset, k, hk, hk', rfl⟩
    have hlow : 0 ≤ offset * tensor.elementSize := mul_nonneg (hleast.2 hoffset) helement.le
    have hhigh : offset * tensor.elementSize ≤ last * tensor.elementSize :=
      mul_le_mul_of_nonneg_right (hgreatest.2 hoffset) helement.le
    omega

/-! ## What `attachment_views` accepts -/

/-- **A view is accepted** when its tensor is the layer's, aliases the storage, and can be attached
without leaving it. -/
theorem attachmentView_returns_iff (I : Interpreter) (hook : VllmSharedPoolHook) (rawBase : ℤ)
    (kvCaches : KvCaches) (layer : String × String × ℕ) :
    (∃ view, hook.attachmentView I rawBase kvCaches layer = .ok view) ↔
      ∃ tensor, kvCaches.lookup layer.1 = some tensor ∧ tensor.storagePtr = rawBase ∧
        tensor.Strided ∧ tensor.InBounds rawBase hook.expectedBytes := by
  rw [VllmSharedPoolHook.attachmentView]
  cases hlookup : kvCaches.lookup layer.1 with
  | none => exact ⟨by rintro ⟨_, ⟨⟩⟩, by rintro ⟨_, ⟨⟩, _⟩⟩
  | some tensor =>
    simp only [Except.bind_eq_ok, Except.raiseIf_eq_ok, Except.pure_eq_ok, exists_const,
      tensorSpanBytes_eq_ok, not_not, not_or, not_lt, gt_iff_lt, Option.some.injEq]
    constructor
    · rintro ⟨view, halias, span, ⟨hstrided, rfl⟩, hbounds, -⟩
      exact ⟨tensor, rfl, halias, hstrided, hstrided.inBounds_iff.mpr hbounds⟩
    · rintro ⟨_, rfl, halias, hstrided, hbounds⟩
      exact ⟨_, halias, _, ⟨hstrided, rfl⟩, hstrided.inBounds_iff.mp hbounds, rfl⟩

/-- **`attachment_views` succeeds** when the hook was used, the storage has its size, the names are
the expected ones, and every layer's view is accepted. -/
theorem attachmentViews_returns_iff (I : Interpreter) (hook : VllmSharedPoolHook)
    (state : HookState) (kvCaches : KvCaches) :
    (∃ views, hook.attachmentViews I state kvCaches = .ok views) ↔
      state.used = true ∧ ∃ raw, state.tensor = some raw ∧ raw.nbytes = hook.expectedBytes ∧
        sameSet (kvCaches.map Prod.fst) hook.expectedLayers ∧
        ∀ layer ∈ hook.layerIdentity, ∃ tensor, kvCaches.lookup layer.1 = some tensor ∧
          tensor.storagePtr = raw.dataPtr ∧ tensor.Strided ∧
          tensor.InBounds raw.dataPtr hook.expectedBytes := by
  have hviews : ∀ raw : ImportedTensor,
      (∃ views, (hook.layerIdentity.insertionSort fun a b => a.2.2 ≤ b.2.2).mapM
        (hook.attachmentView I raw.dataPtr kvCaches) = .ok views) ↔
      ∀ layer ∈ hook.layerIdentity, ∃ tensor, kvCaches.lookup layer.1 = some tensor ∧
        tensor.storagePtr = raw.dataPtr ∧ tensor.Strided ∧
        tensor.InBounds raw.dataPtr hook.expectedBytes := by
    intro raw
    simp only [← attachmentView_returns_iff I]
    constructor
    · rintro ⟨views, hviews⟩ layer hlayer
      obtain ⟨view, -, hview⟩ := Except.exists_mem_of_mapM hviews
        ((List.mem_insertionSort _).mpr hlayer)
      exact ⟨view, hview⟩
    · intro hall
      exact Except.mapM_returns fun layer hlayer => hall layer ((List.mem_insertionSort _).mp hlayer)
  rw [VllmSharedPoolHook.attachmentViews]
  cases htensor : state.tensor with
  | none =>
    simp only [Except.bind_eq_ok, reduceCtorEq, and_false, exists_false, false_and]
  | some raw =>
    simp only [Except.bind_eq_ok, Except.raiseIf_eq_ok, exists_const, not_not,
      Bool.not_eq_false, Option.some.injEq, exists_eq_left', exists_and_left, hviews]
    rw [and_left_comm (a := sameSet _ _)]

/-- **Attachment views are in bounds exactly** — the span of a tensor is that of the largest offset
any valid index has, a tensor that aliases the storage is accepted exactly when no valid index
leaves it, and `attachment_views` succeeds exactly when that holds of the tensors of all layers. -/
theorem attachmentViews_exact (I : Interpreter) (hook : VllmSharedPoolHook) :
    (∀ tensor : KvTensor, tensor.Strided → ∃ greatest,
        IsGreatest (offsets tensor.shape tensor.stride) greatest ∧
          tensorSpanBytes tensor = .ok ((1 + greatest) * tensor.elementSize)) ∧
      (∀ (rawBase : ℤ) (kvCaches : KvCaches) (layer : String × String × ℕ) (tensor : KvTensor),
        kvCaches.lookup layer.1 = some tensor → tensor.storagePtr = rawBase → tensor.Strided →
          ((∃ view, hook.attachmentView I rawBase kvCaches layer = .ok view) ↔
            tensor.InBounds rawBase hook.expectedBytes)) ∧
      ∀ (state : HookState) (kvCaches : KvCaches),
        (∃ views, hook.attachmentViews I state kvCaches = .ok views) ↔
          state.used = true ∧ ∃ raw, state.tensor = some raw ∧
            raw.nbytes = hook.expectedBytes ∧
            sameSet (kvCaches.map Prod.fst) hook.expectedLayers ∧
            ∀ layer ∈ hook.layerIdentity, ∃ tensor, kvCaches.lookup layer.1 = some tensor ∧
              tensor.storagePtr = raw.dataPtr ∧ tensor.Strided ∧
              tensor.InBounds raw.dataPtr hook.expectedBytes := by
  refine ⟨fun tensor h => ⟨_, h.isGreatest, tensorSpanBytes_eq_ok.mpr ⟨h, rfl⟩⟩, ?_,
    attachmentViews_returns_iff I hook⟩
  intro rawBase kvCaches layer tensor hlookup halias hstrided
  rw [attachmentView_returns_iff]
  constructor
  · rintro ⟨tensor', hlookup', -, -, hbounds⟩
    obtain rfl := Option.some.inj (hlookup.symm.trans hlookup')
    exact hbounds
  · exact fun hbounds => ⟨tensor, hlookup, halias, hstrided, hbounds⟩

/-- A hook of one layer, over sixteen bytes. -/
def oneLayerHook : VllmSharedPoolHook where
  expectedBytes := 16
  maximumBlocks := 1
  bindingId := "pool"
  layerIdentity := [("layer.0", "group", 0)]
  startupMappedBlocks := none

/-- Two rows of two elements, four elements apart: twelve bytes from an offset of the storage. -/
def rowsAt (offset : ℤ) : KvTensor where
  storagePtr := 4096
  dataPtr := 4096 + offset
  shape := [2, 2]
  stride := [4, 1]
  elementSize := 2

/-- The rows may end where the storage does, and no later. -/
example :
    oneLayerHook.attachmentViews ClientCall.heartbeatClient.interpreter (allocated 16)
        [("layer.0", rowsAt 4)] =
      .ok [.obj [("group_id", .str "group"),
        ("layer", .obj [("index", .int 0), ("name", .str "layer.0")]),
        ("offset_bytes", .int 4), ("length_bytes", .int 12)]] ∧
    ¬∃ views, oneLayerHook.attachmentViews ClientCall.heartbeatClient.interpreter (allocated 16)
        [("layer.0", rowsAt 6)] = .ok views := by
  refine ⟨rfl, ?_⟩
  rintro ⟨views, hviews⟩
  cases hviews

end Kapsl.Vllm
