import Mathlib.Data.List.Basic
import Kapsl.Vllm.Accepted
import Kapsl.Vllm.Client

/-!
# Vllm/Vmm — the worker's elastic CUDA import

`VllmSharedPoolHook.apply_worker_resize` over `CudaVmmBuffer` over `_ManagedVmmImport`: import and
map the segments of a growth, unmap and release those of a shrink, with the rollback each layer has.
`Cuda` is what the driver does during one call: which of the numbered driver calls fail, a range
that is already mapped among the reasons, the handles the imports return, which segments read back
as zero, and which calls of the zero check raise.  Addresses are offsets from the reserved pointer.

* `Hook.applyWorkerResize_cases` — all the ways a call can end, with the driver it leaves.
-/

namespace Kapsl.Vllm

open Except (raiseIf)

/-! ## The driver -/

/-- An imported allocation, mapped at an offset. -/
structure VmmMapping where
  offset : ℕ
  length : ℕ
  handle : ℕ
  deriving DecidableEq, Repr

/-- The mappings and the open allocation handles of the process. -/
structure VmmDriver where
  mappings : List VmmMapping
  handles : List ℕ
  deriving DecidableEq, Repr

namespace VmmDriver

/-- Before the import. -/
def empty : VmmDriver := ⟨[], []⟩

/-- `cuMemImportFromShareableHandle`. -/
def importFd (d : VmmDriver) (handle : ℕ) : VmmDriver := { d with handles := handle :: d.handles }

/-- `cuMemMap`. -/
def map (d : VmmDriver) (m : VmmMapping) : VmmDriver := { d with mappings := m :: d.mappings }

/-- `cuMemUnmap`. -/
def unmap (d : VmmDriver) (m : VmmMapping) : VmmDriver :=
  { d with mappings := d.mappings.erase m }

/-- `cuMemRelease`. -/
def releaseHandle (d : VmmDriver) (handle : ℕ) : VmmDriver :=
  { d with handles := d.handles.erase handle }

end VmmDriver

/-- What CUDA does during one call.  Calls that undo others always succeed and are not numbered. -/
structure Cuda where
  /-- The `torch.cuda.synchronize` before the driver calls raises. -/
  syncFails : Bool
  /-- The CUDA error of the `n`-th driver call, if it fails. -/
  fault : ℕ → Option ℕ
  /-- The handle the `n`-th driver call returns, if it is an import. -/
  handle : ℕ → ℕ
  /-- `count_nonzero` of the segment raises. -/
  countFails : Segment → Bool
  /-- `count_nonzero` finds the segment zeroed. -/
  zeroed : Segment → Bool
  /-- The `torch.cuda.synchronize` behind the zero check raises. -/
  settleFails : Bool

/-- What the hook was built from: the binding, conformance mode, and how the interpreter prints a
string. -/
structure VmmConfig where
  binding : ElasticBinding
  conformance : Bool
  /-- `repr(text)`. -/
  repr : String → String

/-- The exception of a failed driver call. -/
def cudaError (operation : String) (code : ℕ) : PyError :=
  .sharedPoolImportError s!"failed to {operation}: CUDA error {code}"

/-! ## `_ManagedVmmImport` -/

/-- An entry of `_ManagedVmmImport.segments`. -/
structure VmmSegment where
  segmentId : String
  mapping : VmmMapping
  deriving DecidableEq, Repr

/-- The bytes of an entry. -/
def VmmSegment.span (entry : VmmSegment) : ℕ × ℕ := (entry.mapping.offset, entry.mapping.length)

namespace ManagedVmmImport

/-- The check of one segment in `map_segments`. -/
def rejects (b : ElasticBinding) (table : List VmmSegment) (handles : List Fd) (segment : Segment) :
    Bool :=
  segment.segmentId = "" || (table.map VmmSegment.segmentId).contains segment.segmentId ||
    segment.lengthBytes = 0 || segment.offsetBytes % b.granularity ≠ 0 ||
    segment.lengthBytes % b.granularity ≠ 0 ||
    segment.offsetBytes + segment.lengthBytes > b.virtualBytes ||
    segment.handleIndex ≥ handles.length

/-- The handler of `map_segments`; `imported` has the newest entry first. -/
def rollback (imported : List VmmSegment) (d : VmmDriver) : VmmDriver :=
  imported.foldl (fun d entry => (d.unmap entry.mapping).releaseHandle entry.mapping.handle) d

/-- The loop of `map_segments`, with the number of the next driver call and the entries imported so
far, newest first. -/
def importEach (cuda : Cuda) (b : ElasticBinding) (table : List VmmSegment) (handles : List Fd) :
    List Segment → ℕ → List VmmSegment → VmmDriver → Outcome VmmDriver (List VmmSegment)
  | [], _, imported, d => (.ok imported.reverse, d)
  | segment :: rest, n, imported, d =>
    if rejects b table handles segment then
      (.error (.sharedPoolImportError "invalid CUDA VMM segment descriptor"), rollback imported d)
    else
      match cuda.fault n with
      | some code =>
        (.error (cudaError "import CUDA VMM allocation handle" code), rollback imported d)
      | none =>
        let handle := cuda.handle n
        let mapping : VmmMapping := ⟨segment.offsetBytes, segment.lengthBytes, handle⟩
        let d := d.importFd handle
        match cuda.fault (n + 1) with
        | some code =>
          (.error (cudaError "map CUDA VMM allocation" code),
            rollback imported (d.releaseHandle handle))
        | none =>
          let d := d.map mapping
          match cuda.fault (n + 2) with
          | some code =>
            (.error (cudaError "set CUDA VMM access" code),
              rollback imported ((d.unmap mapping).releaseHandle handle))
          | none =>
            importEach cuda b table handles rest (n + 3) (⟨segment.segmentId, mapping⟩ :: imported) d

/-- `sorted(segments, key=lambda item: int(item["offset_bytes"]))`. -/
def sortSegments (segments : List Segment) : List Segment :=
  segments.insertionSort fun s t => s.offsetBytes ≤ t.offsetBytes

/-- The lookup of one segment in `unmap_segments`. -/
def resolve (table : List VmmSegment) (segment : Segment) : Except PyError VmmSegment :=
  match table.find? fun entry => entry.segmentId == segment.segmentId with
  | some entry =>
    if entry.span = segment.span then .ok entry
    else .error (.sharedPoolImportError "CUDA VMM unmap does not match an imported segment")
  | none => .error (.sharedPoolImportError "CUDA VMM unmap does not match an imported segment")

/-- `sorted(resolved, key=lambda item: item[1], reverse=True)`. -/
def sortResolved (resolved : List VmmSegment) : List VmmSegment :=
  resolved.insertionSort fun s t => s.mapping.offset ≥ t.mapping.offset

/-- The loop of `unmap_segments`, with the number of the next driver call. -/
def unmapEach (cuda : Cuda) :
    List VmmSegment → ℕ → List VmmSegment → VmmDriver →
      Outcome (List VmmSegment × VmmDriver) Unit
  | [], _, table, d => (.ok (), table, d)
  | entry :: rest, n, table, d =>
    match cuda.fault n with
    | some code => (.error (cudaError "unmap CUDA VMM range" code), table, d)
    | none =>
      let d := d.unmap entry.mapping
      match cuda.fault (n + 1) with
      | some code => (.error (cudaError "release CUDA VMM handle" code), table, d)
      | none =>
        unmapEach cuda rest (n + 2) (table.erase entry) (d.releaseHandle entry.mapping.handle)

end ManagedVmmImport

/-! ## `CudaVmmBuffer` and the hook -/

/-- The key `apply_worker_resize` remembers an operation by. -/
structure ResizeKey where
  generation : ℕ
  stage : ResizeStage
  targetBytes : ℕ
  segments : List Segment
  deriving DecidableEq

/-- `target_bytes`. -/
def ResizeOperation.targetBytes (op : ResizeOperation) : ℕ := op.targetBlockCount * op.bytesPerBlock

/-- `operation_key`. -/
def ResizeOperation.key (op : ResizeOperation) : ResizeKey :=
  ⟨op.resizeGeneration, op.stage, op.targetBytes, op.segments⟩

/-- `VllmSharedPoolHook` over an elastic binding: the segment table, the driver, `_mapped_bytes` and
`_last_worker_resize`. -/
structure Hook where
  segments : List VmmSegment
  driver : VmmDriver
  mappedBytes : ℕ
  lastWorkerResize : Option ResizeKey
  deriving DecidableEq

namespace Hook

open ManagedVmmImport

/-- The exception of `_verify_zero_segments`. -/
def notZeroed (cfg : VmmConfig) (phase : String) (segment : Segment) : PyError :=
  .sharedPoolImportError
    ("CUDA VMM " ++ phase ++ " segment " ++ cfg.repr segment.segmentId ++ " was not zeroed")

/-- The exception `torch.cuda.synchronize` raises. -/
def syncError : PyError := .runtimeError "CUDA error: device synchronization failed"

/-- The exception `torch.count_nonzero` raises. -/
def countError : PyError := .runtimeError "CUDA error: count_nonzero failed"

/-- One turn of the loop of `_verify_zero_segments`. -/
def verifyZeroSegment (cuda : Cuda) (cfg : VmmConfig) (phase : String) (segment : Segment) :
    Except PyError Unit := do
  raiseIf (cuda.countFails segment) countError
  raiseIf (cuda.zeroed segment = false) (notZeroed cfg phase segment)

/-- `_verify_zero_segments`, if conformance mode is on. -/
def verifyZeroSegments (cuda : Cuda) (cfg : VmmConfig) (segments : List Segment) (phase : String) :
    Except PyError Unit :=
  if cfg.conformance then do
    segments.forM (verifyZeroSegment cuda cfg phase)
    raiseIf cuda.settleFails syncError
  else .ok ()

/-- `CudaVmmBuffer.map_segments`. -/
def mapSegments (cuda : Cuda) (cfg : VmmConfig) (segments : List Segment)
    (handles : List Fd) (targetBytes : ℕ) (s : Hook) : Outcome Hook Unit :=
  if targetBytes ≤ s.mappedBytes ∨ targetBytes > cfg.binding.virtualBytes then
    (.error (.sharedPoolImportError "invalid CUDA VMM growth target"), s)
  else if cuda.syncFails then (.error syncError, s)
  else
    match importEach cuda cfg.binding s.segments handles (sortSegments segments) 0 [] s.driver with
    | (.error error, d) => (.error error, { s with driver := d })
    | (.ok imported, d) =>
      let s := { s with segments := s.segments ++ imported, driver := d }
      match verifyZeroSegments cuda cfg segments "grow" with
      | .error error => (.error error, s)
      | .ok () => (.ok (), { s with mappedBytes := targetBytes })

/-- `CudaVmmBuffer.unmap_segments`. -/
def unmapSegments (cuda : Cuda) (segments : List Segment) (targetBytes : ℕ) (s : Hook) :
    Outcome Hook Unit :=
  if targetBytes = 0 ∨ targetBytes ≥ s.mappedBytes then
    (.error (.sharedPoolImportError "invalid CUDA VMM shrink target"), s)
  else if cuda.syncFails then (.error syncError, s)
  else
    match segments.mapM (resolve s.segments) with
    | .error error => (.error error, s)
    | .ok resolved =>
      match unmapEach cuda (sortResolved resolved) 0 s.segments s.driver with
      | (.error error, table, d) => (.error error, { s with segments := table, driver := d })
      | (.ok (), table, d) =>
        (.ok (), { s with segments := table, driver := d, mappedBytes := targetBytes })

/-- Remember an operation that was applied. -/
def remember (op : ResizeOperation) : Outcome Hook Unit → Outcome Hook Unit
  | (.error error, s) => (.error error, s)
  | (.ok (), s) => (.ok (), { s with lastWorkerResize := some op.key })

/-- The shrink stage of `apply_worker_resize`. -/
def unmapStage (cuda : Cuda) (op : ResizeOperation) (handles : List Fd) (s : Hook) :
    Outcome Hook Unit :=
  if handles ≠ [] then
    (.error (.sharedPoolImportError "CUDA VMM unmap must not carry handles"), s)
  else s.unmapSegments cuda op.segments op.targetBytes

/-- The mutation of `apply_worker_resize`, once the operation is known to be new. -/
def mutate (cuda : Cuda) (cfg : VmmConfig) (op : ResizeOperation)
    (handles : List Fd) (s : Hook) : Outcome Hook Unit :=
  match op.stage with
  | .mapWorkers => s.mapSegments cuda cfg op.segments handles op.targetBytes
  | .unmapWorkers => s.unmapStage cuda op handles
  | _ => (.error (.sharedPoolImportError "worker received a scheduler resize stage"), s)

/-- Whether the operation comes after the one remembered. -/
def isNew (s : Hook) (op : ResizeOperation) : Bool :=
  match s.lastWorkerResize with
  | some previous => previous.generation < op.resizeGeneration
  | none => true

/-- `apply_worker_resize`. -/
def applyWorkerResize (cuda : Cuda) (cfg : VmmConfig)
    (op : ResizeOperation) (handles : List Fd) (s : Hook) : Outcome Hook Unit :=
  if op.bindingId ≠ cfg.binding.bindingId then
    (.error (.sharedPoolImportError "resize operation targets a different binding"), s)
  else if s.lastWorkerResize = some op.key then (.ok (), s)
  else if s.isNew op = false then
    (.error (.sharedPoolImportError "worker received a non-monotonic or altered resize replay"), s)
  else remember op (s.mutate cuda cfg op handles)

/-- `CudaVmmBuffer.__init__` and the hook around it. -/
def ofBinding (cuda : Cuda) (cfg : VmmConfig) (handles : List Fd) :
    Except PyError Hook :=
  match importEach cuda cfg.binding [] handles (sortSegments cfg.binding.segments) 0 [] .empty with
  | (.error error, _) => .error error
  | (.ok imported, d) => do
    verifyZeroSegments cuda cfg cfg.binding.segments "initial"
    return { segments := imported, driver := d, mappedBytes := cfg.binding.mappedBytes,
             lastWorkerResize := none }

end Hook

/-! ## What the two loops do -/

/-- None of the next `m` driver calls fails. -/
def Cuda.Quiet (cuda : Cuda) (n m : ℕ) : Prop := ∀ k < m, cuda.fault (n + k) = none

theorem Cuda.quiet_zero {cuda : Cuda} {n : ℕ} : cuda.Quiet n 0 :=
  fun _ hk => absurd hk (Nat.not_lt_zero _)

theorem Cuda.quiet_succ {cuda : Cuda} {n m : ℕ} :
    cuda.Quiet n (m + 1) ↔ cuda.fault n = none ∧ cuda.Quiet (n + 1) m := by
  constructor
  · intro h
    refine ⟨h 0 (Nat.succ_pos m), fun k hk => ?_⟩
    rw [Nat.add_assoc, Nat.add_comm 1 k]
    exact h (k + 1) (Nat.succ_lt_succ hk)
  · rintro ⟨hzero, hrest⟩ k hk
    cases k with
    | zero => exact hzero
    | succ k =>
      rw [Nat.add_comm k 1, ← Nat.add_assoc]
      exact hrest k (Nat.lt_of_succ_lt_succ hk)

namespace ManagedVmmImport

/-- The entries the imports of `segments` create. -/
def entriesOf (cuda : Cuda) : List Segment → ℕ → List VmmSegment
  | [], _ => []
  | segment :: rest, n =>
    ⟨segment.segmentId, ⟨segment.offsetBytes, segment.lengthBytes, cuda.handle n⟩⟩ ::
      entriesOf cuda rest (n + 3)

theorem map_span_entriesOf (cuda : Cuda) (segments : List Segment) (n : ℕ) :
    (entriesOf cuda segments n).map VmmSegment.span = segments.map Segment.span := by
  induction segments generalizing n with
  | nil => rfl
  | cons segment rest ih => rw [entriesOf, List.map_cons, List.map_cons, ih]; rfl

/-- The driver once it holds the entries, imported in this order. -/
def holding (d : VmmDriver) (entries : List VmmSegment) : VmmDriver where
  mappings := (entries.map VmmSegment.mapping).reverse ++ d.mappings
  handles := (entries.map fun entry => entry.mapping.handle).reverse ++ d.handles

theorem releaseHandle_importFd (d : VmmDriver) (handle : ℕ) :
    (d.importFd handle).releaseHandle handle = d := by
  simp [VmmDriver.importFd, VmmDriver.releaseHandle]

theorem unmap_map (d : VmmDriver) (m : VmmMapping) : (d.map m).unmap m = d := by
  simp [VmmDriver.map, VmmDriver.unmap]

theorem holding_cons (d : VmmDriver) (entry : VmmSegment) (entries : List VmmSegment) :
    holding ((d.importFd entry.mapping.handle).map entry.mapping) entries =
      holding d (entry :: entries) := by
  simp [holding, VmmDriver.importFd, VmmDriver.map]

variable {cuda : Cuda} {b : ElasticBinding} {table : List VmmSegment} {handles : List Fd}

/-- **A growth that is accepted and meets no fault imports all its segments.** -/
theorem importEach_of_quiet (segments : List Segment) (n : ℕ) (imported : List VmmSegment)
    (d : VmmDriver) (haccepted : ∀ segment ∈ segments, rejects b table handles segment = false)
    (hquiet : cuda.Quiet n (3 * segments.length)) :
    importEach cuda b table handles segments n imported d =
      (.ok (imported.reverse ++ entriesOf cuda segments n),
        holding d (entriesOf cuda segments n)) := by
  induction segments generalizing n imported d with
  | nil => simp [importEach, entriesOf, holding]
  | cons segment rest ih =>
    obtain ⟨hfirst, hrest⟩ := List.forall_mem_cons.mp haccepted
    rw [List.length_cons, Nat.mul_succ, Cuda.quiet_succ, Cuda.quiet_succ, Cuda.quiet_succ] at hquiet
    obtain ⟨himport, hmap, haccess, hquiet⟩ := hquiet
    simp only [importEach, hfirst, Bool.false_eq_true, if_false, himport, hmap, haccess]
    rw [ih _ _ _ hrest hquiet, entriesOf, List.reverse_cons, List.append_assoc,
      List.singleton_append, ← holding_cons]

/-- **Any other growth raises, and its rollback undoes what was imported.** -/
theorem importEach_of_not_quiet (segments : List Segment) (n : ℕ) (imported : List VmmSegment)
    (d : VmmDriver) (h : ¬((∀ segment ∈ segments, rejects b table handles segment = false) ∧
      cuda.Quiet n (3 * segments.length))) :
    ∃ error, importEach cuda b table handles segments n imported d =
      (.error error, rollback imported d) := by
  induction segments generalizing n imported d with
  | nil => exact absurd ⟨by simp, Cuda.quiet_zero⟩ h
  | cons segment rest ih =>
    rw [importEach]
    split
    · exact ⟨_, rfl⟩
    · rename_i hfirst
      split
      · exact ⟨_, rfl⟩
      · rename_i himport
        split
        · dsimp only
          rw [releaseHandle_importFd]
          exact ⟨_, rfl⟩
        · rename_i hmap
          split
          · dsimp only
            rw [unmap_map, releaseHandle_importFd]
            exact ⟨_, rfl⟩
          · rename_i haccess
            have hrest : ¬((∀ segment ∈ rest, rejects b table handles segment = false) ∧
                cuda.Quiet (n + 3) (3 * rest.length)) := by
              rintro ⟨haccepted, hquiet⟩
              refine h ⟨List.forall_mem_cons.mpr ⟨by simpa using hfirst, haccepted⟩, ?_⟩
              rw [List.length_cons, Nat.mul_succ, Cuda.quiet_succ, Cuda.quiet_succ,
                Cuda.quiet_succ]
              exact ⟨himport, hmap, haccess, hquiet⟩
            obtain ⟨error, herror⟩ := ih (n + 3)
              (⟨segment.segmentId, ⟨segment.offsetBytes, segment.lengthBytes, cuda.handle n⟩⟩ ::
                imported)
              ((d.importFd (cuda.handle n)).map
                ⟨segment.offsetBytes, segment.lengthBytes, cuda.handle n⟩) hrest
            refine ⟨error, herror.trans ?_⟩
            rw [rollback, List.foldl_cons, unmap_map, releaseHandle_importFd, rollback]

/-- **A shrink that meets no fault unmaps and releases all its entries.** -/
theorem unmapEach_of_quiet (entries : List VmmSegment) (n : ℕ) (table : List VmmSegment)
    (d : VmmDriver) (hquiet : cuda.Quiet n (2 * entries.length)) :
    unmapEach cuda entries n table d =
      (.ok (), table.diff entries, ⟨d.mappings.diff (entries.map VmmSegment.mapping),
        d.handles.diff (entries.map fun entry => entry.mapping.handle)⟩) := by
  induction entries generalizing n table d with
  | nil => rfl
  | cons entry rest ih =>
    rw [List.length_cons, Nat.mul_succ, Cuda.quiet_succ, Cuda.quiet_succ] at hquiet
    obtain ⟨hunmap, hrelease, hquiet⟩ := hquiet
    simp only [unmapEach, hunmap, hrelease]
    rw [ih _ _ _ hquiet]
    simp only [List.diff_cons, List.map_cons, VmmDriver.unmap, VmmDriver.releaseHandle]

/-- Any other shrink raises. -/
theorem unmapEach_of_not_quiet (entries : List VmmSegment) (n : ℕ) (table : List VmmSegment)
    (d : VmmDriver) (h : ¬cuda.Quiet n (2 * entries.length)) :
    ∃ error, (unmapEach cuda entries n table d).1 = .error error := by
  induction entries generalizing n table d with
  | nil => exact absurd Cuda.quiet_zero h
  | cons entry rest ih =>
    rw [unmapEach]
    split
    · exact ⟨_, rfl⟩
    · rename_i hunmap
      split
      · exact ⟨_, rfl⟩
      · rename_i hrelease
        refine ih _ _ _ fun hrest => h ?_
        rw [List.length_cons, Nat.mul_succ, Cuda.quiet_succ, Cuda.quiet_succ]
        exact ⟨hunmap, hrelease, hrest⟩

/-- A shrink whose first driver call fails has done nothing. -/
theorem unmapEach_of_fault {entries : List VmmSegment} {n code : ℕ} (hne : entries ≠ [])
    (hfault : cuda.fault n = some code) (d : VmmDriver) :
    (unmapEach cuda entries n table d).2 = (table, d) := by
  obtain ⟨entry, rest, rfl⟩ := List.exists_cons_of_ne_nil hne
  simp only [unmapEach, hfault]

/-- A shrink only takes mappings away. -/
theorem unmapEach_sublist (entries : List VmmSegment) (n : ℕ) (table : List VmmSegment)
    (d : VmmDriver) : (unmapEach cuda entries n table d).2.2.mappings.Sublist d.mappings := by
  induction entries generalizing n table d with
  | nil => exact .refl _
  | cons entry rest ih =>
    rw [unmapEach]
    split
    · exact .refl _
    · split
      · exact List.erase_sublist
      · exact (ih _ _ _).trans List.erase_sublist

/-- **A shrink keeps every mapping that none of its entries names.** -/
theorem mem_unmapEach {m : VmmMapping} (entries : List VmmSegment) (n : ℕ)
    (table : List VmmSegment) (d : VmmDriver) (hm : m ∈ d.mappings)
    (hne : ∀ entry ∈ entries, m ≠ entry.mapping) :
    m ∈ (unmapEach cuda entries n table d).2.2.mappings := by
  induction entries generalizing n table d with
  | nil => exact hm
  | cons entry rest ih =>
    obtain ⟨hfirst, hrest⟩ := List.forall_mem_cons.mp hne
    have herase : m ∈ d.mappings.erase entry.mapping := (List.mem_erase_of_ne hfirst).mpr hm
    rw [unmapEach]
    split
    · exact hm
    · split
      · exact herase
      · exact ih _ _ _ herase hrest

/-- The entry a segment is resolved to. -/
theorem resolve_eq_ok {segment : Segment} {entry : VmmSegment}
    (h : resolve table segment = .ok entry) :
    entry ∈ table ∧ entry.segmentId = segment.segmentId ∧ entry.span = segment.span := by
  unfold resolve at h
  split at h
  · rename_i found hfound
    split at h
    · rename_i hspan
      obtain rfl := Except.ok.inj h
      exact ⟨List.mem_of_find?_eq_some hfound, by simpa using List.find?_some hfound, hspan⟩
    · exact absurd h nofun
  · exact absurd h nofun

/-- **The entries a shrink resolves to are recorded, and are its segments.** -/
theorem mapM_resolve_eq_ok {segments : List Segment} {resolved : List VmmSegment}
    (h : segments.mapM (resolve table) = .ok resolved) :
    (∀ entry ∈ resolved, entry ∈ table) ∧
      resolved.map VmmSegment.segmentId = segments.map Segment.segmentId ∧
      resolved.map VmmSegment.span = segments.map Segment.span := by
  have hpairs := (Except.mapM_eq_ok.mp h).imp fun _ _ => resolve_eq_ok
  clear h
  induction hpairs with
  | nil => exact ⟨by simp, rfl, rfl⟩
  | cons hpair _ ih =>
    obtain ⟨hmem, hid, hspan⟩ := hpair
    obtain ⟨hmems, hids, hspans⟩ := ih
    refine ⟨List.forall_mem_cons.mpr ⟨hmem, hmems⟩, ?_, ?_⟩
    · rw [List.map_cons, List.map_cons, hid, hids]
    · rw [List.map_cons, List.map_cons, hspan, hspans]

theorem sortSegments_perm (segments : List Segment) : (sortSegments segments).Perm segments :=
  List.perm_insertionSort _ segments

theorem sortResolved_perm (resolved : List VmmSegment) : (sortResolved resolved).Perm resolved :=
  List.perm_insertionSort _ resolved

end ManagedVmmImport

/-! ## How a call ends -/

namespace Hook

open ManagedVmmImport

variable {cuda : Cuda} {cfg : VmmConfig} {op : ResizeOperation} {handles : List Fd} {s : Hook}

/-- The growth passes the checks of both layers and the driver imports all its segments. -/
structure Imports (cuda : Cuda) (cfg : VmmConfig) (op : ResizeOperation) (handles : List Fd)
    (s : Hook) : Prop where
  target_gt : s.mappedBytes < op.targetBytes
  target_le : op.targetBytes ≤ cfg.binding.virtualBytes
  synchronized : cuda.syncFails = false
  accepted : ∀ segment ∈ op.segments, rejects cfg.binding s.segments handles segment = false
  quiet : cuda.Quiet 0 (3 * op.segments.length)

/-- Conformance mode is on, and a segment is not zeroed or a call of the check raises. -/
def Unverified (cuda : Cuda) (cfg : VmmConfig) (op : ResizeOperation) : Prop :=
  cfg.conformance = true ∧
    ((∃ segment ∈ op.segments, cuda.countFails segment = true ∨ cuda.zeroed segment = false) ∨
      cuda.settleFails = true)

/-- The shrink passes the checks of both layers; `resolved` are the entries it is about. -/
structure Resolves (cuda : Cuda) (op : ResizeOperation) (handles : List Fd) (s : Hook)
    (resolved : List VmmSegment) : Prop where
  no_handles : handles = []
  target_pos : 0 < op.targetBytes
  target_lt : op.targetBytes < s.mappedBytes
  synchronized : cuda.syncFails = false
  resolved : op.segments.mapM (resolve s.segments) = .ok resolved

/-- The entries a growth adds. -/
def added (cuda : Cuda) (op : ResizeOperation) : List VmmSegment :=
  entriesOf cuda (sortSegments op.segments) 0

/-- The hook once the segments of a growth are imported and recorded. -/
def grown (cuda : Cuda) (op : ResizeOperation) (s : Hook) : Hook :=
  { s with segments := s.segments ++ added cuda op, driver := holding s.driver (added cuda op) }

/-- The hook once the entries of a shrink are unmapped, released and forgotten. -/
def shrunk (resolved : List VmmSegment) (s : Hook) : Hook :=
  { s with
    segments := s.segments.diff (sortResolved resolved)
    driver :=
      { mappings := s.driver.mappings.diff ((sortResolved resolved).map VmmSegment.mapping)
        handles := s.driver.handles.diff
          ((sortResolved resolved).map fun entry => entry.mapping.handle) } }

theorem verifyZeroSegment_eq_ok {phase : String} {segment : Segment} :
    verifyZeroSegment cuda cfg phase segment = .ok () ↔
      ¬(cuda.countFails segment = true ∨ cuda.zeroed segment = false) := by
  simp only [verifyZeroSegment, Except.bind_eq_ok, Except.raiseIf_eq_ok, exists_const, not_or]

/-- **The zero check passes** exactly when it is off, or finds nothing and no call of it raises. -/
theorem verifyZeroSegments_eq_ok {phase : String} :
    verifyZeroSegments cuda cfg op.segments phase = .ok () ↔ ¬Unverified cuda cfg op := by
  rw [verifyZeroSegments, Unverified]
  split_ifs with hconformance
  · simp only [Except.bind_eq_ok, Except.forM_eq_ok, verifyZeroSegment_eq_ok, Except.raiseIf_eq_ok,
      exists_const, hconformance, true_and, not_or, not_exists, not_and]
  · simp [hconformance]

/-- **A growth that is not imported whole raises and leaves the hook as it was.** -/
theorem mapSegments_of_not_imports (h : ¬Imports cuda cfg op handles s) :
    ∃ error, s.mapSegments cuda cfg op.segments handles op.targetBytes = (.error error, s) := by
  unfold mapSegments
  split
  · exact ⟨_, rfl⟩
  · rename_i htarget
    split
    · exact ⟨_, rfl⟩
    · rename_i hsync
      have hperm := sortSegments_perm op.segments
      obtain ⟨error, herror⟩ := @importEach_of_not_quiet cuda cfg.binding s.segments handles
        (sortSegments op.segments) 0 [] s.driver fun hok => h ⟨by omega, by omega, by simpa using hsync,
          fun segment hmem => hok.1 segment (hperm.mem_iff.mpr hmem), hperm.length_eq ▸ hok.2⟩
      rw [herror]
      exact ⟨error, rfl⟩

theorem importEach_of_imports (h : Imports cuda cfg op handles s) :
    importEach cuda cfg.binding s.segments handles (sortSegments op.segments) 0 [] s.driver =
      (.ok (added cuda op), holding s.driver (added cuda op)) := by
  have hperm := sortSegments_perm op.segments
  rw [importEach_of_quiet _ _ _ _ (fun segment hmem => h.accepted segment (hperm.mem_iff.mp hmem))
    (hperm.length_eq ▸ h.quiet)]
  rfl

/-- **A growth that is imported whole and fails the zero check raises with the segments in place.** -/
theorem mapSegments_of_unverified (h : Imports cuda cfg op handles s)
    (hzero : Unverified cuda cfg op) :
    ∃ error, s.mapSegments cuda cfg op.segments handles op.targetBytes =
      (.error error, s.grown cuda op) := by
  obtain ⟨error, herror⟩ :
      ∃ error, verifyZeroSegments cuda cfg op.segments "grow" = .error error := by
    cases hverify : verifyZeroSegments cuda cfg op.segments "grow" with
    | ok u => exact absurd hzero (verifyZeroSegments_eq_ok.mp hverify)
    | error error => exact ⟨error, rfl⟩
  refine ⟨error, ?_⟩
  have htarget : ¬(op.targetBytes ≤ s.mappedBytes ∨ op.targetBytes > cfg.binding.virtualBytes) := by
    have := h.target_gt
    have := h.target_le
    omega
  simp only [mapSegments, if_neg htarget, h.synchronized, Bool.false_eq_true, if_false,
    importEach_of_imports h, herror, grown]

/-- **A growth that is imported whole and passes the zero check moves the mapped prefix.** -/
theorem mapSegments_of_imports (h : Imports cuda cfg op handles s)
    (hzero : ¬Unverified cuda cfg op) :
    s.mapSegments cuda cfg op.segments handles op.targetBytes =
      (.ok (), { s.grown cuda op with mappedBytes := op.targetBytes }) := by
  have htarget : ¬(op.targetBytes ≤ s.mappedBytes ∨ op.targetBytes > cfg.binding.virtualBytes) := by
    have := h.target_gt
    have := h.target_le
    omega
  simp only [mapSegments, if_neg htarget, h.synchronized, Bool.false_eq_true, if_false,
    importEach_of_imports h, verifyZeroSegments_eq_ok.mpr hzero, grown]

/-- **A shrink that does not resolve raises and leaves the hook as it was.** -/
theorem unmapStage_of_not_resolves (h : ∀ resolved, ¬Resolves cuda op handles s resolved) :
    ∃ error, s.unmapStage cuda op handles = (.error error, s) := by
  unfold unmapStage unmapSegments
  split
  · exact ⟨_, rfl⟩
  · rename_i hhandles
    split
    · exact ⟨_, rfl⟩
    · rename_i htarget
      split
      · exact ⟨_, rfl⟩
      · rename_i hsync
        split
        · exact ⟨_, rfl⟩
        · rename_i resolved hresolved
          exact absurd ⟨not_not.mp hhandles, by omega, by omega, by simpa using hsync, hresolved⟩
            (h resolved)

theorem unmapStage_of_resolves {resolved : List VmmSegment}
    (h : Resolves cuda op handles s resolved) :
    s.unmapStage cuda op handles =
      match unmapEach cuda (sortResolved resolved) 0 s.segments s.driver with
      | (.error error, table, d) => (.error error, { s with segments := table, driver := d })
      | (.ok (), table, d) =>
        (.ok (), { s with segments := table, driver := d, mappedBytes := op.targetBytes }) := by
  have htarget : ¬(op.targetBytes = 0 ∨ op.targetBytes ≥ s.mappedBytes) := by
    have := h.target_pos
    have := h.target_lt
    omega
  simp only [unmapStage, h.no_handles, ne_eq, not_true_eq_false, if_false, unmapSegments,
    if_neg htarget, h.synchronized, Bool.false_eq_true, h.resolved]

theorem length_sortResolved {resolved : List VmmSegment}
    (h : Resolves cuda op handles s resolved) :
    (sortResolved resolved).length = op.segments.length := by
  rw [(sortResolved_perm resolved).length_eq]
  have hids := congrArg List.length (mapM_resolve_eq_ok h.resolved).2.1
  rwa [List.length_map, List.length_map] at hids

/-- **A shrink that resolves and meets no fault moves the mapped prefix.** -/
theorem unmapStage_of_quiet {resolved : List VmmSegment}
    (h : Resolves cuda op handles s resolved) (hquiet : cuda.Quiet 0 (2 * op.segments.length)) :
    s.unmapStage cuda op handles =
      (.ok (), { s.shrunk resolved with mappedBytes := op.targetBytes }) := by
  rw [← length_sortResolved h] at hquiet
  rw [unmapStage_of_resolves h, unmapEach_of_quiet _ _ _ _ hquiet]
  rfl

/-- **A shrink that resolves and meets a fault raises**, with what its loop left behind. -/
theorem unmapStage_of_not_quiet {resolved : List VmmSegment}
    (h : Resolves cuda op handles s resolved) (hquiet : ¬cuda.Quiet 0 (2 * op.segments.length)) :
    ∃ error, s.unmapStage cuda op handles =
      (.error error, { s with
        segments := (unmapEach cuda (sortResolved resolved) 0 s.segments s.driver).2.1
        driver := (unmapEach cuda (sortResolved resolved) 0 s.segments s.driver).2.2 }) := by
  rw [← length_sortResolved h] at hquiet
  obtain ⟨error, herror⟩ := unmapEach_of_not_quiet _ _ s.segments s.driver hquiet
  refine ⟨error, ?_⟩
  rw [unmapStage_of_resolves h]
  split
  · rename_i heq
    rw [heq] at herror ⊢
    rw [Except.error.inj herror]
  · rename_i heq
    rw [heq] at herror
    exact absurd herror nofun

/-- The operation is for this binding and comes after the one remembered. -/
def Pending (cfg : VmmConfig) (op : ResizeOperation) (s : Hook) : Prop :=
  op.bindingId = cfg.binding.bindingId ∧ s.isNew op = true

theorem Pending.ne_key (h : Pending cfg op s) : s.lastWorkerResize ≠ some op.key := by
  intro hlast
  have hnew := h.2
  simp only [isNew, hlast, decide_eq_true_iff] at hnew
  exact absurd hnew (lt_irrefl _)

/-- The ways `apply_worker_resize` can end. -/
inductive Ends (cuda : Cuda) (cfg : VmmConfig) (op : ResizeOperation) (handles : List Fd)
    (s : Hook) : Outcome Hook Unit → Prop
  /-- An exact replay. -/
  | replayed (h : s.lastWorkerResize = some op.key) : Ends cuda cfg op handles s (.ok (), s)
  /-- A check or a driver call failed, and nothing is left of the attempt. -/
  | refused (error : PyError) : Ends cuda cfg op handles s (.error error, s)
  | mapped (hp : Pending cfg op s) (hstage : op.stage = .mapWorkers)
      (h : Imports cuda cfg op handles s) (hzero : ¬Unverified cuda cfg op) :
      Ends cuda cfg op handles s (.ok (), { s.grown cuda op with
        mappedBytes := op.targetBytes, lastWorkerResize := some op.key })
  /-- The segments are in place, but the zero check failed. -/
  | unverified (error : PyError) (hp : Pending cfg op s) (hstage : op.stage = .mapWorkers)
      (h : Imports cuda cfg op handles s) (hzero : Unverified cuda cfg op) :
      Ends cuda cfg op handles s (.error error, s.grown cuda op)
  | unmapped (resolved : List VmmSegment) (hp : Pending cfg op s)
      (hstage : op.stage = .unmapWorkers) (h : Resolves cuda op handles s resolved)
      (hquiet : cuda.Quiet 0 (2 * op.segments.length)) :
      Ends cuda cfg op handles s (.ok (), { s.shrunk resolved with
        mappedBytes := op.targetBytes, lastWorkerResize := some op.key })
  /-- A driver call failed in the middle of a shrink. -/
  | interrupted (error : PyError) (resolved : List VmmSegment) (hp : Pending cfg op s)
      (hstage : op.stage = .unmapWorkers) (h : Resolves cuda op handles s resolved)
      (hquiet : ¬cuda.Quiet 0 (2 * op.segments.length)) :
      Ends cuda cfg op handles s (.error error, { s with
        segments := (unmapEach cuda (sortResolved resolved) 0 s.segments s.driver).2.1
        driver := (unmapEach cuda (sortResolved resolved) 0 s.segments s.driver).2.2 })

/-- A call that has something to apply. -/
theorem applyWorkerResize_of_pending (h : Pending cfg op s) :
    s.applyWorkerResize cuda cfg op handles = remember op (s.mutate cuda cfg op handles) := by
  simp only [applyWorkerResize, h.1, ne_eq, not_true_eq_false, if_false, h.ne_key, h.2,
    Bool.true_eq_false]

/-- **Every call ends in one of these ways.** -/
theorem applyWorkerResize_cases (cuda : Cuda) (cfg : VmmConfig) (op : ResizeOperation)
    (handles : List Fd) (s : Hook) :
    Ends cuda cfg op handles s (s.applyWorkerResize cuda cfg op handles) := by
  by_cases hp : Pending cfg op s
  · rw [applyWorkerResize_of_pending hp]
    cases hstage : op.stage with
    | mapWorkers =>
      simp only [mutate, hstage]
      by_cases h : Imports cuda cfg op handles s
      · by_cases hzero : Unverified cuda cfg op
        · obtain ⟨error, herror⟩ := mapSegments_of_unverified h hzero
          rw [herror]
          exact .unverified error hp hstage h hzero
        · rw [mapSegments_of_imports h hzero]
          exact .mapped hp hstage h hzero
      · obtain ⟨error, herror⟩ := mapSegments_of_not_imports h
        rw [herror]
        exact .refused error
    | unmapWorkers =>
      simp only [mutate, hstage]
      by_cases hresolves : ∃ resolved, Resolves cuda op handles s resolved
      · obtain ⟨resolved, h⟩ := hresolves
        by_cases hquiet : cuda.Quiet 0 (2 * op.segments.length)
        · rw [unmapStage_of_quiet h hquiet]
          exact .unmapped resolved hp hstage h hquiet
        · obtain ⟨error, herror⟩ := unmapStage_of_not_quiet h hquiet
          rw [herror]
          exact .interrupted error resolved hp hstage h hquiet
      · obtain ⟨error, herror⟩ := unmapStage_of_not_resolves (not_exists.mp hresolves)
        rw [herror]
        exact .refused error
    | activateScheduler =>
      simp only [mutate, hstage]
      exact .refused _
    | retireScheduler =>
      simp only [mutate, hstage]
      exact .refused _
  · unfold applyWorkerResize
    split
    · exact .refused _
    · rename_i hbinding
      split
      · rename_i hlast
        exact .replayed hlast
      · split
        · exact .refused _
        · rename_i hnew
          exact absurd ⟨not_not.mp hbinding, by simpa using hnew⟩ hp

/-- What `CudaVmmBuffer.__init__` builds. -/
theorem ofBinding_eq_ok (h : ofBinding cuda cfg handles = .ok s) :
    s = { segments := entriesOf cuda (sortSegments cfg.binding.segments) 0
          driver := holding .empty (entriesOf cuda (sortSegments cfg.binding.segments) 0)
          mappedBytes := cfg.binding.mappedBytes
          lastWorkerResize := none } := by
  unfold ofBinding at h
  by_cases hok : (∀ segment ∈ sortSegments cfg.binding.segments,
      rejects cfg.binding [] handles segment = false) ∧
      cuda.Quiet 0 (3 * (sortSegments cfg.binding.segments).length)
  · rw [importEach_of_quiet _ _ _ _ hok.1 hok.2] at h
    simp only [List.reverse_nil, List.nil_append, Except.bind_eq_ok, Except.pure_eq_ok] at h
    obtain ⟨-, -, rfl⟩ := h
    rfl
  · obtain ⟨error, herror⟩ := importEach_of_not_quiet _ _ [] .empty hok
    rw [herror] at h
    exact absurd h nofun

/-- **A shrink splits the table** into the entries it resolved and the rest. -/
theorem perm_resolved_diff {resolved : List VmmSegment} (hvalid : op.Valid)
    (hstage : op.stage = .unmapWorkers) (h : Resolves cuda op handles s resolved) :
    (sortResolved resolved ++ s.segments.diff (sortResolved resolved)).Perm s.segments := by
  obtain ⟨hmem, hids, -⟩ := mapM_resolve_eq_ok h.resolved
  have hperm := sortResolved_perm resolved
  have hnodup : (sortResolved resolved).Nodup := by
    refine hperm.nodup_iff.mpr (List.Nodup.of_map VmmSegment.segmentId ?_)
    rw [hids]
    exact (hvalid.cover (by rw [hstage]; rfl)).ids
  have hsub : (sortResolved resolved).Subperm s.segments :=
    List.subperm_of_subset hnodup fun entry hentry => hmem entry (hperm.mem_iff.mp hentry)
  exact List.subperm_append_diff_self_of_count_le fun entry _ => hsub.count_le entry

/-- The spans a shrink resolves to are those of its segments. -/
theorem span_sortResolved_perm {resolved : List VmmSegment}
    (h : Resolves cuda op handles s resolved) :
    ((sortResolved resolved).map VmmSegment.span).Perm (op.segments.map Segment.span) := by
  rw [← (mapM_resolve_eq_ok h.resolved).2.2]
  exact (sortResolved_perm resolved).map _

/-- The spans a growth adds are those of its segments. -/
theorem span_added_perm (cuda : Cuda) (op : ResizeOperation) :
    ((added cuda op).map VmmSegment.span).Perm (op.segments.map Segment.span) := by
  rw [added, map_span_entriesOf]
  exact (sortSegments_perm op.segments).map _

end Hook

/-! ## Where an accepted operation starts and ends -/

namespace ResizeOperation.Valid

variable {op : ResizeOperation}

/-- The segments of a growth tile what lies between the old and the new size. -/
theorem cover_map (h : op.Valid) (hstage : op.stage = .mapWorkers) :
    Segment.Cover op.segments (op.fromBlockCount * op.bytesPerBlock) op.targetBytes := by
  have hlt : op.fromBlockCount < op.targetBlockCount := h.direction.mp (by rw [hstage]; rfl)
  have hcover := h.cover (by rw [hstage]; rfl)
  rwa [start, stop, min_eq_left hlt.le, max_eq_right hlt.le] at hcover

/-- The segments of a shrink tile what lies between the new and the old size. -/
theorem cover_unmap (h : op.Valid) (hstage : op.stage = .unmapWorkers) :
    Segment.Cover op.segments op.targetBytes (op.fromBlockCount * op.bytesPerBlock) := by
  have hle : op.targetBlockCount ≤ op.fromBlockCount := by
    by_contra hlt
    exact absurd (h.direction.mpr (not_le.mp hlt)) (by rw [hstage]; exact nofun)
  have hcover := h.cover (by rw [hstage]; rfl)
  rwa [start, stop, min_eq_right hle, max_eq_left hle] at hcover

end ResizeOperation.Valid

end Kapsl.Vllm
