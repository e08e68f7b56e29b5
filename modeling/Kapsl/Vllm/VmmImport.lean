import Kapsl.Lib.Attempt
import Kapsl.Vllm.Vmm

/-!
# Vllm/VmmImport — `_ManagedVmmImport.map_segments` is all or nothing

`Vllm/Vmm` imports segments that were validated; here a segment is any mapping, so reading one of
its fields may itself raise, and the undo calls of the driver may fail as well.  The import maps at
addresses, `pointer + offset`.

Three handlers have to compose: access rights undo their mapping, a mapping undoes its handle, and
the call undoes all segments before.  Each level returns the driver it found (`map_ends`,
`mapSegment_ends`, `rollback_ends`); `mapSegments_all_or_nothing` is the last of them.
-/

namespace Kapsl.Vllm

/-! ## Segments and the driver -/

/-- What `map_segments` may raise; `ZeroDivisionError` and `OverflowError` are not among the
exceptions of the connector. -/
inductive VmmError
  | python (error : PyError)
  | arithmeticError (message : String)
  deriving DecidableEq

/-- A segment, as the conversions of its fields read it: `str(segment["segment_id"])`,
`int(segment["offset_bytes"])`, …, each a value or an exception. -/
structure SegmentFields where
  segmentId : Except VmmError String
  offsetBytes : Except VmmError ℤ
  lengthBytes : Except VmmError ℤ
  handleIndex : Except VmmError ℤ

/-- An entry of `segments`, and of `imported`. -/
structure ImportedSegment where
  segmentId : String
  offset : ℤ
  length : ℤ
  handle : ℕ
  deriving DecidableEq

/-- An allocation mapped at an address. -/
structure AddressMapping where
  address : ℤ
  length : ℤ
  handle : ℕ
  deriving DecidableEq

/-- The driver calls of an import. -/
inductive CudaCall
  | importHandle
  | map
  | setAccess
  | unmap
  | release
  deriving DecidableEq

/-- The operation an error names. -/
def CudaCall.operation : CudaCall → String
  | importHandle => "import CUDA VMM allocation handle"
  | map => "map CUDA VMM allocation"
  | setAccess => "set CUDA VMM access"
  | unmap => "unmap CUDA VMM range"
  | release => "release CUDA VMM handle"

/-- What CUDA does: the error of the `n`-th call, if it fails, and the handle an import of a
descriptor returns. -/
structure CudaDriver where
  fault : CudaCall → ℕ → Option ℕ
  handle : ℕ → Fd → ℕ

/-- `_ManagedVmmImport` and its driver: `segments` is the table, `mappings` and `handles` what the
driver holds, newest first, and `calls` the number of driver calls made. -/
structure VmmImport where
  pointer : ℤ
  granularity : ℤ
  virtualBytes : ℤ
  segments : List ImportedSegment
  mappings : List AddressMapping
  handles : List ℕ
  calls : ℕ
  deriving DecidableEq

/-- A computation of the import. -/
abbrev Importing (α : Type) := Attempt VmmError VmmImport α

/-! ## `_CudaVmmDriver` -/

namespace CudaDriver

variable (cuda : CudaDriver)

/-- One call of the driver under `_check`. -/
def call (c : CudaCall) (effect : VmmImport → VmmImport) : Importing Unit :=
  ExceptT.mk fun s =>
    match cuda.fault c s.calls with
    | some code => (.error (.python (cudaError c.operation code)), { s with calls := s.calls + 1 })
    | none => (.ok (), effect { s with calls := s.calls + 1 })

/-- `import_fd`. -/
def importFd (descriptor : Fd) : Importing ℕ := do
  let handle ← Attempt.ask fun s => cuda.handle s.calls descriptor
  cuda.call .importHandle fun s => { s with handles := handle :: s.handles }
  pure handle

/-- `cuMemUnmap` takes the newest mapping of a range away. -/
def unmapRange (address length : ℤ) (s : VmmImport) : VmmImport :=
  { s with mappings := s.mappings.eraseP fun m => m.address = address ∧ m.length = length }

/-- `_CudaVmmDriver.map`; the unmap of its handler is not checked. -/
def map (address length : ℤ) (handle : ℕ) : Importing Unit := do
  cuda.call .map fun s => { s with mappings := ⟨address, length, handle⟩ :: s.mappings }
  tryCatch (cuda.call .setAccess id) fun error => do
    let _ ← Attempt.result (cuda.call .unmap (unmapRange address length))
    throw error

/-- `_CudaVmmDriver.unmap`. -/
def unmap (address length : ℤ) : Importing Unit := cuda.call .unmap (unmapRange address length)

/-- `release_handle`. -/
def releaseHandle (handle : ℕ) : Importing Unit :=
  cuda.call .release fun s => { s with handles := s.handles.erase handle }

end CudaDriver

/-! ## `_ManagedVmmImport.map_segments` -/

namespace VmmImport

/-- The exception of a segment that does not fit the import. -/
def invalidDescriptor : VmmError :=
  .python (.sharedPoolImportError "invalid CUDA VMM segment descriptor")

/-- The check of one segment. -/
def check (s : VmmImport) (handles : List Fd) (segmentId : String)
    (offset length handleIndex : ℤ) : Except VmmError Unit := do
  Except.raiseIf (segmentId = "" ∨ segmentId ∈ s.segments.map (·.segmentId) ∨ offset < 0 ∨
    length ≤ 0) invalidDescriptor
  Except.raiseIf (s.granularity = 0) (.arithmeticError "integer modulo by zero")
  Except.raiseIf (offset.fmod s.granularity ≠ 0 ∨ length.fmod s.granularity ≠ 0 ∨
    offset + length > s.virtualBytes ∨ handleIndex < 0 ∨ handleIndex ≥ handles.length)
    invalidDescriptor

variable (cuda : CudaDriver) (handles : List Fd)

/-- The body of the loop. -/
def mapSegment (segment : SegmentFields) : Importing ImportedSegment := do
  let segmentId ← Attempt.lift segment.segmentId
  let offset ← Attempt.lift segment.offsetBytes
  let length ← Attempt.lift segment.lengthBytes
  let handleIndex ← Attempt.lift segment.handleIndex
  let checked ← Attempt.ask fun s => s.check handles segmentId offset length handleIndex
  Attempt.lift checked
  let handle ← cuda.importFd (handles.getD handleIndex.toNat 0)
  let pointer ← Attempt.ask VmmImport.pointer
  tryCatch (cuda.map (pointer + offset) length handle) fun error => do
    cuda.releaseHandle handle
    throw error
  pure ⟨segmentId, offset, length, handle⟩

/-- The loop: what it raised, if it did, and what it has imported by then, newest first. -/
def importEach : List SegmentFields → List ImportedSegment →
    Importing (Except VmmError Unit × List ImportedSegment)
  | [], imported => pure (.ok (), imported)
  | segment :: rest, imported => do
    let mapped ← Attempt.result (mapSegment cuda handles segment)
    match mapped with
    | .error error => pure (.error error, imported)
    | .ok entry => importEach rest (entry :: imported)

/-- The handler: `unmap` and, whether or not it raised, `release_handle`. -/
def rollback : List ImportedSegment → Importing Unit
  | [] => pure ()
  | entry :: rest => do
    let pointer ← Attempt.ask VmmImport.pointer
    let unmapped ← Attempt.result (cuda.unmap (pointer + entry.offset) entry.length)
    cuda.releaseHandle entry.handle
    Attempt.lift unmapped
    rollback rest

/-- `self.segments[segment_id] = …`. -/
def record (table : List ImportedSegment) (entry : ImportedSegment) : List ImportedSegment :=
  if entry.segmentId ∈ table.map (·.segmentId) then
    table.map fun old => if old.segmentId = entry.segmentId then entry else old
  else table ++ [entry]

/-- `sorted(segments, key=lambda item: int(item["offset_bytes"]))`. -/
def sortFields (segments : List SegmentFields) : Except VmmError (List SegmentFields) := do
  let keyed ← segments.mapM fun segment => do
    let key ← segment.offsetBytes
    pure (key, segment)
  pure ((keyed.insertionSort fun s t => s.1 ≤ t.1).map Prod.snd)

/-- `map_segments`. -/
def mapSegments (segments : List SegmentFields) : Importing Unit := do
  let sorted ← Attempt.lift (sortFields segments)
  let (ended, imported) ← importEach cuda handles sorted []
  match ended with
  | .ok () =>
    modify fun s => { s with segments := imported.reverse.foldl record s.segments }
  | .error error =>
    rollback cuda imported
    throw error

end VmmImport

/-! ## What each level leaves -/

/-- **The undo calls of the driver succeed.** -/
structure CudaDriver.UndoSucceeds (cuda : CudaDriver) : Prop where
  unmap : ∀ n, cuda.fault .unmap n = none
  release : ∀ n, cuda.fault .release n = none

/-- The same import, table and driver, after more calls. -/
def SameHeld (s s' : VmmImport) : Prop := ∃ n, s' = { s with calls := n }

theorem SameHeld.refl (s : VmmImport) : SameHeld s s := ⟨s.calls, rfl⟩

theorem SameHeld.trans {s s' s'' : VmmImport} (h : SameHeld s s') (h' : SameHeld s' s'') :
    SameHeld s s'' := by
  obtain ⟨n, rfl⟩ := h
  obtain ⟨n', rfl⟩ := h'
  exact ⟨n', rfl⟩

namespace CudaDriver

variable {cuda : CudaDriver} {s : VmmImport} {c : CudaCall} {effect : VmmImport → VmmImport}
  {address length : ℤ} {handle : ℕ}

theorem call_ends : Attempt.Ends (cuda.call c effect) s
    (fun _ s' => s' = effect { s with calls := s.calls + 1 })
    (fun _ s' => (∃ n, cuda.fault c n ≠ none) ∧ SameHeld s s') := by
  obtain hnone | ⟨code, hcode⟩ := Option.eq_none_or_eq_some (cuda.fault c s.calls)
  · refine Attempt.ends_of_exec_ok (a := ()) (v := effect { s with calls := s.calls + 1 }) ?_ rfl
    show (match cuda.fault c s.calls with | some _ => _ | none => _) = _
    rw [hnone]
  · refine Attempt.ends_of_exec_error (e := .python (cudaError c.operation code))
      (v := { s with calls := s.calls + 1 }) ?_ ⟨⟨s.calls, by simp [hcode]⟩, _, rfl⟩
    show (match cuda.fault c s.calls with | some _ => _ | none => _) = _
    rw [hcode]

/-- An import adds the handle of its descriptor, or nothing. -/
theorem importFd_ends {descriptor : Fd} : Attempt.Ends (cuda.importFd descriptor) s
    (fun handle s' => (∃ n, handle = cuda.handle n descriptor) ∧
      SameHeld { s with handles := handle :: s.handles } s')
    (fun _ s' => SameHeld s s') := by
  refine .bind_ask ?_
  refine .bind (call_ends.mono (fun _ _ h => h) fun _ _ h => h.2) ?_
  rintro _ _ rfl
  exact .pure ⟨⟨_, rfl⟩, _, rfl⟩

theorem releaseHandle_ends (h : cuda.UndoSucceeds) : Attempt.Ends (cuda.releaseHandle handle) s
    (fun _ s' => SameHeld { s with handles := s.handles.erase handle } s') fun _ _ => False := by
  refine call_ends.mono ?_ ?_
  · rintro _ _ rfl
    exact ⟨_, rfl⟩
  · rintro _ _ ⟨⟨n, hn⟩, -⟩
    exact hn (h.release n)

theorem unmap_ends (h : cuda.UndoSucceeds) : Attempt.Ends (cuda.unmap address length) s
    (fun _ s' => SameHeld (unmapRange address length s) s') fun _ _ => False := by
  refine call_ends.mono ?_ ?_
  · rintro _ _ rfl
    exact ⟨_, rfl⟩
  · rintro _ _ ⟨⟨n, hn⟩, -⟩
    exact hn (h.unmap n)

/-- The newest mapping is the one its range takes away. -/
theorem unmapRange_cons : unmapRange address length
    { s with mappings := ⟨address, length, handle⟩ :: s.mappings } = s := by
  simp [unmapRange]

/-- **A mapping comes with its access rights** or not at all. -/
theorem map_ends (h : cuda.UndoSucceeds) : Attempt.Ends (cuda.map address length handle) s
    (fun _ s' => SameHeld { s with mappings := ⟨address, length, handle⟩ :: s.mappings } s')
    (fun _ s' => SameHeld s s') := by
  refine .bind (call_ends.mono (fun _ _ h => h) fun _ _ h => h.2) ?_
  rintro _ _ rfl
  refine .tryCatch (call_ends.mono ?_ fun _ _ h => h.2) ?_
  · rintro _ _ rfl
    exact ⟨_, rfl⟩
  · rintro error _ ⟨n, rfl⟩
    refine .bind ((unmap_ends h).result (S := fun _ s' => SameHeld s s') ?_ fun _ _ h => h.elim) ?_
    · rintro _ _ ⟨m, rfl⟩
      exact ⟨m, by simp [unmapRange]⟩
    · exact fun _ _ h => .throw h

end CudaDriver

namespace VmmImport

/-- The import once the driver also holds the entries, newest first. -/
def holding (s : VmmImport) (entries : List ImportedSegment) : VmmImport :=
  { s with
    mappings := (entries.map fun e => ⟨s.pointer + e.offset, e.length, e.handle⟩) ++ s.mappings
    handles := entries.map (·.handle) ++ s.handles }

/-- The fields of a segment read as those of an entry, whose handle is what an import of the
descriptor at `handle_index` returned. -/
structure Reads (cuda : CudaDriver) (handles : List Fd) (segment : SegmentFields)
    (entry : ImportedSegment) : Prop where
  segmentId : segment.segmentId = .ok entry.segmentId
  offset : segment.offsetBytes = .ok entry.offset
  length : segment.lengthBytes = .ok entry.length
  handle : ∃ (index : ℕ) (descriptor : Fd) (n : ℕ), segment.handleIndex = .ok (index : ℤ) ∧
    handles[index]? = some descriptor ∧ entry.handle = cuda.handle n descriptor

/-- A segment whose ID is not in the table. -/
def New (s : VmmImport) (entry : ImportedSegment) : Prop :=
  entry.segmentId ∉ s.segments.map (·.segmentId)

variable {cuda : CudaDriver} {handles : List Fd} {s s₀ : VmmImport}

/-- What the check lets through: a new ID, and an index of the handles. -/
theorem new_of_check {segmentId : String} {offset length handleIndex : ℤ} {u : Unit}
    (h : s.check handles segmentId offset length handleIndex = .ok u) :
    segmentId ∉ s.segments.map (·.segmentId) ∧ 0 ≤ handleIndex ∧ handleIndex < handles.length := by
  simp only [check, Except.bind_eq_ok, Except.raiseIf_eq_ok, not_or, not_lt, ge_iff_le,
    not_le] at h
  obtain ⟨_, ⟨-, hnew, -⟩, _, -, -, -, -, hnonneg, hlt⟩ := h
  exact ⟨hnew, hnonneg, hlt⟩

/-- An index in range, read as the source reads it. -/
theorem getElem?_toNat {index : ℤ} (hnonneg : 0 ≤ index) (hlt : index < handles.length) :
    index = (index.toNat : ℤ) ∧
      handles[index.toNat]? = some (handles.getD index.toNat 0) := by
  have hindex : index.toNat < handles.length := by omega
  refine ⟨by omega, ?_⟩
  rw [List.getElem?_eq_getElem hindex, List.getD_eq_getElem?_getD, List.getElem?_eq_getElem hindex,
    Option.getD_some]

/-- **A segment is imported and mapped, or not at all.** -/
theorem mapSegment_ends (h : cuda.UndoSucceeds) (segment : SegmentFields) :
    Attempt.Ends (mapSegment cuda handles segment) s
      (fun entry s' => SameHeld (s.holding [entry]) s' ∧ Reads cuda handles segment entry ∧
        s.New entry)
      (fun _ s' => SameHeld s s') := by
  refine .bind_lift (fun segmentId hid => ?_) fun _ _ => .refl s
  refine .bind_lift (fun offset hoffset => ?_) fun _ _ => .refl s
  refine .bind_lift (fun length hlength => ?_) fun _ _ => .refl s
  refine .bind_lift (fun handleIndex hindex => ?_) fun _ _ => .refl s
  refine .bind_ask (.bind_lift (fun _ hcheck => ?_) fun _ _ => .refl s)
  obtain ⟨hnew, hnonneg, hlt⟩ := new_of_check hcheck
  refine .bind (CudaDriver.importFd_ends) ?_
  rintro handle _ ⟨⟨call, hhandle⟩, n, rfl⟩
  refine .bind_ask (.bind (.tryCatch (CudaDriver.map_ends h) ?_) ?_)
  · rintro error _ ⟨m, rfl⟩
    refine .bind ((CudaDriver.releaseHandle_ends h).mono (fun _ _ h => h) fun _ _ h => h.elim) ?_
    rintro _ _ ⟨k, rfl⟩
    exact .throw ⟨k, by simp⟩
  · rintro _ _ ⟨m, rfl⟩
    obtain ⟨hnat, hget⟩ := getElem?_toNat hnonneg hlt
    exact .pure ⟨⟨m, rfl⟩, ⟨hid, hoffset, hlength, _, _, call, hnat ▸ hindex, hget, hhandle⟩, hnew⟩

theorem holding_holding (s : VmmImport) (imported entries : List ImportedSegment) :
    (s.holding imported).holding entries = s.holding (entries ++ imported) := by
  simp [holding]

theorem sameHeld_holding {s s' : VmmImport} (h : SameHeld s s') (entries : List ImportedSegment) :
    SameHeld (s.holding entries) (s'.holding entries) := by
  obtain ⟨n, rfl⟩ := h
  exact ⟨n, rfl⟩

/-- What a loop that has run leaves: the driver holds what was imported, and if nothing was raised,
that is all of the segments. -/
structure Imported (cuda : CudaDriver) (handles : List Fd) (s₀ : VmmImport)
    (segments : List SegmentFields) (before : List ImportedSegment) (answer : Except VmmError Unit × List ImportedSegment)
    (s' : VmmImport) : Prop where
  held : SameHeld (s₀.holding answer.2) s'
  all : answer.1 = .ok () → ∃ entries, answer.2 = entries.reverse ++ before ∧
    List.Forall₂ (Reads cuda handles) segments entries ∧ ∀ entry ∈ entries, s₀.New entry

/-- **The loop imports its segments up to the first failure**, and knows which they are. -/
theorem importEach_ends (h : cuda.UndoSucceeds) (segments : List SegmentFields)
    (imported : List ImportedSegment) (hs : SameHeld (s₀.holding imported) s) :
    Attempt.Ends (importEach cuda handles segments imported) s
      (Imported cuda handles s₀ segments imported)
      fun _ _ => False := by
  induction segments generalizing imported s with
  | nil => exact .pure ⟨hs, fun _ => ⟨[], rfl, .nil, nofun⟩⟩
  | cons segment rest ih =>
    refine .bind ((mapSegment_ends h segment).result
      (S := fun answer s' => match answer with
        | .ok entry => SameHeld (s.holding [entry]) s' ∧ Reads cuda handles segment entry ∧ s.New entry
        | .error _ => SameHeld s s') (fun _ _ h => h) fun _ _ h => h) ?_
    rintro (error | entry) s' hmapped
    · exact .pure ⟨hs.trans hmapped, nofun⟩
    · obtain ⟨hheld, hreads, hnew⟩ := hmapped
      have hall : SameHeld (s₀.holding (entry :: imported)) s' := by
        have hholding := (sameHeld_holding hs [entry]).trans hheld
        rwa [holding_holding] at hholding
      have hnew : s₀.New entry := by
        obtain ⟨n, rfl⟩ := hs
        exact hnew
      refine (ih (entry :: imported) hall).mono ?_ fun _ _ h => h
      rintro answer s' ⟨hheld, hentries⟩
      refine ⟨hheld, fun hok => ?_⟩
      obtain ⟨entries, heq, hread, hfresh⟩ := hentries hok
      refine ⟨entry :: entries, by simp [heq], .cons hreads hread, ?_⟩
      exact List.forall_mem_cons.mpr ⟨hnew, hfresh⟩

/-- **The handler takes back all that was imported.** -/
theorem rollback_ends (h : cuda.UndoSucceeds) (imported : List ImportedSegment)
    (hs : SameHeld (s₀.holding imported) s) :
    Attempt.Ends (rollback cuda imported) s (fun _ s' => SameHeld s₀ s') fun _ _ => False := by
  induction imported generalizing s with
  | nil => exact .pure hs
  | cons entry rest ih =>
    obtain ⟨n, rfl⟩ := hs
    refine .bind_ask (.bind ((CudaDriver.unmap_ends h).result
      (S := fun answer s' => answer = .ok () ∧ SameHeld (CudaDriver.unmapRange
        (s₀.pointer + entry.offset) entry.length (s₀.holding (entry :: rest))) s') ?_
        fun _ _ h => h.elim) ?_)
    · rintro _ _ ⟨m, rfl⟩
      exact ⟨rfl, m, rfl⟩
    · rintro _ _ ⟨rfl, m, rfl⟩
      refine .bind (CudaDriver.releaseHandle_ends h) ?_
      rintro _ _ ⟨k, rfl⟩
      refine .bind_lift (fun _ _ => ih ⟨k, ?_⟩) nofun
      simp [CudaDriver.unmapRange, holding]

/-! ## All or nothing -/

/-- Entries under new, distinct IDs are appended to the table. -/
theorem foldl_record (table entries : List ImportedSegment)
    (hnew : ∀ entry ∈ entries, entry.segmentId ∉ table.map (·.segmentId))
    (hnodup : (entries.map (·.segmentId)).Nodup) :
    entries.foldl record table = table ++ entries := by
  induction entries generalizing table with
  | nil => exact (List.append_nil table).symm
  | cons entry rest ih =>
    obtain ⟨hfirst, hrest⟩ := List.forall_mem_cons.mp hnew
    rw [List.map_cons, List.nodup_cons] at hnodup
    rw [List.foldl_cons, record, if_neg hfirst, ih _ ?_ hnodup.2, List.append_assoc,
      List.singleton_append]
    intro other hother
    rw [List.map_append, List.mem_append, not_or]
    refine ⟨hrest other hother, ?_⟩
    rw [List.map_singleton, List.mem_singleton]
    exact fun heq => hnodup.1 (heq ▸ List.mem_map_of_mem hother)

/-- The segments are sorted, nothing else. -/
theorem sortFields_perm {segments sorted : List SegmentFields}
    (h : sortFields segments = .ok sorted) : sorted.Perm segments := by
  simp only [sortFields, Except.bind_eq_ok, Except.pure_eq_ok] at h
  obtain ⟨keyed, hkeyed, rfl⟩ := h
  have hsnd : keyed.map Prod.snd = segments.map id :=
    Except.map_eq_map_of_mapM (fun segment _ pair hpair => by
      obtain ⟨_, _, heq⟩ := Except.bind_eq_ok.mp hpair
      exact (Except.pure_eq_ok.mp heq) ▸ rfl) hkeyed
  rw [List.map_id] at hsnd
  exact hsnd ▸ (List.perm_insertionSort _ _).map Prod.snd

/-- The IDs of the segments, of those that can be read. -/
def segmentIds (segments : List SegmentFields) : List String :=
  segments.filterMap fun segment => segment.segmentId.toOption

theorem segmentIds_of_reads {segments : List SegmentFields} {entries : List ImportedSegment}
    (h : List.Forall₂ (Reads cuda handles) segments entries) :
    segmentIds segments = entries.map (·.segmentId) := by
  induction h with
  | nil => rfl
  | cons hreads _ ih =>
    rw [segmentIds, List.filterMap_cons, hreads.segmentId, List.map_cons]
    exact congrArg _ ih

/-- **All segments are imported** — in some order, each mapped at its place behind the pointer and
recorded after what the table had. -/
structure AllMapped (cuda : CudaDriver) (handles : List Fd) (s : VmmImport)
    (segments : List SegmentFields) (entries : List ImportedSegment) (s' : VmmImport) : Prop where
  reads : ∃ sorted, sorted.Perm segments ∧ List.Forall₂ (Reads cuda handles) sorted entries
  segments : s'.segments = s.segments ++ entries
  mappings : s'.mappings =
    (entries.map fun e => ⟨s.pointer + e.offset, e.length, e.handle⟩).reverse ++ s.mappings
  handles : s'.handles = (entries.map (·.handle)).reverse ++ s.handles

theorem mapSegments_ends (hundo : cuda.UndoSucceeds) {segments : List SegmentFields}
    (hdistinct : (segmentIds segments).Nodup) :
    Attempt.Ends (mapSegments cuda handles segments) s
      (fun _ s' => ∃ entries, AllMapped cuda handles s segments entries s') fun _ s' => SameHeld s s' := by
  refine .bind_lift (fun sorted hsorted => ?_) fun _ _ => .refl s
  have hperm := sortFields_perm hsorted
  refine .bind ((importEach_ends hundo sorted [] (.refl _)).mono (fun _ _ h => h)
    fun _ _ h => h.elim) ?_
  rintro ⟨error | _, imported⟩ s' ⟨hheld, hall⟩
  · refine .bind ((rollback_ends hundo imported hheld).mono (fun _ _ h => h)
      fun _ _ h => h.elim) ?_
    exact fun _ _ hsame => .throw hsame
  · obtain ⟨entries, hentries, hreads, hnew⟩ := hall rfl
    obtain rfl : imported = entries.reverse := hentries.trans (List.append_nil _)
    have hnodup : (entries.map (·.segmentId)).Nodup := by
      rw [← segmentIds_of_reads hreads]
      exact (hperm.filterMap _).nodup_iff.mpr hdistinct
    obtain ⟨n, rfl⟩ := hheld
    refine Attempt.ends_of_exec_ok rfl ⟨entries, ⟨sorted, hperm, hreads⟩, ?_, ?_, ?_⟩
    · show entries.reverse.reverse.foldl record s.segments = _
      rw [List.reverse_reverse]
      exact foldl_record _ _ hnew hnodup
    · simp [holding]
    · simp [holding]

/-- **`map_segments` is all or nothing** — if undoing works and the IDs are distinct.  It returns
with every segment mapped and recorded, and what was recorded before in place; or it raises and
leaves the table, the mappings and the handles it found. -/
theorem mapSegments_all_or_nothing (handles : List Fd) (hundo : cuda.UndoSucceeds)
    (segments : List SegmentFields) (hdistinct : (segmentIds segments).Nodup) (s : VmmImport) :
    (∀ s', Attempt.exec (mapSegments cuda handles segments) s = (.ok (), s') →
      ∃ entries, AllMapped cuda handles s segments entries s') ∧
    ∀ error s', Attempt.exec (mapSegments cuda handles segments) s = (.error error, s') →
      s'.segments = s.segments ∧ s'.mappings = s.mappings ∧ s'.handles = s.handles := by
  obtain ⟨hok, herror⟩ := mapSegments_ends hundo hdistinct
  refine ⟨fun s' h => hok () s' h, fun error s' h => ?_⟩
  obtain ⟨n, rfl⟩ := herror error s' h
  exact ⟨rfl, rfl, rfl⟩

/-- A driver that cannot map what its fifth call is given, and undoes everything. -/
def fullDriver : CudaDriver where
  fault c n := if c = .map ∧ n = 4 then some 2 else none
  handle n _ := n + 100

/-- A segment of the granularity, at a block. -/
def blockSegment (segmentId : String) (block : ℤ) : SegmentFields where
  segmentId := .ok segmentId
  offsetBytes := .ok (64 * block)
  lengthBytes := .ok 64
  handleIndex := .ok block

/-- An import that has mapped its first block. -/
def firstBlock : VmmImport where
  pointer := 65536
  granularity := 64
  virtualBytes := 256
  segments := [⟨"first", 0, 64, 9⟩]
  mappings := [⟨65536, 64, 9⟩]
  handles := [9]
  calls := 0

/-- A driver that never fails, whose handles tell which descriptor they are of. -/
def freeDriver : CudaDriver where
  fault _ _ := none
  handle _ descriptor := descriptor.toNat + 100

theorem mapSegments_all_or_nothing_twoSegments :
    (∃ error s', Attempt.exec (mapSegments fullDriver [7, 8, 9]
        [blockSegment "c" 2, blockSegment "b" 1]) firstBlock = (.error error, s') ∧
      s'.calls = 8 ∧ s'.segments = firstBlock.segments ∧ s'.mappings = firstBlock.mappings ∧
        s'.handles = firstBlock.handles) ∧
      ∃ s', Attempt.exec (mapSegments freeDriver [7, 8, 9]
        [blockSegment "c" 2, blockSegment "b" 1]) firstBlock = (.ok (), s') ∧
      s'.segments = [⟨"first", 0, 64, 9⟩, ⟨"b", 64, 64, 108⟩, ⟨"c", 128, 64, 109⟩] ∧
        ∃ entries, AllMapped freeDriver [7, 8, 9] firstBlock
          [blockSegment "c" 2, blockSegment "b" 1] entries s' := by
  have hundo : fullDriver.UndoSucceeds := ⟨fun _ => rfl, fun _ => rfl⟩
  have hfree : freeDriver.UndoSucceeds := ⟨fun _ => rfl, fun _ => rfl⟩
  obtain ⟨-, herror⟩ := mapSegments_all_or_nothing [7, 8, 9] hundo
    [blockSegment "c" 2, blockSegment "b" 1] (by decide) firstBlock
  obtain ⟨hok, -⟩ := mapSegments_all_or_nothing [7, 8, 9] hfree
    [blockSegment "c" 2, blockSegment "b" 1] (by decide) firstBlock
  exact ⟨⟨_, _, rfl, rfl, herror _ _ rfl⟩, _, rfl, rfl, hok _ rfl⟩

end VmmImport

end Kapsl.Vllm
