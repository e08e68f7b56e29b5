import Kapsl.Vllm.VmmImport

/-!
# Vllm/VmmTyped — the two readings of `map_segments` agree

`Vllm/Vmm` reads segments that were validated, calls the driver at offsets and lets every undo call
succeed; `Vllm/VmmImport` follows the source from any mapping and at addresses.  On typed segments
with distinct IDs the second does what the first does: the same exception, the same table, and the
same driver behind the reserved pointer (`exec_mapSegments_ofSegment`).
-/

namespace Kapsl.Vllm.VmmTyped

open ManagedVmmImport VmmImport

/-! ## Readings -/

/-- The driver of typed calls, in which undoing succeeds. -/
def ofCuda (cuda : Cuda) : CudaDriver where
  fault
    | .unmap, _ | .release, _ => none
    | _, n => cuda.fault n
  handle n _ := cuda.handle n

/-- The fields of a typed segment can be read. -/
def ofSegment (segment : Segment) : SegmentFields where
  segmentId := .ok segment.segmentId
  offsetBytes := .ok segment.offsetBytes
  lengthBytes := .ok segment.lengthBytes
  handleIndex := .ok segment.handleIndex

/-- An entry of the table. -/
def ofEntry (entry : VmmSegment) : ImportedSegment :=
  ⟨entry.segmentId, entry.mapping.offset, entry.mapping.length, entry.mapping.handle⟩

/-- A mapping, at its address. -/
def ofMapping (pointer : ℤ) (m : VmmMapping) : AddressMapping :=
  ⟨pointer + m.offset, m.length, m.handle⟩

/-- The import of a binding at a reserved pointer, after some driver calls. -/
def ofDriver (pointer : ℤ) (b : ElasticBinding) (table : List VmmSegment) (d : VmmDriver)
    (calls : ℕ) : VmmImport where
  pointer := pointer
  granularity := b.granularity
  virtualBytes := b.virtualBytes
  segments := table.map ofEntry
  mappings := d.mappings.map (ofMapping pointer)
  handles := d.handles
  calls := calls

variable {cuda : Cuda} {b : ElasticBinding} {table : List VmmSegment} {handles : List Fd}
  {pointer : ℤ} {segment : Segment} {d : VmmDriver} {n : ℕ}

/-! ## One segment -/

/-- What keeps a segment from being imported. -/
def stepError (cuda : Cuda) (b : ElasticBinding) (table : List VmmSegment) (handles : List Fd)
    (segment : Segment) (n : ℕ) : Option PyError :=
  if rejects b table handles segment then
    some (.sharedPoolImportError "invalid CUDA VMM segment descriptor")
  else
    (cuda.fault n).map (cudaError "import CUDA VMM allocation handle") <|>
      (cuda.fault (n + 1)).map (cudaError "map CUDA VMM allocation") <|>
        (cuda.fault (n + 2)).map (cudaError "set CUDA VMM access")

/-- The entry of an imported segment. -/
def entryOf (cuda : Cuda) (segment : Segment) (n : ℕ) : VmmSegment :=
  ⟨segment.segmentId, ⟨segment.offsetBytes, segment.lengthBytes, cuda.handle n⟩⟩

/-- A round of the typed loop imports its segment, or raises. -/
theorem importEach_cons (rest : List Segment) (imported : List VmmSegment) :
    ManagedVmmImport.importEach cuda b table handles (segment :: rest) n imported d =
      match stepError cuda b table handles segment n with
      | some error => (.error error, ManagedVmmImport.rollback imported d)
      | none => ManagedVmmImport.importEach cuda b table handles rest (n + 3)
          (entryOf cuda segment n :: imported)
          ((d.importFd (cuda.handle n)).map (entryOf cuda segment n).mapping) := by
  rw [ManagedVmmImport.importEach, stepError]
  split
  · rfl
  · rcases hfault : cuda.fault n with _ | code
    · rcases hfault' : cuda.fault (n + 1) with _ | code
      · rcases hfault'' : cuda.fault (n + 2) with _ | code
        · rfl
        · simp [unmap_map, releaseHandle_importFd]
      · simp [releaseHandle_importFd]
    · rfl

/-- What a segment is rejected for, in the order of the checks. -/
theorem rejects_iff : rejects b table handles segment = true ↔
    (segment.segmentId = "" ∨ segment.segmentId ∈ table.map VmmSegment.segmentId ∨
      segment.lengthBytes = 0) ∨ segment.offsetBytes % b.granularity ≠ 0 ∨
      segment.lengthBytes % b.granularity ≠ 0 ∨
      segment.offsetBytes + segment.lengthBytes > b.virtualBytes ∨
      segment.handleIndex ≥ handles.length := by
  simp only [rejects, Bool.or_eq_true, decide_eq_true_eq, List.contains_iff_mem, or_assoc]

/-- The checks are the same. -/
theorem check_ofDriver (hgranularity : 0 < b.granularity) :
    (ofDriver pointer b table d n).check handles segment.segmentId segment.offsetBytes
        segment.lengthBytes segment.handleIndex =
      if rejects b table handles segment then .error invalidDescriptor else .ok () := by
  have hids : (table.map ofEntry).map (·.segmentId) = table.map VmmSegment.segmentId :=
    List.map_map
  have hmod : ∀ m : ℕ, (m : ℤ).fmod b.granularity ≠ 0 ↔ m % b.granularity ≠ 0 := fun m => by
    rw [← Int.ofNat_fmod]
    exact Int.natCast_ne_zero
  have hfirst : (segment.segmentId = "" ∨ segment.segmentId ∈
      (ofDriver pointer b table d n).segments.map (·.segmentId) ∨ (segment.offsetBytes : ℤ) < 0 ∨
      (segment.lengthBytes : ℤ) ≤ 0) ↔ segment.segmentId = "" ∨
        segment.segmentId ∈ table.map VmmSegment.segmentId ∨ segment.lengthBytes = 0 := by
    rw [← hids]
    refine or_congr_right (or_congr_right ?_)
    omega
  have hgranularity' : ¬(ofDriver pointer b table d n).granularity = 0 :=
    Int.natCast_ne_zero.mpr hgranularity.ne'
  have hrest : ((segment.offsetBytes : ℤ).fmod (ofDriver pointer b table d n).granularity ≠ 0 ∨
      (segment.lengthBytes : ℤ).fmod (ofDriver pointer b table d n).granularity ≠ 0 ∨
      (segment.offsetBytes + segment.lengthBytes : ℤ) >
        (ofDriver pointer b table d n).virtualBytes ∨
      (segment.handleIndex : ℤ) < 0 ∨ (segment.handleIndex : ℤ) ≥ handles.length) ↔
        segment.offsetBytes % b.granularity ≠ 0 ∨ segment.lengthBytes % b.granularity ≠ 0 ∨
        segment.offsetBytes + segment.lengthBytes > b.virtualBytes ∨
        segment.handleIndex ≥ handles.length := by
    refine or_congr (hmod _) (or_congr (hmod _) ?_)
    show (segment.offsetBytes + segment.lengthBytes : ℤ) > b.virtualBytes ∨ _ ↔ _
    omega
  rw [check]
  by_cases hbad : segment.segmentId = "" ∨ segment.segmentId ∈ table.map VmmSegment.segmentId ∨
      segment.lengthBytes = 0
  · rw [if_pos (rejects_iff.mpr (.inl hbad)), Except.raiseIf, if_pos (hfirst.mpr hbad)]
    rfl
  · rw [Except.raiseIf_neg (mt hfirst.mp hbad), Except.ok_bind, Except.raiseIf_neg hgranularity',
      Except.ok_bind, Except.raiseIf]
    exact if_congr (hrest.trans (rejects_iff.trans (or_iff_right hbad)).symm) rfl rfl

theorem exec_call (c : CudaCall) (effect : VmmImport → VmmImport) (s : VmmImport) :
    Attempt.exec ((ofCuda cuda).call c effect) s =
      match (ofCuda cuda).fault c s.calls with
      | some code =>
        (.error (.python (cudaError c.operation code)), { s with calls := s.calls + 1 })
      | none => (.ok (), effect { s with calls := s.calls + 1 }) := by
  show (match (ofCuda cuda).fault c s.calls with | some _ => _ | none => _) = _
  rcases (ofCuda cuda).fault c s.calls <;> rfl

/-- An import, in either reading. -/
theorem exec_importFd (descriptor : Fd) :
    Attempt.exec ((ofCuda cuda).importFd descriptor) (ofDriver pointer b table d n) =
      match cuda.fault n with
      | some code => (.error (.python (cudaError "import CUDA VMM allocation handle" code)),
          ofDriver pointer b table d (n + 1))
      | none => (.ok (cuda.handle n),
          ofDriver pointer b table (d.importFd (cuda.handle n)) (n + 1)) := by
  have hcall : (ofCuda cuda).fault .importHandle (ofDriver pointer b table d n).calls =
      cuda.fault n := rfl
  simp only [CudaDriver.importFd, Attempt.exec_bind, Attempt.exec_ask, exec_call, hcall]
  rcases cuda.fault n with _ | code
  · rfl
  · rfl

variable (cuda b table pointer d n) in
/-- A mapping, in either reading: its handler takes the new range away. -/
theorem exec_map (m : VmmMapping) :
    Attempt.exec ((ofCuda cuda).map (pointer + m.offset) m.length m.handle)
        (ofDriver pointer b table d n) =
      match cuda.fault n with
      | some code => (.error (.python (cudaError "map CUDA VMM allocation" code)),
          ofDriver pointer b table d (n + 1))
      | none =>
        match cuda.fault (n + 1) with
        | some code => (.error (.python (cudaError "set CUDA VMM access" code)),
            ofDriver pointer b table d (n + 3))
        | none => (.ok (), ofDriver pointer b table (d.map m) (n + 2)) := by
  have hmap : (ofCuda cuda).fault .map (ofDriver pointer b table d n).calls = cuda.fault n := rfl
  simp only [CudaDriver.map, Attempt.exec_bind, Attempt.exec_tryCatch, exec_call, hmap]
  rcases cuda.fault n with _ | code
  · have haccess : (ofCuda cuda).fault .setAccess ((ofDriver pointer b table d n).calls + 1) =
        cuda.fault (n + 1) := rfl
    simp only [haccess]
    rcases cuda.fault (n + 1) with _ | code
    · rfl
    · exact congrArg (Prod.mk _)
        (CudaDriver.unmapRange_cons (s := ofDriver pointer b table d (n + 3)))
  · rfl

/-- The handler around a mapping releases the handle that was imported for it. -/
theorem exec_releaseHandle (handle : ℕ) (error : VmmError) :
    Attempt.exec (do (ofCuda cuda).releaseHandle handle; throw error : Importing Unit)
        (ofDriver pointer b table (d.importFd handle) n) =
      (.error error, ofDriver pointer b table d (n + 1)) := by
  have herase : (d.importFd handle).handles.erase handle = d.handles :=
    List.erase_cons_head handle d.handles
  exact congrArg (fun handles => (Except.error error,
    { ofDriver pointer b table d (n + 1) with handles := handles })) herase

variable (cuda table handles pointer segment d n) in
/-- **A segment is imported exactly when the typed loop imports it.** -/
theorem exec_mapSegment (hgranularity : 0 < b.granularity) : ∃ k,
    Attempt.exec (mapSegment (ofCuda cuda) handles (ofSegment segment))
        (ofDriver pointer b table d n) =
      match stepError cuda b table handles segment n with
      | some error => (.error (.python error), ofDriver pointer b table d k)
      | none => (.ok (ofEntry (entryOf cuda segment n)), ofDriver pointer b table
          ((d.importFd (cuda.handle n)).map (entryOf cuda segment n).mapping) (n + 3)) := by
  simp only [mapSegment, ofSegment, Attempt.exec_bind, Attempt.exec_lift, Attempt.exec_ask,
    check_ofDriver hgranularity, stepError]
  by_cases hrejects : rejects b table handles segment = true
  · simp only [if_pos hrejects]
    exact ⟨n, rfl⟩
  simp only [if_neg hrejects, exec_importFd]
  rcases cuda.fault n with _ | code
  · have hmap := exec_map cuda b table pointer (d.importFd (cuda.handle n)) (n + 1)
      (entryOf cuda segment n).mapping
    have hpointer : (ofDriver pointer b table (d.importFd (cuda.handle n)) (n + 1)).pointer =
      pointer := rfl
    simp only [entryOf] at hmap
    simp only [Attempt.exec_tryCatch, hpointer, hmap]
    rcases cuda.fault (n + 1) with _ | code
    · simp only [Nat.add_assoc, Nat.reduceAdd]
      rcases cuda.fault (n + 2) with _ | code
      · exact ⟨0, rfl⟩
      · simp only [exec_releaseHandle]
        exact ⟨_, rfl⟩
    · simp only [exec_releaseHandle]
      exact ⟨_, rfl⟩
  · exact ⟨n + 1, rfl⟩

/-! ## The loop -/

variable (cuda table handles pointer) in
/-- **The loops run in step**: both import everything, or stop at the same segment with the same
exception. -/
theorem exec_importEach (hgranularity : 0 < b.granularity) (segments : List Segment) (n : ℕ)
    (imported : List VmmSegment) (d : VmmDriver) :
    (∃ entries d' k,
      ManagedVmmImport.importEach cuda b table handles segments n imported d = (.ok entries, d') ∧
      Attempt.exec (VmmImport.importEach (ofCuda cuda) handles (segments.map ofSegment)
        (imported.map ofEntry)) (ofDriver pointer b table d n) =
          (.ok (.ok (), entries.reverse.map ofEntry), ofDriver pointer b table d' k)) ∨
    ∃ error imported' d' k,
      ManagedVmmImport.importEach cuda b table handles segments n imported d =
        (.error error, ManagedVmmImport.rollback imported' d') ∧
      Attempt.exec (VmmImport.importEach (ofCuda cuda) handles (segments.map ofSegment)
        (imported.map ofEntry)) (ofDriver pointer b table d n) =
          (.ok (.error (.python error), imported'.map ofEntry), ofDriver pointer b table d' k) := by
  induction segments generalizing n imported d with
  | nil => exact .inl ⟨imported.reverse, d, n, rfl, by rw [List.reverse_reverse]; rfl⟩
  | cons segment rest ih =>
    obtain ⟨k, hexec⟩ := exec_mapSegment cuda table handles pointer segment d n hgranularity
    simp only [importEach_cons, List.map_cons, VmmImport.importEach, Attempt.exec_bind,
      Attempt.exec_result, hexec]
    rcases stepError cuda b table handles segment n with _ | error
    · exact ih (n + 3) (entryOf cuda segment n :: imported) _
    · exact .inr ⟨error, imported, d, k, rfl, rfl⟩

/-- Sorting a list of typed segments, in either reading. -/
theorem sortFields_ofSegment (segments : List Segment) :
    sortFields (segments.map ofSegment) = .ok ((sortSegments segments).map ofSegment) := by
  have hkeyed : (segments.map ofSegment).mapM (fun segment => do
      let key ← segment.offsetBytes
      pure (key, segment)) =
        (.ok (segments.map fun s => ((s.offsetBytes : ℤ), ofSegment s)) : Except VmmError _) := by
    rw [List.mapM_map]
    exact Except.mapM_of_ok fun _ _ => rfl
  have hsort := List.map_insertionSort (r := fun s t : Segment => s.offsetBytes ≤ t.offsetBytes)
    (s := fun s t : ℤ × SegmentFields => s.1 ≤ t.1)
    (fun s : Segment => ((s.offsetBytes : ℤ), ofSegment s)) segments
    fun _ _ _ _ => Int.ofNat_le.symm
  rw [sortFields, hkeyed, Except.ok_bind, ← hsort, List.map_map]
  rfl

/-! ## `map_segments` -/

theorem undoSucceeds_ofCuda : (ofCuda cuda).UndoSucceeds := ⟨fun _ => rfl, fun _ => rfl⟩

theorem map_segmentId_entriesOf (cuda : Cuda) (segments : List Segment) (n : ℕ) :
    (entriesOf cuda segments n).map VmmSegment.segmentId = segments.map Segment.segmentId := by
  induction segments generalizing n with
  | nil => rfl
  | cons segment rest ih => rw [entriesOf, List.map_cons, List.map_cons, ih]

/-- A growth that was imported has new entries only, one for each segment. -/
theorem entries_of_importEach {segments : List Segment} {entries : List VmmSegment} {d' : VmmDriver}
    (h : ManagedVmmImport.importEach cuda b table handles segments n [] d = (.ok entries, d')) :
    entries.map VmmSegment.segmentId = segments.map Segment.segmentId ∧
      ∀ entry ∈ entries, entry.segmentId ∉ table.map VmmSegment.segmentId := by
  by_cases hquiet : (∀ segment ∈ segments, rejects b table handles segment = false) ∧
      cuda.Quiet n (3 * segments.length)
  · rw [importEach_of_quiet segments n [] d hquiet.1 hquiet.2, List.reverse_nil,
      List.nil_append] at h
    obtain rfl : entriesOf cuda segments n = entries := Except.ok.inj (Prod.mk.inj h).1
    have hids := map_segmentId_entriesOf cuda segments n
    refine ⟨hids, fun entry hentry hmem => ?_⟩
    obtain ⟨segment, hsegment, heq⟩ :=
      List.mem_map.mp (hids ▸ List.mem_map_of_mem (f := VmmSegment.segmentId) hentry)
    have hrejected : rejects b table handles segment = true :=
      rejects_iff.mpr (.inl (.inr (.inl (heq ▸ hmem))))
    exact absurd hrejected (Bool.eq_false_iff.mp (hquiet.1 segment hsegment))
  · obtain ⟨error, herror⟩ := importEach_of_not_quiet segments n [] d hquiet
    exact nomatch (Prod.mk.inj (h.symm.trans herror)).1

/-- A growth that was not imported leaves the driver it found. -/
theorem driver_of_importEach {segments : List Segment} {error : PyError} {d' : VmmDriver}
    (h : ManagedVmmImport.importEach cuda b table handles segments n [] d = (.error error, d')) :
    d' = d := by
  have hquiet : ¬((∀ segment ∈ segments, rejects b table handles segment = false) ∧
      cuda.Quiet n (3 * segments.length)) := by
    rintro ⟨haccepted, hquiet⟩
    rw [importEach_of_quiet _ n [] d haccepted hquiet] at h
    exact nomatch (Prod.mk.inj h).1
  obtain ⟨_, herror⟩ := importEach_of_not_quiet segments n [] d hquiet
  exact (Prod.mk.inj (h.symm.trans herror)).2

/-- New entries under distinct IDs are recorded behind the old ones. -/
theorem foldl_record_ofEntry {entries : List VmmSegment}
    (hnew : ∀ entry ∈ entries, entry.segmentId ∉ table.map VmmSegment.segmentId)
    (hnodup : (entries.map VmmSegment.segmentId).Nodup) :
    (entries.map ofEntry).foldl record (table.map ofEntry) = (table ++ entries).map ofEntry := by
  rw [List.map_append]
  refine foldl_record _ _ (fun entry hentry => ?_) ?_
  · obtain ⟨e, he, rfl⟩ := List.mem_map.mp hentry
    rw [List.map_map]
    exact hnew e he
  · rw [List.map_map]
    exact hnodup

/-- **`map_segments` does to typed segments what the typed loop does** — it returns with the same
entries appended to the table and the same driver, or raises the same exception over the driver it
found. -/
theorem exec_mapSegments_ofSegment (hgranularity : 0 < b.granularity) (segments : List Segment)
    (hdistinct : (segments.map Segment.segmentId).Nodup) : ∃ k,
    Attempt.exec (VmmImport.mapSegments (ofCuda cuda) handles (segments.map ofSegment))
        (ofDriver pointer b table d n) =
      match ManagedVmmImport.importEach cuda b table handles (sortSegments segments) n [] d with
      | (.ok entries, d') => (.ok (), ofDriver pointer b (table ++ entries) d' k)
      | (.error error, d') => (.error (.python error), ofDriver pointer b table d' k) := by
  simp only [VmmImport.mapSegments, sortFields_ofSegment, Attempt.exec_bind, Attempt.exec_lift]
  obtain ⟨entries, d', k, htyped, hexec⟩ | ⟨error, imported, d', k, htyped, hexec⟩ :=
    exec_importEach cuda table handles pointer hgranularity (sortSegments segments) n [] d
  · rw [List.map_nil] at hexec
    obtain ⟨hids, hnew⟩ := entries_of_importEach htyped
    have hnodup : (entries.map VmmSegment.segmentId).Nodup := by
      rw [hids]
      exact ((List.perm_insertionSort _ segments).map _).nodup_iff.mpr hdistinct
    simp only [hexec, htyped]
    refine ⟨k, congrArg (Prod.mk _) ?_⟩
    rw [List.map_reverse, List.reverse_reverse]
    exact congrArg (fun segments => { ofDriver pointer b table d' k with segments := segments })
      (foldl_record_ofEntry hnew hnodup)
  · rw [List.map_nil] at hexec
    have hd := driver_of_importEach htyped
    have hstart : SameHeld ((ofDriver pointer b table d n).holding [])
      (ofDriver pointer b table d n) := .refl _
    have hheld := ((importEach_ends undoSucceeds_ofCuda _ [] hstart).1 _ _ hexec).held
    obtain ⟨hback, hnever⟩ := rollback_ends undoSucceeds_ofCuda _ hheld
    simp only [hexec, htyped, hd]
    rcases hroll : Attempt.exec (VmmImport.rollback (ofCuda cuda) (imported.map ofEntry))
      (ofDriver pointer b table d' k) with ⟨e | u, s'⟩
    · exact (hnever e s' hroll).elim
    · obtain ⟨k', rfl⟩ := hback u s' hroll
      exact ⟨k', by rw [Attempt.exec_bind, hroll]; rfl⟩

end Kapsl.Vllm.VmmTyped
