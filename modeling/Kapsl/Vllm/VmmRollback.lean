import Kapsl.Vllm.VmmPrefix

/-!
# Vllm/VmmRollback — what a failed worker resize leaves behind

A growth that fails while it is imported is rolled back; a shrink has no rollback, and neither has a
growth whose zero check fails once it is in place.

* `atomic_iff_not_spoils` — those two cases apart, a call that raises leaves the worker as it was,
  so that a replay on a driver that has recovered performs the resize once.
* `not_atomic_releaseFails` — a shrink whose release fails has already lost its mapping.
-/

namespace Kapsl.Vllm.VmmRollback

open Tiling ManagedVmmImport Hook VmmPrefix

variable {cuda : Cuda} {cfg : VmmConfig} {op : ResizeOperation} {handles : List Fd} {s s' : Hook}

/-! ## The property and the condition -/

/-- The operation passes every check of the hook and its layers. -/
def Acceptable (cfg : VmmConfig) (op : ResizeOperation) (handles : List Fd) (s : Hook) : Prop :=
  Pending cfg op s ∧
    ((op.stage = .mapWorkers ∧ s.mappedBytes < op.targetBytes ∧
        op.targetBytes ≤ cfg.binding.virtualBytes ∧
        ∀ segment ∈ op.segments, rejects cfg.binding s.segments handles segment = false) ∨
      (op.stage = .unmapWorkers ∧ handles = [] ∧ 0 < op.targetBytes ∧
        op.targetBytes < s.mappedBytes ∧
        ∃ resolved, op.segments.mapM (resolve s.segments) = .ok resolved))

/-- No call fails, and what is mapped is zeroed. -/
structure Recovered (cuda : Cuda) : Prop where
  synchronized : cuda.syncFails = false
  quiet : ∀ n, cuda.fault n = none
  counted : ∀ segment, cuda.countFails segment = false
  zeroed : ∀ segment, cuda.zeroed segment = true
  settled : cuda.settleFails = false

/-- **Replaying the operation on a recovered driver performs the resize once** — with the effect a
first application would have had, and none when it is replayed again. -/
def ReplaysOnce (cfg : VmmConfig) (op : ResizeOperation) (s s' : Hook) : Prop :=
  ∀ cuda handles, Recovered cuda → Acceptable cfg op handles s →
    ∃ s'', s'.applyWorkerResize cuda cfg op handles = (.ok (), s'') ∧
      s.applyWorkerResize cuda cfg op handles = (.ok (), s'') ∧
      s''.mappedBytes = op.targetBytes ∧
      ∀ cuda' handles', s''.applyWorkerResize cuda' cfg op handles' = (.ok (), s'')

/-- **A call that raises leaves the segment table, the driver, the mapped size and the remembered
operation as they were**, and can be replayed. -/
def Atomic (cuda : Cuda) (cfg : VmmConfig) (op : ResizeOperation) (handles : List Fd) (s : Hook) :
    Prop :=
  ∀ error s', s.applyWorkerResize cuda cfg op handles = (.error error, s') →
    s' = s ∧ ReplaysOnce cfg op s s'

/-- The call raises behind a change: a growth is imported whole and then fails the zero check, or
a shrink meets a fault after its first driver call. -/
def Spoils (cuda : Cuda) (cfg : VmmConfig) (op : ResizeOperation) (handles : List Fd) (s : Hook) :
    Prop :=
  Pending cfg op s ∧
    ((op.stage = .mapWorkers ∧ Imports cuda cfg op handles s ∧ Unverified cuda cfg op) ∨
      (op.stage = .unmapWorkers ∧ (∃ resolved, Resolves cuda op handles s resolved) ∧
        cuda.fault 0 = none ∧ ∃ k < 2 * op.segments.length, cuda.fault k ≠ none))

/-- The runs of accepted operations, whether they are applied or raise. -/
def lts (cfg : VmmConfig) : Lts Hook Act where
  init := Imported cfg
  step s act :=
    match checkResizeOperation act.operation with
    | .error _ => none
    | .ok () => some (s.applyWorkerResize act.cuda cfg act.op act.handles).2

/-- The step leaves nothing behind when it raises. -/
def Intact (cfg : VmmConfig) (s : Hook) (act : Act) : Prop :=
  ¬Spoils act.cuda cfg act.op act.handles s

/-! ## Replays -/

/-- An acceptable operation succeeds on a recovered driver. -/
theorem applyWorkerResize_of_recovered (hcuda : Recovered cuda)
    (h : Acceptable cfg op handles s) :
    ∃ s'', s.applyWorkerResize cuda cfg op handles = (.ok (), s'') ∧
      s''.mappedBytes = op.targetBytes ∧ s''.lastWorkerResize = some op.key := by
  obtain ⟨hpending, ⟨hstage, hgt, hle, haccepted⟩ | ⟨hstage, hhandles, hpos, hlt, resolved, hres⟩⟩ :=
    h
  · have himports : Imports cuda cfg op handles s :=
      ⟨hgt, hle, hcuda.synchronized, haccepted, fun k _ => hcuda.quiet _⟩
    have hzero : ¬Unverified cuda cfg op := by
      simp [Unverified, hcuda.counted, hcuda.zeroed, hcuda.settled]
    refine ⟨{ s.grown cuda op with
      mappedBytes := op.targetBytes, lastWorkerResize := some op.key }, ?_, rfl, rfl⟩
    rw [applyWorkerResize_of_pending hpending, mutate, hstage]
    simp only [mapSegments_of_imports himports hzero]
    rfl
  · have hresolves : Resolves cuda op handles s resolved :=
      ⟨hhandles, hpos, hlt, hcuda.synchronized, hres⟩
    refine ⟨{ s.shrunk resolved with
      mappedBytes := op.targetBytes, lastWorkerResize := some op.key }, ?_, rfl, rfl⟩
    rw [applyWorkerResize_of_pending hpending, mutate, hstage]
    simp only [unmapStage_of_quiet hresolves fun k _ => hcuda.quiet _]
    rfl

/-- An exact replay changes nothing. -/
theorem applyWorkerResize_of_replay (hbinding : op.bindingId = cfg.binding.bindingId)
    (hlast : s.lastWorkerResize = some op.key) :
    s.applyWorkerResize cuda cfg op handles = (.ok (), s) := by
  simp only [applyWorkerResize, hbinding, ne_eq, not_true_eq_false, if_false, hlast, if_true]

/-- A worker left as it was can be replayed. -/
theorem replaysOnce_self (cfg : VmmConfig) (op : ResizeOperation) (s : Hook) :
    ReplaysOnce cfg op s s := by
  intro cuda handles hcuda haccepts
  obtain ⟨s'', hs'', hmapped, hlast⟩ := applyWorkerResize_of_recovered hcuda haccepts
  exact ⟨s'', hs'', hs'', hmapped, fun _ _ => applyWorkerResize_of_replay haccepts.1.1 hlast⟩

/-! ## A call that does not spoil the worker -/

/-- The entries of a shrink are not empty when one of its calls fails. -/
theorem sortResolved_ne_nil {resolved : List VmmSegment}
    (h : Resolves cuda op handles s resolved) (hquiet : ¬cuda.Quiet 0 (2 * op.segments.length)) :
    sortResolved resolved ≠ [] := by
  intro hnil
  have hlength := length_sortResolved h
  rw [hnil, List.length_nil] at hlength
  rw [← hlength] at hquiet
  exact hquiet Cuda.quiet_zero

/-- **A call that raises without spoiling the worker leaves it as it was.** -/
theorem eq_of_not_spoils (hspoils : ¬Spoils cuda cfg op handles s) {error : PyError}
    (h : s.applyWorkerResize cuda cfg op handles = (.error error, s')) : s' = s := by
  have hends := applyWorkerResize_cases cuda cfg op handles s
  rw [h] at hends
  cases hends with
  | refused => rfl
  | unverified _ hp hstage himports hzero =>
    exact absurd ⟨hp, .inl ⟨hstage, himports, hzero⟩⟩ hspoils
  | interrupted _ resolved hp hstage hresolves hquiet =>
    cases hfault : cuda.fault 0 with
    | some code =>
      rw [unmapEach_of_fault (sortResolved_ne_nil hresolves hquiet) hfault]
    | none =>
      refine absurd ⟨hp, .inr ⟨hstage, ⟨resolved, hresolves⟩, hfault, ?_⟩⟩ hspoils
      simpa [Cuda.Quiet] using hquiet

/-! ## A call that spoils the worker -/

/-- **The driver holds exactly what the table records.** -/
structure Coherent (s : Hook) : Prop where
  mappings : s.driver.mappings.Perm (s.segments.map VmmSegment.mapping)
  handles : s.driver.handles.Perm (s.segments.map fun entry => entry.mapping.handle)

theorem Coherent.grown (h : Coherent s) : Coherent (s.grown cuda op) where
  mappings := by
    simp only [Hook.grown, holding, List.map_append]
    exact (List.perm_append_comm.trans (h.mappings.append (List.reverse_perm _)))
  handles := by
    simp only [Hook.grown, holding, List.map_append]
    exact (List.perm_append_comm.trans (h.handles.append (List.reverse_perm _)))

/-- What remains of a list that was split, once the first part is taken away. -/
theorem perm_diff_of_perm_append {α : Type} [DecidableEq α] {xs ys zs : List α}
    (h : xs.Perm (ys ++ zs)) : (xs.diff ys).Perm zs := by
  induction ys generalizing xs with
  | nil => exact h
  | cons y ys ih =>
    rw [List.diff_cons]
    refine ih ((h.erase y).trans ?_)
    rw [List.cons_append, List.erase_cons_head]

theorem Coherent.shrunk (h : Coherent s) (hvalid : op.Valid) (hstage : op.stage = .unmapWorkers)
    {resolved : List VmmSegment} (hresolves : Resolves cuda op handles s resolved) :
    Coherent (s.shrunk resolved) := by
  have hsplit := perm_resolved_diff hvalid hstage hresolves
  refine ⟨perm_diff_of_perm_append (h.mappings.trans ?_),
    perm_diff_of_perm_append (h.handles.trans ?_)⟩
  · rw [Hook.shrunk, ← List.map_append]
    exact (hsplit.map _).symm
  · rw [Hook.shrunk, ← List.map_append]
    exact (hsplit.map _).symm

/-- The driver and the table agree after the import. -/
theorem Imported.coherent (h : Imported cfg s) : Coherent s := by
  obtain ⟨I, receipt, accepted, pool, participantId, cuda, handles, -, -, -, -, hhook⟩ := h
  obtain rfl := ofBinding_eq_ok hhook
  refine ⟨?_, ?_⟩
  · simp only [holding, VmmDriver.empty, List.append_nil]
    exact List.reverse_perm _
  · simp only [holding, VmmDriver.empty, List.append_nil]
    exact List.reverse_perm _

/-- **The driver and the table agree until a call spoils the worker.** -/
theorem Coherent.step {act : Act} (h : Coherent s) (hok : Intact cfg s act)
    (hs : (lts cfg).step s act = some s') : Coherent s' := by
  simp only [lts] at hs
  split at hs
  · exact absurd hs nofun
  · rename_i hcheck
    obtain rfl := Option.some.inj hs
    have hvalid : act.op.Valid := ResizeOperation.valid_of_check hcheck
    have hends := applyWorkerResize_cases act.cuda cfg act.op act.handles s
    cases happly : s.applyWorkerResize act.cuda cfg act.op act.handles with
    | mk result s' =>
      rw [happly] at hends
      cases result with
      | error error => exact eq_of_not_spoils hok happly ▸ h
      | ok u =>
        cases hends with
        | replayed => exact h
        | mapped => exact ⟨h.grown.mappings, h.grown.handles⟩
        | unmapped resolved _ hstage hresolves =>
          exact ⟨(h.shrunk hvalid hstage hresolves).mappings,
            (h.shrunk hvalid hstage hresolves).handles⟩

theorem coherent_of_reachBy (h : (lts cfg).ReachBy (Intact cfg) s) : Coherent s :=
  h.invariant (fun _ => Imported.coherent) fun _ _ _ hI hok hs => hI.step hok hs

/-- A worker operation has segments. -/
theorem segments_ne_nil (hvalid : op.Valid) (hphysical : op.stage.physical = true) :
    op.segments ≠ [] := by
  intro hnil
  have htiles := (hvalid.cover hphysical).tiles
  rw [hnil] at htiles
  have heq : op.start = op.stop := htiles
  have hne := hvalid.changes
  have hpos := hvalid.stride_pos
  have hminmax : min op.fromBlockCount op.targetBlockCount =
      max op.fromBlockCount op.targetBlockCount := Nat.eq_of_mul_eq_mul_right hpos heq
  omega

/-- A growth changes the table. -/
theorem grown_ne (hne : op.segments ≠ []) : s.grown cuda op ≠ s := by
  intro heq
  have hlength := congrArg (fun s => s.segments.length) heq
  have hadded : (added cuda op).length = op.segments.length := by
    have := (span_added_perm cuda op).length_eq
    rwa [List.length_map, List.length_map] at this
  have hpos := List.length_pos_iff.mpr hne
  simp only [Hook.grown, List.length_append, hadded] at hlength
  omega

/-- A shrink that got past its first call has lost a mapping. -/
theorem mappings_length_lt {entries : List VmmSegment} {n : ℕ} (table : List VmmSegment)
    {d : VmmDriver} (hne : entries ≠ []) (hmem : ∀ entry ∈ entries, entry.mapping ∈ d.mappings)
    (hfault : cuda.fault n = none) :
    (unmapEach cuda entries n table d).2.2.mappings.length < d.mappings.length := by
  obtain ⟨entry, rest, rfl⟩ := List.exists_cons_of_ne_nil hne
  have hentry := hmem entry List.mem_cons_self
  have hpos := List.length_pos_of_mem hentry
  have herase : (d.mappings.erase entry.mapping).length = d.mappings.length - 1 :=
    List.length_erase_of_mem hentry
  simp only [unmapEach, hfault]
  split
  · simp only [VmmDriver.unmap, herase]
    omega
  · have hsub := (@unmapEach_sublist cuda rest (n + 2) (table.erase entry)
      ((d.unmap entry.mapping).releaseHandle entry.mapping.handle)).length_le
    simp only [VmmDriver.unmap, VmmDriver.releaseHandle, herase] at hsub ⊢
    omega

/-- **A call that spoils the worker raises and leaves it changed.** -/
theorem ne_of_spoils (hcoherent : Coherent s) (hvalid : op.Valid)
    (hspoils : Spoils cuda cfg op handles s) :
    ∃ error s', s.applyWorkerResize cuda cfg op handles = (.error error, s') ∧ s' ≠ s := by
  obtain ⟨hp, ⟨hstage, himports, hzero⟩ | ⟨hstage, ⟨resolved, hresolves⟩, hfault, k, hk, hcode⟩⟩ :=
    hspoils
  · obtain ⟨error, herror⟩ := mapSegments_of_unverified himports hzero
    refine ⟨error, s.grown cuda op, ?_,
      grown_ne (segments_ne_nil hvalid (by rw [hstage]; rfl))⟩
    rw [applyWorkerResize_of_pending hp, mutate, hstage]
    simp only [herror]
    rfl
  · have hquiet : ¬cuda.Quiet 0 (2 * op.segments.length) := fun h =>
      hcode (by simpa using h k hk)
    obtain ⟨error, herror⟩ := unmapStage_of_not_quiet hresolves hquiet
    refine ⟨error, { s with
      segments := (unmapEach cuda (sortResolved resolved) 0 s.segments s.driver).2.1
      driver := (unmapEach cuda (sortResolved resolved) 0 s.segments s.driver).2.2 }, ?_,
      fun heq => ?_⟩
    · rw [applyWorkerResize_of_pending hp, mutate, hstage]
      simp only [herror]
      rfl
    · have hmem : ∀ entry ∈ sortResolved resolved, entry.mapping ∈ s.driver.mappings := by
        intro entry hentry
        have htable := (mapM_resolve_eq_ok hresolves.resolved).1 entry
          ((sortResolved_perm resolved).mem_iff.mp hentry)
        exact hcoherent.mappings.mem_iff.mpr (List.mem_map_of_mem htable)
      have hlt := mappings_length_lt s.segments (sortResolved_ne_nil hresolves hquiet)
        hmem hfault
      exact absurd (congrArg (fun s => s.driver.mappings.length) heq) hlt.ne

/-- **A failed worker resize leaves the worker as it was exactly when it neither fails the zero check
of a growth nor fails in the middle of a shrink** — in every state that accepted operations reach
without doing either. -/
theorem atomic_iff_not_spoils (cfg : VmmConfig) {s : Hook}
    (hreach : (lts cfg).ReachBy (Intact cfg) s) {operation : Json}
    (hcheck : checkResizeOperation operation = .ok ()) (cuda : Cuda) (handles : List Fd) :
    Atomic cuda cfg (.ofJson operation) handles s ↔
      ¬Spoils cuda cfg (.ofJson operation) handles s := by
  have hvalid := ResizeOperation.valid_of_check hcheck
  constructor
  · intro hatomic hspoils
    obtain ⟨error, s', happly, hne⟩ :=
      ne_of_spoils (coherent_of_reachBy hreach) hvalid hspoils
    exact hne (hatomic error s' happly).1
  · intro hspoils error s' happly
    obtain rfl := eq_of_not_spoils hspoils happly
    exact ⟨rfl, replaysOnce_self cfg _ _⟩

/-- The driver of the example, with one call that fails. -/
def failingAt (n : ℕ) : Cuda := { working with fault := fun k => if k = n then some 700 else none }

/-- A growth whose `cuMemMap` fails is rolled back. -/
theorem atomic_iff_not_spoils_mapFails :
    Atomic (failingAt 1) config (growth 2 64 64).op [8] twoMapped := by
  have hspoils : ¬Spoils (failingAt 1) config (growth 2 64 64).op [8] twoMapped := by
    rintro ⟨-, ⟨-, himports, -⟩ | ⟨hstage, -⟩⟩
    · exact absurd (himports.quiet 1 (by decide)) (by decide)
    · exact absurd hstage (by decide)
  exact (atomic_iff_not_spoils config (.init imported_twoMapped) rfl (failingAt 1) [8]).mpr hspoils

/-- The shrink that undoes the growth of the example. -/
def shrink (cuda : Cuda) : Act where
  operation :=
    .obj [("participant_epoch", .int 1), ("resize_generation", .int 2), ("binding_id", .str "b"),
      ("stage", .str "unmap_workers"), ("from_block_count", .int 4),
      ("target_block_count", .int 2), ("bytes_per_block", .int 32),
      ("allocation_granularity_bytes", .int 32),
      ("segments", .list [.obj [("segment_id", .str "s1"), ("offset_bytes", .int 64),
        ("length_bytes", .int 64), ("handle_index", .int 0)]])]
  handles := []
  cuda := cuda

/-- **A shrink whose release fails has unmapped the segment that the table still records.** -/
theorem not_atomic_releaseFails :
    ¬∀ (cfg : VmmConfig) (s : Hook), (lts cfg).Reach s → ∀ (operation : Json),
      checkResizeOperation operation = .ok () → ∀ (cuda : Cuda) (handles : List Fd),
        Atomic cuda cfg (.ofJson operation) handles s := by
  intro h
  have hexec : ∃ s, (lts config).exec twoMapped [growth 2 64 64] = some s ∧
      s.driver.mappings.length = 2 ∧
      ∃ error s', s.applyWorkerResize (failingAt 1) config (shrink (failingAt 1)).op [] =
        (.error error, s') ∧ s'.driver.mappings.length = 1 :=
    ⟨_, rfl, rfl, _, _, rfl, rfl⟩
  obtain ⟨s, hs, hbefore, error, s', happly, hafter⟩ := hexec
  have hatomic := h config s (Lts.reach_of_exec (.init imported_twoMapped) _ hs)
    (shrink (failingAt 1)).operation rfl (failingAt 1) []
  obtain ⟨rfl, -⟩ := hatomic error s' happly
  exact absurd (hbefore.symm.trans hafter) (by decide)

end Kapsl.Vllm.VmmRollback
