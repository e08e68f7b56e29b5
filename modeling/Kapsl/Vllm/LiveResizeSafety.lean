import Kapsl.Vllm.LiveResizeInv
import Kapsl.Vllm.VmmPrefix

/-!
# Vllm/LiveResizeSafety — no usable block is ever unmapped

The steps of the coordinator keep the invariants of the scheduler and of the workers: a transaction
starts from the size all of them have, a stage ends once its actors have applied it, and counting an
acknowledgement changes neither transaction nor stage.  With the parties' own steps this makes an
invariant of the runs.

* `liveResize_safe` — in every run of a trusted coordinator, every block vLLM may touch is mapped by
  every worker.
-/

namespace Kapsl.Vllm.LiveResize

open Tiling ManagedVmmImport

variable {W : Type*} {cfg : W → VmmConfig} {c : Coordinator W}

/-! ## The steps of the coordinator -/

section Coordinator

variable {txn : Txn W} {f : Outstanding W → Outstanding W}

/-- A new transaction. -/
theorem CoordinatorInv.start (hissued : Issued cfg c.completed txn) :
    CoordinatorInv cfg (c.start txn) := by
  refine ⟨fun t ht => ?_, fun t ht => ?_, fun t ht => ?_⟩
  · obtain rfl := Option.some.inj ht
    rfl
  · obtain rfl := Option.some.inj ht
    exact hissued
  · obtain rfl := Option.some.inj ht
    simp only [Coordinator.start]
    split <;> simp_all [ResizeStage.grows]

/-- The outstanding transaction in another stage of the same direction. -/
theorem CoordinatorInv.restage {t : Outstanding W} {stage : ResizeStage}
    (h : CoordinatorInv cfg c) (ht : c.current = some t) (hgrows : stage.grows = t.stage.grows) :
    CoordinatorInv cfg { c with current := some { t with stage := stage } } := by
  refine ⟨fun t' ht' => ?_, fun t' ht' => ?_, fun t' ht' => ?_⟩
  · obtain rfl := Option.some.inj ht'
    exact h.generation t ht
  · obtain rfl := Option.some.inj ht'
    exact h.issued t ht
  · obtain rfl := Option.some.inj ht'
    rw [hgrows]
    exact h.direction t ht

/-- The next stage, or the end. -/
theorem CoordinatorInv.advance (h : CoordinatorInv cfg c) : CoordinatorInv cfg c.advance := by
  unfold Coordinator.advance
  split
  · exact h
  · rename_i t ht
    split
    · rename_i hstage
      exact h.restage ht (hstage ▸ rfl)
    · rename_i hstage
      exact h.restage ht (hstage ▸ rfl)
    · exact ⟨nofun, nofun, nofun⟩

/-- Marking the outstanding stage as acknowledged changes neither transaction nor stage. -/
structure Marks (f : Outstanding W → Outstanding W) : Prop where
  toTxn : ∀ t, (f t).toTxn = t.toTxn
  stage : ∀ t, (f t).stage = t.stage

theorem CoordinatorInv.map (h : CoordinatorInv cfg c) (hf : Marks f) :
    CoordinatorInv cfg { c with current := c.current.map f } := by
  refine ⟨fun t' ht' => ?_, fun t' ht' => ?_, fun t' ht' => ?_⟩
  · obtain ⟨t, ht, rfl⟩ := Option.map_eq_some_iff.mp ht'
    rw [hf.toTxn]
    exact h.generation t ht
  · obtain ⟨t, ht, rfl⟩ := Option.map_eq_some_iff.mp ht'
    rw [hf.toTxn]
    exact h.issued t ht
  · obtain ⟨t, ht, rfl⟩ := Option.map_eq_some_iff.mp ht'
    rw [hf.toTxn, hf.stage]
    exact h.direction t ht

/-- A transaction starts at the completed size. -/
theorem Coordinator.bound_start : (c.start txn).bound = c.completed := by
  rcases Nat.lt_or_ge c.completed txn.target with hlt | hge
  · simp [Coordinator.bound, Coordinator.start, Outstanding.bound, hlt]
  · simp [Coordinator.bound, Coordinator.start, Outstanding.bound, Nat.not_lt.mpr hge]

/-- A worker when a transaction starts. -/
theorem WorkerInv.start {w : W} {s : Worker} (h : WorkerInv cfg c w s) (hnone : c.current = none)
    (hgeneration : c.lastGeneration < txn.generation) : WorkerInv cfg (c.start txn) w s := by
  have hcovers := h.covers
  rw [Coordinator.bound, hnone] at hcovers
  refine ⟨fun g hg => (h.reached_le g hg).trans hgeneration.le, h.acks, fun t ht hacked => ?_,
    fun op hop => ?_, ?_, fun t ht _ hreached => ?_⟩
  · obtain rfl := Option.some.inj ht
    cases hacked
  · rcases h.queue op hop with hreached | ⟨t, ht, -⟩
    · exact .inl hreached
    · cases hnone.symm.trans ht
  · rw [Coordinator.bound_start]
    exact hcovers
  · obtain rfl := Option.some.inj ht
    exact absurd (h.reached_le _ hreached) (not_le.mpr hgeneration)

theorem Outstanding.Acknowledged.worker {t : Outstanding W} (h : t.Acknowledged)
    (hphysical : t.stage.physical = true) (w : W) : t.workerAcked w = true := by
  rw [Outstanding.Acknowledged, if_pos hphysical] at h
  exact h w

theorem Outstanding.Acknowledged.scheduler {t : Outstanding W} (h : t.Acknowledged)
    (hphysical : t.stage.physical = false) : t.schedulerAcked = true := by
  rwa [Outstanding.Acknowledged, if_neg (by simp [hphysical])] at h

/-- Once a stage is acknowledged, everything a worker has still to apply is a replay. -/
theorem WorkerInv.reached_of_acknowledged {w : W} {s : Worker} {t : Outstanding W}
    (hc : CoordinatorInv cfg c) (h : WorkerInv cfg c w s) (ht : c.current = some t)
    (hacked : t.Acknowledged) {op : ResizeOperation} (hop : op ∈ s.thread.queue) :
    Reached s.hook op.resizeGeneration := by
  rcases h.queue op hop with hreached | ⟨t', ht', rfl, hstage⟩
  · exact hreached
  · obtain rfl := Option.some.inj (ht.symm.trans ht')
    obtain ⟨-, hgeneration, -, -, -, hworker⟩ := (hc.issued t ht).worker w
    -- A worker operation is outstanding, so the stage is one of the workers.
    have hphysical : t.stage.physical = true := by
      rw [← hstage, hworker]
      split <;> rfl
    exact hgeneration ▸ h.acked t ht (hacked.worker hphysical w)

/-- A worker in a stage after the first, with nothing left to apply but replays. -/
theorem WorkerInv.restage {w : W} {s : Worker} {t : Outstanding W} {stage : ResizeStage}
    (h : WorkerInv cfg c w s) (ht : c.current = some t) (hstage : stage ≠ .mapWorkers)
    (hqueue : ∀ op ∈ s.thread.queue, Reached s.hook op.resizeGeneration)
    (hcovers : Covers s.hook
      (({ t with stage := stage } : Outstanding W).bound c.completed *
        (cfg w).binding.bytesPerBlock)) :
    WorkerInv cfg { c with current := some { t with stage := stage } } w s := by
  refine ⟨h.reached_le, h.acks, fun t' ht' hacked => ?_, fun op hop => .inl (hqueue op hop), hcovers,
    fun t' ht' hmap => ?_⟩
  · obtain rfl := Option.some.inj ht'
    exact h.acked t ht hacked
  · obtain rfl := Option.some.inj ht'
    exact absurd hmap hstage

/-- **A worker when a stage ends.** -/
theorem WorkerInv.advance {w : W} {s : Worker} (hc : CoordinatorInv cfg c)
    (h : WorkerInv cfg c w s) (hacked : ∀ t, c.current = some t → t.Acknowledged) :
    WorkerInv cfg c.advance w s := by
  unfold Coordinator.advance
  split
  · exact h
  · rename_i t ht
    have hqueue := fun op (hop : op ∈ s.thread.queue) =>
      h.reached_of_acknowledged hc ht (hacked t ht) hop
    have hcovers := h.covers
    rw [Coordinator.bound_of_some ht, Outstanding.bound] at hcovers
    split
    · -- Every worker has mapped the growth, so this one covers the target.
      rename_i hstage
      have hmine : t.workerAcked w = true := (hacked t ht).worker (hstage ▸ rfl) w
      exact h.restage ht (by rintro ⟨⟩) hqueue (h.mapped t ht hstage (h.acked t ht hmine))
    · -- The workers are about to give up the blocks between the target and the completed size.
      rename_i hstage
      have hdirection := hc.direction t ht
      rw [hstage] at hcovers hdirection
      have hle : t.target ≤ c.completed :=
        Nat.le_of_not_lt fun hlt => by cases hdirection.mpr hlt
      exact h.restage ht (by rintro ⟨⟩) hqueue (hcovers.mono (Nat.mul_le_mul_right _ hle))
    · rename_i hnmap hnretire
      refine ⟨h.reached_le, h.acks, by rintro _ ⟨⟩, fun op hop => .inl (hqueue op hop), ?_,
        by rintro _ ⟨⟩⟩
      cases hstage : t.stage with
      | mapWorkers => exact absurd hstage hnmap
      | retireScheduler => exact absurd hstage hnretire
      | activateScheduler => rw [hstage] at hcovers; exact hcovers
      | unmapWorkers => rw [hstage] at hcovers; exact hcovers

theorem Coordinator.bound_map (hf : Marks f) :
    ({ c with current := c.current.map f } : Coordinator W).bound = c.bound := by
  cases hcurrent : c.current with
  | none => simp [Coordinator.bound, hcurrent]
  | some t => simp [Coordinator.bound, Outstanding.bound, hcurrent, hf.toTxn, hf.stage]

/-- A worker when acknowledgements are counted. -/
theorem WorkerInv.map {w : W} {s : Worker} (h : WorkerInv cfg c w s) (hf : Marks f)
    (hacked : ∀ t, c.current = some t → (f t).workerAcked w = true → Reached s.hook t.generation) :
    WorkerInv cfg { c with current := c.current.map f } w s := by
  refine ⟨h.reached_le, h.acks, fun t' ht' hmark => ?_, fun op hop => ?_, ?_,
    fun t' ht' hmap hreached => ?_⟩
  · obtain ⟨t, ht, rfl⟩ := Option.map_eq_some_iff.mp ht'
    rw [hf.toTxn]
    exact hacked t ht hmark
  · refine (h.queue op hop).imp_right fun ⟨t, ht, hop, hstage⟩ => ⟨f t, ?_, ?_, ?_⟩
    · exact Option.map_eq_some_iff.mpr ⟨t, ht, rfl⟩
    · rw [hf.toTxn]
      exact hop
    · rw [hf.stage]
      exact hstage
  · rw [Coordinator.bound_map hf]
    exact h.covers
  · obtain ⟨t, ht, rfl⟩ := Option.map_eq_some_iff.mp ht'
    rw [hf.toTxn] at hreached ⊢
    exact h.mapped t ht (hf.stage t ▸ hmap) hreached

/-! ## The scheduler at the steps of the coordinator -/

variable {s s' : Scheduler}

/-- The scheduler when a transaction starts. -/
theorem SchedulerInv.start (h : SchedulerInv c s) (hnone : c.current = none)
    (hgeneration : c.lastGeneration < txn.generation) : SchedulerInv (c.start txn) s := by
  have hsettled := h.phase
  simp only [Phase, hnone] at hsettled
  have hstale : ∀ op ∈ s.pipeline, op.resizeGeneration < txn.generation :=
    fun op hop => (h.pipeline_le op hop).trans_lt hgeneration
  have hquiet : ∀ t : Outstanding W, t.toTxn = txn → t.schedulerAcked = false → ¬Acted t s := by
    rintro t rfl hfalse (hacked | ⟨ack, hack, heq⟩)
    · exact absurd (hfalse.symm.trans hacked) nofun
    · have hle := h.acks_le ack hack
      omega
  refine ⟨h.bounded, fun op hop => (hstale op hop).le,
    fun ack hack => (h.acks_le ack hack).trans hgeneration.le, ?_⟩
  rcases Nat.lt_or_ge c.completed txn.target with hlt | hge
  · simp only [Phase, Coordinator.start, if_pos hlt]
    exact ⟨hsettled, hstale, hquiet _ rfl rfl⟩
  · simp only [Phase, Coordinator.start, if_neg (Nat.not_lt.mpr hge)]
    exact ⟨s.pipeline, [], (List.append_nil _).symm,
      fun op hop => ⟨hsettled.pipeline op hop, hstale op hop⟩, nofun, .inl hsettled.current,
      fun hacted => absurd hacted (hquiet _ rfl rfl)⟩

/-- The scheduler that has acknowledged has the new size. -/
theorem Moving.settled {completed : ℕ} {t : Outstanding W} {old new : List ResizeOperation}
    (h : Moving completed t s old new) (hacked : t.schedulerAcked = true) :
    Settled t.target s := by
  obtain ⟨hcurrent, rfl⟩ := h.acted (.inl hacked)
  refine ⟨hcurrent, fun op hop => ?_⟩
  rw [h.pipeline, List.nil_append] at hop
  exact h.fresh op hop

/-- **The scheduler when a stage ends.** -/
theorem SchedulerInv.advance (h : SchedulerInv c s)
    (hacked : ∀ t, c.current = some t → t.Acknowledged) : SchedulerInv c.advance s := by
  have hphase := h.phase
  unfold Coordinator.advance
  unfold Phase at hphase
  split
  · exact h
  · rename_i t ht
    simp only [ht] at hphase
    cases hstage : t.stage with
    | mapWorkers =>
      simp only [hstage] at hphase ⊢
      obtain ⟨hsettled, hstale, hquiet⟩ := hphase
      exact ⟨h.bounded, h.pipeline_le, h.acks_le, s.pipeline, [], (List.append_nil _).symm,
        fun op hop => ⟨hsettled.pipeline op hop, hstale op hop⟩, nofun, .inl hsettled.current,
        fun hacted => absurd hacted hquiet⟩
    | activateScheduler =>
      simp only [hstage] at hphase ⊢
      obtain ⟨old, new, hmoving⟩ := hphase
      exact ⟨h.bounded, h.pipeline_le, h.acks_le,
        hmoving.settled ((hacked t ht).scheduler (hstage ▸ rfl))⟩
    | retireScheduler =>
      simp only [hstage] at hphase ⊢
      obtain ⟨old, new, hmoving⟩ := hphase
      exact ⟨h.bounded, h.pipeline_le, h.acks_le,
        hmoving.settled ((hacked t ht).scheduler (hstage ▸ rfl))⟩
    | unmapWorkers =>
      simp only [hstage] at hphase ⊢
      exact ⟨h.bounded, h.pipeline_le, h.acks_le, hphase⟩

/-- The scheduler when acknowledgements are counted. -/
theorem SchedulerInv.map (h : SchedulerInv c s) (hf : Marks f)
    (hacked : ∀ t, c.current = some t → (f t).schedulerAcked = true → Acted t s) :
    SchedulerInv { c with current := c.current.map f } s := by
  refine ⟨h.bounded, h.pipeline_le, h.acks_le, ?_⟩
  have hphase := h.phase
  unfold Phase at hphase ⊢
  cases ht : c.current with
  | none =>
    simp only [ht, Option.map_none] at hphase ⊢
    exact hphase
  | some t =>
    have hacted : Acted (f t) s → Acted t s := by
      rintro (hmark | ⟨ack, hack, heq⟩)
      · exact hacked t ht hmark
      · exact .inr ⟨ack, hack, by rw [heq, hf.toTxn]⟩
    have hmoving : ∀ {old new}, Moving c.completed t s old new →
        Moving c.completed (f t) s old new := by
      intro old new hmoving
      refine ⟨hmoving.pipeline, ?_, ?_, ?_, ?_⟩
      · rw [hf.toTxn]
        exact hmoving.stale
      · rw [hf.toTxn]
        exact hmoving.fresh
      · rw [hf.toTxn]
        exact hmoving.current
      · rw [hf.toTxn]
        exact fun h => hmoving.acted (hacted h)
    simp only [ht, Option.map_some, hf.stage] at hphase ⊢
    split at hphase
    · obtain ⟨hsettled, hstale, hquiet⟩ := hphase
      refine ⟨hsettled, ?_, fun h => hquiet (hacted h)⟩
      rw [hf.toTxn]
      exact hstale
    · obtain ⟨old, new, h⟩ := hphase
      exact ⟨old, new, hmoving h⟩
    · obtain ⟨old, new, h⟩ := hphase
      exact ⟨old, new, hmoving h⟩
    · rw [hf.toTxn]
      exact hphase

end Coordinator

/-! ## The invariant at the start -/

section Start

variable {receipt pool : Json} {initial maximum : ℕ}

theorem blockCountShape_eq_ok {shape : ℕ × ℕ × ℕ} (h : blockCountShape pool = .ok shape) :
    shape = ((ElasticBinding.ofJson pool).minimumBlockCount,
      (ElasticBinding.ofJson pool).mappedBlockCount,
      (ElasticBinding.ofJson pool).maximumBlockCount) := by
  simp only [blockCountShape, Except.bind_eq_ok, Except.raiseIf_eq_ok, Except.pure_eq_ok] at h
  obtain ⟨-, -, -, -, minimum, hminimum, mapped, hmapped, maximum, hmaximum, rfl⟩ := h
  rw [(positiveInteger_eq_ok hminimum).2, (positiveInteger_eq_ok hmapped).2,
    (positiveInteger_eq_ok hmaximum).2]
  rfl

/-- A receipt without pools has none either way. -/
theorem receiptPools_eq (receipt : Json) :
    receiptPools receipt = (receipt.get "shared_pools").items := by
  rw [receiptPools, Json.getD, Json.get]
  cases receipt.get? "shared_pools" <;> rfl

/-- **Every binding of the receipt is mapped to the size the scheduler starts from.** -/
theorem mappedBlockCount_of_blockCounts
    (h : elasticReceiptBlockCounts receipt = .ok (initial, maximum))
    (hmem : pool ∈ receiptPools receipt) :
    (ElasticBinding.ofJson pool).mappedBlockCount = initial := by
  simp only [elasticReceiptBlockCounts, Except.bind_eq_ok, Except.raiseIf_eq_ok] at h
  obtain ⟨-, -, shapes, hshapes, hmatch⟩ := h
  split at hmatch
  · rename_i minimum initial' maximum' hdedup
    simp only [Except.bind_eq_ok, Except.raiseIf_eq_ok, Except.pure_eq_ok, Prod.mk.injEq] at hmatch
    obtain ⟨-, -, rfl, rfl⟩ := hmatch
    have hshape := Except.eq_map_of_mapM (fun _ _ => blockCountShape_eq_ok) hshapes
    rw [receiptPools_eq] at hmem
    have hone := List.mem_dedup.mpr (hshape ▸ List.mem_map_of_mem hmem)
    rw [hdedup, List.mem_singleton, Prod.mk.injEq, Prod.mk.injEq] at hone
    exact hone.2.1
  · cases hmatch

/-- A worker covers what its binding maps. -/
theorem covers_of_ofBinding {cuda : Cuda} {cfg : VmmConfig} {handles : List Fd} {hook : Hook}
    (hvalid : cfg.binding.Valid) (h : Hook.ofBinding cuda cfg handles = .ok hook) :
    Covers hook cfg.binding.mappedBytes := by
  obtain rfl := Hook.ofBinding_eq_ok h
  intro p hp
  obtain ⟨span, hspan, hle, hlt⟩ := hvalid.cover.tiles.exists_mem (Nat.zero_le p) hp
  have hperm := map_span_entriesOf cuda (sortSegments cfg.binding.segments) 0
  rw [(List.perm_insertionSort ByOffset _).mem_iff,
    ← ((sortSegments_perm _).map Segment.span).mem_iff, ← hperm] at hspan
  obtain ⟨entry, hentry, rfl⟩ := List.mem_map.mp hspan
  refine ⟨entry.mapping, List.mem_append_left _ ?_, hle, hlt⟩
  exact List.mem_reverse.mpr (List.mem_map_of_mem hentry)

end Start

/-! ## The invariant of the runs -/

/-- The invariant of the coordinator, the scheduler and every worker. -/
structure Inv (cfg : W → VmmConfig) (s : State W) : Prop where
  coordinator : CoordinatorInv cfg s.coordinator
  scheduler : SchedulerInv s.coordinator s.scheduler
  workers : ∀ w, WorkerInv cfg s.coordinator w (s.workers w)

/-- **The invariant holds when the parties have started.** -/
theorem Started.inv {s : State W} (h : Started cfg s) : Inv cfg s := by
  obtain ⟨I, receipt, accepted, participantId, initial, maximum, hreceipt, hcounts, hcompleted,
    ⟨fresh, faults, hfresh, rfl, -, hbind⟩, hworkers⟩ := h.receipt
  obtain ⟨hcurrent, hpolled, hpending, hthread, hacks, hidle⟩ := h.nothing
  obtain ⟨hbounded, hblocks⟩ := hfresh.bounded_of_bind hbind
  have hpipeline : s.scheduler.pipeline = [] := by
    simp [Scheduler.pipeline, hpolled, hpending, hthread]
  refine ⟨⟨by simp [hcurrent], by simp [hcurrent], by simp [hcurrent]⟩,
    ⟨hbounded, by simp [hpipeline], by simp [hacks], ?_⟩, fun w => ?_⟩
  · simp only [Phase, hcurrent]
    exact ⟨hblocks.trans hcompleted.symm, by simp [hpipeline]⟩
  · obtain ⟨pool, cuda, handles, hmem, hvmm, hbinding, hhook⟩ := hworkers w
    obtain ⟨hwthread, hwacks⟩ := hidle w
    have hvalid : (cfg w).binding.Valid :=
      hbinding ▸ ElasticBinding.valid_of_receipt hreceipt hmem hvmm
    have hcovers := covers_of_ofBinding hvalid hhook
    rw [ElasticBinding.mappedBytes, hbinding, mappedBlockCount_of_blockCounts hcounts hmem,
      ← hcompleted, ← hbinding] at hcovers
    have hfirst : ∀ g, ¬Reached (s.workers w).hook g := by
      rintro g ⟨key, hkey, -⟩
      rw [Hook.ofBinding_eq_ok hhook] at hkey
      cases hkey
    refine ⟨fun g hg => absurd hg (hfirst g), by simp [hwacks], by simp [hcurrent],
      by simp [hwthread], ?_, by simp [hcurrent]⟩
    rw [Coordinator.bound, hcurrent]
    exact hcovers

/-- The acknowledgement of the scheduler is counted. -/
theorem Inv.deliverScheduler {s : State W} (h : Inv cfg s) {ack : Ack}
    (hack : ack ∈ s.scheduler.acks) :
    Inv cfg { s with
      coordinator := s.coordinator.schedulerAck ack
      scheduler := { s.scheduler with acks := s.scheduler.acks.erase ack } } := by
  have hmarks : Marks fun t : Outstanding W =>
      if ack = (t.generation, t.stage) then { t with schedulerAcked := true } else t := by
    refine ⟨fun t => ?_, fun t => ?_⟩ <;> split <;> rfl
  refine ⟨h.coordinator.map hmarks, ?_, fun w => (h.workers w).map hmarks fun t ht hacked => ?_⟩
  · have hmap := h.scheduler.map hmarks fun t ht hacked => by
      split at hacked
      · rename_i heq
        exact .inr ⟨ack, hack, congrArg Prod.fst heq⟩
      · exact .inl hacked
    exact hmap.of_sublist h.scheduler.bounded rfl (.refl _) fun ack' => List.mem_of_mem_erase
  · refine (h.workers w).acked t ht ?_
    split at hacked
    · exact hacked
    · exact hacked

/-- The scheduler's block count never exceeds what every worker covers. -/
theorem Inv.current_le {s : State W} (h : Inv cfg s) :
    s.scheduler.pool.currentBlocks ≤ s.coordinator.bound := by
  have hphase := h.scheduler.phase
  unfold Phase at hphase
  split at hphase
  · rename_i hnone
    rw [Coordinator.bound, hnone, hphase.current]
  · rename_i t ht
    have hdirection := h.coordinator.direction t ht
    rw [Coordinator.bound_of_some ht, Outstanding.bound]
    cases hstage : t.stage with
    | mapWorkers =>
      simp only [hstage] at hphase ⊢
      exact hphase.1.current.le
    | activateScheduler =>
      simp only [hstage] at hphase hdirection ⊢
      obtain ⟨old, new, hmoving⟩ := hphase
      have hlt : s.coordinator.completed < t.target := hdirection.mp rfl
      rcases hmoving.current with hcurrent | ⟨hcurrent, -⟩ <;> omega
    | retireScheduler =>
      simp only [hstage] at hphase hdirection ⊢
      obtain ⟨old, new, hmoving⟩ := hphase
      have hle : ¬s.coordinator.completed < t.target := by
        intro hlt
        cases hdirection.mpr hlt
      rcases hmoving.current with hcurrent | ⟨hcurrent, -⟩ <;> omega
    | unmapWorkers =>
      simp only [hstage] at hphase ⊢
      exact hphase.current.le

/-- A block vLLM may touch lies below the block count. -/
theorem Usable.lt {pool : VllmElasticBlockPool} {block : ℕ} (hb : pool.Bounded)
    (h : Usable pool block) : block < pool.currentBlocks := by
  rcases h with hqueue | hlive | hnull
  · exact (hb.queued block hqueue).1
  · exact hb.live block hlive
  · rw [hb.isNull, decide_eq_true_iff] at hnull
    exact hnull ▸ hb.pos

variable [DecidableEq W]

/-- One worker changes. -/
theorem Inv.setWorker {s : State W} (h : Inv cfg s) {w : W} {worker : Worker}
    (hw : WorkerInv cfg s.coordinator w worker) : Inv cfg (s.setWorker w worker) := by
  refine ⟨h.coordinator, h.scheduler, fun v => ?_⟩
  by_cases hv : v = w
  · subst hv
    simp only [State.setWorker, Function.update_self]
    exact hw
  · simp only [State.setWorker, Function.update_of_ne hv]
    exact h.workers v

/-- The acknowledgement of a worker is counted. -/
theorem Inv.deliverWorker {s : State W} (h : Inv cfg s) {w : W} {ack : Ack}
    (hack : ack ∈ (s.workers w).acks) :
    Inv cfg ({ s with coordinator := s.coordinator.workerAck w ack }.setWorker w
      { s.workers w with acks := (s.workers w).acks.erase ack }) := by
  have hmarks : Marks fun t : Outstanding W =>
      if ack = (t.generation, t.stage) then
        { t with workerAcked := Function.update t.workerAcked w true } else t := by
    refine ⟨fun t => ?_, fun t => ?_⟩ <;> split <;> rfl
  have hworkers : ∀ v, WorkerInv cfg (s.coordinator.workerAck w ack) v (s.workers v) := by
    refine fun v => (h.workers v).map hmarks fun t ht hacked => ?_
    split at hacked
    · rename_i heq
      by_cases hv : v = w
      · subst hv
        subst heq
        exact (h.workers v).acks _ hack
      · simp only [Function.update_of_ne hv] at hacked
        exact (h.workers v).acked t ht hacked
    · exact (h.workers v).acked t ht hacked
  have hscheduler : SchedulerInv (s.coordinator.workerAck w ack) s.scheduler := by
    refine h.scheduler.map hmarks fun t ht hacked => .inl ?_
    split at hacked
    · exact hacked
    · exact hacked
  have hinv : Inv cfg { s with coordinator := s.coordinator.workerAck w ack } :=
    ⟨h.coordinator.map hmarks, hscheduler, hworkers⟩
  exact hinv.setWorker ((hworkers w).of_queue rfl (fun ack' => List.mem_of_mem_erase)
    fun op hop => .inl hop)

/-- **Every step of a trusted coordinator, the scheduler, a worker or vLLM keeps the invariant.** -/
theorem Inv.step {s s' : State W} (h : Inv cfg s) {act : Act W} (hok : Assumed cfg s act)
    (hs : step cfg s act = some s') : Inv cfg s' := by
  have hscheduler : ((stepScheduler s.scheduler act).map fun scheduler =>
      { s with scheduler := scheduler }) = some s' → Inv cfg s' := by
    intro hs
    obtain ⟨scheduler, hstep, rfl⟩ := Option.map_eq_some_iff.mp hs
    refine ⟨h.coordinator, h.scheduler.step h.coordinator hstep fun operations heq => ?_, h.workers⟩
    subst heq
    exact hok
  have hworker : ∀ w, (∀ v operations handles, act = .workerPoll v operations handles → v = w) →
      (stepWorker (cfg w) (s.workers w) act).map (s.setWorker w) = some s' → Inv cfg s' := by
    intro w hactor hs
    obtain ⟨worker, hstep, rfl⟩ := Option.map_eq_some_iff.mp hs
    refine h.setWorker ((h.workers w).step h.coordinator hstep fun v operations handles heq => ?_)
    obtain rfl := hactor v operations handles heq
    subst heq
    exact hok
  cases act with
  | begin txn =>
    obtain rfl := Option.some.inj hs
    obtain ⟨hnone, hgeneration, hissued⟩ := hok
    exact ⟨.start hissued, h.scheduler.start hnone hgeneration,
      fun w => (h.workers w).start hnone hgeneration⟩
  | advance =>
    obtain rfl := Option.some.inj hs
    exact ⟨h.coordinator.advance, h.scheduler.advance hok,
      fun w => (h.workers w).advance h.coordinator hok⟩
  | deliverScheduler ack =>
    simp only [LiveResize.step, Option.ite_none_right_eq_some, Option.some.injEq] at hs
    obtain ⟨hack, rfl⟩ := hs
    exact h.deliverScheduler hack
  | deliverWorker w ack =>
    simp only [LiveResize.step, Option.ite_none_right_eq_some, Option.some.injEq] at hs
    obtain ⟨hack, rfl⟩ := hs
    exact h.deliverWorker hack
  | workerPoll w operations handles =>
    exact hworker w (fun v operations' handles' heq => (Act.workerPoll.inj heq).1.symm) hs
  | workerApply w cuda => exact hworker w (fun _ _ _ heq => absurd heq nofun) hs
  | workerAckReturns w ok => exact hworker w (fun _ _ _ heq => absurd heq nofun) hs
  | schedulerPoll operations => exact hscheduler hs
  | schedulerMerge => exact hscheduler hs
  | schedulerTake => exact hscheduler hs
  | schedulerApply faults => exact hscheduler hs
  | schedulerAckReturns ok => exact hscheduler hs
  | alloc block refCnt => exact hscheduler hs
  | free block => exact hscheduler hs

/-- **Every block vLLM may touch is mapped by every worker**, in every state of every run of a
trusted coordinator: whatever polls, applications, acknowledgements, replays, lost acknowledgements,
faults, allocations and frees are interleaved. -/
theorem liveResize_safe (cfg : W → VmmConfig) {s : State W}
    (h : (lts cfg).ReachBy (Assumed cfg) s) : Safe cfg s := by
  have hinv : Inv cfg s :=
    h.invariant (fun _ => Started.inv) fun _ _ _ hinv hok hs => hinv.step hok hs
  intro block husable w p hle hlt
  refine (hinv.workers w).covers p (hlt.trans_le (Nat.mul_le_mul_right _ ?_))
  exact (husable.lt hinv.scheduler.bounded).trans_le hinv.current_le

/-! ## A growth whose acknowledgement is lost -/

/-- The scheduler's half of the growth from two to four blocks. -/
def activation : Json :=
  .obj [("participant_epoch", .int 1), ("resize_generation", .int 1), ("binding_id", .str "b"),
    ("stage", .str "activate_scheduler"), ("from_block_count", .int 2),
    ("target_block_count", .int 4), ("bytes_per_block", .int 32),
    ("allocation_granularity_bytes", .int 32), ("segments", .list [])]

/-- The growth from two to four blocks, with one worker. -/
def growthTxn : Txn Unit where
  generation := 1
  target := 4
  workerOp _ := (VmmPrefix.growth 2 64 64).op
  schedulerOps := [.ofJson activation]

/-- Calls of the free queue that succeed. -/
def noFaults : QueueFaults := ⟨fun _ => false, fun _ => false, false⟩

/-- One scheduler and one worker, both with two of four blocks. -/
def twoBlocks : State Unit where
  coordinator := ⟨2, 0, none⟩
  scheduler := ⟨(VllmElasticBlockPool.fourBlocks.bind noFaults).2, none, [], .idle, 0, []⟩
  workers _ := ⟨VmmPrefix.twoMapped, .idle, [], 0, []⟩

theorem started_twoBlocks : Started (fun _ => VmmPrefix.config) twoBlocks where
  receipt := ⟨VmmPrefix.interpreter, VmmPrefix.receipt, VmmPrefix.receipt, "p", 2, 4, rfl, rfl, rfl,
    ⟨VllmElasticBlockPool.fourBlocks, noFaults, VllmElasticBlockPool.fresh_fourBlocks, rfl, rfl,
      rfl⟩,
    fun _ => ⟨VmmPrefix.twoOfFour, VmmPrefix.working, [7], List.mem_singleton_self _, rfl, rfl,
      rfl⟩⟩
  nothing := ⟨rfl, rfl, rfl, rfl, rfl, fun _ => ⟨rfl, rfl⟩⟩

theorem issued_growthTxn : Issued (fun _ => VmmPrefix.config) 2 growthTxn where
  worker _ := ⟨⟨_, rfl, rfl⟩, rfl, rfl, rfl, rfl, rfl⟩
  scheduler op hop := by
    obtain rfl := List.mem_singleton.mp hop
    exact ⟨⟨_, rfl, rfl⟩, rfl, rfl, rfl, rfl⟩

/-- The worker maps, is told that its acknowledgement failed, and applies the operation again before
the first acknowledgement arrives; the scheduler then activates the blocks. -/
def growthRun : List (Act Unit) :=
  [.begin growthTxn,
    .workerPoll () [growthTxn.workerOp ()] [8], .workerApply () VmmPrefix.working,
    .workerAckReturns () false,
    .workerPoll () [growthTxn.workerOp ()] [9], .workerApply () VmmPrefix.working,
    .deliverWorker () (1, .mapWorkers), .advance,
    .schedulerPoll growthTxn.schedulerOps, .schedulerMerge, .schedulerTake,
    .schedulerApply noFaults, .alloc 3 1]

theorem liveResize_safe_growth :
    ∃ s, (lts fun _ => VmmPrefix.config).exec twoBlocks growthRun = some s ∧
      s.scheduler.pool.pool.freeBlockQueue = [1, 2] ∧ s.scheduler.pool.pool.refCnt 3 = 1 ∧
      Safe (fun _ => VmmPrefix.config) s := by
  refine ⟨_, rfl, rfl, rfl, liveResize_safe _ ?_⟩
  refine Lts.reachBy_of_exec (.init started_twoBlocks) growthRun ?_ rfl
  have hpoll : ∀ op ∈ [growthTxn.workerOp ()], op = growthTxn.workerOp () :=
    fun op hop => List.mem_singleton.mp hop
  refine ⟨⟨rfl, Nat.zero_lt_one, issued_growthTxn⟩, fun op hop => ⟨_, rfl, rfl, hpoll op hop⟩,
    trivial, trivial, fun op hop => ⟨_, rfl, rfl, hpoll op hop⟩, trivial, trivial, fun t ht => ?_,
    fun op hop => ⟨_, rfl, rfl, hop⟩, trivial, trivial, trivial, trivial, trivial⟩
  obtain rfl := Option.some.inj ht
  exact fun _ => rfl

end Kapsl.Vllm.LiveResize
