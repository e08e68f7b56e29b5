import Kapsl.Vllm.LiveResize

/-!
# Vllm/LiveResizeInv — the invariants of the workers and of the scheduler

The coordinator's transaction continues from the completed size (`CoordinatorInv`).  Each worker
covers the larger size of the stage it is in (`WorkerInv`): what it has acknowledged it has applied,
and what it may still apply is a replay or belongs to the outstanding stage.  The scheduler's block
count is one of the two sizes of the transaction (`SchedulerInv`): the operations on their way to it
are replays of the last transaction followed by operations of this one, in the order they were
polled.  Each party's own steps keep its invariant while the coordinator stands still.

* `WorkerInv.step` — a worker polls, applies or is told of its acknowledgement.
* `SchedulerInv.step` — the poll thread, the scheduler thread or vLLM makes a step.
-/

namespace Kapsl.Vllm.LiveResize

open Tiling ManagedVmmImport

/-! ## Which bytes a worker covers -/

section Covers

variable {hook : Hook} {cuda : Cuda} {cfg : VmmConfig} {op : ResizeOperation} {handles : List Fd}
  {m n : ℕ}

theorem Covers.mono (h : Covers hook n) (hle : m ≤ n) : Covers hook m :=
  fun p hp => h p (hp.trans_le hle)

/-- A growth only adds mappings. -/
theorem Covers.grown (h : Covers hook n) : Covers (hook.grown cuda op) n := by
  intro p hp
  obtain ⟨mapping, hmem, hspan⟩ := h p hp
  exact ⟨mapping, List.mem_append_right _ hmem, hspan⟩

/-- **A growth from a covered size covers its target.** -/
theorem Covers.grown_target (hvalid : op.Valid) (hstage : op.stage = .mapWorkers)
    (h : Covers hook (op.fromBlockCount * op.bytesPerBlock)) :
    Covers (hook.grown cuda op) op.targetBytes := by
  intro p hp
  rcases Nat.lt_or_ge p (op.fromBlockCount * op.bytesPerBlock) with hlt | hge
  · exact h.grown p hlt
  · obtain ⟨span, hspan, hle, hlt⟩ := (hvalid.cover_map hstage).tiles.exists_mem hge hp
    rw [(List.perm_insertionSort ByOffset _).mem_iff,
      ← (Hook.span_added_perm cuda op).mem_iff] at hspan
    obtain ⟨entry, hentry, rfl⟩ := List.mem_map.mp hspan
    refine ⟨entry.mapping, List.mem_append_left _ ?_, hle, hlt⟩
    exact List.mem_reverse.mpr (List.mem_map_of_mem hentry)

/-- **A shrink leaves the bytes below its target alone**, however far it got. -/
theorem Covers.shrink {hook' : Hook} {resolved : List VmmSegment} (hvalid : op.Valid)
    (hstage : op.stage = .unmapWorkers) (hresolves : Hook.Resolves cuda op handles hook resolved)
    (hkept : ∀ m ∈ hook.driver.mappings, (∀ entry ∈ sortResolved resolved, m ≠ entry.mapping) →
      m ∈ hook'.driver.mappings) (h : Covers hook op.targetBytes) :
    Covers hook' op.targetBytes := by
  intro p hp
  obtain ⟨mapping, hmem, hle, hlt⟩ := h p hp
  refine ⟨mapping, hkept mapping hmem fun entry hentry heq => ?_, hle, hlt⟩
  have hspan : entry.span ∈ (op.segments.map Segment.span).insertionSort ByOffset := by
    rw [(List.perm_insertionSort ByOffset _).mem_iff,
      ← (Hook.span_sortResolved_perm hresolves).mem_iff]
    exact List.mem_map_of_mem hentry
  have hbounds : op.targetBytes ≤ entry.mapping.offset :=
    ((hvalid.cover_unmap hstage).tiles.bounds hspan).1
  rw [← heq] at hbounds
  omega

end Covers

/-! ## What a worker has applied -/

/-- The worker remembers an operation of at least this generation. -/
def Reached (hook : Hook) (generation : ℕ) : Prop :=
  ∃ key, hook.lastWorkerResize = some key ∧ generation ≤ key.generation

section Apply

variable {hook hook' : Hook} {cuda : Cuda} {cfg : VmmConfig} {op : ResizeOperation}
  {handles : List Fd} {result : Except PyError Unit}

theorem not_pending_of_reached (h : Reached hook op.resizeGeneration) :
    ¬Hook.Pending cfg op hook := by
  rintro ⟨-, hnew⟩
  obtain ⟨key, hkey, hle⟩ := h
  simp only [Hook.isNew, hkey, decide_eq_true_iff] at hnew
  omega

/-- **What a call does to what the worker remembers**: it never forgets, and a call that returns has
reached the generation of its operation, and no later one. -/
theorem reached_of_apply
    (h : hook.applyWorkerResize cuda cfg op handles = (result, hook')) :
    (∀ g, Reached hook g → Reached hook' g) ∧
      (result = .ok () → Reached hook' op.resizeGeneration) ∧
      ∀ g, Reached hook' g → Reached hook g ∨ (result = .ok () ∧ g ≤ op.resizeGeneration) := by
  have hends := Hook.applyWorkerResize_cases cuda cfg op handles hook
  rw [h] at hends
  -- A new operation is remembered in place of an earlier one.
  have hlater : ∀ g, Hook.Pending cfg op hook → Reached hook g → g ≤ op.resizeGeneration := by
    rintro g ⟨-, hnew⟩ ⟨key, hkey, hle⟩
    simp only [Hook.isNew, hkey, decide_eq_true_iff] at hnew
    omega
  cases hends with
  | replayed hlast =>
    exact ⟨fun g hg => hg, fun _ => ⟨op.key, hlast, le_rfl⟩, fun g hg => .inl hg⟩
  | refused => exact ⟨fun g hg => hg, by rintro ⟨⟩, fun g hg => .inl hg⟩
  | unverified => exact ⟨fun g hg => hg, by rintro ⟨⟩, fun g hg => .inl hg⟩
  | interrupted => exact ⟨fun g hg => hg, by rintro ⟨⟩, fun g hg => .inl hg⟩
  | mapped hp =>
    refine ⟨fun g hg => ⟨op.key, rfl, hlater g hp hg⟩, fun _ => ⟨op.key, rfl, le_rfl⟩, ?_⟩
    rintro g ⟨key, hkey, hle⟩
    obtain rfl := Option.some.inj hkey
    exact .inr ⟨rfl, hle⟩
  | unmapped resolved hp =>
    refine ⟨fun g hg => ⟨op.key, rfl, hlater g hp hg⟩, fun _ => ⟨op.key, rfl, le_rfl⟩, ?_⟩
    rintro g ⟨key, hkey, hle⟩
    obtain rfl := Option.some.inj hkey
    exact .inr ⟨rfl, hle⟩

/-- A replay or a stale operation changes nothing. -/
theorem eq_of_reached (hreached : Reached hook op.resizeGeneration)
    (h : hook.applyWorkerResize cuda cfg op handles = (result, hook')) : hook' = hook := by
  have hends := Hook.applyWorkerResize_cases cuda cfg op handles hook
  rw [h] at hends
  have hnot : ¬Hook.Pending cfg op hook := not_pending_of_reached hreached
  cases hends with
  | replayed => rfl
  | refused => rfl
  | mapped hp => exact absurd hp hnot
  | unverified _ hp => exact absurd hp hnot
  | unmapped _ hp => exact absurd hp hnot
  | interrupted _ _ hp => exact absurd hp hnot

/-- **What a growth does to the bytes covered.** -/
theorem covers_of_map (hvalid : op.Valid) (hstage : op.stage = .mapWorkers)
    (h : hook.applyWorkerResize cuda cfg op handles = (result, hook')) :
    (∀ n, Covers hook n → Covers hook' n) ∧
      (result = .ok () → ¬Reached hook op.resizeGeneration →
        Covers hook (op.fromBlockCount * op.bytesPerBlock) → Covers hook' op.targetBytes) := by
  have hends := Hook.applyWorkerResize_cases cuda cfg op handles hook
  rw [h] at hends
  cases hends with
  | replayed hlast => exact ⟨fun n hn => hn, fun _ hnot => absurd ⟨op.key, hlast, le_rfl⟩ hnot⟩
  | refused => exact ⟨fun n hn => hn, nofun⟩
  | mapped => exact ⟨fun n hn => hn.grown, fun _ _ hfrom => hfrom.grown_target hvalid hstage⟩
  | unverified => exact ⟨fun n hn => hn.grown, nofun⟩
  | unmapped _ _ hstage' => exact absurd (hstage.symm.trans hstage') nofun
  | interrupted _ _ _ hstage' => exact absurd (hstage.symm.trans hstage') nofun

/-- **What a shrink does to the bytes covered.** -/
theorem covers_of_unmap (hvalid : op.Valid) (hstage : op.stage = .unmapWorkers)
    (h : hook.applyWorkerResize cuda cfg op handles = (result, hook'))
    (hcovers : Covers hook op.targetBytes) : Covers hook' op.targetBytes := by
  have hends := Hook.applyWorkerResize_cases cuda cfg op handles hook
  rw [h] at hends
  cases hends with
  | replayed => exact hcovers
  | refused => exact hcovers
  | mapped _ hstage' => exact absurd (hstage.symm.trans hstage') nofun
  | unverified _ _ hstage' => exact absurd (hstage.symm.trans hstage') nofun
  | unmapped resolved _ _ hresolves =>
    refine hcovers.shrink hvalid hstage hresolves fun m hm hne => ?_
    refine List.mem_diff_of_mem hm fun hmem => ?_
    obtain ⟨entry, hentry, heq⟩ := List.mem_map.mp hmem
    exact hne entry hentry heq.symm
  | interrupted _ resolved _ _ hresolves =>
    exact hcovers.shrink hvalid hstage hresolves fun m hm hne =>
      mem_unmapEach (sortResolved resolved) 0 hook.segments hook.driver hm hne

end Apply

/-! ## The invariant of the coordinator and of the workers -/

variable {W : Type*}

/-- The operations a thread has taken and not yet applied. -/
def Pc.queue : Pc → List ResizeOperation
  | .idle => []
  | .applying operations => operations
  | .awaiting _ rest => rest

@[simp] theorem Pc.queue_idle : Pc.idle.queue = [] := rfl

@[simp] theorem Pc.queue_awaiting (op : ResizeOperation) (rest : List ResizeOperation) :
    (Pc.awaiting op rest).queue = rest := rfl

@[simp] theorem Pc.queue_run (operations : List ResizeOperation) :
    (Pc.run operations).queue = operations := by
  cases operations <;> rfl

/-- A thread that takes operations awaits nothing. -/
theorem Pc.run_ne_awaiting (operations : List ResizeOperation) {op : ResizeOperation}
    {rest : List ResizeOperation} : Pc.run operations ≠ .awaiting op rest := by
  cases operations with
  | nil => exact nofun
  | cons operation operations => exact nofun

/-- The size every worker covers during a transaction. -/
def Outstanding.bound (t : Outstanding W) (completed : ℕ) : ℕ :=
  match t.stage with
  | .mapWorkers | .retireScheduler => completed
  | .activateScheduler | .unmapWorkers => t.target

/-- The size every worker covers. -/
def Coordinator.bound (c : Coordinator W) : ℕ :=
  match c.current with
  | none => c.completed
  | some t => t.bound c.completed

/-- The outstanding transaction is the last one issued, and its stage fits its direction. -/
structure CoordinatorInv (cfg : W → VmmConfig) (c : Coordinator W) : Prop where
  generation : ∀ t, c.current = some t → t.generation = c.lastGeneration
  issued : ∀ t, c.current = some t → Issued cfg c.completed t.toTxn
  direction : ∀ t, c.current = some t → (t.stage.grows = true ↔ c.completed < t.target)

/-- **A worker covers the size of the stage**: what it acknowledges it has applied, what it may
still apply is a replay or belongs to the outstanding stage, and once it has applied a growth it
covers the target. -/
structure WorkerInv (cfg : W → VmmConfig) (c : Coordinator W) (w : W) (s : Worker) : Prop where
  reached_le : ∀ g, Reached s.hook g → g ≤ c.lastGeneration
  acks : ∀ ack ∈ s.acks, Reached s.hook ack.1
  acked : ∀ t, c.current = some t → t.workerAcked w = true → Reached s.hook t.generation
  queue : ∀ op ∈ s.thread.queue, Reached s.hook op.resizeGeneration ∨
    ∃ t, c.current = some t ∧ op = t.workerOp w ∧ op.stage = t.stage
  covers : Covers s.hook (c.bound * (cfg w).binding.bytesPerBlock)
  mapped : ∀ t, c.current = some t → t.stage = .mapWorkers → Reached s.hook t.generation →
    Covers s.hook (t.target * (cfg w).binding.bytesPerBlock)

variable {cfg : W → VmmConfig} {c : Coordinator W}

theorem Coordinator.bound_of_some {t : Outstanding W} (ht : c.current = some t) :
    c.bound = t.bound c.completed := by
  rw [Coordinator.bound, ht]

theorem Accepted.valid {op : ResizeOperation} (h : Accepted op) : op.Valid := by
  obtain ⟨operation, hcheck, rfl⟩ := h
  exact ResizeOperation.valid_of_check hcheck

section Worker

variable {w : W} {s s' : Worker}

/-- A worker whose thread moves on with some of its operations. -/
theorem WorkerInv.of_queue (h : WorkerInv cfg c w s) (hhook : s'.hook = s.hook)
    (hacks : ∀ ack ∈ s'.acks, ack ∈ s.acks)
    (hqueue : ∀ op ∈ s'.thread.queue, op ∈ s.thread.queue ∨
      ∃ t, c.current = some t ∧ op = t.workerOp w ∧ op.stage = t.stage) : WorkerInv cfg c w s' where
  reached_le := hhook ▸ h.reached_le
  acks ack hack := by
    rw [hhook]
    exact h.acks ack (hacks ack hack)
  acked := hhook ▸ h.acked
  queue op hop := by
    rw [hhook]
    rcases hqueue op hop with hop | hnew
    · exact h.queue op hop
    · exact .inr hnew
  covers := hhook ▸ h.covers
  mapped := hhook ▸ h.mapped

/-- The stage of a worker operation in a stage of the workers. -/
theorem CoordinatorInv.workerOp_stage (hc : CoordinatorInv cfg c) {t : Outstanding W}
    (ht : c.current = some t) (hphysical : t.stage.physical = true) :
    (t.workerOp w).stage = t.stage := by
  rw [((hc.issued t ht).worker w).2.2.2.2.2]
  have hdirection := hc.direction t ht
  cases hstage : t.stage with
  | mapWorkers =>
    rw [hstage] at hdirection
    exact if_pos (hdirection.mp rfl)
  | unmapWorkers =>
    rw [hstage] at hdirection
    exact if_neg fun hlt => absurd (hdirection.mpr hlt) nofun
  | activateScheduler => rw [hstage] at hphysical; exact absurd hphysical nofun
  | retireScheduler => rw [hstage] at hphysical; exact absurd hphysical nofun

/-- The target of a worker operation, in bytes. -/
theorem Issued.targetBytes {completed : ℕ} {txn : Txn W} (h : Issued cfg completed txn) (w : W) :
    (txn.workerOp w).targetBytes = txn.target * (cfg w).binding.bytesPerBlock := by
  obtain ⟨-, -, -, htarget, hstride, -⟩ := h.worker w
  rw [ResizeOperation.targetBytes, htarget, hstride]

/-- The bytes an operation of the outstanding stage leaves covered. -/
theorem WorkerInv.covers_apply (hc : CoordinatorInv cfg c) (h : WorkerInv cfg c w s)
    {t : Outstanding W} (ht : c.current = some t) {hook' : Hook} {result : Except PyError Unit}
    {cuda : Cuda} (hstage : (t.workerOp w).stage = t.stage)
    (happly : s.hook.applyWorkerResize cuda (cfg w) (t.workerOp w) s.handles = (result, hook')) :
    Covers hook' (c.bound * (cfg w).binding.bytesPerBlock) ∧
      (t.stage = .mapWorkers → result = .ok () →
        Covers hook' (t.target * (cfg w).binding.bytesPerBlock)) := by
  obtain ⟨haccepted, hgeneration, hfrom, -, hstride, hop⟩ := (hc.issued t ht).worker w
  have htarget := (hc.issued t ht).targetBytes w
  have hcovers := h.covers
  rw [Coordinator.bound_of_some ht, Outstanding.bound, ← hstage, hop] at hcovers
  rw [Coordinator.bound_of_some ht, Outstanding.bound, ← hstage, hop]
  split at hop
  · -- A growth: what was covered stays covered, and the target is covered once it is applied.
    obtain ⟨hkeeps, hgrows⟩ := covers_of_map haccepted.valid hop happly
    rw [hfrom, hstride, htarget] at hgrows
    simp only [if_pos ‹c.completed < t.target›] at hcovers ⊢
    refine ⟨hkeeps _ hcovers, fun _ hok => ?_⟩
    by_cases hreached : Reached s.hook (t.workerOp w).resizeGeneration
    · rw [eq_of_reached hreached happly]
      exact h.mapped t ht (hstage.symm.trans hop) (hgeneration ▸ hreached)
    · exact hgrows hok hreached hcovers
  · simp only [if_neg ‹¬c.completed < t.target›] at hcovers ⊢
    refine ⟨?_, nofun⟩
    rw [← htarget] at hcovers ⊢
    exact covers_of_unmap haccepted.valid hop happly hcovers

/-- **A worker applies an operation.** -/
theorem WorkerInv.apply (hc : CoordinatorInv cfg c) (h : WorkerInv cfg c w s)
    {op : ResizeOperation} {rest : List ResizeOperation}
    (hthread : s.thread = .applying (op :: rest)) (cuda : Cuda) :
    WorkerInv cfg c w (s.apply cuda (cfg w) op rest) := by
  have hqueue : ∀ op' ∈ op :: rest, Reached s.hook op'.resizeGeneration ∨
      ∃ t, c.current = some t ∧ op' = t.workerOp w ∧ op'.stage = t.stage := by
    have := h.queue
    rwa [hthread] at this
  cases happly : s.hook.applyWorkerResize cuda (cfg w) op s.handles with
  | mk result hook' =>
    obtain ⟨hkeeps, hok, hback⟩ := reached_of_apply happly
    -- What the operation may do to the bytes covered depends on whether it is a replay.
    obtain ⟨hle, hcovers, hmapped⟩ : (∀ g, Reached hook' g → g ≤ c.lastGeneration) ∧
        Covers hook' (c.bound * (cfg w).binding.bytesPerBlock) ∧
        ∀ t, c.current = some t → t.stage = .mapWorkers → Reached hook' t.generation →
          Covers hook' (t.target * (cfg w).binding.bytesPerBlock) := by
      rcases hqueue op List.mem_cons_self with hreached | ⟨t, ht, rfl, hstage⟩
      · rw [eq_of_reached hreached happly]
        exact ⟨h.reached_le, h.covers, h.mapped⟩
      · have hgeneration : (t.workerOp w).resizeGeneration = t.generation :=
          ((hc.issued t ht).worker w).2.1
        obtain ⟨hcovers, htarget⟩ := h.covers_apply hc ht hstage happly
        refine ⟨fun g hg => ?_, hcovers, fun t' ht' hmap hg => ?_⟩
        · rcases hback g hg with hg | ⟨-, hle⟩
          · exact h.reached_le g hg
          · exact hle.trans ((hgeneration.trans (hc.generation t ht)).le)
        · obtain rfl := Option.some.inj (ht.symm.trans ht')
          rcases hback _ hg with hg | ⟨hresult, -⟩
          · rw [eq_of_reached (hgeneration.symm ▸ hg) happly]
            exact h.mapped t ht hmap hg
          · exact htarget hmap hresult
    cases result with
    | error error =>
      simp only [Worker.apply, happly]
      exact ⟨hle, fun ack hack => hkeeps _ (h.acks ack hack),
        fun t ht hacked => hkeeps _ (h.acked t ht hacked), nofun, hcovers, hmapped⟩
    | ok u =>
      simp only [Worker.apply, happly]
      refine ⟨hle, fun ack hack => ?_, fun t ht hacked => hkeeps _ (h.acked t ht hacked),
        fun op' hop' => ?_, hcovers, hmapped⟩
      · rcases List.mem_cons.mp hack with rfl | hack
        · exact hok rfl
        · exact hkeeps _ (h.acks ack hack)
      · exact (hqueue op' (List.mem_cons_of_mem op hop')).imp_left (hkeeps _)

/-- **A step of a worker.** -/
theorem WorkerInv.step {w : W} {s s' : Worker} (hc : CoordinatorInv cfg c)
    (h : WorkerInv cfg c w s) {act : Act W} (hs : stepWorker (cfg w) s act = some s')
    (hpoll : ∀ v operations handles, act = .workerPoll v operations handles →
      ∀ op ∈ operations, ∃ t, c.current = some t ∧ t.stage.physical = true ∧ op = t.workerOp w) :
    WorkerInv cfg c w s' := by
  cases act with
  | workerPoll v operations handles =>
    simp only [stepWorker] at hs
    split at hs
    · obtain rfl := Option.some.inj hs
      refine h.of_queue rfl (fun ack hack => hack) fun op hop => .inr ?_
      rw [Pc.queue_run] at hop
      obtain ⟨t, ht, hphysical, rfl⟩ := hpoll v operations handles rfl op hop
      exact ⟨t, ht, rfl, hc.workerOp_stage ht hphysical⟩
    · exact absurd hs nofun
  | workerApply v cuda =>
    simp only [stepWorker] at hs
    split at hs
    · rename_i op rest hthread
      obtain rfl := Option.some.inj hs
      exact h.apply hc hthread cuda
    · exact absurd hs nofun
  | workerAckReturns v ok =>
    simp only [stepWorker] at hs
    split at hs
    · rename_i op rest hthread
      obtain rfl := Option.some.inj hs
      cases ok with
      | true =>
        refine h.of_queue rfl (fun ack hack => hack) fun op' hop' => .inl ?_
        rw [hthread, Pc.queue_awaiting]
        simpa only [Worker.ackReturns, if_true, Pc.queue_run] using hop'
      | false => exact h.of_queue rfl (fun ack hack => hack) nofun
    · exact absurd hs nofun
  | _ => exact absurd hs nofun

end Worker

/-! ## The invariant of the scheduler -/

/-- The operations on their way to the block pool, in the order in which they will get there. -/
def Scheduler.pipeline (s : Scheduler) : List ResizeOperation :=
  s.thread.queue ++ (s.pending ++ s.polled.getD [])

namespace Scheduler

variable {s : Scheduler} {op : ResizeOperation} {rest operations : List ResizeOperation}

/-- An answer goes to the end of the pipeline. -/
theorem pipeline_poll (h : s.polled = none) :
    ({ s with polled := some operations } : Scheduler).pipeline = s.pipeline ++ operations := by
  simp [pipeline, h]

/-- The lock section of the poll thread keeps the order and drops what it need not queue. -/
theorem pipeline_merge (h : s.polled = some operations) :
    (s.merge operations).pipeline.Sublist s.pipeline := by
  simp only [pipeline, merge, h, Option.getD_some, Option.getD_none, List.append_nil]
  exact ((List.filter_sublist).append_left _).append_left _

theorem pipeline_take (h : s.thread = .idle) :
    ({ s with pending := [], thread := .run s.pending } : Scheduler).pipeline = s.pipeline := by
  simp [pipeline, h]

/-- A call that ends drops what it had taken. -/
theorem pipeline_idle (pool : VllmElasticBlockPool) :
    ({ s with pool := pool, thread := .idle } : Scheduler).pipeline.Sublist s.pipeline :=
  List.sublist_append_right _ _

theorem pipeline_applying (h : s.thread = .applying (op :: rest)) :
    s.pipeline = op :: (rest ++ (s.pending ++ s.polled.getD [])) := by
  rw [pipeline, h]
  rfl

theorem pipeline_acked (h : s.thread = .awaiting op rest) :
    (s.ackReturns true op rest).pipeline = s.pipeline := by
  simp [pipeline, ackReturns, h]

/-- **A round of `_apply_scheduler_resizes` raises and ends the call, or it applies its operation
and its acknowledgement is under way.** -/
theorem apply_cases (s : Scheduler) (faults : QueueFaults) (op : ResizeOperation)
    (rest : List ResizeOperation) :
    (∃ pool, s.pool.FewerQueued pool ∧ pool.initialBlocks = s.pool.initialBlocks ∧
      s.apply faults op rest = { s with pool := pool, thread := .idle }) ∨
    ∃ pool, s.pool.apply faults op.targetBlockCount = (.ok (), pool) ∧
      s.apply faults op rest =
        { s with
          pool := pool
          thread := .awaiting op rest
          acks := (op.resizeGeneration, op.stage) :: s.acks } := by
  by_cases hphysical : op.stage.physical = true
  · exact .inl ⟨s.pool, .refl _, rfl, by simp only [apply, if_pos hphysical]⟩
  · have hinitial := VllmElasticBlockPool.apply_initialBlocks faults op.targetBlockCount s.pool
    cases happly : s.pool.apply faults op.targetBlockCount with
    | mk result pool =>
      rw [happly] at hinitial
      cases result with
      | error error =>
        exact .inl ⟨pool, VllmElasticBlockPool.fewerQueued_of_apply_error happly, hinitial,
          by simp only [apply, if_neg hphysical, happly]⟩
      | ok u => exact .inr ⟨pool, rfl, by simp only [apply, if_neg hphysical, happly]⟩

end Scheduler

/-- The scheduler has acknowledged the transaction, or its acknowledgement is under way. -/
def Acted (t : Outstanding W) (s : Scheduler) : Prop :=
  t.schedulerAcked = true ∨ ∃ ack ∈ s.acks, ack.1 = t.generation

/-- The scheduler has this size, and nothing on its way changes it. -/
structure Settled (size : ℕ) (s : Scheduler) : Prop where
  current : s.pool.currentBlocks = size
  pipeline : ∀ op ∈ s.pipeline, op.targetBlockCount = size

/-- **The scheduler goes from one size to the other**: replays of earlier transactions come before
the operations of this one, and none is left once it has the new size. -/
structure Moving (completed : ℕ) (t : Outstanding W) (s : Scheduler)
    (old new : List ResizeOperation) : Prop where
  pipeline : s.pipeline = old ++ new
  stale : ∀ op ∈ old, op.targetBlockCount = completed ∧ op.resizeGeneration < t.generation
  fresh : ∀ op ∈ new, op.targetBlockCount = t.target
  current : s.pool.currentBlocks = completed ∨ (s.pool.currentBlocks = t.target ∧ old = [])
  acted : Acted t s → s.pool.currentBlocks = t.target ∧ old = []

/-- The scheduler in each phase of the coordinator. -/
def Phase (c : Coordinator W) (s : Scheduler) : Prop :=
  match c.current with
  | none => Settled c.completed s
  | some t =>
    match t.stage with
    | .mapWorkers => Settled c.completed s ∧
        (∀ op ∈ s.pipeline, op.resizeGeneration < t.generation) ∧ ¬Acted t s
    | .activateScheduler | .retireScheduler => ∃ old new, Moving c.completed t s old new
    | .unmapWorkers => Settled t.target s

/-- The block pool is bounded, nothing is newer than the last transaction, and the phase holds. -/
structure SchedulerInv (c : Coordinator W) (s : Scheduler) : Prop where
  bounded : s.pool.Bounded
  pipeline_le : ∀ op ∈ s.pipeline, op.resizeGeneration ≤ c.lastGeneration
  acks_le : ∀ ack ∈ s.acks, ack.1 ≤ c.lastGeneration
  phase : Phase c s

section Scheduler

variable {s s' : Scheduler} {t : Outstanding W} {size completed : ℕ}
  {old new : List ResizeOperation}

theorem Acted.mono (h : Acted t s') (hacks : ∀ ack ∈ s'.acks, ack ∈ s.acks) : Acted t s := by
  rcases h with h | ⟨ack, hack, heq⟩
  · exact .inl h
  · exact .inr ⟨ack, hacks ack hack, heq⟩

theorem Settled.of_sublist (h : Settled size s)
    (hcurrent : s'.pool.currentBlocks = s.pool.currentBlocks)
    (hsub : s'.pipeline.Sublist s.pipeline) : Settled size s' :=
  ⟨hcurrent.trans h.current, fun op hop => h.pipeline op (hsub.subset hop)⟩

theorem Moving.of_sublist (h : Moving completed t s old new)
    (hcurrent : s'.pool.currentBlocks = s.pool.currentBlocks)
    (hsub : s'.pipeline.Sublist s.pipeline) (hacks : ∀ ack ∈ s'.acks, ack ∈ s.acks) :
    ∃ old' new', Moving completed t s' old' new' := by
  rw [h.pipeline, List.sublist_append_iff] at hsub
  obtain ⟨old', new', hpipeline, hold, hnew⟩ := hsub
  have hnil : old = [] → old' = [] := fun hnil => List.sublist_nil.mp (hnil ▸ hold)
  refine ⟨old', new', hpipeline, fun op hop => h.stale op (hold.subset hop),
    fun op hop => h.fresh op (hnew.subset hop), ?_, fun hacted => ?_⟩
  · rw [hcurrent]
    exact h.current.imp_right fun ⟨htarget, hold⟩ => ⟨htarget, hnil hold⟩
  · rw [hcurrent]
    obtain ⟨htarget, hold⟩ := h.acted (hacted.mono hacks)
    exact ⟨htarget, hnil hold⟩

/-- **A step that drops operations and leaves the size alone keeps the phase.** -/
theorem Phase.of_sublist (h : Phase c s)
    (hcurrent : s'.pool.currentBlocks = s.pool.currentBlocks)
    (hsub : s'.pipeline.Sublist s.pipeline) (hacks : ∀ ack ∈ s'.acks, ack ∈ s.acks) :
    Phase c s' := by
  unfold Phase at h ⊢
  split at h
  · exact h.of_sublist hcurrent hsub
  · split at h
    · obtain ⟨hsettled, hgeneration, hacted⟩ := h
      exact ⟨hsettled.of_sublist hcurrent hsub, fun op hop => hgeneration op (hsub.subset hop),
        fun h => hacted (h.mono hacks)⟩
    · obtain ⟨old, new, h⟩ := h
      exact h.of_sublist hcurrent hsub hacks
    · obtain ⟨old, new, h⟩ := h
      exact h.of_sublist hcurrent hsub hacks
    · exact h.of_sublist hcurrent hsub

theorem SchedulerInv.of_sublist (h : SchedulerInv c s) (hbounded : s'.pool.Bounded)
    (hcurrent : s'.pool.currentBlocks = s.pool.currentBlocks)
    (hsub : s'.pipeline.Sublist s.pipeline) (hacks : ∀ ack ∈ s'.acks, ack ∈ s.acks) :
    SchedulerInv c s' :=
  ⟨hbounded, fun op hop => h.pipeline_le op (hsub.subset hop),
    fun ack hack => h.acks_le ack (hacks ack hack), h.phase.of_sublist hcurrent hsub hacks⟩

/-- The operations of a scheduler stage arrive at the end of the pipeline. -/
theorem Moving.append (h : Moving completed t s old new) {operations : List ResizeOperation}
    (hpipeline : s'.pipeline = s.pipeline ++ operations)
    (hops : ∀ op ∈ operations, op.targetBlockCount = t.target)
    (hcurrent : s'.pool.currentBlocks = s.pool.currentBlocks) (hacks : s'.acks = s.acks) :
    Moving completed t s' old (new ++ operations) where
  pipeline := by rw [hpipeline, h.pipeline, List.append_assoc]
  stale := h.stale
  fresh op hop := (List.mem_append.mp hop).elim (h.fresh op) (hops op)
  current := hcurrent ▸ h.current
  acted hacted := hcurrent ▸ h.acted (hacted.mono fun ack hack => hacks ▸ hack)

/-- **The poll thread receives an answer.** -/
theorem SchedulerInv.poll (hc : CoordinatorInv cfg c) (h : SchedulerInv c s)
    (hpolled : s.polled = none) {operations : List ResizeOperation}
    (hops : ∀ op ∈ operations, ∃ t, c.current = some t ∧ t.stage.physical = false ∧
      op ∈ t.schedulerOps) : SchedulerInv c { s with polled := some operations } := by
  have hpipeline : ({ s with polled := some operations } : Scheduler).pipeline =
      s.pipeline ++ operations := Scheduler.pipeline_poll hpolled
  -- Outside a scheduler stage the answer is empty.
  have hnil : (∀ t, c.current = some t → t.stage.physical = true) → operations = [] := by
    intro hphysical
    refine List.eq_nil_iff_forall_not_mem.mpr fun op hop => ?_
    obtain ⟨t, ht, hstage, -⟩ := hops op hop
    exact absurd (hphysical t ht) (by simp [hstage])
  by_cases hphysical : ∀ t, c.current = some t → t.stage.physical = true
  · obtain rfl := hnil hphysical
    refine h.of_sublist h.bounded rfl ?_ fun ack hack => hack
    rw [hpipeline, List.append_nil]
  · obtain ⟨t, hstage⟩ := not_forall.mp hphysical
    obtain ⟨ht, hstage⟩ := Classical.not_imp.mp hstage
    have hop : ∀ op ∈ operations, op.resizeGeneration = t.generation ∧
        op.targetBlockCount = t.target := by
      intro op hop
      obtain ⟨t', ht', -, hmem⟩ := hops op hop
      obtain rfl := Option.some.inj (ht.symm.trans ht')
      obtain ⟨-, hgeneration, -, htarget, -⟩ := (hc.issued t ht).scheduler op hmem
      exact ⟨hgeneration, htarget⟩
    refine ⟨h.bounded, fun op hmem => ?_, h.acks_le, ?_⟩
    · rw [hpipeline] at hmem
      rcases List.mem_append.mp hmem with hmem | hmem
      · exact h.pipeline_le op hmem
      · exact ((hop op hmem).1.trans (hc.generation t ht)).le
    · have hphase := h.phase
      unfold Phase at hphase ⊢
      simp only [ht] at hphase ⊢
      split at hphase
      · exact absurd (by simp [*, ResizeStage.physical]) hstage
      · obtain ⟨old, new, hmoving⟩ := hphase
        exact ⟨old, new ++ operations,
          hmoving.append hpipeline (fun op hmem => (hop op hmem).2) rfl rfl⟩
      · obtain ⟨old, new, hmoving⟩ := hphase
        exact ⟨old, new ++ operations,
          hmoving.append hpipeline (fun op hmem => (hop op hmem).2) rfl rfl⟩
      · exact absurd (by simp [*, ResizeStage.physical]) hstage

/-- The first operation of the pipeline is applied and its acknowledgement sent. -/
structure Applied (op : ResizeOperation) (s s' : Scheduler) : Prop where
  pipeline : s.pipeline = op :: s'.pipeline
  current : s'.pool.currentBlocks = op.targetBlockCount
  acks : s'.acks = (op.resizeGeneration, op.stage) :: s.acks

variable {op : ResizeOperation}

theorem Settled.pop (h : Settled size s) (hs : Applied op s s') : Settled size s' := by
  have hpipeline := h.pipeline
  rw [hs.pipeline] at hpipeline
  exact ⟨hs.current.trans (hpipeline op List.mem_cons_self),
    fun op' hop' => hpipeline op' (List.mem_cons_of_mem op hop')⟩

/-- What was applied counts as acknowledged only if it is of this transaction. -/
theorem Acted.pop (h : Acted t s') (hs : Applied op s s') :
    op.resizeGeneration = t.generation ∨ Acted t s := by
  rcases h with h | ⟨ack, hack, heq⟩
  · exact .inr (.inl h)
  · rw [hs.acks] at hack
    rcases List.mem_cons.mp hack with rfl | hack
    · exact .inl heq
    · exact .inr (.inr ⟨ack, hack, heq⟩)

/-- **The first operation of a moving pipeline is applied**: a replay leaves the old size, an
operation of the transaction reaches the new one. -/
theorem Moving.pop (h : Moving completed t s old new) (hs : Applied op s s') :
    ∃ old' new', Moving completed t s' old' new' := by
  have hpipeline := hs.pipeline.symm.trans h.pipeline
  rcases List.append_eq_cons_iff.mp hpipeline.symm with ⟨rfl, rfl⟩ | ⟨old', rfl, hrest⟩
  · have htarget : s'.pool.currentBlocks = t.target :=
      hs.current.trans (h.fresh op List.mem_cons_self)
    exact ⟨[], s'.pipeline, rfl, nofun,
      fun op' hop' => h.fresh op' (List.mem_cons_of_mem op hop'), .inr ⟨htarget, rfl⟩,
      fun _ => ⟨htarget, rfl⟩⟩
  · obtain ⟨hop, hlt⟩ := h.stale op List.mem_cons_self
    refine ⟨old', new, hrest, fun op' hop' => h.stale op' (List.mem_cons_of_mem op hop'), h.fresh,
      .inl (hs.current.trans hop), fun hacted => ?_⟩
    rcases hacted.pop hs with heq | hacted
    · exact absurd heq hlt.ne
    · exact absurd (h.acted hacted).2 (List.cons_ne_nil op old')

theorem Phase.pop (h : Phase c s) (hs : Applied op s s') : Phase c s' := by
  unfold Phase at h ⊢
  split at h
  · exact h.pop hs
  · split at h
    · obtain ⟨hsettled, hgeneration, hacted⟩ := h
      rw [hs.pipeline] at hgeneration
      refine ⟨hsettled.pop hs,
        fun op' hop' => hgeneration op' (List.mem_cons_of_mem op hop'), fun h => ?_⟩
      rcases h.pop hs with heq | h
      · exact absurd heq (hgeneration op List.mem_cons_self).ne
      · exact hacted h
    · obtain ⟨old, new, h⟩ := h
      exact h.pop hs
    · obtain ⟨old, new, h⟩ := h
      exact h.pop hs
    · exact h.pop hs

/-- **The scheduler applies an operation.** -/
theorem SchedulerInv.apply (h : SchedulerInv c s) {rest : List ResizeOperation}
    (hthread : s.thread = .applying (op :: rest)) (faults : QueueFaults) :
    SchedulerInv c (s.apply faults op rest) := by
  have hpipeline := Scheduler.pipeline_applying hthread
  obtain ⟨pool, hfewer, -, happly⟩ | ⟨pool, hok, happly⟩ := s.apply_cases faults op rest
  · rw [happly]
    exact h.of_sublist (h.bounded.of_fewerQueued hfewer) hfewer.current
      (Scheduler.pipeline_idle pool) fun ack hack => hack
  · rw [happly]
    obtain ⟨hbounded, hcurrent⟩ := h.bounded.apply_ok hok
    have hle := h.pipeline_le
    rw [hpipeline] at hle
    refine ⟨hbounded, fun op' hop' => hle op' (List.mem_cons_of_mem op hop'), fun ack hack => ?_,
      h.phase.pop ⟨hpipeline, hcurrent, rfl⟩⟩
    obtain rfl | hack := List.mem_cons.mp hack
    · exact hle op List.mem_cons_self
    · exact h.acks_le ack hack

/-- **A step of the scheduler or of vLLM.** -/
theorem SchedulerInv.step [DecidableEq W] (hc : CoordinatorInv cfg c) (h : SchedulerInv c s)
    {act : Act W} (hs : stepScheduler s act = some s')
    (hpoll : ∀ operations, act = .schedulerPoll operations → ∀ op ∈ operations,
      ∃ t, c.current = some t ∧ t.stage.physical = false ∧ op ∈ t.schedulerOps) :
    SchedulerInv c s' := by
  cases act with
  | schedulerPoll operations =>
    simp only [stepScheduler] at hs
    split at hs
    · rename_i hpolled
      obtain rfl := Option.some.inj hs
      exact h.poll hc hpolled (hpoll operations rfl)
    · exact absurd hs nofun
  | schedulerMerge =>
    simp only [stepScheduler] at hs
    split at hs
    · rename_i operations hpolled
      obtain rfl := Option.some.inj hs
      exact h.of_sublist h.bounded rfl (Scheduler.pipeline_merge hpolled) fun ack hack => hack
    · exact absurd hs nofun
  | schedulerTake =>
    simp only [stepScheduler] at hs
    split at hs
    · rename_i hthread
      obtain rfl := Option.some.inj hs
      refine h.of_sublist h.bounded rfl ?_ fun ack hack => hack
      rw [Scheduler.pipeline_take hthread]
    · exact absurd hs nofun
  | schedulerApply faults =>
    simp only [stepScheduler] at hs
    split at hs
    · rename_i op rest hthread
      obtain rfl := Option.some.inj hs
      exact h.apply hthread faults
    · exact absurd hs nofun
  | schedulerAckReturns ok =>
    simp only [stepScheduler] at hs
    split at hs
    · rename_i op rest hthread
      obtain rfl := Option.some.inj hs
      cases ok with
      | true =>
        refine h.of_sublist h.bounded rfl ?_ fun ack hack => hack
        rw [Scheduler.pipeline_acked hthread]
      | false =>
        exact h.of_sublist h.bounded rfl (Scheduler.pipeline_idle s.pool) fun ack hack => hack
    · exact absurd hs nofun
  | alloc block refCnt =>
    simp only [stepScheduler, Option.ite_none_right_eq_some, Option.some.injEq] at hs
    obtain ⟨⟨hblock, -⟩, rfl⟩ := hs
    exact h.of_sublist (h.bounded.alloc hblock) rfl (.refl _) fun ack hack => hack
  | free block =>
    simp only [stepScheduler, Option.ite_none_right_eq_some, Option.some.injEq] at hs
    obtain ⟨⟨hblock, -⟩, rfl⟩ := hs
    exact h.of_sublist (h.bounded.free hblock) rfl (.refl _) fun ack hack => hack
  | _ => exact absurd hs nofun

end Scheduler

end Kapsl.Vllm.LiveResize
