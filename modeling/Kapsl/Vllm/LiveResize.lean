import Kapsl.Lib.Lts
import Kapsl.Vllm.BlockPool
import Kapsl.Vllm.Vmm

/-!
# Vllm/LiveResize — one scheduler, its workers and the coordinator

A resize transaction goes through the participant in two stages: a growth is mapped by the workers
and then activated by the scheduler, a shrink is retired by the scheduler and then unmapped by the
workers.  The scheduler has two threads, the poll thread and the one that applies; a worker polls,
applies and acknowledges in one.  Operations are re-returned until they are acknowledged, and an
acknowledgement may arrive at once, late, or never, whatever its sender is told.

`Assumed` is what the coordinator is trusted with: one transaction at a time, increasing
generations, operations that continue from the last completed size, stages in order.  `Safe` is what
the participant has to keep: a block vLLM may touch is mapped by every worker.
-/

namespace Kapsl.Vllm.LiveResize

/-! ## The sizes of a receipt -/

/-- `_positive_integer`. -/
def positiveInteger (value : Json) (field : String) : Except PyError ℕ :=
  match value with
  | .int n =>
    if n ≤ 0 then .error (.valueError s!"{field} must be a positive integer") else .ok n.toNat
  | _ => .error (.valueError s!"{field} must be a positive integer")

theorem positiveInteger_eq_ok {value : Json} {field : String} {n : ℕ}
    (h : positiveInteger value field = .ok n) : 1 ≤ n ∧ n = value.toNat := by
  unfold positiveInteger at h
  split at h
  · next k =>
    split at h
    · exact absurd h nofun
    · obtain rfl := Except.ok.inj h
      exact ⟨by omega, rfl⟩
  · exact absurd h nofun

/-- One round of the loop of `_elastic_receipt_block_counts`. -/
def blockCountShape (pool : Json) : Except PyError (ℕ × ℕ × ℕ) := do
  Except.raiseIf (pool.isMapping = false)
    (.sharedPoolImportError "elastic shared pool must be an object")
  let elastic := pool.get "elastic"
  Except.raiseIf (elastic.isMapping = false)
    (.sharedPoolImportError "elastic shared pool metadata is missing")
  let minimum ← positiveInteger (elastic.get "minimum_block_count") "minimum_block_count"
  let mapped ← positiveInteger (elastic.get "mapped_block_count") "mapped_block_count"
  let maximum ← positiveInteger (elastic.get "maximum_block_count") "maximum_block_count"
  return (minimum, mapped, maximum)

/-- `_elastic_receipt_block_counts`. -/
def elasticReceiptBlockCounts (receipt : Json) : Except PyError (ℕ × ℕ) := do
  let pools := (receipt.get "shared_pools").items
  Except.raiseIf (pools = [])
    (.sharedPoolImportError "elastic registration returned no shared pools")
  let shapes ← pools.mapM blockCountShape
  match shapes.dedup with
  | [(minimum, initial, maximum)] => do
    Except.raiseIf (minimum > initial ∨ initial > maximum)
      (.sharedPoolImportError "elastic minimum/mapped capacity exceeds its next capacity bound")
    return (initial, maximum)
  | _ => .error (.sharedPoolImportError
      "tensor-parallel elastic bindings must share one block-count state")

/-! ## The parties -/

/-- A resize transaction: one operation for each worker, and those for the scheduler. -/
structure Txn (W : Type*) where
  generation : ℕ
  target : ℕ
  workerOp : W → ResizeOperation
  schedulerOps : List ResizeOperation

/-- The outstanding transaction, its stage, and who has acknowledged that stage. -/
structure Outstanding (W : Type*) extends Txn W where
  stage : ResizeStage
  workerAcked : W → Bool
  schedulerAcked : Bool

/-- The coordinator, as far as resizes go. -/
structure Coordinator (W : Type*) where
  /-- The target of the last completed transaction, or the size at registration. -/
  completed : ℕ
  lastGeneration : ℕ
  current : Option (Outstanding W)

/-- A thread that applies operations one after the other. -/
inductive Pc
  | idle
  /-- About to apply the first of these. -/
  | applying (operations : List ResizeOperation)
  /-- The operation is applied and its acknowledgement under way. -/
  | awaiting (operation : ResizeOperation) (rest : List ResizeOperation)

/-- An acknowledgement: the generation and the stage. -/
abbrev Ack := ℕ × ResizeStage

/-- The scheduler connector. -/
structure Scheduler where
  pool : VllmElasticBlockPool
  /-- The poll thread: an answer that has still to be merged. -/
  polled : Option (List ResizeOperation)
  /-- `_pending_scheduler_operations`. -/
  pending : List ResizeOperation
  /-- `_apply_scheduler_resizes`. -/
  thread : Pc
  /-- `_resize_applied_generation`. -/
  appliedGeneration : ℕ
  /-- The acknowledgements sent and not yet seen by the coordinator. -/
  acks : List Ack

/-- A worker connector. -/
structure Worker where
  hook : Hook
  /-- `_apply_worker_resizes`. -/
  thread : Pc
  /-- The handles that came with the operations. -/
  handles : List Fd
  /-- `_resize_applied_generation`. -/
  appliedGeneration : ℕ
  /-- The acknowledgements sent and not yet seen by the coordinator. -/
  acks : List Ack

/-- The coordinator, the scheduler and the workers. -/
structure State (W : Type*) where
  coordinator : Coordinator W
  scheduler : Scheduler
  workers : W → Worker

/-- One step of one party. -/
inductive Act (W : Type*)
  | begin (txn : Txn W)
  | advance
  | deliverScheduler (ack : Ack)
  | deliverWorker (w : W) (ack : Ack)
  | schedulerPoll (operations : List ResizeOperation)
  | schedulerMerge
  | schedulerTake
  | schedulerApply (faults : QueueFaults)
  | schedulerAckReturns (ok : Bool)
  | workerPoll (w : W) (operations : List ResizeOperation) (handles : List Fd)
  | workerApply (w : W) (cuda : Cuda)
  | workerAckReturns (w : W) (ok : Bool)
  | alloc (block refCnt : ℕ)
  | free (block : ℕ)

/-! ## The coordinator -/

namespace Coordinator

variable {W : Type*} [DecidableEq W]

/-- A new transaction. -/
def start (c : Coordinator W) (txn : Txn W) : Coordinator W :=
  { c with
    lastGeneration := txn.generation
    current := some { txn with
      stage := if c.completed < txn.target then .mapWorkers else .retireScheduler
      workerAcked := fun _ => false
      schedulerAcked := false } }

/-- The next stage, or the end of the transaction. -/
def advance (c : Coordinator W) : Coordinator W :=
  match c.current with
  | none => c
  | some t =>
    match t.stage with
    | .mapWorkers => { c with current := some { t with stage := .activateScheduler } }
    | .retireScheduler => { c with current := some { t with stage := .unmapWorkers } }
    | _ => { c with completed := t.target, current := none }

/-- An acknowledgement of the scheduler; it counts if it is for the outstanding stage. -/
def schedulerAck (c : Coordinator W) (ack : Ack) : Coordinator W :=
  { c with current := c.current.map fun t =>
      if ack = (t.generation, t.stage) then { t with schedulerAcked := true } else t }

/-- An acknowledgement of a worker; it counts if it is for the outstanding stage. -/
def workerAck (c : Coordinator W) (w : W) (ack : Ack) : Coordinator W :=
  { c with current := c.current.map fun t =>
      if ack = (t.generation, t.stage) then
        { t with workerAcked := Function.update t.workerAcked w true }
      else t }

end Coordinator

/-! ## The scheduler -/

/-- A thread that has taken these operations. -/
def Pc.run : List ResizeOperation → Pc
  | [] => .idle
  | operations => .applying operations

namespace Scheduler

/-- The lock section of `_poll_scheduler_resizes`. -/
def merge (s : Scheduler) (operations : List ResizeOperation) : Scheduler :=
  { s with
    polled := none
    pending := s.pending ++ operations.filter fun operation =>
      operation.resizeGeneration > s.appliedGeneration &&
        !(s.pending.map ResizeOperation.resizeGeneration).contains operation.resizeGeneration }

/-- One round of `_apply_scheduler_resizes` up to its acknowledgement, which is under way from then
on; an exception ends the call. -/
def apply (s : Scheduler) (faults : QueueFaults) (operation : ResizeOperation)
    (rest : List ResizeOperation) : Scheduler :=
  if operation.stage.physical then { s with thread := .idle }
  else
    match s.pool.apply faults operation.targetBlockCount with
    | (.error _, pool) => { s with pool := pool, thread := .idle }
    | (.ok (), pool) =>
      { s with
        pool := pool
        thread := .awaiting operation rest
        acks := (operation.resizeGeneration, operation.stage) :: s.acks }

/-- `ack_resize` returns or raises. -/
def ackReturns (s : Scheduler) (ok : Bool) (operation : ResizeOperation)
    (rest : List ResizeOperation) : Scheduler :=
  if ok then
    { s with
      appliedGeneration := max s.appliedGeneration operation.resizeGeneration
      thread := .run rest }
  else { s with thread := .idle }

end Scheduler

/-! ## The workers -/

namespace Worker

/-- One round of `_apply_worker_resizes` up to its acknowledgement. -/
def apply (s : Worker) (cuda : Cuda) (cfg : VmmConfig) (operation : ResizeOperation)
    (rest : List ResizeOperation) : Worker :=
  match s.hook.applyWorkerResize cuda cfg operation s.handles with
  | (.error _, hook) => { s with hook := hook, thread := .idle }
  | (.ok (), hook) =>
    { s with
      hook := hook
      thread := .awaiting operation rest
      acks := (operation.resizeGeneration, operation.stage) :: s.acks }

/-- `ack_resize` returns or raises. -/
def ackReturns (s : Worker) (ok : Bool) (operation : ResizeOperation)
    (rest : List ResizeOperation) : Worker :=
  if ok then
    { s with
      appliedGeneration := max s.appliedGeneration operation.resizeGeneration
      thread := .run rest }
  else { s with thread := .idle }

end Worker

/-! ## The runs -/

variable {W : Type*} [DecidableEq W]

namespace State

/-- Change one worker. -/
def setWorker (s : State W) (w : W) (worker : Worker) : State W :=
  { s with workers := Function.update s.workers w worker }

end State

/-- The successor under a step of the scheduler or of vLLM. -/
def stepScheduler (s : Scheduler) : Act W → Option Scheduler
  | .schedulerPoll operations =>
    match s.polled with
    | none => some { s with polled := some operations }
    | some _ => none
  | .schedulerMerge =>
    match s.polled with
    | some operations => some (s.merge operations)
    | none => none
  | .schedulerTake =>
    match s.thread with
    | .idle => some { s with pending := [], thread := .run s.pending }
    | _ => none
  | .schedulerApply faults =>
    match s.thread with
    | .applying (operation :: rest) => some (s.apply faults operation rest)
    | _ => none
  | .schedulerAckReturns ok =>
    match s.thread with
    | .awaiting operation rest => some (s.ackReturns ok operation rest)
    | _ => none
  | .alloc block refCnt =>
    if block ∈ s.pool.pool.freeBlockQueue ∧ 0 < refCnt then
      some { s with pool := s.pool.alloc block refCnt }
    else none
  | .free block =>
    if 0 < s.pool.pool.refCnt block ∧ s.pool.pool.isNull block = false then
      some { s with pool := s.pool.free block }
    else none
  | _ => none

/-- The successor under a step of a worker. -/
def stepWorker (cfg : VmmConfig) (s : Worker) : Act W → Option Worker
  | .workerPoll _ operations handles =>
    match s.thread with
    | .idle => some { s with thread := .run operations, handles := handles }
    | _ => none
  | .workerApply _ cuda =>
    match s.thread with
    | .applying (operation :: rest) => some (s.apply cuda cfg operation rest)
    | _ => none
  | .workerAckReturns _ ok =>
    match s.thread with
    | .awaiting operation rest => some (s.ackReturns ok operation rest)
    | _ => none
  | _ => none

/-- The successor under a step; `cfg` is what each worker was built from. -/
def step (cfg : W → VmmConfig) (s : State W) : Act W → Option (State W)
  | .begin txn => some { s with coordinator := s.coordinator.start txn }
  | .advance => some { s with coordinator := s.coordinator.advance }
  | .deliverScheduler ack =>
    if ack ∈ s.scheduler.acks then
      some { s with
        coordinator := s.coordinator.schedulerAck ack
        scheduler := { s.scheduler with acks := s.scheduler.acks.erase ack } }
    else none
  | .deliverWorker w ack =>
    if ack ∈ (s.workers w).acks then
      some ({ s with coordinator := s.coordinator.workerAck w ack }.setWorker w
        { s.workers w with acks := (s.workers w).acks.erase ack })
    else none
  | act@(.workerPoll w _ _) | act@(.workerApply w _) | act@(.workerAckReturns w _) =>
    (stepWorker (cfg w) (s.workers w) act).map (s.setWorker w)
  | act => (stepScheduler s.scheduler act).map fun scheduler => { s with scheduler := scheduler }

/-- All parties have started from one accepted receipt: the scheduler has bound vLLM's pool, each
worker has imported its binding, and nothing is outstanding. -/
structure Started (cfg : W → VmmConfig) (s : State W) : Prop where
  receipt : ∃ (I : Interpreter) (receipt accepted : Json) (participantId : String)
      (initial maximum : ℕ),
    validateRegistrationReceipt I receipt participantId = .ok accepted ∧
    elasticReceiptBlockCounts accepted = .ok (initial, maximum) ∧
    s.coordinator.completed = initial ∧
    (∃ (fresh : VllmElasticBlockPool) (faults : QueueFaults), fresh.Fresh ∧
      fresh.initialBlocks = initial ∧ fresh.maximumBlocks = maximum ∧
      fresh.bind faults = (.ok (), s.scheduler.pool)) ∧
    ∀ w, ∃ (pool : Json) (cuda : Cuda) (handles : List Fd), pool ∈ receiptPools accepted ∧
      isCudaVmm pool = true ∧ (cfg w).binding = .ofJson pool ∧
      Hook.ofBinding cuda (cfg w) handles = .ok (s.workers w).hook
  nothing : s.coordinator.current = none ∧ s.scheduler.polled = none ∧ s.scheduler.pending = [] ∧
    s.scheduler.thread = .idle ∧ s.scheduler.acks = [] ∧
    ∀ w, (s.workers w).thread = .idle ∧ (s.workers w).acks = []

/-- The runs of one participant. -/
def lts (cfg : W → VmmConfig) : Lts (State W) (Act W) where
  init := Started cfg
  step := step cfg

/-! ## What the coordinator is trusted with -/

/-- The operation is the reading of one that `validate_resize_operation` accepts. -/
def Accepted (op : ResizeOperation) : Prop :=
  ∃ operation, checkResizeOperation operation = .ok () ∧ ResizeOperation.ofJson operation = op

/-- The operations of a transaction continue from the completed size, at the binding's block stride,
each in the stage its actor has in a growth or a shrink. -/
structure Issued (cfg : W → VmmConfig) (completed : ℕ) (txn : Txn W) : Prop where
  worker : ∀ w, Accepted (txn.workerOp w) ∧ (txn.workerOp w).resizeGeneration = txn.generation ∧
    (txn.workerOp w).fromBlockCount = completed ∧
    (txn.workerOp w).targetBlockCount = txn.target ∧
    (txn.workerOp w).bytesPerBlock = (cfg w).binding.bytesPerBlock ∧
    (txn.workerOp w).stage = if completed < txn.target then .mapWorkers else .unmapWorkers
  scheduler : ∀ op ∈ txn.schedulerOps, Accepted op ∧ op.resizeGeneration = txn.generation ∧
    op.fromBlockCount = completed ∧ op.targetBlockCount = txn.target ∧
    op.stage = if completed < txn.target then .activateScheduler else .retireScheduler

/-- Every actor of the outstanding stage has acknowledged it. -/
def Outstanding.Acknowledged (t : Outstanding W) : Prop :=
  if t.stage.physical then ∀ w, t.workerAcked w = true else t.schedulerAcked = true

/-- **What the coordinator is trusted with** — one transaction at a time, increasing generations,
operations as `Issued`, a stage left only once it is acknowledged, and answers to polls made of the
operations of the outstanding stage. -/
def Assumed (cfg : W → VmmConfig) (s : State W) : Act W → Prop
  | .begin txn => s.coordinator.current = none ∧ s.coordinator.lastGeneration < txn.generation ∧
      Issued cfg s.coordinator.completed txn
  | .advance => ∀ t, s.coordinator.current = some t → t.Acknowledged
  | .schedulerPoll operations => ∀ op ∈ operations, ∃ t, s.coordinator.current = some t ∧
      t.stage.physical = false ∧ op ∈ t.schedulerOps
  | .workerPoll w operations _ => ∀ op ∈ operations, ∃ t, s.coordinator.current = some t ∧
      t.stage.physical = true ∧ op = t.workerOp w
  | _ => True

/-! ## What the participant keeps -/

/-- The first `bytes` bytes of the worker's range are mapped. -/
def Covers (hook : Hook) (bytes : ℕ) : Prop :=
  ∀ p < bytes, ∃ m ∈ hook.driver.mappings, m.offset ≤ p ∧ p < m.offset + m.length

/-- A block that vLLM may hand out, that a request holds, or that stands for no block. -/
def Usable (pool : VllmElasticBlockPool) (block : ℕ) : Prop :=
  block ∈ pool.pool.freeBlockQueue ∨ 0 < pool.pool.refCnt block ∨ pool.pool.isNull block = true

/-- **Every byte of every block vLLM may touch is mapped by every worker.** -/
def Safe (cfg : W → VmmConfig) (s : State W) : Prop :=
  ∀ block, Usable s.scheduler.pool block → ∀ w p,
    block * (cfg w).binding.bytesPerBlock ≤ p → p < (block + 1) * (cfg w).binding.bytesPerBlock →
      ∃ m ∈ (s.workers w).hook.driver.mappings, m.offset ≤ p ∧ p < m.offset + m.length

end Kapsl.Vllm.LiveResize
