import Kapsl.Vllm.Heartbeat
import Kapsl.Vllm.LiveResizeSafety

/-!
# Vllm/ResizeOrdering — the order in which the scheduler applies resizes

The poll thread fetches operations, the scheduler thread applies and acknowledges them, and the two
meet at one lock.  A poll that was answered before an acknowledgement may be merged after it, so
that duplicates of old operations wait in line with new ones; an acknowledgement may be lost on its
way, or arrive although its sender is told that it failed.

What keeps the order is that everything is first in, first out: the operations applied so far,
followed by the ones on their way, are sorted by generation (`Inv.sorted`), because each answer of
the coordinator is its newest operation.

* `State.Effect` — what one step does.
* `Inv.step` — a step keeps the order.
* `resize_ordered` — the order in every state of every run.
-/

namespace Kapsl.Vllm.ResizeOrdering

open LiveResize Heartbeat

/-! ## The parties -/

/-- The coordinator, as far as the scheduler goes. -/
structure Coordinator where
  /-- The scheduler operations issued so far, the newest first. -/
  issued : List ResizeOperation
  /-- The generations whose acknowledgement has arrived. -/
  acknowledged : List ℕ

/-- The newest operation, until it is acknowledged. -/
def Coordinator.outstanding (c : Coordinator) : Option ResizeOperation :=
  c.issued.head?.filter fun operation => !c.acknowledged.contains operation.resizeGeneration

/-- The coordinator, the scheduler connector and the requests between them, with the history of what
was applied and what was sent. -/
structure State where
  coordinator : Coordinator
  scheduler : Scheduler
  /-- The awaited acknowledgement has still to leave. -/
  unsent : Bool
  /-- The acknowledgements on their way to the coordinator. -/
  wire : List Json
  /-- The operations applied so far, the last one first. -/
  applied : List ResizeOperation
  /-- The acknowledgements sent so far, each with `current_blocks` at that moment. -/
  sent : List (Json × ℕ)

/-- One step of the coordinator, of one of the two threads, or of vLLM. -/
inductive Act
  | issue (operation : ResizeOperation)
  /-- The acknowledgement at this place of the wire arrives. -/
  | receive (place : ℕ)
  /-- The coordinator answers a poll.  The request carries `_resize_applied_generation` as read
  outside the lock, and the answer may depend on it in any way. -/
  | poll (operations : List ResizeOperation)
  /-- The lock section of the poll thread. -/
  | merge
  /-- The poll thread raises before its lock section. -/
  | discard
  | bind (faults : QueueFaults)
  /-- The lock section of the scheduler thread. -/
  | take
  | apply (faults : QueueFaults)
  | send
  | ackReturns (ok : Bool)
  | alloc (block refCnt : ℕ)
  | free (block : ℕ)

/-! ## The steps -/

/-- The request `_apply_scheduler_resizes` acknowledges an operation with. -/
def ackRequest (operation : ResizeOperation) : Except PyError Json :=
  makeResizeAckRequest operation.participantEpoch schedulerActor operation.bindingId
    operation.resizeGeneration operation.stage.name operation.targetBlockCount

namespace State

/-- Change the block pool. -/
def setPool (s : State) (pool : VllmElasticBlockPool) : State :=
  { s with scheduler := { s.scheduler with pool := pool } }

/-- An acknowledgement arrives. -/
def receive (s : State) (place : ℕ) (request : Json) : State :=
  { s with
    coordinator := { s.coordinator with
      acknowledged := (request.get "resize_generation").toNat :: s.coordinator.acknowledged }
    wire := s.wire.eraseIdx place }

/-- The scheduler thread applies its next operation; one that is applied goes down in history. -/
def apply (s : State) (faults : QueueFaults) (operation : ResizeOperation)
    (rest : List ResizeOperation) : State :=
  let scheduler := s.scheduler.apply faults operation rest
  match scheduler.thread with
  | .awaiting _ _ =>
    { s with scheduler := scheduler, unsent := true, applied := operation :: s.applied }
  | _ => { s with scheduler := scheduler }

/-- The acknowledgement is built and leaves; one that cannot be built ends the call. -/
def send (s : State) (operation : ResizeOperation) : State :=
  match ackRequest operation with
  | .error _ => { s with scheduler := { s.scheduler with thread := .idle }, unsent := false }
  | .ok request =>
    { s with
      unsent := false
      wire := request :: s.wire
      sent := (request, s.scheduler.pool.currentBlocks) :: s.sent }

/-- `ack_resize` returns or raises. -/
def ackReturns (s : State) (ok : Bool) (operation : ResizeOperation)
    (rest : List ResizeOperation) : State :=
  { s with scheduler := s.scheduler.ackReturns ok operation rest, unsent := false }

end State

/-- The successor under a step. -/
def step (s : State) : Act → Option State
  | .issue operation =>
    some { s with coordinator :=
      { s.coordinator with issued := operation :: s.coordinator.issued } }
  | .receive place => (s.wire[place]?).map (s.receive place)
  | .poll operations =>
    match s.scheduler.polled with
    | none => some { s with scheduler := { s.scheduler with polled := some operations } }
    | some _ => none
  | .merge =>
    match s.scheduler.polled with
    | some operations => some { s with scheduler := s.scheduler.merge operations }
    | none => none
  | .discard => some { s with scheduler := { s.scheduler with polled := none } }
  | .bind faults =>
    match s.scheduler.thread with
    | .idle => some (s.setPool (s.scheduler.pool.bind faults).2)
    | _ => none
  | .take =>
    match s.scheduler.thread with
    | .idle => some { s with scheduler :=
        { s.scheduler with pending := [], thread := .run s.scheduler.pending } }
    | _ => none
  | .apply faults =>
    match s.scheduler.thread with
    | .applying (operation :: rest) => some (s.apply faults operation rest)
    | _ => none
  | .send =>
    match s.scheduler.thread, s.unsent with
    | .awaiting operation _, true => some (s.send operation)
    | _, _ => none
  | .ackReturns ok =>
    match s.scheduler.thread with
    | .awaiting operation rest =>
      -- A request that never left has no answer.
      if ok = true ∧ s.unsent = true then none else some (s.ackReturns ok operation rest)
    | _ => none
  | .alloc block refCnt =>
    if block ∈ s.scheduler.pool.pool.freeBlockQueue ∧ 0 < refCnt then
      some (s.setPool (s.scheduler.pool.alloc block refCnt))
    else none
  | .free block =>
    if 0 < s.scheduler.pool.pool.refCnt block ∧ s.scheduler.pool.pool.isNull block = false then
      some (s.setPool (s.scheduler.pool.free block))
    else none

/-- The connector has just been built and nothing is issued. -/
structure Started (s : State) : Prop where
  pool : ∃ (initialBlocks maximumBlocks : ℕ) (pool : BlockPool),
    VllmElasticBlockPool.new initialBlocks maximumBlocks pool = .ok s.scheduler.pool
  scheduler : s.scheduler.polled = none ∧ s.scheduler.pending = [] ∧ s.scheduler.thread = .idle ∧
    s.scheduler.appliedGeneration = 0
  coordinator : s.coordinator = ⟨[], []⟩
  history : s.unsent = false ∧ s.wire = [] ∧ s.applied = [] ∧ s.sent = []

/-- The runs of one scheduler connector. -/
def lts : Lts State Act where
  init := Started
  step := step

/-- **What the coordinator is trusted with** — at most one operation outstanding, increasing
generations, polls answered with the outstanding operation, and an acknowledgement that is answered
well only once it has arrived. -/
def Trusted (s : State) : Act → Prop
  | .issue operation => s.coordinator.outstanding = none ∧
      ∀ earlier ∈ s.coordinator.issued, earlier.resizeGeneration < operation.resizeGeneration
  | .poll operations => ∀ operation ∈ operations, s.coordinator.outstanding = some operation
  | .ackReturns true => ∀ operation rest, s.scheduler.thread = .awaiting operation rest →
      operation.resizeGeneration ∈ s.coordinator.acknowledged
  | _ => True

/-- **The order of the resizes in a state**, and in a step from it. -/
structure Ordered (s : State) : Prop where
  /-- What changes the block count is at least as new as everything applied before. -/
  change : ∀ act s', step s act = some s' →
    s'.scheduler.pool.currentBlocks ≠ s.scheduler.pool.currentBlocks →
    ∃ operation rest, s.scheduler.thread = .applying (operation :: rest) ∧
      s'.scheduler.pool.currentBlocks = operation.targetBlockCount ∧
      ∀ earlier ∈ s.applied, earlier.resizeGeneration ≤ operation.resizeGeneration
  /-- Before the first operation the block count is the initial one. -/
  initial : s.applied = [] → s.scheduler.pool.currentBlocks = s.scheduler.pool.initialBlocks
  /-- The block count is the target of the newest generation applied. -/
  newest : ∀ operation ∈ s.applied,
    (∀ other ∈ s.applied, other.resizeGeneration ≤ operation.resizeGeneration) →
      s.scheduler.pool.currentBlocks = operation.targetBlockCount
  /-- Every acknowledgement carried the block count of its moment. -/
  sent : ∀ entry ∈ s.sent, entry.1.get "applied_block_count" = .int entry.2
  /-- `_resize_applied_generation` never decreases. -/
  monotone : ∀ act s', step s act = some s' →
    s.scheduler.appliedGeneration ≤ s'.scheduler.appliedGeneration
  /-- It is a generation that was acknowledged. -/
  acknowledged : s.scheduler.appliedGeneration = 0 ∨
    s.scheduler.appliedGeneration ∈ s.coordinator.acknowledged

/-! ## What a step does -/

variable {s s' : State} {act : Act} {op : ResizeOperation} {rest : List ResizeOperation}

namespace State

/-- A step that applies nothing and sends nothing: operations move on or are dropped. -/
structure Quiet (s s' : State) : Prop where
  coordinator : s'.coordinator = s.coordinator
  applied : s'.applied = s.applied
  sent : s'.sent = s.sent
  pipeline : s'.scheduler.pipeline.Sublist s.scheduler.pipeline
  current : s'.scheduler.pool.currentBlocks = s.scheduler.pool.currentBlocks
  initial : s'.scheduler.pool.initialBlocks = s.scheduler.pool.initialBlocks
  thread : ∀ op rest, s'.scheduler.thread = .awaiting op rest →
    s.scheduler.thread = .awaiting op rest
  generation : s'.scheduler.appliedGeneration = s.scheduler.appliedGeneration

/-- The first operation on its way is applied. -/
structure Applies (s s' : State) (op : ResizeOperation) (rest : List ResizeOperation) : Prop where
  coordinator : s'.coordinator = s.coordinator
  applied : s'.applied = op :: s.applied
  sent : s'.sent = s.sent
  before : s.scheduler.thread = .applying (op :: rest)
  after : s'.scheduler.thread = .awaiting op rest
  pipeline : s.scheduler.pipeline = op :: s'.scheduler.pipeline
  current : s'.scheduler.pool.currentBlocks = op.targetBlockCount
  initial : s'.scheduler.pool.initialBlocks = s.scheduler.pool.initialBlocks
  generation : s'.scheduler.appliedGeneration = s.scheduler.appliedGeneration

/-- **What a step does.** -/
inductive Effect (s : State) : Act → State → Prop
  | issue (op : ResizeOperation) : Effect s (.issue op)
      { s with coordinator := { s.coordinator with issued := op :: s.coordinator.issued } }
  | receive (place : ℕ) (request : Json) : Effect s (.receive place) (s.receive place request)
  | poll (operations : List ResizeOperation) (h : s.scheduler.polled = none) :
      Effect s (.poll operations)
        { s with scheduler := { s.scheduler with polled := some operations } }
  | quiet {act : Act} {s' : State} (h : Quiet s s') : Effect s act s'
  | applies {faults : QueueFaults} {s' : State} {op : ResizeOperation}
      {rest : List ResizeOperation} (h : Applies s s' op rest) : Effect s (.apply faults) s'
  | sends {op : ResizeOperation} {rest : List ResizeOperation} {request : Json}
      (hthread : s.scheduler.thread = .awaiting op rest) (hrequest : ackRequest op = .ok request) :
      Effect s .send
        { s with
          unsent := false
          wire := request :: s.wire
          sent := (request, s.scheduler.pool.currentBlocks) :: s.sent }
  | returns {op : ResizeOperation} {rest : List ResizeOperation}
      (hthread : s.scheduler.thread = .awaiting op rest) :
      Effect s (.ackReturns true) (s.ackReturns true op rest)

/-- The scheduler thread applies an operation, or raises. -/
theorem effect_apply (hthread : s.scheduler.thread = .applying (op :: rest))
    (faults : QueueFaults) : Effect s (.apply faults) (s.apply faults op rest) := by
  obtain ⟨pool, hfewer, hinitial, happly⟩ | ⟨pool, hok, happly⟩ :=
    s.scheduler.apply_cases faults op rest
  · simp only [apply, happly]
    exact .quiet ⟨rfl, rfl, rfl, Scheduler.pipeline_idle pool, hfewer.current, hinitial, nofun, rfl⟩
  · have hinitial := VllmElasticBlockPool.apply_initialBlocks faults op.targetBlockCount
      s.scheduler.pool
    rw [hok] at hinitial
    simp only [apply, happly]
    exact .applies ⟨rfl, rfl, rfl, hthread, rfl, Scheduler.pipeline_applying hthread,
      VllmElasticBlockPool.currentBlocks_of_apply_ok hok, hinitial, rfl⟩

end State

open State

/-- **Every step has its effect.** -/
theorem effect_of_step (hs : step s act = some s') : Effect s act s' := by
  cases act with
  | issue op =>
    obtain rfl := Option.some.inj hs
    exact .issue op
  | receive place =>
    obtain ⟨request, -, rfl⟩ := Option.map_eq_some_iff.mp hs
    exact .receive place request
  | poll operations =>
    simp only [step] at hs
    split at hs
    · rename_i hpolled
      obtain rfl := Option.some.inj hs
      exact .poll operations hpolled
    · exact absurd hs nofun
  | merge =>
    simp only [step] at hs
    split at hs
    · rename_i operations hpolled
      obtain rfl := Option.some.inj hs
      exact .quiet ⟨rfl, rfl, rfl, Scheduler.pipeline_merge hpolled, rfl, rfl, fun _ _ h => h, rfl⟩
    · exact absurd hs nofun
  | discard =>
    obtain rfl := Option.some.inj hs
    refine .quiet ⟨rfl, rfl, rfl, ?_, rfl, rfl, fun _ _ h => h, rfl⟩
    exact ((List.nil_sublist _).append_left _).append_left _
  | bind faults =>
    simp only [step] at hs
    split at hs
    · obtain rfl := Option.some.inj hs
      obtain ⟨hcurrent, hinitial⟩ := VllmElasticBlockPool.bind_counts faults s.scheduler.pool
      exact .quiet ⟨rfl, rfl, rfl, .refl _, hcurrent, hinitial, fun _ _ h => h, rfl⟩
    · exact absurd hs nofun
  | take =>
    simp only [step] at hs
    split at hs
    · rename_i hthread
      obtain rfl := Option.some.inj hs
      refine .quiet ⟨rfl, rfl, rfl, ?_, rfl, rfl, fun op rest h => ?_, rfl⟩
      · rw [Scheduler.pipeline_take hthread]
      · exact absurd h (Pc.run_ne_awaiting _)
    · exact absurd hs nofun
  | apply faults =>
    simp only [step] at hs
    split at hs
    · rename_i op rest hthread
      obtain rfl := Option.some.inj hs
      exact effect_apply hthread faults
    · exact absurd hs nofun
  | send =>
    simp only [step] at hs
    split at hs
    · rename_i op rest hthread _
      obtain rfl := Option.some.inj hs
      unfold State.send
      split
      · exact .quiet ⟨rfl, rfl, rfl, Scheduler.pipeline_idle _, rfl, rfl, nofun, rfl⟩
      · exact .sends hthread ‹_›
    · exact absurd hs nofun
  | ackReturns ok =>
    simp only [step] at hs
    split at hs
    · rename_i op rest hthread
      simp only [Option.ite_none_left_eq_some, Option.some.injEq] at hs
      obtain ⟨-, rfl⟩ := hs
      cases ok with
      | true => exact .returns hthread
      | false => exact .quiet ⟨rfl, rfl, rfl, Scheduler.pipeline_idle _, rfl, rfl, nofun, rfl⟩
    · exact absurd hs nofun
  | alloc block refCnt =>
    simp only [step, Option.ite_none_right_eq_some, Option.some.injEq] at hs
    obtain ⟨-, rfl⟩ := hs
    exact .quiet ⟨rfl, rfl, rfl, .refl _, rfl, rfl, fun _ _ h => h, rfl⟩
  | free block =>
    simp only [step, Option.ite_none_right_eq_some, Option.some.injEq] at hs
    obtain ⟨-, rfl⟩ := hs
    exact .quiet ⟨rfl, rfl, rfl, .refl _, rfl, rfl, fun _ _ h => h, rfl⟩

/-! ## The order -/

/-- The operations applied so far and then the ones on their way, the oldest first. -/
def State.timeline (s : State) : List ResizeOperation :=
  s.applied.reverse ++ s.scheduler.pipeline

/-- **The timeline is sorted by generation**, it is made of operations the coordinator issued, and
the block count is the target of the last one applied. -/
structure Inv (s : State) : Prop where
  issued : s.coordinator.issued.Pairwise fun later earlier =>
    earlier.resizeGeneration < later.resizeGeneration
  mem_issued : ∀ op ∈ s.timeline, op ∈ s.coordinator.issued
  sorted : s.timeline.Pairwise fun op op' => op.resizeGeneration ≤ op'.resizeGeneration
  current : s.scheduler.pool.currentBlocks =
    (s.applied.head?.map ResizeOperation.targetBlockCount).getD s.scheduler.pool.initialBlocks
  awaiting : ∀ op rest, s.scheduler.thread = .awaiting op rest →
    s.scheduler.pool.currentBlocks = op.targetBlockCount
  sent : ∀ entry ∈ s.sent, entry.1.get "applied_block_count" = .int entry.2
  acknowledged : s.scheduler.appliedGeneration = 0 ∨
    s.scheduler.appliedGeneration ∈ s.coordinator.acknowledged

theorem Started.inv (h : Started s) : Inv s := by
  obtain ⟨⟨initialBlocks, maximumBlocks, pool, hpool⟩, ⟨hpolled, hpending, hthread, hgeneration⟩,
    hcoordinator, -, -, happlied, hsent⟩ := h
  have htimeline : s.timeline = [] := by
    simp [timeline, Scheduler.pipeline, happlied, hpolled, hpending, hthread]
  refine ⟨by simp [hcoordinator], by simp [htimeline], by simp [htimeline], ?_, ?_, by simp [hsent],
    .inl hgeneration⟩
  · rw [happlied]
    exact VllmElasticBlockPool.currentBlocks_of_new hpool
  · intro op rest hawaiting
    cases hthread.symm.trans hawaiting

/-- The request names the target of its operation as the block count. -/
theorem get_ackRequest {request : Json} (h : ackRequest op = .ok request) :
    request.get "applied_block_count" = .int op.targetBlockCount := by
  simp only [ackRequest, makeResizeAckRequest, Except.bind_eq_ok, Except.pure_eq_ok] at h
  obtain ⟨-, -, rfl⟩ := h
  rfl

/-- The outstanding operation is the newest one issued. -/
theorem Inv.le_outstanding (h : Inv s) (hop : s.coordinator.outstanding = some op) :
    op ∈ s.coordinator.issued ∧
      ∀ other ∈ s.coordinator.issued, other.resizeGeneration ≤ op.resizeGeneration := by
  obtain ⟨hhead, -⟩ := Option.filter_eq_some_iff.mp hop
  obtain ⟨older, hissued⟩ := List.head?_eq_some_iff.mp hhead
  have hpairwise := h.issued
  rw [hissued] at hpairwise ⊢
  refine ⟨List.mem_cons_self, fun other hother => ?_⟩
  obtain rfl | hother := List.mem_cons.mp hother
  · exact le_rfl
  · exact (List.rel_of_pairwise_cons hpairwise hother).le

/-- Operations of one generation are one operation. -/
theorem Inv.eq_of_generation (h : Inv s) {op' : ResizeOperation}
    (hop : op ∈ s.coordinator.issued) (hop' : op' ∈ s.coordinator.issued)
    (heq : op.resizeGeneration = op'.resizeGeneration) : op = op' := by
  have hnodup : (s.coordinator.issued.map ResizeOperation.resizeGeneration).Nodup :=
    List.pairwise_map.mpr (h.issued.imp fun hlt => hlt.ne')
  exact List.inj_on_of_nodup_map hnodup hop hop' heq

theorem Inv.quiet (h : Inv s) (hs : Quiet s s') : Inv s' := by
  have hsub : s'.timeline.Sublist s.timeline := by
    rw [timeline, timeline, hs.applied]
    exact hs.pipeline.append_left _
  refine ⟨hs.coordinator ▸ h.issued, fun op hop => ?_, h.sorted.sublist hsub, ?_, ?_,
    hs.sent ▸ h.sent, ?_⟩
  · rw [hs.coordinator]
    exact h.mem_issued op (hsub.subset hop)
  · rw [hs.current, hs.applied, hs.initial]
    exact h.current
  · intro op rest hthread
    rw [hs.current]
    exact h.awaiting op rest (hs.thread op rest hthread)
  · rw [hs.generation, hs.coordinator]
    exact h.acknowledged

/-- **An answer of the coordinator goes to the end of the timeline**: nothing is newer. -/
theorem Inv.poll (h : Inv s) (hpolled : s.scheduler.polled = none)
    {operations : List ResizeOperation}
    (hops : ∀ op ∈ operations, s.coordinator.outstanding = some op) :
    Inv { s with scheduler := { s.scheduler with polled := some operations } } := by
  have htimeline : State.timeline
      { s with scheduler := { s.scheduler with polled := some operations } } =
        s.timeline ++ operations := by
    rw [timeline, timeline, Scheduler.pipeline_poll hpolled, List.append_assoc]
  refine ⟨h.issued, fun op hop => ?_, ?_, h.current, h.awaiting, h.sent, h.acknowledged⟩
  · rw [htimeline] at hop
    obtain hop | hop := List.mem_append.mp hop
    · exact h.mem_issued op hop
    · exact (h.le_outstanding (hops op hop)).1
  · rw [htimeline]
    refine List.pairwise_append.mpr ⟨h.sorted, ?_, fun op hop op' hop' => ?_⟩
    · refine List.pairwise_of_forall_mem_list fun op hop op' hop' => ?_
      obtain rfl := Option.some.inj ((hops op hop).symm.trans (hops op' hop'))
      exact le_rfl
    · exact (h.le_outstanding (hops op' hop')).2 op (h.mem_issued op hop)

/-- **An operation that is applied stays where it is in the timeline.** -/
theorem Inv.applies (h : Inv s) (hs : Applies s s' op rest) : Inv s' := by
  have htimeline : s'.timeline = s.timeline := by
    rw [timeline, timeline, hs.applied, hs.pipeline, List.reverse_cons, List.append_assoc,
      List.singleton_append]
  refine ⟨hs.coordinator ▸ h.issued, ?_, htimeline ▸ h.sorted, ?_, ?_, hs.sent ▸ h.sent, ?_⟩
  · rw [htimeline, hs.coordinator]
    exact h.mem_issued
  · rw [hs.applied]
    exact hs.current
  · intro op' rest' hthread
    obtain ⟨rfl, -⟩ := Pc.awaiting.inj (hs.after.symm.trans hthread)
    exact hs.current
  · rw [hs.generation, hs.coordinator]
    exact h.acknowledged

/-- Everything applied is at most as new as what is on its way. -/
theorem Inv.applied_le (h : Inv s) (hs : Applies s s' op rest) {earlier : ResizeOperation}
    (hearlier : earlier ∈ s.applied) : earlier.resizeGeneration ≤ op.resizeGeneration := by
  refine (List.pairwise_append.mp h.sorted).2.2 earlier (List.mem_reverse.mpr hearlier) op ?_
  rw [hs.pipeline]
  exact List.mem_cons_self

/-- **The acknowledgement is answered well**: its generation is recorded. -/
theorem Inv.returns (h : Inv s) (hthread : s.scheduler.thread = .awaiting op rest)
    (hacknowledged : op.resizeGeneration ∈ s.coordinator.acknowledged) :
    Inv (s.ackReturns true op rest) := by
  have htimeline : (s.ackReturns true op rest).timeline = s.timeline :=
    congrArg (s.applied.reverse ++ ·) (Scheduler.pipeline_acked hthread)
  refine ⟨h.issued, htimeline ▸ h.mem_issued, htimeline ▸ h.sorted, h.current, ?_, h.sent, ?_⟩
  · intro op' rest' hawaiting
    exact absurd hawaiting (Pc.run_ne_awaiting rest)
  · change max s.scheduler.appliedGeneration op.resizeGeneration = 0 ∨
      max s.scheduler.appliedGeneration op.resizeGeneration ∈ s.coordinator.acknowledged
    rcases le_total s.scheduler.appliedGeneration op.resizeGeneration with hle | hle
    · rw [max_eq_right hle]
      exact .inr hacknowledged
    · rw [max_eq_left hle]
      exact h.acknowledged

/-- **A step keeps the order.** -/
theorem Inv.step (h : Inv s) (hok : Trusted s act) (hs : step s act = some s') : Inv s' := by
  cases effect_of_step hs with
  | issue op =>
    refine ⟨List.pairwise_cons.mpr ⟨hok.2, h.issued⟩, fun op' hop' => ?_, h.sorted, h.current,
      h.awaiting, h.sent, h.acknowledged⟩
    exact List.mem_cons_of_mem op (h.mem_issued op' hop')
  | receive place request =>
    exact ⟨h.issued, h.mem_issued, h.sorted, h.current, h.awaiting, h.sent,
      h.acknowledged.imp_right (List.mem_cons_of_mem _)⟩
  | poll operations hpolled => exact h.poll hpolled hok
  | quiet hquiet => exact h.quiet hquiet
  | applies happlies => exact h.applies happlies
  | sends hthread hrequest =>
    refine ⟨h.issued, h.mem_issued, h.sorted, h.current, h.awaiting, fun entry hentry => ?_,
      h.acknowledged⟩
    obtain rfl | hentry := List.mem_cons.mp hentry
    · rw [h.awaiting _ _ hthread]
      exact get_ackRequest hrequest
    · exact h.sent entry hentry
  | returns hthread => exact h.returns hthread (hok _ _ hthread)

/-! ## The order in every run -/

/-- **What changes the block count is the first operation on its way.** -/
theorem applies_of_ne (hs : step s act = some s')
    (hne : s'.scheduler.pool.currentBlocks ≠ s.scheduler.pool.currentBlocks) :
    ∃ op rest, Applies s s' op rest := by
  cases effect_of_step hs with
  | issue op => exact absurd rfl hne
  | receive place request => exact absurd rfl hne
  | poll operations hpolled => exact absurd rfl hne
  | quiet hquiet => exact absurd hquiet.current hne
  | applies happlies => exact ⟨_, _, happlies⟩
  | sends hthread hrequest => exact absurd rfl hne
  | returns hthread => exact absurd rfl hne

/-- **The applied generation never decreases.** -/
theorem appliedGeneration_le (hs : step s act = some s') :
    s.scheduler.appliedGeneration ≤ s'.scheduler.appliedGeneration := by
  cases effect_of_step hs with
  | issue op => exact le_rfl
  | receive place request => exact le_rfl
  | poll operations hpolled => exact le_rfl
  | quiet hquiet => exact hquiet.generation.ge
  | applies happlies => exact happlies.generation.ge
  | sends hthread hrequest => exact le_rfl
  | returns hthread => exact le_max_left _ _

/-- **The last operation applied is the newest one.** -/
theorem Inv.newest (h : Inv s) (hop : op ∈ s.applied)
    (hnewest : ∀ other ∈ s.applied, other.resizeGeneration ≤ op.resizeGeneration) :
    s.scheduler.pool.currentBlocks = op.targetBlockCount := by
  have hissued : ∀ other ∈ s.applied, other ∈ s.coordinator.issued := fun other hother =>
    h.mem_issued other (List.mem_append_left _ (List.mem_reverse.mpr hother))
  obtain ⟨last, earlier, happlied⟩ := List.exists_cons_of_ne_nil (List.ne_nil_of_mem hop)
  have hlast : last ∈ s.applied := happlied ▸ List.mem_cons_self
  have hpairwise : s.applied.Pairwise fun later earlier =>
      earlier.resizeGeneration ≤ later.resizeGeneration :=
    List.pairwise_reverse.mp (List.pairwise_append.mp h.sorted).1
  have hle : op.resizeGeneration ≤ last.resizeGeneration := by
    rw [happlied] at hop hpairwise
    obtain rfl | hop := List.mem_cons.mp hop
    · exact le_rfl
    · exact List.rel_of_pairwise_cons hpairwise hop
  -- The last one is of the newest generation, and a generation has one operation.
  have heq : last = op := h.eq_of_generation (hissued last hlast) (hissued op hop)
    ((hnewest last hlast).antisymm hle)
  rw [h.current, happlied, heq]
  rfl

/-- **The order of the resizes**, in every state of every run of a trusted coordinator: whatever
polls, merges, applications, acknowledgements, losses and faults are interleaved. -/
theorem resize_ordered (h : lts.ReachBy Trusted s) : Ordered s := by
  have hinv : Inv s := h.invariant (fun _ => Started.inv) fun _ _ _ hinv hok hs => hinv.step hok hs
  refine ⟨fun act s' hs hne => ?_, fun happlied => ?_, fun op hop => hinv.newest hop, hinv.sent,
    fun act s' hs => appliedGeneration_le hs, hinv.acknowledged⟩
  · obtain ⟨op, rest, happlies⟩ := applies_of_ne hs hne
    exact ⟨op, rest, happlies.before, happlies.current,
      fun earlier hearlier => hinv.applied_le happlies hearlier⟩
  · have hcurrent := hinv.current
    rwa [happlied] at hcurrent

/-! ## A duplicate between two resizes -/

/-- The growth from two to four blocks. -/
def growth : ResizeOperation := ⟨1, 1, "b", .activateScheduler, 2, 4, 32, 32, []⟩

/-- The shrink from four to three blocks. -/
def shrink : ResizeOperation := ⟨1, 2, "b", .retireScheduler, 4, 3, 32, 32, []⟩

/-- A scheduler with two of four blocks. -/
def twoBlocks : State where
  coordinator := ⟨[], []⟩
  scheduler := ⟨VllmElasticBlockPool.fourBlocks, none, [], .idle, 0, []⟩
  unsent := false
  wire := []
  applied := []
  sent := []

theorem started_twoBlocks : Started twoBlocks where
  pool := ⟨2, 4, VllmElasticBlockPool.fourBlocks.pool, rfl⟩
  scheduler := ⟨rfl, rfl, rfl, rfl⟩
  coordinator := rfl
  history := ⟨rfl, rfl, rfl, rfl⟩

/-- The growth is polled a second time while it is applied, and its acknowledgement arrives although
`ack_resize` raises; the duplicate then waits in line before the shrink. -/
def duplicateRun : List Act :=
  [.bind noFaults, .issue growth, .poll [growth], .merge, .take, .apply noFaults, .poll [growth],
    .send, .receive 0, .ackReturns false, .merge, .issue shrink, .poll [shrink], .merge, .take,
    .apply noFaults, .send, .receive 0, .ackReturns true, .apply noFaults, .send]

theorem resize_ordered_duplicate :
    ∃ s, lts.exec twoBlocks duplicateRun = some s ∧ s.applied = [shrink, growth, growth] ∧
      s.scheduler.pool.currentBlocks = 3 ∧ s.scheduler.appliedGeneration = 1 ∧
      s.sent.map Prod.snd = [3, 4, 4] ∧ Ordered s := by
  refine ⟨_, rfl, rfl, rfl, rfl, rfl, resize_ordered ?_⟩
  refine Lts.reachBy_of_exec (.init started_twoBlocks) duplicateRun ?_ rfl
  have hpoll : ∀ {op other : ResizeOperation}, other ∈ [op] → some op = some other :=
    fun hother => congrArg some (List.mem_singleton.mp hother).symm
  refine ⟨trivial, ⟨rfl, nofun⟩, fun _ hop => hpoll hop, trivial, trivial, trivial,
    fun _ hop => hpoll hop, trivial, trivial, trivial, trivial, ⟨rfl, fun earlier hearlier => ?_⟩,
    fun _ hop => hpoll hop, trivial, trivial, trivial, trivial, trivial,
    fun op rest hthread => ?_, trivial, trivial, trivial⟩
  · obtain rfl := List.mem_singleton.mp hearlier
    exact Nat.one_lt_two
  · have hawaiting : Pc.awaiting growth [shrink] = .awaiting op rest := hthread
    change op.resizeGeneration ∈ [1, 1]
    rw [← (Pc.awaiting.inj hawaiting).1]
    exact List.mem_cons_self

end Kapsl.Vllm.ResizeOrdering
