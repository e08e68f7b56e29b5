import Kapsl.Lib.Lts
import Kapsl.Vllm.Python

/-!
# Vllm/BlockPool — `VllmElasticBlockPool` over vLLM's block allocator

`VllmElasticBlockPool` keeps the tail of vLLM's block list out of the free queue: `bind` removes the
blocks above the initial count, `apply` adds or removes a stretch of the tail, and a removal that
fails half way is rolled back by re-appending what was removed.  A block is its index in
`pool.blocks`.

* `RepOk` — the free queue holds exactly the free, non-null blocks below `current_blocks`.
* `elasticBlockPool_representation` — it holds after the bind and in every state of every run that
  interleaves resizes, failing at any block, with vLLM's own traffic; a call that raises changes
  nothing but the order of the queue.
-/

namespace Kapsl.Vllm

/-! ## The state and the two methods -/

/-- The part of vLLM's `BlockPool` the adapter reads and writes.  `resizable` and `evictable` are
the two `callable` probes on it. -/
structure BlockPool where
  /-- `len(pool.blocks)`. -/
  size : ℕ
  refCnt : ℕ → ℕ
  isNull : ℕ → Bool
  freeBlockQueue : List ℕ
  numGpuBlocks : ℕ
  /-- `blocks` is a list and the queue has `remove` and `append_n`. -/
  resizable : Bool
  /-- `_maybe_evict_cached_block` is callable. -/
  evictable : Bool

/-- The adapter, with the vLLM pool it is to be bound to; `bound` is `self._pool is not None`. -/
structure VllmElasticBlockPool where
  initialBlocks : ℕ
  maximumBlocks : ℕ
  currentBlocks : ℕ
  bound : Bool
  pool : BlockPool

/-- Which calls on vLLM's objects raise: `queue.remove` and `_maybe_evict_cached_block` at a given
block, and `queue.append_n`. -/
structure QueueFaults where
  removeFails : ℕ → Bool
  evictFails : ℕ → Bool
  appendFails : Bool

namespace VllmElasticBlockPool

/-- `VllmElasticBlockPool(initial_blocks, maximum_blocks)`, about to be given `pool`. -/
def new (initialBlocks maximumBlocks : ℕ) (pool : BlockPool) :
    Except PyError VllmElasticBlockPool :=
  if initialBlocks ≤ 1 ∨ initialBlocks > maximumBlocks then
    .error (.sharedPoolImportError "elastic block pool requires room for vLLM's null block")
  else
    .ok { initialBlocks, maximumBlocks, currentBlocks := initialBlocks, bound := false, pool }

/-- `for block in blocks: queue.remove(block); removed.append(block)`, stopping at the first call
that raises.  Returns that exception, the queue and `removed`. -/
def removeEach (f : QueueFaults) :
    List ℕ → List ℕ → List ℕ → Option PyError × List ℕ × List ℕ
  | [], queue, removed => (none, queue, removed)
  | block :: rest, queue, removed =>
    if f.removeFails block then (some (.runtimeError "queue failure"), queue, removed)
    else if block ∈ queue then removeEach f rest (queue.erase block) (removed ++ [block])
    else (some (.runtimeError "block is not in the free queue"), queue, removed)

/-- `for block in retired: evict(block)` — it touches neither the queue nor `ref_cnt`. -/
def evictEach (f : QueueFaults) : List ℕ → Option PyError
  | [] => none
  | block :: rest =>
    if f.evictFails block then some (.runtimeError "eviction failure") else evictEach f rest

/-- `blocks[start:stop]`, as indices. -/
def blockSlice (start stop : ℕ) : List ℕ := List.range' start (stop - start)

/-- The state with another free queue. -/
def withQueue (s : VllmElasticBlockPool) (queue : List ℕ) : VllmElasticBlockPool :=
  { s with pool := { s.pool with freeBlockQueue := queue } }

/-- The handler both methods share: `queue.append_n(removed)`, then re-raise under `message`. -/
def rollback (f : QueueFaults) (message ambiguous : String) (queue removed : List ℕ)
    (s : VllmElasticBlockPool) : Outcome VllmElasticBlockPool Unit :=
  if f.appendFails then (.error (.sharedPoolImportError ambiguous), s.withQueue queue)
  else (.error (.sharedPoolImportError message), s.withQueue (queue ++ removed))

/-- `VllmElasticBlockPool.bind`. -/
def bind (f : QueueFaults) (s : VllmElasticBlockPool) : Outcome VllmElasticBlockPool Unit :=
  if s.bound then
    (.error (.sharedPoolImportError "vLLM block pool was bound more than once"), s)
  else if !s.pool.resizable || s.pool.size ≠ s.maximumBlocks ||
      s.pool.numGpuBlocks ≠ s.maximumBlocks then
    (.error (.sharedPoolImportError
      "this vLLM build has no certified resizable BlockPool surface"), s)
  else
    let inactive := blockSlice s.initialBlocks s.pool.size
    if inactive.any fun block => s.pool.refCnt block ≠ 0 then
      (.error (.sharedPoolImportError
        "inactive vLLM block is unexpectedly referenced at startup"), s)
    else
      match removeEach f inactive s.pool.freeBlockQueue [] with
      | (some _, queue, removed) =>
        rollback f "vLLM inactive-block setup could not update the free queue"
          "vLLM inactive-block setup failed and its free-queue rollback was ambiguous; the engine must restart"
          queue removed s
      | (none, queue, _) =>
        (.ok (), { s with
          bound := true
          pool := { s.pool with freeBlockQueue := queue, numGpuBlocks := s.initialBlocks } })

/-- The tail of `apply`: publish the new block count. -/
def publish (target : ℕ) (queue : List ℕ) (s : VllmElasticBlockPool) : VllmElasticBlockPool :=
  { s with
    currentBlocks := target
    pool := { s.pool with freeBlockQueue := queue, numGpuBlocks := target } }

/-- `VllmElasticBlockPool.apply`. -/
def apply (f : QueueFaults) (target : ℕ) (s : VllmElasticBlockPool) :
    Outcome VllmElasticBlockPool Unit :=
  if !s.bound then (.error (.sharedPoolImportError "vLLM block pool is not bound"), s)
  else if target ≤ 1 ∨ target > s.maximumBlocks then
    (.error (.sharedPoolImportError "resize target is outside virtual block capacity"), s)
  else if target = s.currentBlocks then (.ok (), s)
  else if target > s.currentBlocks then
    let activated := blockSlice s.currentBlocks target
    if activated.any fun block => s.pool.refCnt block ≠ 0 then
      (.error (.sharedPoolImportError
        "inactive vLLM tail block became referenced before activation"), s)
    else if f.appendFails then (.error (.runtimeError "queue failure"), s)
    else (.ok (), s.publish target (s.pool.freeBlockQueue ++ activated))
  else
    let retired := blockSlice target s.currentBlocks
    if retired.any fun block => s.pool.refCnt block ≠ 0 || s.pool.isNull block then
      (.error (.sharedPoolImportError "vLLM cannot retire a live or null cache block"), s)
    else if !s.pool.evictable then
      (.error (.sharedPoolImportError
        "this vLLM build lacks the certified cache-eviction seam"), s)
    else
      let removal := removeEach f retired s.pool.freeBlockQueue []
      -- Eviction starts only once the whole tail is out of the queue.
      match removal.1.or (evictEach f retired) with
      | some _ =>
        rollback f "vLLM tail retirement was rolled back before resize acknowledgement"
          "vLLM tail retirement failed and its free-queue rollback was ambiguous; the engine must restart"
          removal.2.1 removal.2.2 s
      | none => (.ok (), s.publish target removal.2.1)

end VllmElasticBlockPool

/-! ## vLLM's own traffic, and the runs -/

/-- One step of a run: a resize call, or vLLM allocating or freeing a block. -/
inductive PoolAct
  | bind (f : QueueFaults)
  | apply (target : ℕ) (f : QueueFaults)
  | alloc (block refCnt : ℕ)
  | free (block : ℕ)

namespace VllmElasticBlockPool

/-- vLLM takes a block out of the free queue and references it. -/
def alloc (s : VllmElasticBlockPool) (block refCnt : ℕ) : VllmElasticBlockPool :=
  { s with pool :=
    { s.pool with
      refCnt := Function.update s.pool.refCnt block refCnt
      freeBlockQueue := s.pool.freeBlockQueue.erase block } }

/-- vLLM drops the last reference to a block and appends it to the free queue. -/
def free (s : VllmElasticBlockPool) (block : ℕ) : VllmElasticBlockPool :=
  { s with pool :=
    { s.pool with
      refCnt := Function.update s.pool.refCnt block 0
      freeBlockQueue := s.pool.freeBlockQueue ++ [block] } }

/-- A pool fresh from vLLM: `maximum_blocks` blocks, none referenced, all of them queued except the
null block 0. -/
structure Fresh (s : VllmElasticBlockPool) : Prop where
  unbound : s.bound = false
  initial_gt : 1 < s.initialBlocks
  initial_le : s.initialBlocks ≤ s.maximumBlocks
  current : s.currentBlocks = s.initialBlocks
  size : s.pool.size = s.maximumBlocks
  isNull : ∀ b, s.pool.isNull b = decide (b = 0)
  refCnt : ∀ b, s.pool.refCnt b = 0
  nodup : s.pool.freeBlockQueue.Nodup
  queue : ∀ b, b ∈ s.pool.freeBlockQueue ↔ 0 < b ∧ b < s.maximumBlocks

/-- The runs of one adapter: any resize calls, with any faults of `remove` and `evict`, and — once
the pool is bound — any allocations and frees.  `append_n` is assumed to succeed. -/
def lts : Lts VllmElasticBlockPool PoolAct where
  init := Fresh
  step s
    | .bind f => if f.appendFails then none else some (s.bind f).2
    | .apply target f => if f.appendFails then none else some (s.apply f target).2
    | .alloc block refCnt =>
      if s.bound ∧ block ∈ s.pool.freeBlockQueue ∧ 0 < refCnt then some (s.alloc block refCnt)
      else none
    | .free block =>
      if s.bound ∧ 0 < s.pool.refCnt block ∧ s.pool.isNull block = false then some (s.free block)
      else none

/-! ## Removing a stretch of the queue -/

variable {f : QueueFaults} {s s' : VllmElasticBlockPool}

@[simp] theorem mem_blockSlice {start stop b : ℕ} :
    b ∈ blockSlice start stop ↔ start ≤ b ∧ b < stop := by
  rw [blockSlice, List.mem_range'_1]
  omega

theorem nodup_blockSlice (start stop : ℕ) : (blockSlice start stop).Nodup := List.nodup_range'

/-- **A removal loses no block**: the queue and what was taken out of it are together the old
queue, wherever the loop stopped. -/
theorem perm_removeEach (blocks : List ℕ) : ∀ queue removed : List ℕ,
    ((removeEach f blocks queue removed).2.1 ++ (removeEach f blocks queue removed).2.2).Perm
      (queue ++ removed) := by
  induction blocks with
  | nil => intro queue removed; exact .refl _
  | cons block rest ih =>
    intro queue removed
    rw [removeEach]
    split
    · exact .refl _
    · split
      · next hmem =>
        refine (ih _ _).trans ?_
        rw [← List.append_assoc]
        refine List.perm_append_singleton _ _ |>.trans ?_
        exact (List.perm_cons_erase hmem).symm.append_right removed
      · exact .refl _

/-- A removal that ran to its end took out exactly its blocks. -/
theorem removeEach_queue (blocks : List ℕ) : ∀ queue removed : List ℕ,
    (removeEach f blocks queue removed).1 = none →
      (removeEach f blocks queue removed).2.1 = queue.diff blocks := by
  induction blocks with
  | nil => intro queue removed _; rfl
  | cons block rest ih =>
    intro queue removed h
    rw [removeEach] at h ⊢
    split at h
    · cases h
    · split at h
      · next hf hmem =>
        rw [if_neg hf, if_pos hmem, ih _ _ h, List.diff_cons]
      · cases h

/-! ## The representation invariant -/

/-- **The free queue holds exactly the free, non-null blocks below `current_blocks`**, each once,
and no block at or above it is referenced. -/
structure RepOk (s : VllmElasticBlockPool) : Prop where
  num : s.pool.numGpuBlocks = s.currentBlocks
  nodup : s.pool.freeBlockQueue.Nodup
  queue : ∀ b, b ∈ s.pool.freeBlockQueue ↔
    b < s.currentBlocks ∧ s.pool.isNull b = false ∧ s.pool.refCnt b = 0
  live : ∀ b, 0 < s.pool.refCnt b → b < s.currentBlocks

/-- What a call that raises leaves alone: everything but the order of the free queue. -/
structure SameBlocks (s s' : VllmElasticBlockPool) : Prop where
  bound : s'.bound = s.bound
  initial : s'.initialBlocks = s.initialBlocks
  maximum : s'.maximumBlocks = s.maximumBlocks
  current : s'.currentBlocks = s.currentBlocks
  size : s'.pool.size = s.pool.size
  num : s'.pool.numGpuBlocks = s.pool.numGpuBlocks
  isNull : s'.pool.isNull = s.pool.isNull
  refCnt : s'.pool.refCnt = s.pool.refCnt
  queue : s'.pool.freeBlockQueue.Perm s.pool.freeBlockQueue

theorem SameBlocks.withQueue {queue : List ℕ} (h : queue.Perm s.pool.freeBlockQueue) :
    SameBlocks s (s.withQueue queue) := ⟨rfl, rfl, rfl, rfl, rfl, rfl, rfl, rfl, h⟩

/-! ## How a call can end -/

/-- The queue a call leaves when it raises: it gains no block, and it loses none unless putting them
back fails. -/
structure Spares (f : QueueFaults) (s : VllmElasticBlockPool) (queue : List ℕ) : Prop where
  subperm : queue.Subperm s.pool.freeBlockQueue
  perm : f.appendFails = false → queue.Perm s.pool.freeBlockQueue

theorem Spares.refl (f : QueueFaults) (s : VllmElasticBlockPool) :
    Spares f s s.pool.freeBlockQueue := ⟨.refl _, fun _ => .refl _⟩

/-- A rollback raises, with the queue as good as it could be restored. -/
theorem rollback_ends (f : QueueFaults) (message ambiguous : String) (blocks : List ℕ)
    (s : VllmElasticBlockPool) :
    ∃ e queue, rollback f message ambiguous (removeEach f blocks s.pool.freeBlockQueue []).2.1
      (removeEach f blocks s.pool.freeBlockQueue []).2.2 s = (.error e, s.withQueue queue) ∧
      Spares f s queue := by
  have hperm := perm_removeEach (f := f) blocks s.pool.freeBlockQueue []
  rw [List.append_nil] at hperm
  rw [rollback]
  split
  · rename_i hf
    exact ⟨_, _, rfl, (List.sublist_append_left _ _).subperm.trans hperm.subperm,
      fun hf' => absurd (hf.symm.trans hf') nofun⟩
  · exact ⟨_, _, rfl, hperm.subperm, fun _ => hperm⟩

/-- **A `bind` raises and spares the queue, or binds a fresh pool and takes the tail out of it.** -/
theorem bind_ends (f : QueueFaults) (s : VllmElasticBlockPool) :
    (∃ e queue, s.bind f = (.error e, s.withQueue queue) ∧ Spares f s queue) ∨
      s.bound = false ∧ s.bind f = (.ok (), { s with
        bound := true
        pool := { s.pool with
          freeBlockQueue :=
            s.pool.freeBlockQueue.diff (blockSlice s.initialBlocks s.pool.size)
          numGpuBlocks := s.initialBlocks } }) := by
  dsimp only [bind]
  split
  · exact .inl ⟨_, _, rfl, .refl f s⟩
  rename_i hbound
  split
  · exact .inl ⟨_, _, rfl, .refl f s⟩
  split
  · exact .inl ⟨_, _, rfl, .refl f s⟩
  split
  · rename_i e queue removed hremove
    have hends := rollback_ends f "vLLM inactive-block setup could not update the free queue"
      "vLLM inactive-block setup failed and its free-queue rollback was ambiguous; the engine must restart"
      (blockSlice s.initialBlocks s.pool.size) s
    rw [hremove] at hends
    exact .inl hends
  · rename_i queue removed hremove
    have hqueue := removeEach_queue (f := f) (blockSlice s.initialBlocks s.pool.size)
      s.pool.freeBlockQueue [] (by rw [hremove])
    rw [hremove] at hqueue
    exact .inr ⟨by simpa using hbound, by rw [← hqueue]⟩

/-- What an `apply` that returns leaves: the same pool, or one with a free stretch activated or an
idle one retired. -/
def Resized (target : ℕ) (s s' : VllmElasticBlockPool) : Prop :=
  (target = s.currentBlocks ∧ s' = s) ∨
    (s.currentBlocks < target ∧
      s' = s.publish target (s.pool.freeBlockQueue ++ blockSlice s.currentBlocks target)) ∨
    (target < s.currentBlocks ∧
      (∀ b, target ≤ b → b < s.currentBlocks → s.pool.refCnt b = 0) ∧
      s' = s.publish target (s.pool.freeBlockQueue.diff (blockSlice target s.currentBlocks)))

/-- **An `apply` raises and spares the queue, or it resizes a bound pool.** -/
theorem apply_ends (f : QueueFaults) (target : ℕ) (s : VllmElasticBlockPool) :
    (∃ e queue, s.apply f target = (.error e, s.withQueue queue) ∧ Spares f s queue) ∨
      ∃ s', s.apply f target = (.ok (), s') ∧
        s.bound = true ∧ 1 < target ∧ target ≤ s.maximumBlocks ∧ Resized target s s' := by
  dsimp only [apply]
  split
  · exact .inl ⟨_, _, rfl, .refl f s⟩
  rename_i hbound
  have hbound : s.bound = true := by simpa using hbound
  split
  · exact .inl ⟨_, _, rfl, .refl f s⟩
  rename_i htarget
  obtain ⟨hone, hmaximum⟩ : 1 < target ∧ target ≤ s.maximumBlocks := by omega
  split
  · rename_i heq
    exact .inr ⟨s, rfl, hbound, hone, hmaximum, .inl ⟨heq, rfl⟩⟩
  rename_i hne
  split
  · rename_i hgt
    split
    · exact .inl ⟨_, _, rfl, .refl f s⟩
    split
    · exact .inl ⟨_, _, rfl, .refl f s⟩
    · exact .inr ⟨_, rfl, hbound, hone, hmaximum, .inr (.inl ⟨hgt, rfl⟩)⟩
  · rename_i hle
    split
    · exact .inl ⟨_, _, rfl, .refl f s⟩
    rename_i hidle
    split
    · exact .inl ⟨_, _, rfl, .refl f s⟩
    split
    · exact .inl (rollback_ends f _ _ _ s)
    · rename_i hnone
      rw [Option.or_eq_none_iff] at hnone
      refine .inr ⟨_, rfl, hbound, hone, hmaximum, .inr (.inr ⟨by omega, fun b h₁ h₂ => ?_, ?_⟩)⟩
      · by_contra hb
        refine hidle (List.any_eq_true.mpr ⟨b, mem_blockSlice.mpr ⟨h₁, h₂⟩, ?_⟩)
        simp [hb]
      · rw [removeEach_queue _ _ _ hnone.1]

/-- **A `bind` that raises changes nothing but the queue's order.** -/
theorem sameBlocks_of_bind_error (hf : f.appendFails = false) {e : PyError}
    (h : s.bind f = (.error e, s')) : SameBlocks s s' := by
  obtain ⟨e', queue, hends, hspares⟩ | ⟨-, hends⟩ := bind_ends f s
  · obtain ⟨-, rfl⟩ := Prod.mk.inj (hends.symm.trans h)
    exact .withQueue (hspares.perm hf)
  · exact absurd (congrArg Prod.fst (hends.symm.trans h)) nofun

/-- **An `apply` that raises changes nothing but the queue's order.** -/
theorem sameBlocks_of_apply_error (hf : f.appendFails = false) {target : ℕ} {e : PyError}
    (h : s.apply f target = (.error e, s')) : SameBlocks s s' := by
  obtain ⟨e', queue, hends, hspares⟩ | ⟨s₁, hends, -⟩ := apply_ends f target s
  · obtain ⟨-, rfl⟩ := Prod.mk.inj (hends.symm.trans h)
    exact .withQueue (hspares.perm hf)
  · exact absurd (congrArg Prod.fst (hends.symm.trans h)) nofun

/-! ## What a successful call does -/

/-- A `bind` that returns bound a fresh pool and took the tail out of the queue. -/
theorem bind_ok (h : s.bind f = (.ok (), s')) :
    s.bound = false ∧ s' =
      { s with
        bound := true
        pool := { s.pool with
          freeBlockQueue :=
            s.pool.freeBlockQueue.diff (blockSlice s.initialBlocks s.pool.size)
          numGpuBlocks := s.initialBlocks } } := by
  obtain ⟨e, queue, hends, -⟩ | ⟨hbound, hends⟩ := bind_ends f s
  · exact absurd (congrArg Prod.fst (hends.symm.trans h)) nofun
  · exact ⟨hbound, congrArg Prod.snd (h.symm.trans hends)⟩

/-- An `apply` that returns left the count alone, activated a free stretch, or retired one. -/
theorem apply_ok {target : ℕ} (h : s.apply f target = (.ok (), s')) :
    s.bound = true ∧ 1 < target ∧ target ≤ s.maximumBlocks ∧
      ((target = s.currentBlocks ∧ s' = s) ∨
        (s.currentBlocks < target ∧
          s' = s.publish target (s.pool.freeBlockQueue ++ blockSlice s.currentBlocks target)) ∨
        (target < s.currentBlocks ∧
          (∀ b, target ≤ b → b < s.currentBlocks → s.pool.refCnt b = 0) ∧
          s' = s.publish target
            (s.pool.freeBlockQueue.diff (blockSlice target s.currentBlocks)))) := by
  obtain ⟨e, queue, hends, -⟩ | ⟨s₁, hends, hbound, hone, hmaximum, hresized⟩ :=
    apply_ends f target s
  · exact absurd (congrArg Prod.fst (hends.symm.trans h)) nofun
  · obtain ⟨-, rfl⟩ := Prod.mk.inj (hends.symm.trans h)
    exact ⟨hbound, hone, hmaximum, hresized⟩

/-! ## The counts no call and no fault changes -/

/-- A pool just built has its initial blocks. -/
theorem currentBlocks_of_new {initialBlocks maximumBlocks : ℕ} {pool : BlockPool}
    (h : new initialBlocks maximumBlocks pool = .ok s) : s.currentBlocks = s.initialBlocks := by
  rw [new] at h
  split at h
  · exact absurd h nofun
  · obtain rfl := Except.ok.inj h
    rfl

/-- **`bind` leaves both block counts alone**, whether it returns or raises. -/
theorem bind_counts (f : QueueFaults) (s : VllmElasticBlockPool) :
    (s.bind f).2.currentBlocks = s.currentBlocks ∧
      (s.bind f).2.initialBlocks = s.initialBlocks := by
  obtain ⟨e, queue, hends, -⟩ | ⟨-, hends⟩ := bind_ends f s
  · rw [hends]
    exact ⟨rfl, rfl⟩
  · rw [hends]
    exact ⟨rfl, rfl⟩

theorem apply_initialBlocks (f : QueueFaults) (target : ℕ) (s : VllmElasticBlockPool) :
    (s.apply f target).2.initialBlocks = s.initialBlocks := by
  obtain ⟨e, queue, hends, -⟩ | ⟨s₁, hends, -, -, -, hresized⟩ := apply_ends f target s
  · rw [hends]
    rfl
  · rw [hends]
    obtain ⟨-, rfl⟩ | ⟨-, rfl⟩ | ⟨-, -, rfl⟩ := hresized
    · rfl
    · rfl
    · rfl

/-- An `apply` that returns reaches its target. -/
theorem currentBlocks_of_apply_ok {target : ℕ} (h : s.apply f target = (.ok (), s')) :
    s'.currentBlocks = target := by
  obtain ⟨-, -, -, ⟨heq, rfl⟩ | ⟨-, rfl⟩ | ⟨-, -, rfl⟩⟩ := apply_ok h
  · exact heq.symm
  · rfl
  · rfl

/-! ## Bounds that survive every fault -/

/-- The blocks vLLM can hand out or holds, and its null block, lie below `current_blocks`. -/
structure Bounded (s : VllmElasticBlockPool) : Prop where
  pos : 0 < s.currentBlocks
  nodup : s.pool.freeBlockQueue.Nodup
  queued : ∀ b ∈ s.pool.freeBlockQueue, b < s.currentBlocks ∧ s.pool.refCnt b = 0
  live : ∀ b, 0 < s.pool.refCnt b → b < s.currentBlocks
  isNull : ∀ b, s.pool.isNull b = decide (b = 0)

/-- What a call that raises leaves alone even if its rollback fails: everything but the free queue,
which may have lost blocks. -/
structure FewerQueued (s s' : VllmElasticBlockPool) : Prop where
  current : s'.currentBlocks = s.currentBlocks
  refCnt : s'.pool.refCnt = s.pool.refCnt
  isNull : s'.pool.isNull = s.pool.isNull
  queue : s'.pool.freeBlockQueue.Subperm s.pool.freeBlockQueue

theorem FewerQueued.refl (s : VllmElasticBlockPool) : FewerQueued s s := ⟨rfl, rfl, rfl, .refl _⟩

/-- **An `apply` that raises queues no block.** -/
theorem fewerQueued_of_apply_error {target : ℕ} {e : PyError}
    (h : s.apply f target = (.error e, s')) : FewerQueued s s' := by
  obtain ⟨e', queue, hends, hspares⟩ | ⟨s₁, hends, -⟩ := apply_ends f target s
  · obtain ⟨-, rfl⟩ := Prod.mk.inj (hends.symm.trans h)
    exact ⟨rfl, rfl, rfl, hspares.subperm⟩
  · exact absurd (congrArg Prod.fst (hends.symm.trans h)) nofun

theorem Bounded.of_fewerQueued (h : Bounded s) (hs : FewerQueued s s') : Bounded s' where
  pos := hs.current ▸ h.pos
  nodup := by
    obtain ⟨queue, hperm, hsub⟩ := hs.queue
    exact hperm.nodup_iff.mp (h.nodup.sublist hsub)
  queued b hb := by
    rw [hs.current, hs.refCnt]
    exact h.queued b (hs.queue.subset hb)
  live b := by
    rw [hs.current, hs.refCnt]
    exact h.live b
  isNull := hs.isNull ▸ h.isNull

/-- **A resize that returns moves the bound to its target.** -/
theorem Bounded.apply_ok (h : Bounded s) {target : ℕ} (hs : s.apply f target = (.ok (), s')) :
    Bounded s' ∧ s'.currentBlocks = target := by
  obtain ⟨-, hone, -, ⟨rfl, rfl⟩ | ⟨hgt, rfl⟩ | ⟨hlt, hidle, rfl⟩⟩ :=
    VllmElasticBlockPool.apply_ok hs
  · exact ⟨h, rfl⟩
  · refine ⟨⟨(Nat.zero_lt_one).trans hone, ?_, ?_, fun b hb => (h.live b hb).trans hgt, h.isNull⟩,
      rfl⟩
    · refine List.nodup_append'.mpr ⟨h.nodup, nodup_blockSlice _ _, fun b hqueue hslice => ?_⟩
      have := (h.queued b hqueue).1
      have := (mem_blockSlice.mp hslice).1
      omega
    · intro b hb
      rcases List.mem_append.mp hb with hqueue | hslice
      · exact ⟨(h.queued b hqueue).1.trans hgt, (h.queued b hqueue).2⟩
      · obtain ⟨hle, hlt⟩ := mem_blockSlice.mp hslice
        refine ⟨hlt, ?_⟩
        by_contra href
        have := h.live b (Nat.pos_of_ne_zero href)
        omega
  · refine ⟨⟨(Nat.zero_lt_one).trans hone, h.nodup.diff, ?_, ?_, h.isNull⟩, rfl⟩
    · intro b hb
      obtain ⟨hqueue, hslice⟩ := h.nodup.mem_sdiff_iff.mp hb
      refine ⟨?_, (h.queued b hqueue).2⟩
      by_contra hge
      exact hslice (mem_blockSlice.mpr ⟨Nat.le_of_not_lt hge, (h.queued b hqueue).1⟩)
    · intro b hb
      by_contra hge
      exact absurd (hidle b (Nat.le_of_not_lt hge) (h.live b hb)) (Nat.pos_iff_ne_zero.mp hb)

theorem Bounded.alloc (h : Bounded s) {b r : ℕ} (hb : b ∈ s.pool.freeBlockQueue) :
    Bounded (s.alloc b r) where
  pos := h.pos
  nodup := h.nodup.erase b
  queued c hc := by
    obtain ⟨hne, hc⟩ := h.nodup.mem_erase_iff.mp hc
    refine ⟨(h.queued c hc).1, ?_⟩
    simp only [VllmElasticBlockPool.alloc, Function.update_of_ne hne]
    exact (h.queued c hc).2
  live c hc := by
    by_cases hcb : c = b
    · exact hcb ▸ (h.queued b hb).1
    · simp only [VllmElasticBlockPool.alloc, Function.update_of_ne hcb] at hc
      exact h.live c hc
  isNull := h.isNull

theorem Bounded.free (h : Bounded s) {b : ℕ} (hb : 0 < s.pool.refCnt b) : Bounded (s.free b) where
  pos := h.pos
  nodup := by
    refine List.nodup_append'.mpr ⟨h.nodup, List.nodup_singleton b, fun c hc hcb => ?_⟩
    obtain rfl := List.mem_singleton.mp hcb
    exact absurd (h.queued c hc).2 (Nat.pos_iff_ne_zero.mp hb)
  queued c hc := by
    by_cases hcb : c = b
    · subst hcb
      simp only [VllmElasticBlockPool.free, Function.update_self, and_true]
      exact h.live c hb
    · rcases List.mem_append.mp hc with hc | hc
      · simp only [VllmElasticBlockPool.free, Function.update_of_ne hcb]
        exact h.queued c hc
      · exact absurd (List.mem_singleton.mp hc) hcb
  live c hc := by
    by_cases hcb : c = b
    · exact hcb ▸ h.live b hb
    · simp only [VllmElasticBlockPool.free, Function.update_of_ne hcb] at hc
      exact h.live c hc
  isNull := h.isNull

/-! ## Runs -/

/-- The invariant of a run: fresh up to queue order until the bind, well represented after it. -/
structure Inv (s : VllmElasticBlockPool) : Prop where
  fresh : s.bound = false → Fresh s
  rep : s.bound = true → RepOk s
  isNull : ∀ b, s.pool.isNull b = decide (b = 0)
  bounds : 1 < s.currentBlocks ∧ s.currentBlocks ≤ s.maximumBlocks

theorem Fresh.inv (h : Fresh s) : Inv s where
  fresh _ := h
  rep hb := absurd (h.unbound.symm.trans hb) (by decide)
  isNull := h.isNull
  bounds := by have := h.initial_gt; have := h.initial_le; have := h.current; omega

theorem Fresh.sameBlocks (h : Fresh s) (hs : SameBlocks s s') : Fresh s' where
  unbound := hs.bound.trans h.unbound
  initial_gt := hs.initial ▸ h.initial_gt
  initial_le := hs.initial ▸ hs.maximum ▸ h.initial_le
  current := hs.current.trans (h.current.trans hs.initial.symm)
  size := hs.size.trans (h.size.trans hs.maximum.symm)
  isNull := hs.isNull ▸ h.isNull
  refCnt := hs.refCnt ▸ h.refCnt
  nodup := hs.queue.nodup_iff.mpr h.nodup
  queue b := by rw [hs.queue.mem_iff, h.queue, hs.maximum]

theorem RepOk.sameBlocks (h : RepOk s) (hs : SameBlocks s s') : RepOk s' where
  num := hs.num.trans (h.num.trans hs.current.symm)
  nodup := hs.queue.nodup_iff.mpr h.nodup
  queue b := by rw [hs.queue.mem_iff, h.queue, hs.current, hs.isNull, hs.refCnt]
  live b := by rw [hs.current, hs.refCnt]; exact h.live b

theorem Inv.sameBlocks (h : Inv s) (hs : SameBlocks s s') : Inv s' where
  fresh hb := (h.fresh (hs.bound ▸ hb)).sameBlocks hs
  rep hb := (h.rep (hs.bound ▸ hb)).sameBlocks hs
  isNull := hs.isNull ▸ h.isNull
  bounds := hs.current ▸ hs.maximum ▸ h.bounds

/-- The bind takes the tail of a fresh queue out and publishes the initial count. -/
theorem Inv.bind_ok (hi : Inv s) (h : s.bind f = (.ok (), s')) : Inv s' := by
  obtain ⟨hb, rfl⟩ := VllmElasticBlockPool.bind_ok h
  have hf := hi.fresh hb
  have hcur := hf.current
  have hle := hf.initial_le
  refine ⟨nofun, fun _ => ⟨hf.current.symm, hf.nodup.diff, fun b => ?_, fun b hr => ?_⟩,
    hi.isNull, hi.bounds⟩
  · have hq := hf.queue b
    have hn := hf.isNull b
    have hr := hf.refCnt b
    simp only [hf.nodup.mem_sdiff_iff, mem_blockSlice, hf.size, hq, hn, hr, hcur]
    simp only [decide_eq_false_iff_not, and_true]
    omega
  · exact absurd (hf.refCnt b) (Nat.pos_iff_ne_zero.mp hr)

/-- A fresh pool is bounded by its first size once it is bound. -/
theorem Fresh.bounded_of_bind (h : Fresh s) (hs : s.bind f = (.ok (), s')) :
    Bounded s' ∧ s'.currentBlocks = s.initialBlocks := by
  have hinv := h.inv.bind_ok hs
  obtain ⟨-, rfl⟩ := bind_ok hs
  have hrep := hinv.rep rfl
  refine ⟨⟨Nat.zero_lt_one.trans hinv.bounds.1, hrep.nodup, fun b hb => ?_, hrep.live, hinv.isNull⟩,
    h.current⟩
  obtain ⟨hlt, -, href⟩ := (hrep.queue b).mp hb
  exact ⟨hlt, href⟩

/-- Growth appends a stretch of free blocks; shrinking takes one out. -/
theorem Inv.apply_ok (hi : Inv s) {target : ℕ} (h : s.apply f target = (.ok (), s')) : Inv s' := by
  obtain ⟨hb, ht, hmax, ⟨-, rfl⟩ | ⟨hgt, rfl⟩ | ⟨hlt, hidle, rfl⟩⟩ :=
    VllmElasticBlockPool.apply_ok h
  · exact hi
  · have hr := hi.rep hb
    have hzero : ∀ b, s.currentBlocks ≤ b → s.pool.refCnt b = 0 := fun b hb' => by
      by_contra hne
      have := hr.live b (Nat.pos_of_ne_zero hne)
      omega
    have hdisj : ∀ b ∈ s.pool.freeBlockQueue, b ∉ blockSlice s.currentBlocks target := by
      intro b hbq hbs
      have := ((hr.queue b).mp hbq).1
      have := (mem_blockSlice.mp hbs).1
      omega
    refine ⟨fun hb' => absurd (hb.symm.trans hb') (by decide), fun _ => ⟨rfl, ?_, fun b => ?_,
      fun b hb' => ?_⟩, hi.isNull, ⟨ht, hmax⟩⟩
    · exact hr.nodup.append (nodup_blockSlice _ _) fun b h₁ h₂ => hdisj b h₁ h₂
    · have hq := hr.queue b
      have hn := hi.isNull b
      have hz := hzero b
      have hbnd := hi.bounds
      simp only [publish, List.mem_append, mem_blockSlice, hq, hn, decide_eq_false_iff_not]
      constructor
      · rintro (⟨h₁, h₂, h₃⟩ | ⟨h₁, h₂⟩)
        · exact ⟨by omega, h₂, h₃⟩
        · exact ⟨h₂, by omega, hz h₁⟩
      · rintro ⟨h₁, h₂, h₃⟩
        rcases Nat.lt_or_ge b s.currentBlocks with h | h
        · exact .inl ⟨h, h₂, h₃⟩
        · exact .inr ⟨h, h₁⟩
    · have := hr.live b hb'
      exact Nat.lt_trans this hgt
  · have hr := hi.rep hb
    refine ⟨fun hb' => absurd (hb.symm.trans hb') (by decide), fun _ => ⟨rfl, hr.nodup.diff,
      fun b => ?_, fun b hb' => ?_⟩, hi.isNull, ⟨ht, hmax⟩⟩
    · have hq := hr.queue b
      simp only [publish, hr.nodup.mem_sdiff_iff, mem_blockSlice, hq]
      constructor
      · rintro ⟨⟨h₁, h₂, h₃⟩, h₄⟩
        exact ⟨by omega, h₂, h₃⟩
      · rintro ⟨h₁, h₂, h₃⟩
        exact ⟨⟨by omega, h₂, h₃⟩, by omega⟩
    · have hcur : b < s.currentBlocks := hr.live b hb'
      by_contra hge
      exact absurd (hidle b (by simpa [publish] using hge) hcur) (Nat.pos_iff_ne_zero.mp hb')

/-- vLLM references a free block. -/
theorem Inv.alloc (hi : Inv s) (hb : s.bound = true) {b r : ℕ}
    (hq : b ∈ s.pool.freeBlockQueue) (hr : 0 < r) : Inv (s.alloc b r) := by
  have h := hi.rep hb
  have hbc := ((h.queue b).mp hq).1
  refine ⟨fun hb' => absurd (hb.symm.trans hb') (by decide),
    fun _ => ⟨h.num, h.nodup.erase b, fun c => ?_, fun c hc => ?_⟩, hi.isNull, hi.bounds⟩
  · have hqc := h.queue c
    simp only [VllmElasticBlockPool.alloc, h.nodup.mem_erase_iff, hqc]
    by_cases hcb : c = b
    · subst hcb
      simp [Nat.pos_iff_ne_zero.mp hr]
    · simp [hcb]
  · by_cases hcb : c = b
    · subst hcb; exact hbc
    · simp only [VllmElasticBlockPool.alloc, Function.update_of_ne hcb] at hc
      exact h.live c hc

/-- vLLM drops its last reference to a block. -/
theorem Inv.free (hi : Inv s) (hb : s.bound = true) {b : ℕ} (hr : 0 < s.pool.refCnt b)
    (hn : s.pool.isNull b = false) : Inv (s.free b) := by
  have h := hi.rep hb
  have hbc := h.live b hr
  have hbq : b ∉ s.pool.freeBlockQueue := fun hq => by
    have := ((h.queue b).mp hq).2.2
    omega
  refine ⟨fun hb' => absurd (hb.symm.trans hb') (by decide),
    fun _ => ⟨h.num, ?_, fun c => ?_, fun c hc => ?_⟩, hi.isNull, hi.bounds⟩
  · exact h.nodup.append (List.nodup_singleton b) fun c h₁ h₂ =>
      hbq (List.mem_singleton.mp h₂ ▸ h₁)
  · have hqc := h.queue c
    simp only [VllmElasticBlockPool.free, List.mem_append, List.mem_singleton, hqc]
    by_cases hcb : c = b
    · subst hcb
      simp [hbc, hn]
    · simp [hcb]
  · by_cases hcb : c = b
    · subst hcb; exact hbc
    · simp only [VllmElasticBlockPool.free, Function.update_of_ne hcb] at hc
      exact h.live c hc

/-- One step keeps the invariant. -/
theorem Inv.step (hi : Inv s) {a : PoolAct} (h : lts.step s a = some s') : Inv s' := by
  cases a with
  | bind f =>
    simp only [lts, Option.ite_none_left_eq_some, Bool.not_eq_true, Option.some.injEq] at h
    obtain ⟨hf, rfl⟩ := h
    rcases hr : s.bind f with ⟨_ | _, s₁⟩
    · exact hi.sameBlocks (sameBlocks_of_bind_error hf hr)
    · exact hi.bind_ok hr
  | apply target f =>
    simp only [lts, Option.ite_none_left_eq_some, Bool.not_eq_true, Option.some.injEq] at h
    obtain ⟨hf, rfl⟩ := h
    rcases hr : s.apply f target with ⟨_ | _, s₁⟩
    · exact hi.sameBlocks (sameBlocks_of_apply_error hf hr)
    · exact hi.apply_ok hr
  | alloc b r =>
    simp only [lts, Option.ite_none_right_eq_some, Option.some.injEq] at h
    obtain ⟨⟨hb, hq, hr⟩, rfl⟩ := h
    exact hi.alloc hb hq hr
  | free b =>
    simp only [lts, Option.ite_none_right_eq_some, Option.some.injEq] at h
    obtain ⟨⟨hb, hr, hn⟩, rfl⟩ := h
    exact hi.free hb hr hn

/-- Every state of a run satisfies the invariant. -/
theorem inv_of_reach (h : lts.Reach s) : Inv s :=
  h.invariant (fun _ => Fresh.inv) fun _ _ _ hi _ => hi.step

/-- **The free queue is exact in every state of every run**, and a `bind` or `apply` that raises
leaves the counts, the references and the queue's contents as they were. -/
theorem elasticBlockPool_representation (s : VllmElasticBlockPool) (h : lts.Reach s) :
    (s.bound = true → RepOk s) ∧
    (∀ f e s', f.appendFails = false → s.bind f = (.error e, s') → SameBlocks s s') ∧
    (∀ f target e s', f.appendFails = false → s.apply f target = (.error e, s') →
      SameBlocks s s') :=
  ⟨(inv_of_reach h).rep, fun _ _ _ hf he => sameBlocks_of_bind_error hf he,
    fun _ _ _ _ hf he => sameBlocks_of_apply_error hf he⟩

/-- A fresh four-block pool, started with two of its blocks. -/
def fourBlocks : VllmElasticBlockPool where
  initialBlocks := 2
  maximumBlocks := 4
  currentBlocks := 2
  bound := false
  pool :=
    { size := 4, refCnt := fun _ => 0, isNull := fun b => decide (b = 0)
      freeBlockQueue := [1, 2, 3], numGpuBlocks := 4, resizable := true, evictable := true }

theorem fresh_fourBlocks : Fresh fourBlocks where
  unbound := rfl
  initial_gt := by decide
  initial_le := by decide
  current := rfl
  size := rfl
  isNull _ := rfl
  refCnt _ := rfl
  nodup := by decide
  queue b := by simp only [fourBlocks, List.mem_cons, List.not_mem_nil, or_false]; omega

/-- Bind, grow to four blocks, hand out block 1, and fail to retire block 3. -/
def fourBlocksRun : List PoolAct :=
  [.bind ⟨fun _ => false, fun _ => false, false⟩,
    .apply 4 ⟨fun _ => false, fun _ => false, false⟩, .alloc 1 1,
    .apply 2 ⟨fun b => b == 3, fun _ => false, false⟩]

theorem elasticBlockPool_representation_fourBlocks :
    ∃ s, lts.exec fourBlocks fourBlocksRun = some s ∧
      s.bound = true ∧ s.pool.freeBlockQueue = [3, 2] ∧ RepOk s := by
  refine ⟨_, rfl, rfl, rfl, ?_⟩
  exact (elasticBlockPool_representation _
    (Lts.reach_of_exec (.init fresh_fourBlocks) fourBlocksRun rfl)).1 rfl

end VllmElasticBlockPool

end Kapsl.Vllm
