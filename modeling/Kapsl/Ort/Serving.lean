import Kapsl.Ort.BucketSessions
import Kapsl.Ort.Conservation

/-!
# Ort/Serving — concurrent `infer` calls over the bucket pools of one loaded model

The system of `Ort/SessionPool` with the pool of each `infer` chosen by `pool_for_request`: a thread
passes the first check of `infer`, takes the bucket lock for `lookup`, and holds it while
`create_session` runs for a new bucket.  `load` has filled the primary pool before any of this
starts, so no slot is reserved outside `acquire`.

* `ServingStep` — what a step can do.
* `Accounted` — the accounts of all pools and the agreement of the buckets, kept by every step.
-/

namespace Kapsl.Ort

/-! ## The pool `load` fills -/

/-- The loop of `prewarm_session_pool`, at most `rounds` times around. -/
def SessionPool.prewarm (pool : SessionPool) : ℕ → SessionPool
  | 0 => pool
  | rounds + 1 =>
    if pool.maxSessions ≤ pool.total then pool
    else
      prewarm { pool with
        idle := pool.created :: pool.idle
        total := pool.total + 1
        created := pool.created + 1 } rounds

/-- The primary pool as `load` publishes it: every slot is filled. -/
def SessionPool.prewarmed (maxSessions : ℕ) : SessionPool :=
  (SessionPool.new maxSessions).prewarm (max maxSessions 1)

/-! ## States and steps -/

/-- Where a thread stands in `infer` before it has its pool. -/
inductive Dispatch
  /-- Not in `infer`, or past `pool_for_request`. -/
  | none
  /-- Passed the first check; about to call `pool_for_request`. -/
  | passed (primary : BorrowedTensor)
  /-- Holds the bucket lock while `create_session` runs for a new bucket. -/
  | creating (bucketKey : String)
  deriving DecidableEq

namespace Dispatch

/-- The thread holds the bucket lock. -/
def locks : Dispatch → Bool
  | creating _ => true
  | _ => false

end Dispatch

/-- The threads, the buckets and the calls of `pool_for_request`. -/
structure Serving (ι : Type*) where
  base : State ι
  loaded : LoadedModel
  dispatch : ι → Dispatch

variable {ι : Type*}

/-- What `load` leaves: a full primary pool, every other pool still to be opened. -/
def Serving.initial (b : OrtBackend) : Serving ι where
  base :=
    { State.initial fun _ => b.sessionPoolSize with
      pools := fun p =>
        if p = primaryPool then .prewarmed b.sessionPoolSize else .new b.sessionPoolSize }
  loaded := .initial
  dispatch _ := .none

/-- The thread that takes a step. -/
def Act.thread : Act ι → ι
  | .register t _ | .dropRegistration t | .beginInfer t _ | .attachWait t | .terminateAttached t
  | .checkCancelled t | .look t | .spuriousWakeup t | .relock t | .created t | .createFailed t _
  | .attachRun t | .dropSession t _ | .returned t | .reserveSlot t _ | .addReservedSession t _
  | .releaseReservedSlot t _ | .cancel t _ | .terminate t => t

/-- The steps outside `pool_for_request` and outside `load`. -/
def Act.isServing : Act ι → Bool
  | .beginInfer _ _ | .reserveSlot _ _ => false
  | _ => true

inductive ServingAct (ι : Type*)
  /-- A step outside `pool_for_request`. -/
  | request (a : Act ι)
  /-- The checks of `infer` before it asks for a pool. -/
  | beginInfer (t : ι) (inputs : List BorrowedTensor)
  /-- `pool_for_request` up to `create_session`. -/
  | lookup (t : ι)
  | opened (t : ι)
  | openFailed (t : ι)

variable [DecidableEq ι]

namespace Serving

def setDispatch (s : Serving ι) (t : ι) (d : Dispatch) : Serving ι :=
  { s with dispatch := Function.update s.dispatch t d }

/-- `pool_for_request` returns a pool. -/
def take (s : Serving ι) (t : ι) (r : Registration) (p : PoolId) : Serving ι :=
  { s.setDispatch t .none with base := s.base.goto t (.dispatched r p) }

def setBuckets (s : Serving ι) (state : BucketSessionState) : Serving ι :=
  { s with loaded := { s.loaded with buckets := state } }

/-- The pool a new bucket gets. -/
def openBucket (s : Serving ι) (bucketKey : String) : Serving ι :=
  { s with loaded := ⟨s.loaded.buckets.insert bucketKey s.loaded.pools, s.loaded.pools + 1⟩ }

@[simp] theorem setDispatch_self (s : Serving ι) (t : ι) (d : Dispatch) :
    (s.setDispatch t d).dispatch t = d := Function.update_self ..

@[simp] theorem setDispatch_of_ne (s : Serving ι) {t u : ι} (hut : u ≠ t) (d : Dispatch) :
    (s.setDispatch t d).dispatch u = s.dispatch u := Function.update_of_ne hut ..

end Serving

variable [Fintype ι]

/-- The successor under a step, if it is enabled. -/
def servingStep (b : OrtBackend) (s : Serving ι) : ServingAct ι → Option (Serving ι)
  | .request a =>
    if a.isServing ∧ s.dispatch a.thread = .none then
      (step s.base a).map fun base => { s with base }
    else none
  | .beginInfer t inputs =>
    match s.base.threads t, s.dispatch t with
    | .registered r, .none =>
      match s.base.isCancelled r, inputs with
      | false, primary :: _ => some (s.setDispatch t (.passed primary))
      | _, _ => some s
    | _, _ => none
  | .lookup t =>
    match s.base.threads t, s.dispatch t with
    | .registered r, .passed primary =>
      if b.maxBucketSessions ≤ 1 then some (s.take t r primaryPool)
      else
        match b.bucketKey primary with
        | none => some (s.setDispatch t .none)
        | some bucketKey =>
          -- The bucket lock is free.
          if ∀ u, (s.dispatch u).locks = false then
            match s.loaded.buckets.lookup b.secondaryCapacity primaryPool bucketKey with
            | (state, some pool) => some ((s.setBuckets state).take t r pool)
            | (state, none) => some ((s.setBuckets state).setDispatch t (.creating bucketKey))
          else none
    | _, _ => none
  | .opened t =>
    match s.base.threads t, s.dispatch t with
    | .registered r, .creating bucketKey =>
      some ((s.openBucket bucketKey).take t r s.loaded.pools)
    | _, _ => none
  | .openFailed t =>
    match s.dispatch t with
    | .creating _ => some (s.setDispatch t .none)
    | _ => none

/-- The runs of `infer` calls on one loaded model. -/
def serving (ι : Type*) [DecidableEq ι] [Fintype ι] (b : OrtBackend) :
    Lts (Serving ι) (ServingAct ι) where
  init s := s = .initial b
  step := servingStep b

/-! ## What a step can do -/

/-- **What a step can do.** -/
inductive ServingStep (b : OrtBackend) (s : Serving ι) : ServingAct ι → Serving ι → Prop
  | request {a : Act ι} {base : State ι} (ha : a.isServing) (hfree : s.dispatch a.thread = .none)
    (hs : step s.base a = some base) : ServingStep b s (.request a) { s with base }
  | refused {t : ι} (inputs : List BorrowedTensor) : ServingStep b s (.beginInfer t inputs) s
  | passed {t : ι} (primary : BorrowedTensor) (rest : List BorrowedTensor)
    (hfree : s.dispatch t = .none) :
    ServingStep b s (.beginInfer t (primary :: rest)) (s.setDispatch t (.passed primary))
  | single {t : ι} {r : Registration} {primary : BorrowedTensor}
    (ht : s.base.threads t = .registered r) (hone : b.maxBucketSessions ≤ 1)
    (hpassed : s.dispatch t = .passed primary) :
    ServingStep b s (.lookup t) (s.take t r primaryPool)
  | panicked {t : ι} : ServingStep b s (.lookup t) (s.setDispatch t .none)
  | found {t : ι} {r : Registration} {primary : BorrowedTensor} {bucketKey : String}
    {state : BucketSessionState} {pool : PoolId} (ht : s.base.threads t = .registered r)
    (hpassed : s.dispatch t = .passed primary) (hmany : 1 < b.maxBucketSessions)
    (hkey : b.bucketKey primary = some bucketKey)
    (hlock : ∀ u, (s.dispatch u).locks = false)
    (hlookup : s.loaded.buckets.lookup b.secondaryCapacity primaryPool bucketKey =
      (state, some pool)) :
    ServingStep b s (.lookup t) ((s.setBuckets state).take t r pool)
  | missed {t : ι} {r : Registration} {primary : BorrowedTensor} {bucketKey : String}
    {state : BucketSessionState} (ht : s.base.threads t = .registered r)
    (hpassed : s.dispatch t = .passed primary) (hmany : 1 < b.maxBucketSessions)
    (hkey : b.bucketKey primary = some bucketKey)
    (hlock : ∀ u, (s.dispatch u).locks = false)
    (hlookup : s.loaded.buckets.lookup b.secondaryCapacity primaryPool bucketKey =
      (state, none)) :
    ServingStep b s (.lookup t) ((s.setBuckets state).setDispatch t (.creating bucketKey))
  | opened {t : ι} {r : Registration} {bucketKey : String}
    (ht : s.base.threads t = .registered r) (hcreating : s.dispatch t = .creating bucketKey) :
    ServingStep b s (.opened t) ((s.openBucket bucketKey).take t r s.loaded.pools)
  | openFailed {t : ι} {bucketKey : String} (hcreating : s.dispatch t = .creating bucketKey) :
    ServingStep b s (.openFailed t) (s.setDispatch t .none)

variable {b : OrtBackend} {s s' : Serving ι}

theorem ServingStep.of_step {a : ServingAct ι} (h : servingStep b s a = some s') :
    ServingStep b s a s' := by
  cases a with
  | request a =>
    obtain ⟨⟨ha, hfree⟩, h⟩ := Option.ite_none_right_eq_some.mp h
    obtain ⟨base, hs, rfl⟩ := Option.map_eq_some_iff.mp h
    exact .request ha hfree hs
  | beginInfer t inputs =>
    dsimp only [servingStep] at h
    split at h
    · split at h
      · exact Option.some.inj h ▸ .passed _ _ ‹_›
      · exact Option.some.inj h ▸ .refused _
    · contradiction
  | lookup t =>
    dsimp only [servingStep] at h
    split at h
    · split at h
      · exact Option.some.inj h ▸ .single ‹_› ‹_› ‹_›
      · split at h
        · exact Option.some.inj h ▸ .panicked
        · obtain ⟨hlock, h⟩ := Option.ite_none_right_eq_some.mp h
          split at h
          · exact Option.some.inj h ▸ .found ‹_› ‹_› (Nat.not_le.mp ‹_›) ‹_› hlock ‹_›
          · exact Option.some.inj h ▸ .missed ‹_› ‹_› (Nat.not_le.mp ‹_›) ‹_› hlock ‹_›
    · contradiction
  | opened t =>
    dsimp only [servingStep] at h
    split at h
    · exact Option.some.inj h ▸ .opened ‹_› ‹_›
    · contradiction
  | openFailed t =>
    dsimp only [servingStep] at h
    split at h
    · exact Option.some.inj h ▸ .openFailed ‹_›
    · contradiction

/-! ## The accounts and the buckets, in every state -/

/-- A pool with `n` created sessions, all of them idle. -/
def SessionPool.filled (maxSessions n : ℕ) : SessionPool where
  idle := (List.range n).reverse
  total := n
  maxSessions := maxSessions
  created := n

theorem SessionPool.prewarm_filled {m n rounds : ℕ} (hn : n ≤ m) (hrounds : m ≤ n + rounds) :
    (SessionPool.filled m n).prewarm rounds = .filled m m := by
  induction rounds generalizing n with
  | zero => rw [prewarm, Nat.le_antisymm hn hrounds]
  | succ rounds ih =>
    rw [prewarm]
    split_ifs with hfull
    · have hnm : n = m := Nat.le_antisymm hn hfull
      rw [hnm]
    · have hlt : n < m := Nat.not_le.mp hfull
      have hnext : ({ SessionPool.filled m n with
          idle := (SessionPool.filled m n).created :: (SessionPool.filled m n).idle
          total := (SessionPool.filled m n).total + 1
          created := (SessionPool.filled m n).created + 1 } : SessionPool) = .filled m (n + 1) := by
        simp [filled, List.range_succ]
      rw [hnext]
      exact ih hlt (by omega)

/-- **`load` fills every slot of the primary pool.** -/
theorem SessionPool.prewarmed_eq (maxSessions : ℕ) :
    prewarmed maxSessions = filled (max maxSessions 1) (max maxSessions 1) :=
  prewarm_filled (n := 1) (Nat.le_max_right _ _) (by omega)

omit [DecidableEq ι] [Fintype ι] in
theorem pools_initial (b : OrtBackend) (p : PoolId) :
    ∃ n, 1 ≤ n ∧ n ≤ b.sessionPoolSize ∧ (p = primaryPool → n = b.sessionPoolSize) ∧
      (Serving.initial b : Serving ι).base.pools p = .filled b.sessionPoolSize n := by
  have hpos : 1 ≤ b.sessionPoolSize := Nat.le_max_right _ _
  have hmax : max b.sessionPoolSize 1 = b.sessionPoolSize := Nat.max_eq_left hpos
  by_cases hp : p = primaryPool
  · refine ⟨b.sessionPoolSize, hpos, le_rfl, fun _ => rfl, ?_⟩
    simp only [Serving.initial, if_pos hp, SessionPool.prewarmed_eq, hmax]
  · refine ⟨1, le_rfl, hpos, fun h => absurd h hp, ?_⟩
    simp only [Serving.initial, if_neg hp, SessionPool.new, SessionPool.filled, hmax]
    rfl

/-- The buckets have room for `key`, which is not the primary one and has no pool yet. -/
structure BucketSessionState.Awaits (capacity : ℕ) (key : String) (state : BucketSessionState) :
    Prop where
  room : state.len < capacity
  notMem : key ∉ state.sessions
  primary : ∃ chosen, state.primaryBucketKey = some chosen ∧ chosen ≠ key

/-- The accounts of all pools, what was created in them, and the agreement of the buckets with each
other and with the thread that holds their lock. -/
structure Accounted (b : OrtBackend) (s : Serving ι) : Prop where
  conserved : ∀ p, Conserved b.sessionPoolSize s.base p
  created_pos : ∀ p, 1 ≤ (s.base.pools p).created
  prewarmed : b.sessionPoolSize ≤ (s.base.pools primaryPool).created
  buckets : Buckets b.secondaryCapacity s.loaded.buckets
  single : b.maxBucketSessions ≤ 1 → s.loaded.buckets.lru = []
  exclusive : ∀ t u, (s.dispatch t).locks = true → (s.dispatch u).locks = true → t = u
  creating : ∀ t key, s.dispatch t = .creating key → 1 < b.maxBucketSessions ∧
    s.loaded.buckets.Awaits b.secondaryCapacity key

omit [DecidableEq ι] in
theorem Accounted.initial (b : OrtBackend) : Accounted b (Serving.initial b : Serving ι) where
  conserved p := by
    obtain ⟨n, _, hle, _, hpool⟩ := pools_initial (ι := ι) b p
    have hpos : 1 ≤ b.sessionPoolSize := Nat.le_max_right _ _
    refine ⟨?_, ?_, ?_, fun m => ?_⟩
    · rw [hpool]
      exact (Nat.max_eq_left hpos).symm
    · rw [hpool]
      exact hle
    · rw [hpool]
      simp [SessionPool.filled, Serving.initial, State.initial, Pc.slots, Pc.slot?]
    · have hcount : (List.range n).count m = if m < n then 1 else 0 := by
        simp only [List.nodup_range.count, List.mem_range]
      rw [hpool]
      simp only [SessionPool.filled, List.count_reverse, hcount, Serving.initial, State.initial,
        Pc.owns, Pc.slot?]
      exact (congrArg _ (by simp)).trans (add_zero _)
  created_pos p := by
    obtain ⟨n, hpos, _, _, hpool⟩ := pools_initial (ι := ι) b p
    rw [hpool]
    exact hpos
  prewarmed := by
    obtain ⟨n, _, _, hn, hpool⟩ := pools_initial (ι := ι) b primaryPool
    rw [hpool]
    exact (hn rfl).ge
  buckets := .default _
  single _ := rfl
  exclusive _ _ ht := nomatch ht
  creating _ _ ht := nomatch ht

/-! ## Every step keeps them -/

omit [DecidableEq ι] [Fintype ι] in
theorem Dispatch.locks_of_creating {d : Dispatch} {key : String} (h : d = .creating key) :
    d.locks = true := by
  rw [h, Dispatch.locks]

omit [Fintype ι] in
theorem dispatch_of_locks {t u : ι} {d : Dispatch} (hd : d.locks = false)
    (hu : ((s.setDispatch t d).dispatch u).locks = true) :
    (s.setDispatch t d).dispatch u = s.dispatch u := by
  by_cases hut : u = t
  · subst hut
    rw [Serving.setDispatch_self, hd] at hu
    exact absurd hu (by simp)
  · exact s.setDispatch_of_ne hut d

/-- A thread that does not take the lock may move on. -/
theorem Accounted.setDispatch (h : Accounted b s) (t : ι) {d : Dispatch} (hd : d.locks = false) :
    Accounted b (s.setDispatch t d) where
  conserved := h.conserved
  created_pos := h.created_pos
  prewarmed := h.prewarmed
  buckets := h.buckets
  single := h.single
  exclusive u v hu hv := by
    have hu' := dispatch_of_locks hd hu
    have hv' := dispatch_of_locks hd hv
    exact h.exclusive u v (hu' ▸ hu) (hv' ▸ hv)
  creating u key hu := by
    have hu' := dispatch_of_locks hd (Dispatch.locks_of_creating hu)
    exact h.creating u key (hu' ▸ hu)

theorem Accounted.take (h : Accounted b s) {t : ι} {r : Registration}
    (ht : s.base.threads t = .registered r) (p : PoolId) : Accounted b (s.take t r p) where
  conserved q := (h.conserved q).goto (by rw [ht]; rfl)
  created_pos := h.created_pos
  prewarmed := h.prewarmed
  buckets := h.buckets
  single := h.single
  exclusive := (h.setDispatch t (d := .none) rfl).exclusive
  creating := (h.setDispatch t (d := .none) rfl).creating

omit [DecidableEq ι] in
/-- Buckets changed under the lock, which nobody held before. -/
theorem Accounted.setBuckets (h : Accounted b s) {state : BucketSessionState}
    (hb : Buckets b.secondaryCapacity state) (hmany : 1 < b.maxBucketSessions)
    (hlock : ∀ u, (s.dispatch u).locks = false) : Accounted b (s.setBuckets state) where
  conserved := h.conserved
  created_pos := h.created_pos
  prewarmed := h.prewarmed
  buckets := hb
  single hone := absurd hone (Nat.not_le.mpr hmany)
  exclusive := h.exclusive
  creating u key hu := by
    have hlocked : ((s.setBuckets state).dispatch u).locks = false := hlock u
    rw [Dispatch.locks_of_creating hu] at hlocked
    exact absurd hlocked (by simp)

omit [DecidableEq ι] in
/-- What `lookup` leaves agrees, and with no pool found it left room. -/
theorem Accounted.lookup (h : Accounted b s) {key : String} {state : BucketSessionState}
    {found : Option PoolId} (hlookup : s.loaded.buckets.lookup b.secondaryCapacity primaryPool key =
      (state, found)) :
    Buckets b.secondaryCapacity state ∧
      (found = none → state.Awaits b.secondaryCapacity key) := by
  have hlooked := Looked.of_buckets h.buckets b.secondaryCapacity_pos key
  rw [hlookup] at hlooked
  cases hlooked with
  | primary hprimary => exact ⟨h.buckets.choosePrimary hprimary, nofun⟩
  | hit _ _ hpool =>
    exact ⟨h.buckets.touch (AList.lookup_isSome.mp (by rw [hpool]; rfl)), nofun⟩
  | missed hchosen hne hpool hroom =>
    obtain ⟨hb, hlen⟩ := h.buckets.evicted hroom
    refine ⟨hb, fun _ => ⟨hlen, ?_, _, hroom.primaryBucketKey_eq.trans hchosen, hne⟩⟩
    exact fun hmem => AList.lookup_eq_none.mp hpool (hroom.mem_of_mem hmem)

/-- The thread that was given room takes the lock. -/
theorem Accounted.creates (h : Accounted b s) (t : ι) {key : String}
    (hlock : ∀ u, (s.dispatch u).locks = false) (hmany : 1 < b.maxBucketSessions)
    (hroom : s.loaded.buckets.Awaits b.secondaryCapacity key) :
    Accounted b (s.setDispatch t (.creating key)) := by
  have hother : ∀ u, u ≠ t → ((s.setDispatch t (.creating key)).dispatch u).locks = false := by
    intro u hut
    rw [s.setDispatch_of_ne hut]
    exact hlock u
  have honly : ∀ u, ((s.setDispatch t (.creating key)).dispatch u).locks = true → u = t := by
    intro u hu
    by_contra hut
    rw [hother u hut] at hu
    exact absurd hu (by simp)
  refine ⟨h.conserved, h.created_pos, h.prewarmed, h.buckets, h.single, ?_, ?_⟩
  · intro u v hu hv
    rw [honly u hu, honly v hv]
  · intro u key' hu
    obtain rfl := honly u (Dispatch.locks_of_creating hu)
    rw [Serving.setDispatch_self] at hu
    obtain rfl := Dispatch.creating.inj hu
    exact ⟨hmany, hroom⟩

/-- The lock holder puts the pool it opened in the map and lets go. -/
theorem Accounted.opened (h : Accounted b s) {t : ι} {r : Registration} {key : String}
    (ht : s.base.threads t = .registered r) (hcreating : s.dispatch t = .creating key) :
    Accounted b ((s.openBucket key).take t r s.loaded.pools) := by
  obtain ⟨hmany, hroom⟩ := h.creating t key hcreating
  have hfree : ∀ u, (((s.openBucket key).take t r s.loaded.pools).dispatch u).locks = false := by
    intro u
    refine Bool.eq_false_of_not_eq_true fun hu => ?_
    have hsame := dispatch_of_locks (s := s) (t := t) (d := .none) rfl hu
    have hut := h.exclusive u t (hsame ▸ hu) (Dispatch.locks_of_creating hcreating)
    rw [hut] at hu
    simp [Serving.take, Serving.setDispatch, Dispatch.locks] at hu
  refine ⟨fun q => (h.conserved q).goto (by rw [ht]; rfl), h.created_pos, h.prewarmed,
    h.buckets.insert hroom.room hroom.primary _, fun hone => absurd hone (Nat.not_le.mpr hmany),
    ?_, ?_⟩
  · intro u v hu
    rw [hfree u] at hu
    exact absurd hu (by simp)
  · intro u key' hu
    have hlocked := hfree u
    rw [Dispatch.locks_of_creating hu] at hlocked
    exact absurd hlocked (by simp)

/-- **Every step keeps the accounts and the buckets.** -/
theorem Accounted.step (h : Accounted b s) {a : ServingAct ι} (hs : servingStep b s a = some s') :
    Accounted b s' := by
  cases ServingStep.of_step hs with
  | request _ _ hbase =>
    exact ⟨fun p => (h.conserved p).step hbase,
      fun p => (h.created_pos p).trans (created_step hbase p),
      h.prewarmed.trans (created_step hbase primaryPool), h.buckets, h.single, h.exclusive,
      h.creating⟩
  | refused => exact h
  | passed => exact h.setDispatch _ rfl
  | single ht => exact h.take ht primaryPool
  | panicked => exact h.setDispatch _ rfl
  | found ht _ hmany _ hlock hlookup =>
    exact (h.setBuckets (h.lookup hlookup).1 hmany hlock).take ht _
  | missed _ _ hmany _ hlock hlookup =>
    obtain ⟨hb, hroom⟩ := h.lookup hlookup
    exact (h.setBuckets hb hmany hlock).creates _ hlock hmany (hroom rfl)
  | opened ht hcreating => exact h.opened ht hcreating
  | openFailed => exact h.setDispatch _ rfl

/-- **The accounts and the buckets are in order in every reachable state.** -/
theorem accounted_of_reachBy {ok : Serving ι → ServingAct ι → Prop}
    (h : (serving ι b).ReachBy ok s) : Accounted b s := by
  refine h.invariant (I := Accounted b) ?_ ?_
  · rintro s rfl
    exact .initial b
  · intro s a s' haccounted _ hs
    exact haccounted.step hs

omit [DecidableEq ι] in
/-- The primary pool stays full. -/
theorem Accounted.total_primary (h : Accounted b s) :
    (s.base.pools primaryPool).total = b.sessionPoolSize := by
  have hc := h.conserved primaryPool
  have hmax : (s.base.pools primaryPool).maxSessions = b.sessionPoolSize :=
    hc.maxSessions.trans (Nat.max_eq_left (Nat.le_max_right _ _))
  have hle := hc.total_le
  have hge := h.prewarmed.trans hc.created_le_total
  omega

omit [DecidableEq ι] in
theorem Accounted.total_pos (h : Accounted b s) (p : PoolId) : 1 ≤ (s.base.pools p).total :=
  (h.created_pos p).trans (h.conserved p).created_le_total

end Kapsl.Ort
