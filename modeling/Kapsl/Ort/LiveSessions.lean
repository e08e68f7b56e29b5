import Mathlib.Data.Set.Card
import Mathlib.Tactic.IntervalCases
import Kapsl.Ort.Serving

/-!
# Ort/LiveSessions — how many ORT sessions of one model are alive at a time

A pool lives while an `Arc` of it does: the primary pool's and those of the map, the local of a
running `infer`, the `SessionWaitTerminator` attached to a request, and the clone a `cancel` is
about to call.  A live session is an idle or checked-out session of a live pool.

The bounds of the source are per pool and per map.  They bound the live sessions as long as
`pool_for_request` evicts only pools that nobody else holds (`liveSessions_le`); an evicted pool
that a request still holds adds its sessions to those of its successor (`liveSessions_evictedHeld`).
-/

namespace Kapsl.Ort

open Threads (Thread)

/-! ## Who holds a pool -/

/-- The pool a thread holds an `Arc` of. -/
def Pc.arc? : Pc → Option PoolId
  | .dispatched _ p | .terminating _ p | .checking _ p | .checked _ p | .waiting _ p
  | .notified _ p | .creating _ p | .holding _ p _ | .returning _ p
  | .cancelling _ _ (.sessionWait p) => some p
  | _ => none

variable {ι : Type*}

/-- A thread or the terminator of a request holds an `Arc` of the pool. -/
def State.Held (s : State ι) (p : PoolId) : Prop :=
  (∃ u, (s.threads u).arc? = some p) ∨
    ∃ id e, s.requests id = some e ∧ e.terminator = some (.sessionWait p)

/-- The map of the buckets holds an `Arc` of the pool. -/
def LoadedModel.Registers (loaded : LoadedModel) (p : PoolId) : Prop :=
  ∃ key, loaded.buckets.sessions.lookup key = some p

/-- Some `Arc` of the pool is left. -/
def Serving.Alive (s : Serving ι) (p : PoolId) : Prop :=
  p = primaryPool ∨ s.loaded.Registers p ∨ s.base.Held p

/-- The sessions that are idle in a live pool or checked out of it. -/
def Serving.liveSessions (s : Serving ι) : Set (PoolId × Session) :=
  {x | s.Alive x.1 ∧
    (x.2 ∈ (s.base.pools x.1).idle ∨ ∃ u, (s.base.threads u).owns x.1 x.2 = true)}

/-! ## No step outside `pool_for_request` takes hold of another pool -/

variable {s s' : State ι} {p q : PoolId}

/-- What is held after a step was held before, when that is so of every thread and every
terminator. -/
theorem State.Held.of_forall (h : s'.Held p)
    (hthreads : ∀ u, (s'.threads u).arc? = some p → s.Held p)
    (hrequests : ∀ id e, s'.requests id = some e → e.terminator = some (.sessionWait p) →
      s.Held p) : s.Held p := by
  obtain ⟨u, hu⟩ | ⟨id, e, hid, he⟩ := h
  · exact hthreads u hu
  · exact hrequests id e hid he

theorem held_of_requests {id : RequestId} {e : ActiveRequest} (hid : s.requests id = some e)
    (he : e.terminator = some (.sessionWait p)) : s.Held p :=
  .inr ⟨id, e, hid, he⟩

theorem Pc.arc_wake (pc : Pc) : pc.wake.arc? = pc.arc? := by
  cases pc <;> rfl

theorem State.Held.of_notifyAll (h : (s.notifyAll q).Held p) : s.Held p := by
  refine h.of_forall (fun u hu => .inl ⟨u, ?_⟩) fun _ _ hid he =>
    held_of_requests (s := s) hid he
  simp only [State.notifyAll] at hu
  split at hu
  · rwa [Pc.arc_wake] at hu
  · exact hu

theorem State.Held.of_setTerminator {r : Registration} {τ : RunTerminator}
    (h : (s.setTerminator r τ).Held p) : τ = .sessionWait p ∨ s.Held p := by
  obtain ⟨u, hu⟩ | ⟨id, e, hid, he⟩ := h
  · exact .inr (.inl ⟨u, hu⟩)
  · simp only [State.setTerminator] at hid
    split at hid
    · obtain ⟨e', _, rfl⟩ := Option.map_eq_some_iff.mp hid
      exact .inl (Option.some.inj he)
    · exact .inr (held_of_requests hid he)

variable [DecidableEq ι]

theorem State.Held.of_goto {t : ι} {pc : Pc} (h : (s.goto t pc).Held p) :
    pc.arc? = some p ∨ s.Held p := by
  obtain ⟨u, hu⟩ | ⟨id, e, hid, he⟩ := h
  · by_cases hut : u = t
    · subst hut
      simp only [State.goto, Function.update_self] at hu
      exact .inl hu
    · simp only [State.goto, Function.update_of_ne hut] at hu
      exact .inr (.inl ⟨u, hu⟩)
  · exact .inr (held_of_requests hid he)

/-- A thread that moves on with the pool it holds, or with none. -/
theorem State.Held.of_move {t : ι} {pc : Pc}
    (hpc : pc.arc? = none ∨ pc.arc? = (s.threads t).arc?) (h : (s.goto t pc).Held p) :
    s.Held p := by
  obtain hp | hp := h.of_goto
  · obtain hpc | hpc := hpc
    · exact absurd (hpc.symm.trans hp) (by simp)
    · exact .inl ⟨t, hpc.symm.trans hp⟩
  · exact hp

/-- A terminator of the pool its thread already holds. -/
theorem State.Held.of_attach {t : ι} {r : Registration} {pc : Pc}
    (ht : (s.threads t).arc? = some q) (hpc : pc.arc? = some q)
    (h : ((s.setTerminator r (.sessionWait q)).goto t pc).Held p) : s.Held p := by
  obtain hp | hp := h.of_goto
  · exact .inl ⟨t, ht.trans (hpc.symm.trans hp)⟩
  · obtain hq | hp := hp.of_setTerminator
    · exact .inl ⟨t, ht.trans (congrArg some (RunTerminator.sessionWait.inj hq))⟩
    · exact hp

theorem State.Held.of_register {t : ι} {ids : List RequestId} (h : (s.register t ids).Held p) :
    s.Held p := by
  rw [State.register] at h
  split at h
  · exact h
  · refine h.of_forall (fun u hu => ?_) fun id e hid he => ?_
    · by_cases hut : u = t
      · subst hut
        simp [Pc.arc?] at hu
      · simp only [Function.update_of_ne hut] at hu
        exact .inl ⟨u, hu⟩
    · simp only at hid
      split at hid
      · obtain rfl := Option.some.inj hid
        exact absurd he (by simp)
      · exact held_of_requests hid he

theorem State.Held.of_dropRegistration {t : ι} {r : Registration}
    (h : (s.dropRegistration t r).Held p) : s.Held p := by
  refine h.of_forall (fun u hu => ?_) fun id e hid he => ?_
  · by_cases hut : u = t
    · subst hut
      simp [State.dropRegistration, Pc.arc?] at hu
    · simp only [State.dropRegistration, Function.update_of_ne hut] at hu
      exact .inl ⟨u, hu⟩
  · simp only [State.dropRegistration] at hid
    split at hid
    · exact absurd hid (by simp)
    · exact held_of_requests hid he

/-- `cancel` clones a terminator, with the `Arc` in it. -/
theorem State.Held.of_cancel {t : ι} {id : RequestId} (h : (s.cancel t id).Held p) :
    s.Held p := by
  rw [State.cancel] at h
  split at h
  · exact h
  · rename_i e hid
    -- The entry of `id` keeps its terminator.
    have hentry : ∀ id' e' e'', Function.update s.requests id (some e'') id' = some e' →
        e''.terminator = e.terminator → e'.terminator = some (.sessionWait p) → s.Held p := by
      intro id' e' e'' hid' he'' he'
      by_cases hne : id' = id
      · subst hne
        rw [Function.update_self] at hid'
        obtain rfl := Option.some.inj hid'
        exact held_of_requests hid (he''.symm.trans he')
      · rw [Function.update_of_ne hne] at hid'
        exact held_of_requests hid' he'
    split at h
    · exact h.of_forall (fun u hu => .inl ⟨u, hu⟩) fun id' e' hid' he' =>
        hentry id' e' _ hid' rfl he'
    · rename_i τ hτ
      refine h.of_forall (fun u hu => ?_) fun id' e' hid' he' => hentry id' e' _ hid' rfl he'
      by_cases hut : u = t
      · subst hut
        simp only [Function.update_self] at hu
        cases τ with
        | sessionWait q =>
          obtain rfl := Option.some.inj hu
          exact held_of_requests hid hτ
        | runOptions => exact absurd hu (by simp [Pc.arc?])
      · simp only [Function.update_of_ne hut] at hu
        exact .inl ⟨u, hu⟩

omit [DecidableEq ι] in
theorem State.Held.of_terminate {τ : RunTerminator} (h : (s.terminate τ).Held p) : s.Held p := by
  cases τ with
  | sessionWait q => exact h.of_notifyAll
  | runOptions => exact h

omit [DecidableEq ι] in
theorem State.Held.of_markReturned {id : RequestId} {n : ℕ} (h : (s.markReturned id n).Held p) :
    s.Held p := by
  refine h.of_forall (fun u hu => .inl ⟨u, hu⟩) fun id' e' hid' he' => ?_
  simp only [State.markReturned] at hid'
  split at hid'
  · obtain ⟨e, hid, rfl⟩ := Option.map_eq_some_iff.mp hid'
    refine held_of_requests hid ?_
    split at he'
    · exact he'
    · exact he'
  · exact held_of_requests hid' he'

theorem State.Held.of_look {t : ι} {r : Registration} (ht : s.threads t = .checked r q)
    (h : (s.look t r q).Held p) : s.Held p := by
  have harc : some q = (s.threads t).arc? := by rw [ht]; rfl
  rw [State.look] at h
  split at h
  · rename_i rest _
    show (s.setPool q { s.pools q with idle := rest }).Held p
    refine h.of_move (.inr ?_)
    exact harc
  · split at h
    · show (s.setPool q { s.pools q with total := (s.pools q).total + 1 }).Held p
      refine h.of_move (.inr ?_)
      exact harc
    · refine h.of_move (.inr ?_)
      exact harc

variable [Fintype ι]

theorem State.Held.of_notifyOne {woken : Option ι} (hs : s.notifyOne q woken = some s')
    (h : s'.Held p) : s.Held p := by
  cases woken with
  | none =>
    obtain ⟨-, hs⟩ := Option.ite_none_right_eq_some.mp hs
    exact Option.some.inj hs ▸ h
  | some t =>
    obtain ⟨-, hs⟩ := Option.ite_none_right_eq_some.mp hs
    obtain rfl := Option.some.inj hs
    exact h.of_move (.inr (Pc.arc_wake _))

/-- **A step outside `pool_for_request` takes hold of no other pool.** -/
theorem State.Held.of_step {a : Act ι} (hs : step s a = some s') (ha : a.isServing)
    (h : s'.Held p) : s.Held p := by
  cases Step.of_step hs with
  | register => exact h.of_register
  | dropRegistration => exact h.of_dropRegistration
  | refused => exact h
  | beginInfer => exact absurd ha (by simp [Act.isServing])
  | attachCancelled ht => exact h.of_attach (by rw [ht]; rfl) rfl
  | attachWait ht => exact h.of_attach (by rw [ht]; rfl) rfl
  | @terminateAttached t r q ht =>
    obtain hp | hp := h.of_goto
    · exact .inl ⟨t, by rw [ht]; exact hp⟩
    · exact hp.of_notifyAll
  | leave ht => exact h.of_move (.inr (by rw [ht]; rfl))
  | pass ht => exact h.of_move (.inr (by rw [ht]; rfl))
  | look ht => exact h.of_look ht
  | spuriousWakeup ht => exact h.of_move (.inr (by rw [ht]; rfl))
  | relock ht => exact h.of_move (.inr (by rw [ht]; rfl))
  | @created t r q ht =>
    have harc : some q = (s.threads t).arc? := by rw [ht]; rfl
    show (s.countCreated q).Held p
    refine h.of_move (.inr ?_)
    exact harc
  | @createFailed t r q _ _ ht hs =>
    have harc : some q = (s.threads t).arc? := by rw [ht]; rfl
    show (s.releaseSlot q).Held p
    refine (State.Held.of_notifyOne hs h).of_move (.inr ?_)
    exact harc
  | attachRun =>
    obtain hq | hp := h.of_setTerminator
    · exact absurd hq (by simp)
    · exact hp
  | @dropSession t r q session _ _ ht hs =>
    have harc : some q = (s.threads t).arc? := by rw [ht]; rfl
    show (s.pushIdle q session).Held p
    refine (State.Held.of_notifyOne hs h).of_move (.inr ?_)
    exact harc
  | returned => exact h.of_move (.inl rfl)
  | full => exact h
  | reserveSlot => exact absurd ha (by simp [Act.isServing])
  | @addReservedSession t q _ _ _ hs =>
    show ((s.countCreated q).pushIdle q (s.pools q).created).Held p
    exact (State.Held.of_notifyOne hs h).of_move (.inl rfl)
  | @releaseReservedSlot t q _ _ _ hs =>
    show (s.releaseSlot q).Held p
    exact (State.Held.of_notifyOne hs h).of_move (.inl rfl)
  | cancel => exact h.of_cancel
  | terminate => exact (h.of_move (.inl rfl)).of_markReturned.of_terminate

/-! ## Evictions that spare what is held -/

/-- The pool that `pool_for_request` would evict for the request of thread `t`: with a new bucket
and a full map, the one at the front of the queue. -/
def Serving.eviction (b : OrtBackend) (s : Serving ι) (t : ι) : Option PoolId :=
  match s.dispatch t with
  | .passed primary => do
    let key ← b.bucketKey primary
    if 1 < b.maxBucketSessions ∧ s.loaded.buckets.primaryBucketKey.getD key ≠ key ∧
        s.loaded.buckets.sessions.lookup key = none ∧
        b.secondaryCapacity ≤ s.loaded.buckets.len then
      s.loaded.buckets.sessions.lookup (← s.loaded.buckets.lru.head?)
    else none
  | _ => none

/-- Only the map holds the pool that the step evicts. -/
def SparesHeld (b : OrtBackend) (s : Serving ι) : ServingAct ι → Prop
  | .lookup t => ∀ p, s.eviction b t = some p → ¬s.base.Held p
  | _ => True

/-- Whatever is held is the primary pool or in the map. -/
def Serving.Kept (s : Serving ι) : Prop :=
  ∀ p, s.base.Held p → p = primaryPool ∨ s.loaded.Registers p

variable {b : OrtBackend}

/-- The pool that is returned is the primary one or in the map that is left. -/
theorem Looked.registers {capacity : ℕ} {before state : BucketSessionState} {key : String}
    {pool : PoolId} (h : Looked capacity before key (state, some pool)) :
    (pool = primaryPool ∨ ∃ key, state.sessions.lookup key = some pool) ∧
      state.sessions = before.sessions := by
  cases h with
  | primary => exact ⟨.inl rfl, rfl⟩
  | hit _ _ hpool => exact ⟨.inr ⟨key, hpool⟩, rfl⟩

omit [DecidableEq ι] [Fintype ι] in
/-- A pool that is held stays in the map when the eviction spares it. -/
theorem Evicts.registers {s : Serving ι} {t : ι} {primary : BorrowedTensor} {key : String}
    {state : BucketSessionState} (h : Evicts b.secondaryCapacity s.loaded.buckets state)
    (hok : SparesHeld b s (.lookup t)) (hpassed : s.dispatch t = .passed primary)
    (hmany : 1 < b.maxBucketSessions) (hkey : b.bucketKey primary = some key)
    (hprimary : s.loaded.buckets.primaryBucketKey.getD key ≠ key)
    (hpool : s.loaded.buckets.sessions.lookup key = none) (hp : s.base.Held p)
    (hreg : s.loaded.Registers p) :
    ({ s.loaded with buckets := state } : LoadedModel).Registers p := by
  obtain _ | @⟨front, lru, hlru, hlen⟩ := h
  · exact hreg
  · obtain ⟨k, hk⟩ := hreg
    have hne : k ≠ front := by
      rintro rfl
      refine hok p ?_ hp
      simp [Serving.eviction, hpassed, hkey, hmany, hprimary, hpool, hlen, hlru, hk]
    exact ⟨k, (AList.lookup_erase_ne hne).trans hk⟩

/-- **A step that spares what is held keeps it in the map.** -/
theorem Serving.Kept.step {s s' : Serving ι} {a : ServingAct ι} (hkept : s.Kept)
    (h : Accounted b s) (hok : SparesHeld b s a) (hs : servingStep b s a = some s') :
    s'.Kept := by
  intro p hp
  cases ServingStep.of_step hs with
  | request ha _ hbase => exact hkept p (hp.of_step hbase ha)
  | refused => exact hkept p hp
  | passed => exact hkept p hp
  | single =>
    obtain harc | hp := hp.of_goto
    · exact .inl (Option.some.inj harc).symm
    · exact hkept p hp
  | panicked => exact hkept p hp
  | @found t r _ key state pool _ _ _ _ _ hlookup =>
    have hlooked := Looked.of_buckets h.buckets b.secondaryCapacity_pos key
    rw [hlookup] at hlooked
    obtain ⟨hpool, hsessions⟩ := hlooked.registers
    obtain harc | hp := hp.of_goto
    · obtain rfl := Option.some.inj harc
      exact hpool
    · obtain hp | ⟨k, hk⟩ := hkept p hp
      · exact .inl hp
      · exact .inr ⟨k, (congrArg (AList.lookup k) hsessions).trans hk⟩
  | @missed t r _ key state _ hpassed hmany hkey _ hlookup =>
    have hlooked := Looked.of_buckets h.buckets b.secondaryCapacity_pos key
    rw [hlookup] at hlooked
    obtain hreg | hreg := hkept p hp
    · exact .inl hreg
    · cases hlooked with
      | missed hchosen hne hpool hroom =>
        refine .inr (hroom.registers hok hpassed hmany hkey ?_ hpool hp hreg)
        rwa [hchosen, Option.getD_some]
  | @opened t r key _ hcreating =>
    obtain ⟨-, hroom⟩ := h.creating t key hcreating
    obtain harc | hp := hp.of_goto
    · obtain rfl := Option.some.inj harc
      exact .inr ⟨key, AList.lookup_insert _⟩
    · obtain hp | ⟨k, hk⟩ := hkept p hp
      · exact .inl hp
      · have hne : k ≠ key := by
          rintro rfl
          exact hroom.notMem (AList.lookup_isSome.mp (by rw [hk]; rfl))
        exact .inr ⟨k, (AList.lookup_insert_ne hne).trans hk⟩
  | openFailed => exact hkept p hp

theorem kept_of_reachBy {s : Serving ι} (h : (serving ι b).ReachBy (SparesHeld b) s) :
    s.Kept := by
  have hboth : Accounted b s ∧ s.Kept := by
    refine h.invariant (I := fun s => Accounted b s ∧ s.Kept) ?_ ?_
    · rintro s rfl
      refine ⟨.initial b, ?_⟩
      rintro p (⟨u, hu⟩ | ⟨id, e, hid, _⟩)
      · exact absurd hu (by simp [Serving.initial, State.initial, Pc.arc?])
      · exact absurd hid (by simp [Serving.initial, State.initial])
    · rintro s a s' ⟨haccounted, hkept⟩ hok hs
      exact ⟨haccounted.step hs, hkept.step haccounted hok hs⟩
  exact hboth.2

/-! ## The bound -/

/-- The primary pool and the pools of the map. -/
def LoadedModel.registered (loaded : LoadedModel) : Finset PoolId :=
  insert primaryPool (loaded.buckets.sessions.keys.filterMap
    fun key => loaded.buckets.sessions.lookup key).toFinset

theorem LoadedModel.mem_registered {loaded : LoadedModel} (hp : loaded.Registers p) :
    p ∈ loaded.registered := by
  obtain ⟨key, hkey⟩ := hp
  refine Finset.mem_insert_of_mem (List.mem_toFinset.mpr (List.mem_filterMap.mpr ⟨key, ?_, hkey⟩))
  exact AList.mem_keys.mp (AList.lookup_isSome.mp (by rw [hkey]; rfl))

omit [DecidableEq ι] in
/-- **Map and primary pool are within `max_bucket_sessions`.** -/
theorem Accounted.card_registered_le {s : Serving ι} (h : Accounted b s) :
    s.loaded.registered.card ≤ b.maxBucketSessions := by
  have hkeys : s.loaded.registered.card ≤ s.loaded.buckets.len + 1 := by
    refine (Finset.card_insert_le _ _).trans (Nat.succ_le_succ ?_)
    exact (List.toFinset_card_le _).trans (List.length_filterMap_le _ _)
  have hpos : 1 ≤ b.maxBucketSessions := by
    simp [OrtBackend.maxBucketSessions, maxSessionBuckets]
  by_cases hone : b.maxBucketSessions ≤ 1
  · have hlen : s.loaded.buckets.len = 0 := by
      rw [BucketSessionState.len, List.length_eq_zero_iff, List.eq_nil_iff_forall_not_mem]
      intro k hk
      have hmem := (h.buckets.mem_lru k).mpr (AList.mem_keys.mpr hk)
      rw [h.single hone] at hmem
      exact List.not_mem_nil hmem
    omega
  · have hlen := h.buckets.len_le
    simp only [OrtBackend.secondaryCapacity] at hlen
    omega

omit [DecidableEq ι] in
/-- A session of a pool has a number below the pool's bound. -/
theorem Accounted.session_lt {s : Serving ι} (h : Accounted b s) {n : Session}
    (hn : n ∈ (s.base.pools p).idle ∨ ∃ u, (s.base.threads u).owns p n = true) :
    n < b.sessionPoolSize := by
  have hc := h.conserved p
  have hmax : (s.base.pools p).maxSessions = b.sessionPoolSize :=
    hc.maxSessions.trans (Nat.max_eq_left (Nat.le_max_right _ _))
  have hcreated := hc.created_le_total.trans hc.total_le
  exact (hc.lt_created hn).trans_le (hcreated.trans hmax.le)

/-- **The live sessions are bounded** by `max_bucket_sessions * session_pool_size` in every run
that evicts only pools nobody else holds: whatever is held is then in the map or primary, so the
live pools are as many as the buckets allow, and each has at most `session_pool_size` sessions. -/
theorem liveSessions_le {s : Serving ι} (h : (serving ι b).ReachBy (SparesHeld b) s) :
    s.liveSessions.encard ≤ b.maxBucketSessions * b.sessionPoolSize := by
  have haccounted := accounted_of_reachBy h
  have hsub : s.liveSessions ⊆
      ↑(s.loaded.registered ×ˢ Finset.range b.sessionPoolSize) := by
    rintro ⟨p, n⟩ ⟨halive, hn⟩
    refine Finset.mem_coe.mpr (Finset.mem_product.mpr ⟨?_, ?_⟩)
    · obtain rfl | hreg | hheld := halive
      · exact Finset.mem_insert_self _ _
      · exact LoadedModel.mem_registered hreg
      · obtain rfl | hreg := kept_of_reachBy h p hheld
        · exact Finset.mem_insert_self _ _
        · exact LoadedModel.mem_registered hreg
    · exact Finset.mem_range.mpr (haccounted.session_lt hn)
  refine (Set.encard_le_encard hsub).trans ?_
  rw [Set.encard_coe_eq_coe_finsetCard, Finset.card_product, Finset.card_range]
  exact_mod_cast Nat.mul_le_mul_right _ haccounted.card_registered_le

/-- Two buckets of one session each. -/
def twoBuckets : OrtBackend where
  tuning :=
    { sessionBuckets := some 2, bucketDimGranularity := none, bucketMaxDims := none
      peakConcurrencyHint := some 1 }
  dtypeCode _ := 1
  overflowChecks := false

/-- A row of `n` floats. -/
def row (n : ℤ) : BorrowedTensor := ⟨"input", .f32, [n], []⟩

/-- The first thread takes the primary pool, and the second one opens a second bucket. -/
def openSecond : List (ServingAct Thread) :=
  [.request (.register .first [1]), .beginInfer .first [row 1], .lookup .first,
   .request (.register .second [2]), .beginInfer .second [row 2], .lookup .second, .opened .second]

/-- The third thread asks for a third bucket. -/
def askThird : List (ServingAct Thread) :=
  [.request (.register .third [3]), .beginInfer .third [row 3]]

/-- The second thread runs its request to the end and gives up its registration. -/
def finishSecond : List (ServingAct Thread) :=
  [.request (.attachWait .second), .request (.checkCancelled .second), .request (.look .second),
   .request (.attachRun .second), .request (.dropSession .second none), .request (.returned .second),
   .request (.dropRegistration .second)]

/-- The second bucket is evicted after its request has ended. -/
theorem liveSessions_le_evictedIdle :
    ∃ s s' : Serving Thread, s.eviction twoBuckets .third = some 1 ∧
      servingStep twoBuckets s (.lookup .third) = some s' ∧
      (serving Thread twoBuckets).ReachBy (SparesHeld twoBuckets) s' ∧
      s'.liveSessions.encard ≤ 2 := by
  obtain ⟨s, s', hs, hs', hevict, hthreads, hrequests⟩ : ∃ s s' : Serving Thread,
      (serving Thread twoBuckets).exec (.initial twoBuckets)
        (openSecond ++ finishSecond ++ askThird) = some s ∧
      servingStep twoBuckets s (.lookup .third) = some s' ∧ s.eviction twoBuckets .third = some 1 ∧
      (∀ u, (s.base.threads u).arc? ≠ some 1) ∧
      ∀ id e, s.base.requests id = some e → e.terminator = none := by
    -- The registry as the steps left it: `[2]` registered, attached twice and dropped.
    have hregistry : ∀ (id : RequestId) (x y z : Option ActiveRequest) (e₀ e₂ e : ActiveRequest),
        e₀.terminator = none → e₂.terminator = none →
        (if id ∈ [3] then some e₂ else if id ∈ [2] then none else if id ∈ [2] then x else
          if id ∈ [2] then y else if id ∈ [2] then z else if id ∈ [1] then some e₀ else none) =
          some e → e.terminator = none := by
      intro id x y z e₀ e₂ e h₀ h₂ he
      split_ifs at he
      · exact Option.some.inj he ▸ h₂
      · exact Option.some.inj he ▸ h₀
    exact ⟨_, _, rfl, rfl, rfl, by decide, fun id e he =>
      hregistry id _ _ _ _ _ e rfl rfl he⟩
  have hok : (serving Thread twoBuckets).Admits (SparesHeld twoBuckets) (.initial twoBuckets)
      (openSecond ++ finishSecond ++ askThird) := by
    refine ⟨trivial, trivial, fun p hp => ?_, trivial, trivial, fun p hp => ?_, trivial, trivial,
      trivial, trivial, trivial, trivial, trivial, trivial, trivial, trivial, trivial⟩
    · cases hp
    · cases hp
  have hreach := Lts.reachBy_of_exec (.init rfl) _ hok hs
  have hreach' : (serving Thread twoBuckets).ReachBy (SparesHeld twoBuckets) s' := by
    refine .step hreach (a := .lookup .third) ?_ hs'
    rintro p hp (⟨u, hu⟩ | ⟨id, e, hid, he⟩)
    · obtain rfl := Option.some.inj (hevict.symm.trans hp)
      exact hthreads u hu
    · exact absurd ((hrequests id e hid).symm.trans he) (by simp)
  exact ⟨s, s', hevict, hs', hreach', liveSessions_le hreach'⟩

/-- The second bucket is evicted while the second thread is about to use its pool. -/
theorem liveSessions_evictedHeld :
    ∃ s : Serving Thread, (serving Thread twoBuckets).Reach s ∧
      (twoBuckets.maxBucketSessions * twoBuckets.sessionPoolSize : ℕ∞) < s.liveSessions.encard := by
  obtain ⟨s, hs, hidle, hheld, hnew⟩ : ∃ s, (serving Thread twoBuckets).exec (.initial twoBuckets)
      (openSecond ++ askThird ++ [.lookup .third, .opened .third]) = some s ∧
      (∀ p < 3, (s.base.pools p).idle = [0]) ∧ s.base.threads .second = .dispatched ⟨1, [2]⟩ 1 ∧
      s.base.threads .third = .dispatched ⟨2, [3]⟩ 2 := ⟨_, rfl, by decide, rfl, rfl⟩
  refine ⟨s, Lts.reach_of_exec (.init rfl) _ hs, ?_⟩
  have halive : ∀ p < 3, s.Alive p := by
    intro p hp
    interval_cases p
    · exact .inl rfl
    · exact .inr (.inr (.inl ⟨.second, by rw [hheld]; rfl⟩))
    · exact .inr (.inr (.inl ⟨.third, by rw [hnew]; rfl⟩))
  have hsub : (↑(Finset.range 3 ×ˢ {0}) : Set (PoolId × Session)) ⊆ s.liveSessions := by
    rintro ⟨p, n⟩ hx
    obtain ⟨hp, hn⟩ := Finset.mem_product.mp (Finset.mem_coe.mp hx)
    obtain rfl := Finset.mem_singleton.mp hn
    have hlt := Finset.mem_range.mp hp
    exact ⟨halive p hlt, .inl (by rw [hidle p hlt]; exact List.mem_singleton_self 0)⟩
  refine lt_of_lt_of_le ?_ (Set.encard_le_encard hsub)
  rw [Set.encard_coe_eq_coe_finsetCard]
  exact_mod_cast (by decide : twoBuckets.maxBucketSessions * twoBuckets.sessionPoolSize < 3)

end Kapsl.Ort
