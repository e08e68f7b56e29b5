import Kapsl.Ort.SessionPool
import Kapsl.Lib.Threads

/-!
# Ort/Conservation — no session and no slot of a pool is lost or counted twice

A slot of `total` is an idle session, a session some `PooledSession` owns, or a reservation for a
session being created; the threads hold the last two.  Every mutex section moves slots between these
places, and `SessionPool.created` numbers the sessions, so the account of one pool is two balances:
one of slots, one for each session.

* `Conserved` — the account of a pool.
* `Conserved.move` — a thread moves and its pool is replaced, with both balances kept.
* `sessionPool_conserved` — the account in every reachable state, in the terms of the source.
-/

namespace Kapsl.Ort

open Threads (Thread)

/-! ## What a thread holds of a pool -/

namespace Pc

/-- The slot a thread holds: with its session once that exists. -/
def slot? : Pc → Option (PoolId × Option Session)
  | holding _ p session => some (p, some session)
  | creating _ p | reserved p => some (p, none)
  | _ => none

/-- The thread owns a `PooledSession` of pool `p`. -/
def checksOut (p : PoolId) (pc : Pc) : Bool :=
  pc.slot?.any fun x => x.1 == p && x.2.isSome

/-- The thread has reserved a slot of pool `p` for a session being created. -/
def reserves (p : PoolId) (pc : Pc) : Bool :=
  pc.slot? == some (p, none)

/-- The thread owns the `PooledSession` of session `n` of pool `p`. -/
def owns (p : PoolId) (n : Session) (pc : Pc) : Bool :=
  pc.slot? == some (p, some n)

/-- How many slots of pool `p` the thread holds. -/
def slots (p : PoolId) (pc : Pc) : ℕ :=
  if pc.slot?.any (·.1 == p) then 1 else 0

end Pc

/-! ## The account of a pool -/

variable {ι : Type*} [Fintype ι]

/-- **The account of pool `p`**, opened with `max_sessions = bound`. -/
structure Conserved (bound : ℕ) (s : State ι) (p : PoolId) : Prop where
  maxSessions : (s.pools p).maxSessions = max bound 1
  total_le : (s.pools p).total ≤ (s.pools p).maxSessions
  total : (s.pools p).total = (s.pools p).idle.length + ∑ u, (s.threads u).slots p
  session : ∀ n, (s.pools p).idle.count n + (∑ u, if (s.threads u).owns p n then 1 else 0) =
    if n < (s.pools p).created then 1 else 0

variable {bound : ℕ} {s s' : State ι} {p : PoolId}

/-- A step that keeps the pools and what every thread holds keeps the account. -/
theorem Conserved.congr (h : Conserved bound s p) (hpools : s'.pools = s.pools)
    (hslot : ∀ u, (s'.threads u).slot? = (s.threads u).slot?) : Conserved bound s' p where
  maxSessions := by rw [hpools, h.maxSessions]
  total_le := by rw [hpools]; exact h.total_le
  total := by simp only [hpools, h.total, Pc.slots, hslot]
  session n := by
    have howns u : (s'.threads u).owns p n = (s.threads u).owns p n := by
      rw [Pc.owns, Pc.owns, hslot]
    simp only [hpools, howns]
    exact h.session n

/-- A thread that holds a slot is counted in `total`. -/
theorem Conserved.total_pos (h : Conserved bound s p) {u : ι} (hu : 0 < (s.threads u).slots p) :
    0 < (s.pools p).total := by
  have hle : (s.threads u).slots p ≤ ∑ v, (s.threads v).slots p :=
    Finset.single_le_sum (f := fun v => (s.threads v).slots p) (fun v _ => Nat.zero_le _)
      (Finset.mem_univ u)
  have htotal := h.total
  omega

/-- **Both balances** of a pool `before` replaced by `after`, for a thread that held `x` and then
holds `y`. -/
structure Balance (before after : SessionPool) (x y : Option (Option Session)) : Prop where
  maxSessions : after.maxSessions = before.maxSessions
  total_le : after.total ≤ after.maxSessions
  total : after.total + before.idle.length + x.toList.length =
    before.total + after.idle.length + y.toList.length
  session : ∀ n, after.idle.count n + (if y = some (some n) then 1 else 0) +
      (if n < before.created then 1 else 0) =
    before.idle.count n + (if x = some (some n) then 1 else 0) +
      (if n < after.created then 1 else 0)

theorem Pc.slots_eq {pc : Pc} {q : PoolId} {x : Option (Option Session)}
    (h : pc.slot? = x.map (q, ·)) (p : PoolId) :
    pc.slots p = if q = p then x.toList.length else 0 := by
  cases x with
  | none => simp [Pc.slots, h]
  | some x => simp [Pc.slots, h]

theorem Pc.owns_eq {pc : Pc} {q : PoolId} {x : Option (Option Session)}
    (h : pc.slot? = x.map (q, ·)) (p : PoolId) (n : Session) :
    pc.owns p n = (decide (q = p) && decide (x = some (some n))) := by
  cases x with
  | none => simp [Pc.owns, h]
  | some x =>
    rw [Bool.eq_iff_iff]
    simp [Pc.owns, h]

omit [Fintype ι] in
/-- A thread owns at most one session of a pool, in a slot of its own. -/
theorem Pc.sum_owns_le (p : PoolId) (pc : Pc) (sessions : Finset Session) :
    (∑ n ∈ sessions, if pc.owns p n then 1 else 0) ≤ pc.slots p := by
  rcases hslot : pc.slot? with _ | ⟨q, _ | m⟩
  · simp [Pc.owns, hslot]
  · simp [Pc.owns, hslot]
  · by_cases hq : q = p
    · simp only [Pc.owns, Pc.slots, hslot, hq, beq_iff_eq, Option.some.injEq, Prod.mk.injEq,
        true_and, Option.any_some, if_true, Finset.sum_ite_eq]
      split_ifs <;> omega
    · simp [Pc.owns, hslot, hq]

variable [DecidableEq ι]

/-- **One thread's move keeps every account** when its pool's balances are kept. -/
theorem Conserved.move (h : Conserved bound s p) {t : ι} {q : PoolId} {pool : SessionPool}
    {pc : Pc} {x y : Option (Option Session)} (hx : (s.threads t).slot? = x.map (q, ·))
    (hy : pc.slot? = y.map (q, ·)) (hbal : p = q → Balance (s.pools q) pool x y) :
    Conserved bound ((s.setPool q pool).goto t pc) p := by
  have hslots := Threads.sum_update (Pc.slots p) s.threads t pc
  have howns n := Threads.sum_update (fun pc => if pc.owns p n then 1 else 0) s.threads t pc
  rw [Pc.slots_eq hx, Pc.slots_eq hy] at hslots
  simp only [Pc.owns_eq hx, Pc.owns_eq hy] at howns
  by_cases hq : p = q
  · subst hq
    obtain ⟨hmax, hle, htotal, hsession⟩ := hbal rfl
    have hpool : ((s.setPool p pool).goto t pc).pools p = pool := Function.update_self ..
    refine ⟨?_, ?_, ?_, fun n => ?_⟩
    · rw [hpool, hmax, h.maxSessions]
    · rwa [hpool]
    · rw [if_pos rfl, if_pos rfl] at hslots
      have hbefore := h.total
      simp only [hpool]
      show _ = _ + ∑ u, (Function.update s.threads t pc u).slots p
      omega
    · have hn := howns n
      simp only [decide_true, Bool.true_and, decide_eq_true_eq] at hn
      have hbefore := h.session n
      have hbalance := hsession n
      simp only [hpool]
      show _ + (∑ u, if (Function.update s.threads t pc u).owns p n then 1 else 0) = _
      omega
  · have hpool : ((s.setPool q pool).goto t pc).pools p = s.pools p := Function.update_of_ne hq ..
    refine ⟨?_, ?_, ?_, fun n => ?_⟩
    · rw [hpool, h.maxSessions]
    · rw [hpool]
      exact h.total_le
    · rw [if_neg (Ne.symm hq), if_neg (Ne.symm hq), add_zero, add_zero] at hslots
      rw [hpool, h.total, ← hslots]
      rfl
    · have hn := howns n
      simp only [decide_eq_false (Ne.symm hq), Bool.false_and, Bool.false_eq_true, if_false,
        add_zero] at hn
      rw [hpool, ← h.session n, ← hn]
      rfl

/-! ## Every step keeps the account -/

omit [DecidableEq ι] [Fintype ι] in
theorem Pc.slot_wake (pc : Pc) : pc.wake.slot? = pc.slot? := by
  cases pc <;> rfl

omit [Fintype ι] in
theorem slot_goto {t : ι} {pc : Pc} (ht : pc.slot? = (s.threads t).slot?) (u : ι) :
    ((s.goto t pc).threads u).slot? = (s.threads u).slot? :=
  Threads.forall_update (P := fun pc pc' : Pc => pc'.slot? = pc.slot?) (fun _ => rfl) ht u

theorem Conserved.goto (h : Conserved bound s p) {t : ι} {pc : Pc}
    (ht : pc.slot? = (s.threads t).slot?) : Conserved bound (s.goto t pc) p :=
  h.congr rfl (slot_goto ht)

omit [DecidableEq ι] in
theorem Conserved.notifyAll (h : Conserved bound s p) (q : PoolId) :
    Conserved bound (s.notifyAll q) p := by
  refine h.congr rfl fun u => ?_
  simp only [State.notifyAll]
  split
  · exact Pc.slot_wake _
  · rfl

theorem Conserved.notifyOne (h : Conserved bound s p) {q : PoolId} {woken : Option ι}
    (hs : s.notifyOne q woken = some s') : Conserved bound s' p := by
  cases woken with
  | none =>
    obtain ⟨-, hs⟩ := Option.ite_none_right_eq_some.mp hs
    exact Option.some.inj hs ▸ h
  | some t =>
    obtain ⟨-, hs⟩ := Option.ite_none_right_eq_some.mp hs
    exact Option.some.inj hs ▸ h.goto (Pc.slot_wake _)

omit [DecidableEq ι] in
theorem Conserved.terminate (h : Conserved bound s p) (τ : RunTerminator) :
    Conserved bound (s.terminate τ) p := by
  cases τ with
  | sessionWait q => exact h.notifyAll q
  | runOptions => exact h

theorem Conserved.register (h : Conserved bound s p) {t : ι} (ht : s.threads t = .idle)
    (ids : List RequestId) : Conserved bound (s.register t ids) p := by
  rw [State.register]
  split
  · exact h
  · exact h.congr rfl (slot_goto (by rw [ht]; rfl))

theorem Conserved.cancel (h : Conserved bound s p) {t : ι} (ht : s.threads t = .idle)
    (id : RequestId) : Conserved bound (s.cancel t id) p := by
  rw [State.cancel]
  split
  · exact h
  · split
    · exact h.congr rfl fun _ => rfl
    · exact h.congr rfl (slot_goto (by rw [ht]; rfl))

/-- The locked section of `acquire` hands an idle session over, reserves a slot or waits. -/
theorem Conserved.look (h : Conserved bound s p) {t : ι} {r : Registration} {q : PoolId}
    (ht : s.threads t = .checked r q) : Conserved bound (s.look t r q) p := by
  have hx : (s.threads t).slot? = (none : Option (Option Session)).map (q, ·) := by rw [ht]; rfl
  rw [State.look]
  split
  · rename_i session rest hidle
    refine h.move hx (y := some (some session)) rfl ?_
    rintro rfl
    refine ⟨rfl, h.total_le, ?_, fun n => ?_⟩
    · simp only [hidle, List.length_cons, Option.toList_none, Option.toList_some, List.length_nil]
      omega
    · simp only [hidle, List.count_cons, beq_iff_eq, Option.some.injEq, reduceCtorEq, if_false]
      omega
  · split
    · rename_i hroom
      refine h.move hx (y := some none) rfl ?_
      rintro rfl
      exact ⟨rfl, hroom, by simp; omega, fun n => by simp⟩
    · exact h.goto (by rw [ht]; rfl)

omit [DecidableEq ι] [Fintype ι] in
/-- The sessions up to the next number are those before and that one. -/
theorem lt_succ_split (n k : ℕ) :
    (if k = n then 1 else 0) + (if n < k then 1 else 0) = if n < k + 1 then 1 else 0 := by
  split_ifs <;> omega

/-- A created session fills the slot that was reserved for it. -/
theorem Conserved.created (h : Conserved bound s p) {t : ι} {r : Registration} {q : PoolId}
    (ht : s.threads t = .creating r q) :
    Conserved bound ((s.countCreated q).goto t (.holding r q (s.pools q).created)) p := by
  refine h.move (x := some none) (y := some (some (s.pools q).created)) (by rw [ht]; rfl) rfl ?_
  rintro rfl
  refine ⟨rfl, h.total_le, rfl, fun n => ?_⟩
  have hnew := lt_succ_split n (s.pools p).created
  simp only [Option.some.injEq, reduceCtorEq, if_false]
  omega

/-- A released slot leaves `total`, which counted it. -/
theorem Conserved.releaseSlot (h : Conserved bound s p) {t : ι} {q : PoolId} {pc : Pc}
    (ht : (s.threads t).slot? = some (q, none)) (hpc : pc.slot? = none) :
    Conserved bound ((s.releaseSlot q).goto t pc) p := by
  refine h.move (x := some none) (y := none) ht hpc ?_
  rintro rfl
  have hpos : 0 < (s.pools p).total := h.total_pos (u := t) (by simp [Pc.slots, ht])
  refine ⟨rfl, (Nat.sub_le _ _).trans h.total_le, ?_, fun n => by simp⟩
  simp only [Option.toList_some, Option.toList_none, List.length_cons, List.length_nil]
  omega

/-- A dropped `PooledSession` gives its session back to the idle list. -/
theorem Conserved.dropSession (h : Conserved bound s p) {t : ι} {r : Registration} {q : PoolId}
    {session : Session} (ht : s.threads t = .holding r q session) :
    Conserved bound ((s.pushIdle q session).goto t (.returning r q)) p := by
  refine h.move (x := some (some session)) (y := none) (by rw [ht]; rfl) rfl ?_
  rintro rfl
  refine ⟨rfl, h.total_le, ?_, fun n => ?_⟩
  · simp only [List.length_cons, Option.toList_none, Option.toList_some, List.length_nil]
    omega
  · simp only [List.count_cons, beq_iff_eq, Option.some.injEq, reduceCtorEq, if_false]
    omega

/-- `add_reserved_session` turns a reserved slot into an idle session. -/
theorem Conserved.addReservedSession (h : Conserved bound s p) {t : ι} {q : PoolId}
    (ht : s.threads t = .reserved q) :
    Conserved bound (((s.countCreated q).pushIdle q (s.pools q).created).goto t .idle) p := by
  have hpush : ((s.countCreated q).pushIdle q (s.pools q).created).goto t .idle =
      (s.setPool q { s.pools q with
        idle := (s.pools q).created :: (s.pools q).idle
        created := (s.pools q).created + 1 }).goto t .idle := by
    simp only [State.pushIdle, State.countCreated, State.setPool, Function.update_idem,
      Function.update_self]
  rw [hpush]
  refine h.move (x := some none) (y := none) (by rw [ht]; rfl) rfl ?_
  rintro rfl
  refine ⟨rfl, h.total_le, ?_, fun n => ?_⟩
  · simp only [List.length_cons, Option.toList_none, Option.toList_some, List.length_nil]
    omega
  · have hnew := lt_succ_split n (s.pools p).created
    simp only [List.count_cons, beq_iff_eq, Option.some.injEq, reduceCtorEq, if_false]
    omega

/-- `reserve_slot` counts the slot before it lets the lock go. -/
theorem Conserved.reserveSlot (h : Conserved bound s p) {t : ι} {q : PoolId}
    (ht : s.threads t = .idle) (hroom : (s.pools q).total < (s.pools q).maxSessions) :
    Conserved bound ((s.setPool q { s.pools q with total := (s.pools q).total + 1 }).goto t
      (.reserved q)) p := by
  refine h.move (x := none) (y := some none) (by rw [ht]; rfl) rfl ?_
  rintro rfl
  exact ⟨rfl, hroom, by simp; omega, fun n => by simp⟩

/-- **Every step keeps the account of every pool.** -/
theorem Conserved.step (h : Conserved bound s p) {a : Act ι} (hs : step s a = some s') :
    Conserved bound s' p := by
  cases Step.of_step hs with
  | register ids ht => exact h.register ht ids
  | dropRegistration ht => exact h.congr rfl (slot_goto (by rw [ht]; rfl))
  | refused => exact h
  | beginInfer q ht => exact h.goto (by rw [ht]; rfl)
  | attachCancelled ht => exact h.congr rfl (slot_goto (s := s) (by rw [ht]; rfl))
  | attachWait ht => exact h.congr rfl (slot_goto (s := s) (by rw [ht]; rfl))
  | @terminateAttached t r q ht =>
    exact (h.notifyAll q).goto (by simp [State.notifyAll, ht, Pc.waitsOn, Pc.slot?])
  | leave ht => exact h.goto (by rw [ht]; rfl)
  | pass ht => exact h.goto (by rw [ht]; rfl)
  | look ht => exact h.look ht
  | spuriousWakeup ht => exact h.goto (by rw [ht]; rfl)
  | relock ht => exact h.goto (by rw [ht]; rfl)
  | created ht => exact h.created ht
  | createFailed ht hs => exact (h.releaseSlot (by rw [ht]; rfl) rfl).notifyOne hs
  | attachRun => exact h.congr rfl fun _ => rfl
  | dropSession ht hs => exact (h.dropSession ht).notifyOne hs
  | returned ht => exact h.goto (by rw [ht]; rfl)
  | full => exact h
  | reserveSlot q ht hroom => exact h.reserveSlot ht hroom
  | addReservedSession ht hs => exact (h.addReservedSession ht).notifyOne hs
  | releaseReservedSlot ht hs => exact (h.releaseSlot (by rw [ht]; rfl) rfl).notifyOne hs
  | cancel id ht => exact h.cancel ht id
  | @terminate t id n τ ht =>
    refine (h.terminate τ).congr rfl (slot_goto (s := (s.terminate τ).markReturned id n) ?_)
    cases τ with
    | sessionWait q => simp [State.terminate, State.markReturned, State.notifyAll, ht, Pc.waitsOn,
        Pc.slot?]
    | runOptions => simp [State.terminate, State.markReturned, ht, Pc.slot?]

/-! ## Created sessions stay -/

omit [DecidableEq ι] in
/-- **Every created session takes a slot.** -/
theorem Conserved.created_le_total (h : Conserved bound s p) :
    (s.pools p).created ≤ (s.pools p).total := by
  have hidle : ∑ n ∈ Finset.range (s.pools p).created, (s.pools p).idle.count n ≤
      (s.pools p).idle.length := by
    rw [← List.sum_toFinset_count_eq_length]
    refine Finset.sum_le_sum_of_ne_zero fun n _ hn => ?_
    exact List.mem_toFinset.mpr (List.count_pos_iff.mp (Nat.pos_of_ne_zero hn))
  have howned : ∑ n ∈ Finset.range (s.pools p).created,
      (∑ u, if (s.threads u).owns p n then 1 else 0) ≤ ∑ u, (s.threads u).slots p := by
    rw [Finset.sum_comm]
    exact Finset.sum_le_sum fun u _ => Pc.sum_owns_le p (s.threads u) _
  have hall : ∑ n ∈ Finset.range (s.pools p).created, ((s.pools p).idle.count n +
      ∑ u, if (s.threads u).owns p n then 1 else 0) = (s.pools p).created := by
    rw [Finset.sum_congr rfl fun n hn => (h.session n).trans (if_pos (Finset.mem_range.mp hn))]
    simp
  rw [Finset.sum_add_distrib] at hall
  have htotal := h.total
  omega

theorem pools_notifyOne {q : PoolId} {woken : Option ι}
    (hs : s.notifyOne q woken = some s') : s'.pools = s.pools := by
  cases woken with
  | none =>
    obtain ⟨-, hs⟩ := Option.ite_none_right_eq_some.mp hs
    exact Option.some.inj hs ▸ rfl
  | some t =>
    obtain ⟨-, hs⟩ := Option.ite_none_right_eq_some.mp hs
    exact Option.some.inj hs ▸ rfl

omit [Fintype ι] [DecidableEq ι] in
theorem created_setPool {q : PoolId} {pool : SessionPool}
    (h : (s.pools q).created ≤ pool.created) :
    (s.pools p).created ≤ ((s.setPool q pool).pools p).created := by
  by_cases hp : p = q
  · subst hp
    simpa [State.setPool] using h
  · simp [State.setPool, Function.update_of_ne hp]

omit [Fintype ι] in
theorem pools_register (t : ι) (ids : List RequestId) : (s.register t ids).pools = s.pools := by
  rw [State.register]
  split
  · rfl
  · rfl

omit [Fintype ι] in
theorem pools_cancel (t : ι) (id : RequestId) : (s.cancel t id).pools = s.pools := by
  rw [State.cancel]
  split
  · rfl
  · split
    · rfl
    · rfl

omit [Fintype ι] [DecidableEq ι] in
theorem pools_terminate (τ : RunTerminator) : (s.terminate τ).pools = s.pools := by
  cases τ with
  | sessionWait => rfl
  | runOptions => rfl

omit [Fintype ι] in
theorem created_look (t : ι) (r : Registration) (q : PoolId) :
    (s.pools p).created ≤ ((s.look t r q).pools p).created := by
  rw [State.look]
  split
  · exact created_setPool le_rfl
  · split
    · exact created_setPool le_rfl
    · exact le_rfl

/-- **No step takes a created session away.** -/
theorem created_step {a : Act ι} (hs : step s a = some s') (p : PoolId) :
    (s.pools p).created ≤ (s'.pools p).created := by
  cases Step.of_step hs with
  | register ids => rw [pools_register]
  | look => exact created_look _ _ _
  | created => exact created_setPool (Nat.le_succ _)
  | createFailed _ hs =>
    rw [pools_notifyOne hs]
    exact created_setPool le_rfl
  | dropSession _ hs =>
    rw [pools_notifyOne hs]
    exact created_setPool le_rfl
  | reserveSlot => exact created_setPool le_rfl
  | @addReservedSession _ q _ _ _ hs =>
    rw [pools_notifyOne hs]
    have hcount : (s.pools p).created ≤ ((s.countCreated q).pools p).created :=
      created_setPool (Nat.le_succ _)
    exact hcount.trans (created_setPool (s := s.countCreated q) le_rfl)
  | releaseReservedSlot _ hs =>
    rw [pools_notifyOne hs]
    exact created_setPool le_rfl
  | cancel id => rw [pools_cancel]
  | @terminate _ _ _ τ => exact (congrArg (fun f => (f p).created) (pools_terminate τ).symm).le
  | _ => exact le_rfl

/-! ## Whole runs -/

/-- The runs over pools that `SessionPool::new` opened with the bounds `maxSessions`. -/
def pooled (ι : Type*) [DecidableEq ι] [Fintype ι] (maxSessions : PoolId → ℕ) :
    Lts (State ι) (Act ι) where
  init s := s = State.initial maxSessions
  step := step

omit [DecidableEq ι] in
theorem conserved_initial (maxSessions : PoolId → ℕ) (p : PoolId) :
    Conserved (maxSessions p) (State.initial maxSessions : State ι) p where
  maxSessions := rfl
  total_le := Nat.le_max_right _ _
  total := by simp [State.initial, SessionPool.new, Pc.slots, Pc.slot?]
  session n := by
    have hzero := lt_succ_split n 0
    simp only [Nat.not_lt_zero, if_false, add_zero, zero_add] at hzero
    simpa [State.initial, SessionPool.new, Pc.owns, Pc.slot?, List.count_cons] using hzero

theorem conserved_of_reach {maxSessions : PoolId → ℕ} (h : (pooled ι maxSessions).Reach s)
    (p : PoolId) : Conserved (maxSessions p) s p := by
  refine h.invariant (I := fun s => Conserved (maxSessions p) s p) ?_ ?_
  · rintro s rfl
    exact conserved_initial maxSessions p
  · intro s a s' hc _ hs
    exact hc.step hs

/-- The threads that own a `PooledSession` of pool `p`. -/
def State.checkedOut (s : State ι) (p : PoolId) : Finset ι :=
  Finset.univ.filter fun u => (s.threads u).checksOut p

/-- The threads for which a slot of pool `p` is reserved while they create a session. -/
def State.reserving (s : State ι) (p : PoolId) : Finset ι :=
  Finset.univ.filter fun u => (s.threads u).reserves p

omit [DecidableEq ι] [Fintype ι] in
theorem Pc.slots_split (p : PoolId) (pc : Pc) :
    pc.slots p = (if pc.checksOut p then 1 else 0) + (if pc.reserves p then 1 else 0) := by
  rcases hslot : pc.slot? with _ | ⟨q, _ | session⟩
  · simp [Pc.slots, Pc.checksOut, Pc.reserves, hslot]
  · simp [Pc.slots, Pc.checksOut, Pc.reserves, hslot]
  · simp [Pc.slots, Pc.checksOut, Pc.reserves, hslot]

omit [DecidableEq ι] in
theorem sum_slots (s : State ι) (p : PoolId) :
    ∑ u, (s.threads u).slots p = (s.checkedOut p).card + (s.reserving p).card := by
  simp only [State.checkedOut, State.reserving, Finset.card_filter, Pc.slots_split,
    Finset.sum_add_distrib]

omit [DecidableEq ι] in
/-- A created session is idle once and owned by nobody, or owned by exactly one thread. -/
theorem Conserved.place (h : Conserved bound s p) {n : Session} (hn : n < (s.pools p).created) :
    ((s.pools p).idle.count n = 1 ∧ ∀ u, (s.threads u).owns p n = false) ∨
      (n ∉ (s.pools p).idle ∧ ∃! u, (s.threads u).owns p n = true) := by
  have hsum := h.session n
  rw [if_pos hn, ← Finset.card_filter] at hsum
  rcases Nat.eq_zero_or_pos ((s.pools p).idle.count n) with hidle | hidle
  · have hone : (Finset.univ.filter fun u => (s.threads u).owns p n = true).card = 1 := by omega
    obtain ⟨u, hu⟩ := Finset.card_eq_one.mp hone
    refine .inr ⟨List.count_eq_zero.mp hidle, u, ?_, fun v hv => ?_⟩
    · have hmem : u ∈ Finset.univ.filter fun u => (s.threads u).owns p n = true :=
        hu ▸ Finset.mem_singleton_self u
      exact (Finset.mem_filter.mp hmem).2
    · exact Finset.mem_singleton.mp (hu ▸ Finset.mem_filter.mpr ⟨Finset.mem_univ v, hv⟩)
  · have hnone : (Finset.univ.filter fun u => (s.threads u).owns p n = true).card = 0 := by omega
    refine .inl ⟨by omega, fun u => Bool.eq_false_of_not_eq_true fun hu => ?_⟩
    exact Finset.filter_eq_empty_iff.mp (Finset.card_eq_zero.mp hnone) (Finset.mem_univ u) hu

omit [DecidableEq ι] in
/-- What is idle or owned was created. -/
theorem Conserved.lt_created (h : Conserved bound s p) {n : Session}
    (hn : n ∈ (s.pools p).idle ∨ ∃ u, (s.threads u).owns p n = true) :
    n < (s.pools p).created := by
  by_contra hle
  have hsum := h.session n
  rw [if_neg hle, ← Finset.card_filter, Nat.add_eq_zero_iff] at hsum
  rcases hn with hidle | ⟨u, hu⟩
  · exact List.count_eq_zero.mp hsum.1 hidle
  · exact Finset.filter_eq_empty_iff.mp (Finset.card_eq_zero.mp hsum.2) (Finset.mem_univ u) hu

/-- **Sessions and slots are conserved** — in every reachable state, and for every pool: `total`
counts the idle sessions, the checked-out ones and the slots reserved for a session being created;
it stays within the bound; a thread about to release a reserved slot finds it counted; and the
sessions that were created, which are all there are, are each idle once or owned by exactly one
`PooledSession`. -/
theorem sessionPool_conserved {maxSessions : PoolId → ℕ} (h : (pooled ι maxSessions).Reach s)
    (p : PoolId) :
    (s.pools p).total =
      (s.pools p).idle.length + (s.checkedOut p).card + (s.reserving p).card ∧
    (s.pools p).total ≤ max (maxSessions p) 1 ∧
    (∀ u ∈ s.reserving p, ((s.releaseSlot p).pools p).total + 1 = (s.pools p).total) ∧
    (∀ n < (s.pools p).created,
      ((s.pools p).idle.count n = 1 ∧ ∀ u, (s.threads u).owns p n = false) ∨
        (n ∉ (s.pools p).idle ∧ ∃! u, (s.threads u).owns p n = true)) ∧
    ∀ n, (n ∈ (s.pools p).idle ∨ ∃ u, (s.threads u).owns p n = true) →
      n < (s.pools p).created := by
  have hc := conserved_of_reach h p
  refine ⟨?_, hc.maxSessions ▸ hc.total_le, ?_, fun n hn => hc.place hn,
    fun n hn => hc.lt_created hn⟩
  · rw [hc.total, sum_slots]
    omega
  · intro u hu
    have hslot : (s.threads u).slot? = some (p, none) := by
      simpa [State.reserving, Pc.reserves] using hu
    have hpos : 0 < (s.pools p).total := hc.total_pos (u := u) (by simp [Pc.slots, hslot])
    simp only [State.releaseSlot, State.setPool, Function.update_self]
    omega

/-- The first thread owns the first session, the second one is creating another, and the third one
found no room. -/
def creatingBesideHolder : List (Act Thread) :=
  [.register .first [7], .beginInfer .first 0, .attachWait .first, .checkCancelled .first,
   .look .first, .register .second [8], .beginInfer .second 0, .attachWait .second,
   .checkCancelled .second, .look .second, .reserveSlot .third 0]

theorem sessionPool_conserved_creatingBesideHolder :
    ∃ s, (pooled Thread fun _ => 2).Reach s ∧ s.threads .second = .creating ⟨1, [8]⟩ 0 ∧
      (s.pools 0).total =
        (s.pools 0).idle.length + (s.checkedOut 0).card + (s.reserving 0).card := by
  obtain ⟨s, hs, hone⟩ : ∃ s, (pooled Thread fun _ => 2).exec (State.initial fun _ => 2)
      creatingBesideHolder = some s ∧ s.threads .second = .creating ⟨1, [8]⟩ 0 := ⟨_, rfl, rfl⟩
  have hreach := Lts.reach_of_exec (.init rfl) creatingBesideHolder hs
  exact ⟨s, hreach, hone, (sessionPool_conserved hreach 0).1⟩

end Kapsl.Ort
