import Mathlib.Data.Fintype.Card
import Mathlib.Data.Fintype.Pi
import Kapsl.Lib.Lts

/-!
# Ort/SessionPool — session pools, the cancellation registry, and their threads

Every mutex section, every `is_cancelled` check, the release-and-sleep of `Condvar::wait` and each
notification is one step.  A thread runs `OrtBackend::infer` (register, check, attach a
`SessionWaitTerminator`, `SessionPool::acquire`, run, drop the `PooledSession`, then the local `Arc`
of the pool), `prewarm_session_pool`, or `ActiveRequests::cancel`; `Pc` is where it stands.  No lock
is poisoned.  `Step` lists what a step
can do, and every invariant is checked against that list.

Two fields are history only: `ActiveRequest.serial` names the registration an entry belongs to, so
that a request ID can be reused, and `cancelReturned` records that a `cancel` of that registration
has returned.
-/

namespace Kapsl.Ort

/-- `u64` request IDs. -/
abbrev RequestId := UInt64

/-- The pools of one loaded model: the primary one and those of the buckets. -/
abbrev PoolId := ℕ

/-- A session, named by its place in the order its pool created them. -/
abbrev Session := ℕ

/-- `SessionPoolInner` with its bound. -/
structure SessionPool where
  idle : List Session
  total : ℕ
  maxSessions : ℕ
  /-- How many sessions were created for the pool. -/
  created : ℕ

/-- `SessionPool::new`. -/
def SessionPool.new (maxSessions : ℕ) : SessionPool where
  idle := [0]
  total := 1
  maxSessions := max maxSessions 1
  created := 1

/-- What `RunTerminator::terminate` reaches: the waiters of a pool, or one ORT run. -/
inductive RunTerminator
  | sessionWait (pool : PoolId)
  | runOptions
  deriving DecidableEq

/-- An entry of the cancellation registry. -/
structure ActiveRequest where
  cancelled : Bool
  terminator : Option RunTerminator
  serial : ℕ
  cancelReturned : Bool

/-- `RequestRegistration`. -/
structure Registration where
  serial : ℕ
  requestIds : List RequestId
  deriving DecidableEq

/-- Where a thread stands. -/
inductive Pc
  /-- Not in a call. -/
  | idle
  /-- Holds a registration, between two `infer` calls. -/
  | registered (r : Registration)
  /-- `infer` passed its first check and chose a pool; about to attach. -/
  | dispatched (r : Registration) (p : PoolId)
  /-- `attach` found the request cancelled; about to terminate what it attached. -/
  | terminating (r : Registration) (p : PoolId)
  /-- At the top of the loop of `acquire`. -/
  | checking (r : Registration) (p : PoolId)
  /-- `is_cancelled()` said no; about to lock the pool. -/
  | checked (r : Registration) (p : PoolId)
  /-- Asleep in `Condvar::wait`, not notified. -/
  | waiting (r : Registration) (p : PoolId)
  /-- Notified; about to lock the pool again and loop. -/
  | notified (r : Registration) (p : PoolId)
  /-- Reserved a slot; `create_session` is running. -/
  | creating (r : Registration) (p : PoolId)
  /-- Owns a `PooledSession`. -/
  | holding (r : Registration) (p : PoolId) (session : Session)
  /-- `acquire` failed, or the `PooledSession` is dropped; `infer` has still to drop its `Arc` of the
  pool. -/
  | returning (r : Registration) (p : PoolId)
  /-- `prewarm_session_pool` holds a reserved slot. -/
  | reserved (p : PoolId)
  /-- `cancel` marked the request and cloned its terminator; about to call it. -/
  | cancelling (id : RequestId) (serial : ℕ) (terminator : RunTerminator)
  deriving DecidableEq

namespace Pc

/-- The registration a thread holds. -/
def registration? : Pc → Option Registration
  | idle | reserved _ | cancelling _ _ _ => none
  | registered r | dispatched r _ | terminating r _ | checking r _ | checked r _ | waiting r _
  | notified r _ | creating r _ | holding r _ _ | returning r _ => some r

/-- The pool whose waiters the thread's attached terminator wakes. -/
def attached? : Pc → Option (Registration × PoolId)
  | terminating r p | checking r p | checked r p | waiting r p | notified r p | creating r p =>
    some (r, p)
  | _ => none

/-- Past the cancellation check of the loop, and not notified since. -/
def armed? : Pc → Option (Registration × PoolId)
  | checked r p | waiting r p => some (r, p)
  | _ => none

/-- Awake inside `acquire`, with the pool still to be looked at under its lock. -/
def looking? : Pc → Option (Registration × PoolId)
  | checking r p | checked r p | notified r p => some (r, p)
  | _ => none

/-- A `cancel` that has still to call the terminator it cloned. -/
def cancelling? : Pc → Option (RequestId × ℕ × RunTerminator)
  | cancelling id n τ => some (id, n, τ)
  | _ => none

/-- Asleep on the condition variable of pool `p`. -/
def waitsOn (p : PoolId) : Pc → Bool
  | waiting _ q => p == q
  | _ => false

/-- What a notification does to a thread. -/
def wake : Pc → Pc
  | waiting r p => notified r p
  | pc => pc

end Pc

/-- The pools, the registry and the threads. -/
structure State (ι : Type*) where
  pools : PoolId → SessionPool
  requests : RequestId → Option ActiveRequest
  threads : ι → Pc
  nextSerial : ℕ

namespace State

variable {ι : Type*}

/-- No request, no thread in a call, every pool as `SessionPool::new` leaves it. -/
def initial (maxSessions : PoolId → ℕ) : State ι where
  pools p := .new (maxSessions p)
  requests _ := none
  threads _ := .idle
  nextSerial := 0

/-- `RequestRegistration::is_cancelled`. -/
def isCancelled (s : State ι) (r : Registration) : Bool :=
  r.requestIds.any fun id => ((s.requests id).map (·.cancelled)).getD false

/-- Replace the entries of a registration: the loop of `attach`. -/
def setTerminator (s : State ι) (r : Registration) (τ : RunTerminator) : State ι :=
  { s with
    requests := fun id =>
      if id ∈ r.requestIds then (s.requests id).map ({ · with terminator := some τ })
      else s.requests id }

variable [DecidableEq ι]

/-- Move a thread. -/
def goto (s : State ι) (t : ι) (pc : Pc) : State ι :=
  { s with threads := Function.update s.threads t pc }

/-- Replace a pool. -/
def setPool (s : State ι) (p : PoolId) (pool : SessionPool) : State ι :=
  { s with pools := Function.update s.pools p pool }

/-- `Condvar::notify_all` on pool `p`. -/
def notifyAll (s : State ι) (p : PoolId) : State ι :=
  { s with threads := fun t => if (s.threads t).waitsOn p then (s.threads t).wake else s.threads t }

/-- `Condvar::notify_one` on pool `p`: it wakes one sleeper, any of them, if there is one. -/
def notifyOne [Fintype ι] (s : State ι) (p : PoolId) : Option ι → Option (State ι)
  | some t => if (s.threads t).waitsOn p then some (s.goto t (s.threads t).wake) else none
  | none => if ∀ t, (s.threads t).waitsOn p = false then some s else none

/-- `ActiveRequests::register`. -/
def register (s : State ι) (t : ι) (ids : List RequestId) : State ι :=
  if ids = [] ∨ ¬ids.Nodup ∨ ∃ id ∈ ids, (s.requests id).isSome then s
  else
    { s with
      requests := fun id =>
        if id ∈ ids then
          some { cancelled := false, terminator := none, serial := s.nextSerial
                 cancelReturned := false }
        else s.requests id
      threads := Function.update s.threads t (.registered ⟨s.nextSerial, ids⟩)
      nextSerial := s.nextSerial + 1 }

/-- `Drop for RequestRegistration`. -/
def dropRegistration (s : State ι) (t : ι) (r : Registration) : State ι :=
  { s with
    requests := fun id => if id ∈ r.requestIds then none else s.requests id
    threads := Function.update s.threads t .idle }

/-- The locked section of `ActiveRequests::cancel`. -/
def cancel (s : State ι) (t : ι) (id : RequestId) : State ι :=
  match s.requests id with
  | none => s
  | some e =>
    match e.terminator with
    | none =>
      { s with
        requests :=
          Function.update s.requests id
            (some { e with cancelled := true, cancelReturned := true }) }
    | some τ =>
      { s with
        requests := Function.update s.requests id (some { e with cancelled := true })
        threads := Function.update s.threads t (.cancelling id e.serial τ) }

/-- Record that a `cancel` of registration `n` under `id` has returned. -/
def markReturned (s : State ι) (id : RequestId) (n : ℕ) : State ι :=
  { s with
    requests := fun id' =>
      if id' = id then
        (s.requests id').map fun e => if e.serial = n then { e with cancelReturned := true } else e
      else s.requests id' }

/-- `RunTerminator::terminate`: `wake_cancelled_waiters` for a session wait; the termination flag of
an ORT run touches no pool. -/
def terminate (s : State ι) : RunTerminator → State ι
  | .sessionWait p => s.notifyAll p
  | .runOptions => s

/-- The locked section of `SessionPool::acquire`. -/
def look (s : State ι) (t : ι) (r : Registration) (p : PoolId) : State ι :=
  match (s.pools p).idle with
  | session :: rest =>
    (s.setPool p { s.pools p with idle := rest }).goto t (.holding r p session)
  | [] =>
    if (s.pools p).total < (s.pools p).maxSessions then
      (s.setPool p { s.pools p with total := (s.pools p).total + 1 }).goto t (.creating r p)
    else s.goto t (.waiting r p)

/-- A session joins the idle list. -/
def pushIdle (s : State ι) (p : PoolId) (session : Session) : State ι :=
  s.setPool p { s.pools p with idle := session :: (s.pools p).idle }

/-- A new session was created for the pool. -/
def countCreated (s : State ι) (p : PoolId) : State ι :=
  s.setPool p { s.pools p with created := (s.pools p).created + 1 }

/-- The decrement of `release_reserved_slot`. -/
def releaseSlot (s : State ι) (p : PoolId) : State ι :=
  s.setPool p { s.pools p with total := (s.pools p).total - 1 }

end State

/-! ## The steps -/

/-- One step of a thread.  `woken` is the sleeper a `notify_one` picks. -/
inductive Act (ι : Type*)
  | register (t : ι) (ids : List RequestId)
  | dropRegistration (t : ι)
  | beginInfer (t : ι) (p : PoolId)
  | attachWait (t : ι)
  | terminateAttached (t : ι)
  | checkCancelled (t : ι)
  | look (t : ι)
  | spuriousWakeup (t : ι)
  | relock (t : ι)
  | created (t : ι)
  | createFailed (t : ι) (woken : Option ι)
  | attachRun (t : ι)
  | dropSession (t : ι) (woken : Option ι)
  | returned (t : ι)
  | reserveSlot (t : ι) (p : PoolId)
  | addReservedSession (t : ι) (woken : Option ι)
  | releaseReservedSlot (t : ι) (woken : Option ι)
  | cancel (t : ι) (id : RequestId)
  | terminate (t : ι)

variable {ι : Type*} [DecidableEq ι] [Fintype ι]

/-- The successor under a step, if the thread stands where the step starts. -/
def step (s : State ι) : Act ι → Option (State ι)
  | .register t ids =>
    match s.threads t with
    | .idle => some (s.register t ids)
    | _ => none
  | .dropRegistration t =>
    match s.threads t with
    | .registered r => some (s.dropRegistration t r)
    | _ => none
  -- The first check of `infer`, then `pool_for_request`.
  | .beginInfer t p =>
    match s.threads t with
    | .registered r => some (if s.isCancelled r then s else s.goto t (.dispatched r p))
    | _ => none
  | .attachWait t =>
    match s.threads t with
    | .dispatched r p =>
      some ((s.setTerminator r (.sessionWait p)).goto t
        (if s.isCancelled r then .terminating r p else .checking r p))
    | _ => none
  | .terminateAttached t =>
    match s.threads t with
    | .terminating r p => some ((s.terminate (.sessionWait p)).goto t (.checking r p))
    | _ => none
  | .checkCancelled t =>
    match s.threads t with
    | .checking r p =>
      some (s.goto t (if s.isCancelled r then .returning r p else .checked r p))
    | _ => none
  | .look t =>
    match s.threads t with
    | .checked r p => some (s.look t r p)
    | _ => none
  | .spuriousWakeup t =>
    match s.threads t with
    | .waiting r p => some (s.goto t (.notified r p))
    | _ => none
  | .relock t =>
    match s.threads t with
    | .notified r p => some (s.goto t (.checking r p))
    | _ => none
  | .created t =>
    match s.threads t with
    | .creating r p => some ((s.countCreated p).goto t (.holding r p (s.pools p).created))
    | _ => none
  | .createFailed t woken =>
    match s.threads t with
    | .creating r p => ((s.releaseSlot p).goto t (.returning r p)).notifyOne p woken
    | _ => none
  -- `infer_with_session` attaches its run options; terminating them touches no pool.
  | .attachRun t =>
    match s.threads t with
    | .holding r _ _ => some (s.setTerminator r .runOptions)
    | _ => none
  | .dropSession t woken =>
    match s.threads t with
    | .holding r p session => ((s.pushIdle p session).goto t (.returning r p)).notifyOne p woken
    | _ => none
  -- `infer` returns: the locals go in reverse order, `pool` after the `PooledSession`.
  | .returned t =>
    match s.threads t with
    | .returning r _ => some (s.goto t (.registered r))
    | _ => none
  | .reserveSlot t p =>
    match s.threads t with
    | .idle =>
      some (if (s.pools p).total ≥ (s.pools p).maxSessions then s
        else (s.setPool p { s.pools p with total := (s.pools p).total + 1 }).goto t (.reserved p))
    | _ => none
  | .addReservedSession t woken =>
    match s.threads t with
    | .reserved p =>
      (((s.countCreated p).pushIdle p (s.pools p).created).goto t .idle).notifyOne p woken
    | _ => none
  | .releaseReservedSlot t woken =>
    match s.threads t with
    | .reserved p => ((s.releaseSlot p).goto t .idle).notifyOne p woken
    | _ => none
  | .cancel t id =>
    match s.threads t with
    | .idle => some (s.cancel t id)
    | _ => none
  | .terminate t =>
    match s.threads t with
    | .cancelling id n τ => some (((s.terminate τ).markReturned id n).goto t .idle)
    | _ => none

/-- The runs of the threads `ι` over pools of any bounds. -/
def lts (ι : Type*) [DecidableEq ι] [Fintype ι] : Lts (State ι) (Act ι) where
  init s := ∃ maxSessions, s = State.initial maxSessions
  step := step

/-! ## What a step can do -/

/-- **What a step can do**: one case for each label and each answer of the check it makes. -/
inductive Step (s : State ι) : Act ι → State ι → Prop
  | register {t : ι} (ids : List RequestId) (ht : s.threads t = .idle) :
    Step s (.register t ids) (s.register t ids)
  | dropRegistration {t : ι} {r : Registration} (ht : s.threads t = .registered r) :
    Step s (.dropRegistration t) (s.dropRegistration t r)
  | refused {t : ι} {r : Registration} (p : PoolId) (ht : s.threads t = .registered r) :
    Step s (.beginInfer t p) s
  | beginInfer {t : ι} {r : Registration} (p : PoolId) (ht : s.threads t = .registered r) :
    Step s (.beginInfer t p) (s.goto t (.dispatched r p))
  | attachCancelled {t : ι} {r : Registration} {p : PoolId} (ht : s.threads t = .dispatched r p) :
    Step s (.attachWait t) ((s.setTerminator r (.sessionWait p)).goto t (.terminating r p))
  | attachWait {t : ι} {r : Registration} {p : PoolId} (ht : s.threads t = .dispatched r p) :
    Step s (.attachWait t) ((s.setTerminator r (.sessionWait p)).goto t (.checking r p))
  | terminateAttached {t : ι} {r : Registration} {p : PoolId}
    (ht : s.threads t = .terminating r p) :
    Step s (.terminateAttached t) ((s.notifyAll p).goto t (.checking r p))
  | leave {t : ι} {r : Registration} {p : PoolId} (ht : s.threads t = .checking r p)
    (hcancelled : s.isCancelled r = true) : Step s (.checkCancelled t) (s.goto t (.returning r p))
  | pass {t : ι} {r : Registration} {p : PoolId} (ht : s.threads t = .checking r p)
    (hlive : s.isCancelled r = false) : Step s (.checkCancelled t) (s.goto t (.checked r p))
  | look {t : ι} {r : Registration} {p : PoolId} (ht : s.threads t = .checked r p) :
    Step s (.look t) (s.look t r p)
  | spuriousWakeup {t : ι} {r : Registration} {p : PoolId} (ht : s.threads t = .waiting r p) :
    Step s (.spuriousWakeup t) (s.goto t (.notified r p))
  | relock {t : ι} {r : Registration} {p : PoolId} (ht : s.threads t = .notified r p) :
    Step s (.relock t) (s.goto t (.checking r p))
  | created {t : ι} {r : Registration} {p : PoolId} (ht : s.threads t = .creating r p) :
    Step s (.created t) ((s.countCreated p).goto t (.holding r p (s.pools p).created))
  | createFailed {t : ι} {r : Registration} {p : PoolId} {woken : Option ι} {s' : State ι}
    (ht : s.threads t = .creating r p)
    (hs : ((s.releaseSlot p).goto t (.returning r p)).notifyOne p woken = some s') :
    Step s (.createFailed t woken) s'
  | attachRun {t : ι} {r : Registration} {p : PoolId} {session : Session}
    (ht : s.threads t = .holding r p session) :
    Step s (.attachRun t) (s.setTerminator r .runOptions)
  | dropSession {t : ι} {r : Registration} {p : PoolId} {session : Session} {woken : Option ι}
    {s' : State ι} (ht : s.threads t = .holding r p session)
    (hs : ((s.pushIdle p session).goto t (.returning r p)).notifyOne p woken = some s') :
    Step s (.dropSession t woken) s'
  | returned {t : ι} {r : Registration} {p : PoolId} (ht : s.threads t = .returning r p) :
    Step s (.returned t) (s.goto t (.registered r))
  | full {t : ι} (p : PoolId) (ht : s.threads t = .idle) : Step s (.reserveSlot t p) s
  | reserveSlot {t : ι} (p : PoolId) (ht : s.threads t = .idle)
    (hroom : (s.pools p).total < (s.pools p).maxSessions) : Step s (.reserveSlot t p)
    ((s.setPool p { s.pools p with total := (s.pools p).total + 1 }).goto t (.reserved p))
  | addReservedSession {t : ι} {p : PoolId} {woken : Option ι} {s' : State ι}
    (ht : s.threads t = .reserved p)
    (hs : (((s.countCreated p).pushIdle p (s.pools p).created).goto t .idle).notifyOne p woken =
      some s') :
    Step s (.addReservedSession t woken) s'
  | releaseReservedSlot {t : ι} {p : PoolId} {woken : Option ι} {s' : State ι}
    (ht : s.threads t = .reserved p)
    (hs : ((s.releaseSlot p).goto t .idle).notifyOne p woken = some s') :
    Step s (.releaseReservedSlot t woken) s'
  | cancel {t : ι} (id : RequestId) (ht : s.threads t = .idle) :
    Step s (.cancel t id) (s.cancel t id)
  | terminate {t : ι} {id : RequestId} {n : ℕ} {τ : RunTerminator}
    (ht : s.threads t = .cancelling id n τ) :
    Step s (.terminate t) (((s.terminate τ).markReturned id n).goto t .idle)

/-- **A step does what its label says**, from the place where it starts. -/
theorem Step.of_step {s s' : State ι} {a : Act ι} (h : step s a = some s') : Step s a s' := by
  cases a with (dsimp only [step] at h; split at h <;> try contradiction)
  | register t ids => exact Option.some.inj h ▸ .register ids ‹_›
  | dropRegistration t => exact Option.some.inj h ▸ .dropRegistration ‹_›
  | beginInfer t p =>
    obtain rfl := Option.some.inj h
    split
    · exact .refused p ‹_›
    · exact .beginInfer p ‹_›
  | attachWait t =>
    obtain rfl := Option.some.inj h
    split
    · exact .attachCancelled ‹_›
    · exact .attachWait ‹_›
  | terminateAttached t => exact Option.some.inj h ▸ .terminateAttached ‹_›
  | checkCancelled t =>
    obtain rfl := Option.some.inj h
    split
    · exact .leave ‹_› ‹_›
    · exact .pass ‹_› (Bool.eq_false_of_not_eq_true ‹_›)
  | look t => exact Option.some.inj h ▸ .look ‹_›
  | spuriousWakeup t => exact Option.some.inj h ▸ .spuriousWakeup ‹_›
  | relock t => exact Option.some.inj h ▸ .relock ‹_›
  | created t => exact Option.some.inj h ▸ .created ‹_›
  | createFailed t woken => exact .createFailed ‹_› h
  | attachRun t => exact Option.some.inj h ▸ .attachRun ‹_›
  | dropSession t woken => exact .dropSession ‹_› h
  | returned t => exact Option.some.inj h ▸ .returned ‹_›
  | reserveSlot t p =>
    obtain rfl := Option.some.inj h
    split
    · exact .full p ‹_›
    · exact .reserveSlot p ‹_› (Nat.lt_of_not_ge ‹_›)
  | addReservedSession t woken => exact .addReservedSession ‹_› h
  | releaseReservedSlot t woken => exact .releaseReservedSlot ‹_› h
  | cancel t id => exact Option.some.inj h ▸ .cancel id ‹_›
  | terminate t => exact Option.some.inj h ▸ .terminate ‹_›

end Kapsl.Ort
