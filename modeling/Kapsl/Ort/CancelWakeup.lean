import Kapsl.Lib.Threads
import Kapsl.Ort.SessionPool

/-!
# Ort/CancelWakeup — when a cancelled request can be left asleep

`wake_cancelled_waiters` locks the pool before it notifies, but the waiter's `is_cancelled` check
is made before the waiter locks the pool.  A `cancel` that sets its flag and notifies inside that
window wakes nobody, and the waiter then goes to sleep.

* `no_lostWakeup` — in a run with no notification inside a window, no request whose `cancel` has
  returned is asleep.
* `lostWakeup_of_window` — conversely, a notification inside the window of a thread whose pool is
  exhausted puts that thread to sleep for good.

The invariant is `Registry` (entries, registrations and terminators agree) together with `Armed`
(a thread past its check is either not cancelled, or its cancellation has still to notify).
-/

namespace Kapsl.Ort

open Threads (Thread)

open Threads (eq_some_of_update update_eq_some)

variable {ι : Type*}

/-- A request for which `cancel` has returned is asleep in `acquire`, un-notified. -/
def LostWakeup (s : State ι) : Prop :=
  ∃ t r p, s.threads t = .waiting r p ∧
    ∃ id ∈ r.requestIds, ∃ e, s.requests id = some e ∧ e.cancelReturned = true

/-- The step is not the notification of a `cancel` whose request's thread stands between its
`is_cancelled` check and its lock of the pool. -/
def NotInWindow (s : State ι) : Act ι → Prop
  | .terminate c => ∀ id n τ, s.threads c = .cancelling id n τ →
      ∀ t r p, s.threads t = .checked r p → r.serial ≠ n
  | _ => True

/-! ## Moves that keep the registry -/

/-- A move of a thread that keeps its registration and its pending notification, attaches nothing
and does not pass the cancellation check. -/
structure Pc.Keeps (pc pc' : Pc) : Prop where
  registration : pc'.registration? = pc.registration?
  cancelling : pc'.cancelling? = pc.cancelling?
  attached : ∀ x, pc'.attached? = some x → pc.attached? = some x
  armed : ∀ x, pc'.armed? = some x → pc.armed? = some x

theorem Pc.Keeps.refl (pc : Pc) : pc.Keeps pc := ⟨rfl, rfl, fun _ h => h, fun _ h => h⟩

theorem Pc.Keeps.trans {a b c : Pc} (h : a.Keeps b) (h' : b.Keeps c) : a.Keeps c where
  registration := h'.registration.trans h.registration
  cancelling := h'.cancelling.trans h.cancelling
  attached x hx := h.attached x (h'.attached x hx)
  armed x hx := h.armed x (h'.armed x hx)

/-- A move keeps what it leaves in place; it may give up its place in `acquire` or past the
check. -/
theorem Pc.Keeps.of_eq {pc pc' : Pc} (hreg : pc'.registration? = pc.registration?)
    (hcan : pc'.cancelling? = pc.cancelling?)
    (hatt : pc'.attached? = none ∨ pc'.attached? = pc.attached?)
    (harm : pc'.armed? = none ∨ pc'.armed? = pc.armed?) : pc.Keeps pc' := by
  refine ⟨hreg, hcan, fun x hx => ?_, fun x hx => ?_⟩
  · rcases hatt with h | h
    · exact absurd (h.symm.trans hx) (by simp)
    · exact h ▸ hx
  · rcases harm with h | h
    · exact absurd (h.symm.trans hx) (by simp)
    · exact h ▸ hx

/-- A notification keeps all a thread holds, and only takes it out of its sleep. -/
theorem Pc.keeps_wake (pc : Pc) : pc.Keeps pc.wake := by
  cases pc with
  | waiting r p => exact .of_eq rfl rfl (.inr rfl) (.inl rfl)
  | _ => exact .refl _

/-- A step that keeps the registry and moves every thread by `Pc.Keeps`. -/
structure Keeps (s s' : State ι) : Prop where
  requests : s'.requests = s.requests
  nextSerial : s'.nextSerial = s.nextSerial
  threads : ∀ t, (s.threads t).Keeps (s'.threads t)

theorem Keeps.refl (s : State ι) : Keeps s s := ⟨rfl, rfl, fun _ => Pc.Keeps.refl _⟩

theorem Keeps.trans {a b c : State ι} (h : Keeps a b) (h' : Keeps b c) : Keeps a c where
  requests := h'.requests.trans h.requests
  nextSerial := h'.nextSerial.trans h.nextSerial
  threads t := (h.threads t).trans (h'.threads t)

theorem keeps_setPool (s : State ι) (p : PoolId) (pool : SessionPool) :
    Keeps s (s.setPool p pool) := ⟨rfl, rfl, fun _ => Pc.Keeps.refl _⟩

/-- A relation between a thread before and after a `goto` need only be checked on the one that
moved. -/
theorem forall_goto [DecidableEq ι] {P : Pc → Pc → Prop} (hrefl : ∀ pc, P pc pc) {s : State ι}
    {t : ι} {pc : Pc} (ht : P (s.threads t) pc) (u : ι) :
    P (s.threads u) ((s.goto t pc).threads u) :=
  Threads.forall_update hrefl ht u

theorem keeps_goto [DecidableEq ι] {s : State ι} {t : ι} {pc pc' : Pc} (ht : s.threads t = pc)
    (h : pc.Keeps pc') : Keeps s (s.goto t pc') :=
  ⟨rfl, rfl, forall_goto Pc.Keeps.refl (ht ▸ h)⟩

theorem keeps_notifyAll (s : State ι) (p : PoolId) : Keeps s (s.notifyAll p) := by
  refine ⟨rfl, rfl, fun t => ?_⟩
  dsimp only [State.notifyAll]
  split
  · exact Pc.keeps_wake _
  · exact Pc.Keeps.refl _

theorem keeps_terminate (s : State ι) (τ : RunTerminator) : Keeps s (s.terminate τ) := by
  cases τ with
  | sessionWait p => exact keeps_notifyAll s p
  | runOptions => exact Keeps.refl s

theorem keeps_notifyOne [DecidableEq ι] [Fintype ι] {s s' : State ι} {p : PoolId} {woken : Option ι}
    (h : s.notifyOne p woken = some s') : Keeps s s' := by
  cases woken with
  | none =>
    simp only [State.notifyOne, Option.ite_none_right_eq_some, Option.some.injEq] at h
    exact h.2 ▸ Keeps.refl s
  | some t =>
    simp only [State.notifyOne, Option.ite_none_right_eq_some, Option.some.injEq] at h
    exact h.2 ▸ keeps_goto rfl (Pc.keeps_wake _)

/-! ## The registry -/

/-- Entries, registrations, terminators and pending cancellations agree. -/
structure Registry (s : State ι) : Prop where
  /-- A held registration's requests are in the registry, under its serial. -/
  held : ∀ t r, (s.threads t).registration? = some r →
    ∀ id ∈ r.requestIds, ∃ e, s.requests id = some e ∧ e.serial = r.serial
  /-- No two threads hold one registration. -/
  sole : ∀ t r t' r', (s.threads t).registration? = some r →
    (s.threads t').registration? = some r' → r.serial = r'.serial → t = t'
  /-- An entry with the serial of a held registration is one of its requests. -/
  entry : ∀ t r, (s.threads t).registration? = some r →
    ∀ id e, s.requests id = some e → e.serial = r.serial → id ∈ r.requestIds
  /-- Serials in use are below the next one. -/
  registrationFresh : ∀ t r, (s.threads t).registration? = some r → r.serial < s.nextSerial
  entryFresh : ∀ id e, s.requests id = some e → e.serial < s.nextSerial
  cancelFresh : ∀ c id n τ, (s.threads c).cancelling? = some (id, n, τ) → n < s.nextSerial
  /-- A pending cancellation of a held registration is of one of its requests. -/
  pending : ∀ c id n τ, (s.threads c).cancelling? = some (id, n, τ) →
    ∀ t r, (s.threads t).registration? = some r → r.serial = n → id ∈ r.requestIds
  /-- The entry of a pending cancellation is marked. -/
  marked : ∀ c id n τ, (s.threads c).cancelling? = some (id, n, τ) →
    ∀ e, s.requests id = some e → e.serial = n → e.cancelled = true
  /-- Inside `acquire` the attached terminator wakes the waiters of the thread's own pool. -/
  attached : ∀ t r p, (s.threads t).attached? = some (r, p) →
    ∀ id ∈ r.requestIds, ∀ e, s.requests id = some e → e.terminator = some (.sessionWait p)
  returned : ∀ id e, s.requests id = some e → e.cancelReturned = true → e.cancelled = true

/-- A thread past its cancellation check, not notified since: no `cancel` of its requests has
returned, and one that marked a request has still to notify this thread's pool. -/
structure Armed (s : State ι) : Prop where
  unreturned : ∀ t r p, (s.threads t).armed? = some (r, p) →
    ∀ id ∈ r.requestIds, ∀ e, s.requests id = some e → e.cancelReturned = false
  pending : ∀ t r p, (s.threads t).armed? = some (r, p) →
    ∀ id ∈ r.requestIds, ∀ e, s.requests id = some e → e.cancelled = true →
      ∃ c, (s.threads c).cancelling? = some (id, r.serial, .sessionWait p)
  terminator : ∀ t r p, (s.threads t).armed? = some (r, p) →
    ∀ c id τ, (s.threads c).cancelling? = some (id, r.serial, τ) → τ = .sessionWait p

/-- The invariant of the runs without a notification inside a window. -/
structure WakeInv (s : State ι) : Prop where
  registry : Registry s
  armed : Armed s

theorem Pc.attached_of_armed {pc : Pc} {x : Registration × PoolId} (h : pc.armed? = some x) :
    pc.attached? = some x := by
  cases pc <;> simp_all [armed?, attached?]

theorem Pc.registration_of_attached {pc : Pc} {r : Registration} {p : PoolId}
    (h : pc.attached? = some (r, p)) : pc.registration? = some r := by
  cases pc <;> simp_all [registration?, attached?]

theorem Pc.registration_of_armed {pc : Pc} {r : Registration} {p : PoolId}
    (h : pc.armed? = some (r, p)) : pc.registration? = some r :=
  registration_of_attached (attached_of_armed h)

theorem wakeInv_initial (maxSessions : PoolId → ℕ) :
    WakeInv (State.initial maxSessions : State ι) := by
  constructor <;> constructor <;>
    simp [State.initial, Pc.registration?, Pc.cancelling?, Pc.attached?, Pc.armed?]

/-- **The registry speaks of registrations, pending cancellations and attached terminators
only.** -/
theorem Registry.of_moves {s s' : State ι} (h : Registry s) (hreq : s'.requests = s.requests)
    (hser : s'.nextSerial = s.nextSerial)
    (kreg : ∀ t, (s'.threads t).registration? = (s.threads t).registration?)
    (kcan : ∀ t, (s'.threads t).cancelling? = (s.threads t).cancelling?)
    (katt : ∀ t x, (s'.threads t).attached? = some x → (s.threads t).attached? = some x) :
    Registry s' := by
  refine ⟨?_, ?_, ?_, ?_, ?_, ?_, ?_, ?_, ?_, ?_⟩
  · simpa only [kreg, hreq] using h.held
  · simpa only [kreg] using h.sole
  · simpa only [kreg, hreq] using h.entry
  · simpa only [kreg, hser] using h.registrationFresh
  · simpa only [hreq, hser] using h.entryFresh
  · simpa only [kcan, hser] using h.cancelFresh
  · simpa only [kreg, kcan] using h.pending
  · simpa only [kcan, hreq] using h.marked
  · intro t r p ht
    simpa only [hreq] using h.attached t r p (katt t _ ht)
  · simpa only [hreq] using h.returned

/-- **What is known of the threads past their check survives** a step that lets no thread pass it,
leaves the flags of their requests alone, and keeps the cancellations pending for them. -/
theorem Armed.of_entries {s s' : State ι} (ha : Armed s)
    (harm : ∀ u x, (s'.threads u).armed? = some x → (s.threads u).armed? = some x)
    (hentries : ∀ u r p, (s.threads u).armed? = some (r, p) → ∀ id ∈ r.requestIds, ∀ e',
      s'.requests id = some e' → ∃ e, s.requests id = some e ∧ e'.cancelled = e.cancelled ∧
        e'.cancelReturned = e.cancelReturned)
    (hback : ∀ c x, (s'.threads c).cancelling? = some x → (s.threads c).cancelling? = some x)
    (hforth : ∀ u r p, (s.threads u).armed? = some (r, p) → ∀ c id τ,
      (s.threads c).cancelling? = some (id, r.serial, τ) →
        (s'.threads c).cancelling? = some (id, r.serial, τ)) : Armed s' := by
  refine ⟨fun u r p hu id hid e' he' => ?_, fun u r p hu id hid e' he' hcancelled => ?_,
    fun u r p hu c id τ hc => ?_⟩
  · obtain ⟨e, he, -, hreturned⟩ := hentries u r p (harm u _ hu) id hid e' he'
    rw [hreturned]
    exact ha.unreturned u r p (harm u _ hu) id hid e he
  · obtain ⟨e, he, heq, -⟩ := hentries u r p (harm u _ hu) id hid e' he'
    obtain ⟨c, hc⟩ := ha.pending u r p (harm u _ hu) id hid e he (heq ▸ hcancelled)
    exact ⟨c, hforth u r p (harm u _ hu) c id _ hc⟩
  · exact ha.terminator u r p (harm u _ hu) c id τ (hback c _ hc)

/-- **Moves that keep the registry keep the invariant.** -/
theorem WakeInv.of_keeps {s s' : State ι} (h : WakeInv s) (k : Keeps s s') : WakeInv s' := by
  obtain ⟨hr, ha⟩ := h
  have kcan : ∀ t, (s'.threads t).cancelling? = (s.threads t).cancelling? :=
    fun t => (k.threads t).cancelling
  refine ⟨hr.of_moves k.requests k.nextSerial (fun t => (k.threads t).registration) kcan
    fun t => (k.threads t).attached, ha.of_entries (fun t => (k.threads t).armed) ?_ ?_ ?_⟩
  · intro t r p ht id hid e he
    exact ⟨e, k.requests ▸ he, rfl, rfl⟩
  · intro c x hc
    exact (kcan c).symm.trans hc
  · intro t r p ht c id τ hc
    exact (kcan c).trans hc

/-! ## Changes of the registry

The remaining steps: registering and dropping, attaching, the cancellation check, and the two halves
of `cancel`. -/

/-- Entries may be marked and given terminators; none appears, none goes, none changes its
serial. -/
structure SameEntries (s s' : State ι) : Prop where
  nextSerial : s'.nextSerial = s.nextSerial
  registration : ∀ t, (s'.threads t).registration? = (s.threads t).registration?
  forward : ∀ id e, s.requests id = some e → ∃ e', s'.requests id = some e' ∧ e'.serial = e.serial
  backward : ∀ id e', s'.requests id = some e' → ∃ e, s.requests id = some e ∧
    e'.serial = e.serial ∧ (e.cancelled = true → e'.cancelled = true)

/-- **A change of flags keeps the registry** as soon as new cancellations are of marked entries and
the two clauses about flags are re-established. -/
theorem Registry.of_sameEntries {s s' : State ι} (h : Registry s) (k : SameEntries s s')
    (hcancel : ∀ c id n τ, (s'.threads c).cancelling? = some (id, n, τ) →
      (s.threads c).cancelling? = some (id, n, τ) ∨
        ∃ e, s.requests id = some e ∧ e.serial = n ∧
          ∀ e', s'.requests id = some e' → e'.cancelled = true)
    (hattached : ∀ t r p, (s'.threads t).attached? = some (r, p) →
      ∀ id ∈ r.requestIds, ∀ e, s'.requests id = some e → e.terminator = some (.sessionWait p))
    (hreturned : ∀ id e, s'.requests id = some e → e.cancelReturned = true → e.cancelled = true) :
    Registry s' := by
  refine ⟨?_, ?_, ?_, ?_, ?_, ?_, ?_, ?_, hattached, hreturned⟩
  · intro t r ht id hid
    obtain ⟨e, he, hs⟩ := h.held t r (k.registration t ▸ ht) id hid
    obtain ⟨e', he', hs'⟩ := k.forward id e he
    exact ⟨e', he', hs'.trans hs⟩
  · intro t r t' r' ht ht' hs
    exact h.sole t r t' r' (k.registration t ▸ ht) (k.registration t' ▸ ht') hs
  · intro t r ht id e' he' hs
    obtain ⟨e, he, hes, -⟩ := k.backward id e' he'
    exact h.entry t r (k.registration t ▸ ht) id e he (hes ▸ hs)
  · intro t r ht
    rw [k.nextSerial]
    exact h.registrationFresh t r (k.registration t ▸ ht)
  · intro id e' he'
    obtain ⟨e, he, hes, -⟩ := k.backward id e' he'
    rw [k.nextSerial, hes]
    exact h.entryFresh id e he
  · intro c id n τ hc
    rw [k.nextSerial]
    rcases hcancel c id n τ hc with hold | ⟨e, he, rfl, -⟩
    · exact h.cancelFresh c id n τ hold
    · exact h.entryFresh id e he
  · intro c id n τ hc t r ht hn
    have ht' := k.registration t ▸ ht
    rcases hcancel c id n τ hc with hold | ⟨e, he, rfl, -⟩
    · exact h.pending c id n τ hold t r ht' hn
    · exact h.entry t r ht' id e he hn.symm
  · intro c id n τ hc e' he' hn
    rcases hcancel c id n τ hc with hold | ⟨-, -, -, hmark⟩
    · obtain ⟨e, he, hes, hc'⟩ := k.backward id e' he'
      exact hc' (h.marked c id n τ hold e he (hes ▸ hn))
    · exact hmark e' he'

theorem cancelled_eq_false_of_isCancelled {s : State ι} {r : Registration}
    (h : s.isCancelled r = false) {id : RequestId} (hid : id ∈ r.requestIds) {e : ActiveRequest}
    (he : s.requests id = some e) : e.cancelled = false := by
  simp only [State.isCancelled, List.any_eq_false] at h
  simpa [he] using h id hid

section Steps

variable {s : State ι}

/-- The requests of a held registration are not new. -/
theorem Registry.not_mem_of_new (h : Registry s) {ids : List RequestId}
    (hnew : ∀ id ∈ ids, s.requests id = none) {u : ι} {r : Registration}
    (hu : (s.threads u).registration? = some r) {id : RequestId} (hid : id ∈ r.requestIds) :
    id ∉ ids := by
  intro hmem
  obtain ⟨e, he, -⟩ := h.held u r hu id hid
  rw [hnew id hmem] at he
  exact absurd he (by simp)

/-- A request belongs to one held registration. -/
theorem Registry.eq_of_mem (h : Registry s) {t u : ι} {r r' : Registration}
    (ht : (s.threads t).registration? = some r) (hu : (s.threads u).registration? = some r')
    {id : RequestId} (hid : id ∈ r.requestIds) (hid' : id ∈ r'.requestIds) : u = t := by
  obtain ⟨e, he, hs⟩ := h.held t r ht id hid
  obtain ⟨e', he', hs'⟩ := h.held u r' hu id hid'
  obtain rfl : e = e' := Option.some.inj (he.symm.trans he')
  exact h.sole u r' t r hu ht (hs'.symm.trans hs)

/-- What an entry is after the loop of `attach`. -/
theorem requests_setTerminator {r : Registration} {τ : RunTerminator} {id : RequestId}
    {e' : ActiveRequest} (h : (s.setTerminator r τ).requests id = some e') :
    ∃ e, s.requests id = some e ∧ e'.serial = e.serial ∧ e'.cancelled = e.cancelled ∧
      e'.cancelReturned = e.cancelReturned ∧
      e'.terminator = if id ∈ r.requestIds then some τ else e.terminator := by
  dsimp only [State.setTerminator] at h
  split at h
  · obtain ⟨e, he, rfl⟩ := Option.map_eq_some_iff.mp h
    rename_i hid
    exact ⟨e, he, rfl, rfl, rfl, (if_pos hid).symm⟩
  · rename_i hid
    exact ⟨e', h, rfl, rfl, rfl, (if_neg hid).symm⟩

/-- **What a successful `register` adds**, as the invariant reads it: entries with a new serial
under IDs that had none, and a registration of them. -/
structure Registers (s : State ι) (t : ι) (ids : List RequestId) (s' : State ι) : Prop where
  new : ∀ id ∈ ids, s.requests id = none
  added : ∀ id ∈ ids, ∃ e, s'.requests id = some e ∧ e.serial = s.nextSerial
  kept : ∀ id ∉ ids, s'.requests id = s.requests id
  entry : ∀ id e, s'.requests id = some e →
    (id ∈ ids ∧ e.serial = s.nextSerial ∧ e.cancelReturned = false) ∨
      (id ∉ ids ∧ s.requests id = some e)
  registration : ∀ u r, (s'.threads u).registration? = some r →
    (u = t ∧ r = ⟨s.nextSerial, ids⟩) ∨ (s.threads u).registration? = some r
  cancelling : ∀ c x, (s'.threads c).cancelling? = some x ↔ (s.threads c).cancelling? = some x
  attached : ∀ u x, (s'.threads u).attached? = some x → (s.threads u).attached? = some x
  armed : ∀ u x, (s'.threads u).armed? = some x → (s.threads u).armed? = some x
  serial : s'.nextSerial = s.nextSerial + 1

/-- A new registration and its entries agree, and no older serial is the new one. -/
theorem Registry.register {s' : State ι} (hr : Registry s) {t : ι} {ids : List RequestId}
    (k : Registers s t ids s') : Registry s' := by
  refine ⟨?_, ?_, ?_, ?_, ?_, ?_, ?_, ?_, ?_, ?_⟩
  · intro u r hu id hid
    rcases k.registration u r hu with ⟨rfl, rfl⟩ | hu₀
    · exact k.added id hid
    · rw [k.kept id (hr.not_mem_of_new k.new hu₀ hid)]
      exact hr.held u r hu₀ id hid
  · intro u r u' r' hu hu' hs
    rcases k.registration u r hu with ⟨rfl, rfl⟩ | hu₀ <;>
      rcases k.registration u' r' hu' with ⟨rfl, rfl⟩ | hu₀'
    · rfl
    · exact absurd hs (hr.registrationFresh u' r' hu₀').ne'
    · exact absurd hs (hr.registrationFresh u r hu₀).ne
    · exact hr.sole u r u' r' hu₀ hu₀' hs
  · intro u r hu id e he hs
    rcases k.entry id e he with ⟨hid, hserial, -⟩ | ⟨-, he₀⟩ <;>
      rcases k.registration u r hu with ⟨rfl, rfl⟩ | hu₀
    · exact hid
    · exact absurd (hserial.symm.trans hs) (hr.registrationFresh u r hu₀).ne'
    · exact absurd hs (hr.entryFresh id e he₀).ne
    · exact hr.entry u r hu₀ id e he₀ hs
  · intro u r hu
    rw [k.serial]
    rcases k.registration u r hu with ⟨rfl, rfl⟩ | hu₀
    · exact Nat.lt_succ_self _
    · exact (hr.registrationFresh u r hu₀).trans (Nat.lt_succ_self _)
  · intro id e he
    rw [k.serial]
    rcases k.entry id e he with ⟨-, hserial, -⟩ | ⟨-, he₀⟩
    · exact hserial ▸ Nat.lt_succ_self _
    · exact (hr.entryFresh id e he₀).trans (Nat.lt_succ_self _)
  · intro c id n τ hc
    rw [k.serial]
    exact (hr.cancelFresh c id n τ ((k.cancelling c _).mp hc)).trans (Nat.lt_succ_self _)
  · intro c id n τ hc u r hu hn
    have hc₀ := (k.cancelling c _).mp hc
    rcases k.registration u r hu with ⟨rfl, rfl⟩ | hu₀
    · exact absurd hn (hr.cancelFresh c id n τ hc₀).ne'
    · exact hr.pending c id n τ hc₀ u r hu₀ hn
  · intro c id n τ hc e he hn
    have hc₀ := (k.cancelling c _).mp hc
    rcases k.entry id e he with ⟨-, hserial, -⟩ | ⟨-, he₀⟩
    · exact absurd (hserial.symm.trans hn) (hr.cancelFresh c id n τ hc₀).ne'
    · exact hr.marked c id n τ hc₀ e he₀ hn
  · intro u r p hu id hid
    have hu₀ := k.attached u _ hu
    rw [k.kept id (hr.not_mem_of_new k.new (Pc.registration_of_attached hu₀) hid)]
    exact hr.attached u r p hu₀ id hid
  · intro id e he hret
    rcases k.entry id e he with ⟨-, -, hfresh⟩ | ⟨-, he₀⟩
    · exact absurd (hfresh.symm.trans hret) (by simp)
    · exact hr.returned id e he₀ hret

/-- The threads past their check hold older registrations. -/
theorem Armed.register {s' : State ι} (ha : Armed s) (hr : Registry s) {t : ι}
    {ids : List RequestId} (k : Registers s t ids s') : Armed s' := by
  refine ha.of_entries k.armed (fun u r p hu id hid e he => ?_) (fun c x => (k.cancelling c x).mp)
    fun u r p hu c id τ => (k.cancelling c _).mpr
  rw [k.kept id (hr.not_mem_of_new k.new (Pc.registration_of_armed hu) hid)] at he
  exact ⟨e, he, rfl, rfl⟩

variable [DecidableEq ι]

/-- `register` changes nothing, or adds what it is asked for. -/
theorem registers_of_register {t : ι} (ht : s.threads t = .idle) (ids : List RequestId) :
    s.register t ids = s ∨ Registers s t ids (s.register t ids) := by
  dsimp only [State.register]
  split
  · exact .inl rfl
  rename_i hnew
  simp only [not_or, not_not, not_exists, not_and, Bool.not_eq_true, Option.isSome_eq_false_iff,
    Option.isNone_iff_eq_none] at hnew
  refine .inr ⟨hnew.2.2, fun id hid => ⟨_, if_pos hid, rfl⟩, fun id hid => if_neg hid,
    fun id e he => ?_, fun u r hu => ?_, fun c x => ⟨fun hc => (eq_some_of_update rfl hc).2,
      fun hc => update_eq_some (by rw [ht]; rfl) hc⟩, fun u x hu => (eq_some_of_update rfl hu).2,
    fun u x hu => (eq_some_of_update rfl hu).2, rfl⟩
  · dsimp only at he
    split at he
    · obtain rfl := Option.some.inj he
      exact .inl ⟨‹_›, rfl, rfl⟩
    · exact .inr ⟨‹_›, he⟩
  · dsimp only at hu
    by_cases hut : u = t
    · subst hut
      rw [Function.update_self] at hu
      exact .inl ⟨rfl, (Option.some.inj hu).symm⟩
    · rw [Function.update_of_ne hut] at hu
      exact .inr hu

/-- `register` adds entries under IDs that had none. -/
theorem WakeInv.register (h : WakeInv s) {t : ι} (ht : s.threads t = .idle) (ids : List RequestId) :
    WakeInv (s.register t ids) := by
  rcases registers_of_register ht ids with heq | k
  · rw [heq]
    exact h
  · exact ⟨h.registry.register k, h.armed.register h.registry k⟩

/-- `Drop for RequestRegistration` removes entries no other thread holds. -/
theorem WakeInv.dropRegistration (h : WakeInv s) {t : ι} {r : Registration}
    (ht : s.threads t = .registered r) : WakeInv (s.dropRegistration t r) := by
  obtain ⟨hr, ha⟩ := h
  have hrt : (s.threads t).registration? = some r := by rw [ht]; rfl
  have hreg : ∀ u r', (Function.update s.threads t .idle u).registration? = some r' →
      (s.threads u).registration? = some r' ∧ ∀ id ∈ r'.requestIds, id ∉ r.requestIds := by
    intro u r' hu
    obtain ⟨hut, hu⟩ := eq_some_of_update rfl hu
    exact ⟨hu, fun id hid hid' => hut (hr.eq_of_mem hrt hu hid' hid)⟩
  have hcan : ∀ c x, (Function.update s.threads t .idle c).cancelling? = some x →
      (s.threads c).cancelling? = some x := fun c x hc => (eq_some_of_update rfl hc).2
  have hatt : ∀ u x, (Function.update s.threads t .idle u).attached? = some x →
      (s.threads u).attached? = some x := fun u x hu => (eq_some_of_update rfl hu).2
  have harm : ∀ u x, (Function.update s.threads t .idle u).armed? = some x →
      (s.threads u).armed? = some x := fun u x hu => (eq_some_of_update rfl hu).2
  have hreq : ∀ id e, (if id ∈ r.requestIds then none else s.requests id) = some e →
      s.requests id = some e := by
    intro id e he
    split at he
    · exact absurd he (by simp)
    · exact he
  refine ⟨⟨?_, ?_, ?_, ?_, ?_, ?_, ?_, ?_, ?_, ?_⟩, ha.of_entries harm ?_ hcan ?_⟩ <;>
    dsimp only [State.dropRegistration]
  · intro u r' hu id hid
    obtain ⟨hu, hout⟩ := hreg u r' hu
    rw [if_neg (hout id hid)]
    exact hr.held u r' hu id hid
  · intro u r₁ u' r₂ hu hu'
    exact hr.sole u r₁ u' r₂ (hreg u r₁ hu).1 (hreg u' r₂ hu').1
  · intro u r' hu id e he
    exact hr.entry u r' (hreg u r' hu).1 id e (hreq id e he)
  · intro u r' hu
    exact hr.registrationFresh u r' (hreg u r' hu).1
  · intro id e he
    exact hr.entryFresh id e (hreq id e he)
  · intro c id n τ hc
    exact hr.cancelFresh c id n τ (hcan c _ hc)
  · intro c id n τ hc u r' hu hn
    exact hr.pending c id n τ (hcan c _ hc) u r' (hreg u r' hu).1 hn
  · intro c id n τ hc e he
    exact hr.marked c id n τ (hcan c _ hc) e (hreq id e he)
  · intro u r' p hu id hid e he
    exact hr.attached u r' p (hatt u _ hu) id hid e (hreq id e he)
  · intro id e he
    exact hr.returned id e (hreq id e he)
  · intro u r' p hu id hid e he
    exact ⟨e, hreq id e he, rfl, rfl⟩
  · intro u r' p hu c id τ hc
    exact update_eq_some (by rw [ht]; rfl) hc

/-- `attach`: a thread that is not past a check replaces the terminators of its requests. -/
theorem WakeInv.attach (h : WakeInv s) {t : ι} {r : Registration} {τ : RunTerminator} {pc : Pc}
    (ht : (s.threads t).registration? = some r) (hreg : pc.registration? = some r)
    (hcan : pc.cancelling? = none) (harm : pc.armed? = none)
    (hatt : ∀ r' p, pc.attached? = some (r', p) → r' = r ∧ τ = .sessionWait p) :
    WakeInv ((s.setTerminator r τ).goto t pc) := by
  obtain ⟨hr, ha⟩ := h
  have htc : (s.threads t).cancelling? = none := by
    cases hpc : s.threads t <;> simp_all [Pc.registration?, Pc.cancelling?]
  have hcanEq : ∀ c x, (Function.update s.threads t pc c).cancelling? = some x →
      (s.threads c).cancelling? = some x := fun c x hc => (eq_some_of_update hcan hc).2
  refine ⟨hr.of_sameEntries ⟨rfl, ?_, ?_, ?_⟩ ?_ ?_ ?_,
    ha.of_entries (fun u x hu => (eq_some_of_update harm hu).2) ?_ hcanEq
      fun u r' p hu c id τ' hc => update_eq_some htc hc⟩
  · intro u
    by_cases hut : u = t
    · subst hut
      simp only [State.goto, Function.update_self, hreg, ht]
    · simp only [State.goto, State.setTerminator, Function.update_of_ne hut]
  · intro id e he
    by_cases hid : id ∈ r.requestIds
    · exact ⟨{ e with terminator := some τ }, by simp [State.goto, State.setTerminator, hid, he], rfl⟩
    · exact ⟨e, by simp [State.goto, State.setTerminator, hid, he], rfl⟩
  · intro id e' he'
    obtain ⟨e, he, hs, hc, -, -⟩ := requests_setTerminator he'
    exact ⟨e, he, hs, fun h => hc.trans h⟩
  · intro c id n τ' hc
    exact .inl (hcanEq c _ hc)
  · intro u r' p hu id hid e' he'
    obtain ⟨e, he, -, -, -, hτ⟩ := requests_setTerminator he'
    by_cases hut : u = t
    · subst hut
      simp only [State.goto, Function.update_self] at hu
      obtain ⟨rfl, rfl⟩ := hatt r' p hu
      rw [hτ, if_pos hid]
    · simp only [State.goto, State.setTerminator, Function.update_of_ne hut] at hu
      have hne : id ∉ r.requestIds := fun hid' =>
        hut (hr.eq_of_mem ht (Pc.registration_of_attached hu) hid' hid)
      rw [hτ, if_neg hne]
      exact hr.attached u r' p hu id hid e he
  · intro id e' he'
    obtain ⟨e, he, -, hc, hret, -⟩ := requests_setTerminator he'
    rw [hc, hret]
    exact hr.returned id e he
  · intro u r' p hu id hid e' he'
    obtain ⟨e, he, -, hc, hret, -⟩ := requests_setTerminator he'
    exact ⟨e, he, hc, hret⟩

/-- A check that found no cancellation arms the thread: nothing is pending for it. -/
theorem WakeInv.pass (h : WakeInv s) {t : ι} {r : Registration} {p : PoolId}
    (ht : s.threads t = .checking r p) (hlive : s.isCancelled r = false) :
    WakeInv (s.goto t (.checked r p)) := by
  obtain ⟨hr, ha⟩ := h
  have hrt : (s.threads t).registration? = some r := by rw [ht]; rfl
  have htc : (s.threads t).cancelling? = none := by rw [ht]; rfl
  have hcan : ∀ c x, ((s.goto t (.checked r p)).threads c).cancelling? = some x →
      (s.threads c).cancelling? = some x := fun c x hc => (eq_some_of_update rfl hc).2
  have harm : ∀ u r' q, ((s.goto t (.checked r p)).threads u).armed? = some (r', q) →
      (r' = r ∧ q = p) ∨ (s.threads u).armed? = some (r', q) := by
    intro u r' q hu
    by_cases hut : u = t
    · subst hut
      simp only [State.goto, Function.update_self, Pc.armed?, Option.some.injEq,
        Prod.mk.injEq] at hu
      exact .inl ⟨hu.1.symm, hu.2.symm⟩
    · simp only [State.goto, Function.update_of_ne hut] at hu
      exact .inr hu
  refine ⟨hr.of_moves rfl rfl ?_ ?_ ?_, ⟨?_, ?_, ?_⟩⟩
  · exact forall_goto (P := fun a b => b.registration? = a.registration?) (fun _ => rfl) (ht ▸ rfl)
  · exact forall_goto (P := fun a b => b.cancelling? = a.cancelling?) (fun _ => rfl) (ht ▸ rfl)
  · exact forall_goto (P := fun a b => ∀ x, b.attached? = some x → a.attached? = some x)
      (fun _ _ h => h) (ht ▸ fun _ h => h)
  · intro u r' q hu id hid e he
    rcases harm u r' q hu with ⟨rfl, rfl⟩ | hu
    · have hc := cancelled_eq_false_of_isCancelled hlive hid he
      by_contra hret
      rw [Bool.not_eq_false] at hret
      rw [hr.returned id e he hret] at hc
      exact absurd hc (by simp)
    · exact ha.unreturned u r' q hu id hid e he
  · intro u r' q hu id hid e he hc
    rcases harm u r' q hu with ⟨rfl, rfl⟩ | hu
    · rw [cancelled_eq_false_of_isCancelled hlive hid he] at hc
      exact absurd hc (by simp)
    · obtain ⟨c, hc⟩ := ha.pending u r' q hu id hid e he hc
      exact ⟨c, update_eq_some htc hc⟩
  · intro u r' q hu c id τ hc
    have hc' := hcan c _ hc
    rcases harm u r' q hu with ⟨rfl, rfl⟩ | hu
    · have hid := hr.pending c id r'.serial τ hc' t r' hrt rfl
      obtain ⟨e, he, hs⟩ := hr.held t r' hrt id hid
      have hc := cancelled_eq_false_of_isCancelled hlive hid he
      rw [hr.marked c id r'.serial τ hc' e he hs] at hc
      exact absurd hc (by simp)
    · exact ha.terminator u r' q hu c id τ hc'

omit [DecidableEq ι] in
/-- A thread inside `acquire` has a terminator attached to each of its requests. -/
theorem WakeInv.terminator_of_armed (h : WakeInv s) {u : ι} {r : Registration} {p : PoolId}
    (hu : (s.threads u).armed? = some (r, p)) {id : RequestId} {e : ActiveRequest}
    (he : s.requests id = some e) (hs : e.serial = r.serial) :
    id ∈ r.requestIds ∧ e.terminator = some (.sessionWait p) := by
  have hid := h.registry.entry u r (Pc.registration_of_armed hu) id e he hs
  exact ⟨hid, h.registry.attached u r p (Pc.attached_of_armed hu) id hid e he⟩

/-- Marking an entry keeps the registry, whatever the marking thread does next, as long as it holds
no registration and a notification it takes on is the entry's. -/
theorem Registry.mark (hr : Registry s) {t : ι} (ht : s.threads t = .idle) {id : RequestId}
    {e : ActiveRequest} (he : s.requests id = some e) (e' : ActiveRequest) (pc : Pc)
    (hserial : e'.serial = e.serial) (hterm : e'.terminator = e.terminator)
    (hmark : e'.cancelled = true) (hreg : pc.registration? = none) (hatt : pc.attached? = none)
    (hcan : ∀ id' n τ, pc.cancelling? = some (id', n, τ) → id' = id ∧ n = e.serial) :
    Registry { s with
      requests := Function.update s.requests id (some e')
      threads := Function.update s.threads t pc } := by
  have hreq : ∀ id₁ e₁, Function.update s.requests id (some e') id₁ = some e₁ →
      (id₁ = id ∧ e₁ = e') ∨ s.requests id₁ = some e₁ := by
    intro id₁ e₁ h₁
    by_cases hid : id₁ = id
    · subst hid
      rw [Function.update_self] at h₁
      exact .inl ⟨rfl, (Option.some.inj h₁).symm⟩
    · rw [Function.update_of_ne hid] at h₁
      exact .inr h₁
  refine hr.of_sameEntries ⟨rfl, ?_, ?_, ?_⟩ ?_ ?_ ?_
  · exact forall_goto (P := fun a b => b.registration? = a.registration?) (fun _ => rfl)
      (by rw [hreg, ht]; rfl)
  · intro id₁ e₁ h₁
    by_cases hid : id₁ = id
    · subst hid
      obtain rfl : e₁ = e := Option.some.inj (h₁.symm.trans he)
      exact ⟨e', Function.update_self .., hserial⟩
    · exact ⟨e₁, by simpa only [Function.update_of_ne hid] using h₁, rfl⟩
  · intro id₁ e₁ h₁
    rcases hreq id₁ e₁ h₁ with ⟨rfl, rfl⟩ | h₁
    · exact ⟨e, he, hserial, fun _ => hmark⟩
    · exact ⟨e₁, h₁, rfl, fun h => h⟩
  · intro c id₁ n τ hc
    by_cases hct : c = t
    · subst hct
      simp only [Function.update_self] at hc
      obtain ⟨rfl, rfl⟩ := hcan id₁ n τ hc
      refine .inr ⟨e, he, rfl, fun e₁ h₁ => ?_⟩
      simp only [Function.update_self, Option.some.injEq] at h₁
      exact h₁ ▸ hmark
    · simp only [Function.update_of_ne hct] at hc
      exact .inl hc
  · intro u r p hu id₁ hid e₁ h₁
    have hu' := (eq_some_of_update hatt hu).2
    rcases hreq id₁ e₁ h₁ with ⟨rfl, rfl⟩ | h₁
    · rw [hterm]
      exact hr.attached u r p hu' id₁ hid e he
    · exact hr.attached u r p hu' id₁ hid e₁ h₁
  · intro id₁ e₁ h₁ hret
    rcases hreq id₁ e₁ h₁ with ⟨rfl, rfl⟩ | h₁
    · exact hmark
    · exact hr.returned id₁ e₁ h₁ hret

/-- A `cancel` that finds no terminator returns at once; no thread past its check is concerned. -/
theorem WakeInv.cancel_unattached (h : WakeInv s) {t : ι} (ht : s.threads t = .idle)
    {id : RequestId} {e : ActiveRequest} (he : s.requests id = some e) (hτ : e.terminator = none) :
    WakeInv { s with
      requests :=
        Function.update s.requests id
          (some { e with cancelled := true, cancelReturned := true }) } := by
  obtain ⟨hr, ha⟩ := h
  have hout : ∀ u r p, (s.threads u).armed? = some (r, p) → ∀ id₁ ∈ r.requestIds, id₁ ≠ id := by
    rintro u r p hu id₁ hid rfl
    have hterm := hr.attached u r p (Pc.attached_of_armed hu) id₁ hid e he
    rw [hτ] at hterm
    exact absurd hterm (by simp)
  refine ⟨?_, ⟨?_, ?_, ha.terminator⟩⟩
  · have hmark := hr.mark ht he { e with cancelled := true, cancelReturned := true } .idle rfl rfl
      rfl rfl rfl (by simp [Pc.cancelling?])
    rwa [← ht, Function.update_eq_self] at hmark
  · intro u r p hu id₁ hid e₁ h₁
    simp only [Function.update_of_ne (hout u r p hu id₁ hid)] at h₁
    exact ha.unreturned u r p hu id₁ hid e₁ h₁
  · intro u r p hu id₁ hid e₁ h₁
    simp only [Function.update_of_ne (hout u r p hu id₁ hid)] at h₁
    exact ha.pending u r p hu id₁ hid e₁ h₁

/-- A `cancel` that finds a terminator has its call pending: for a thread past its check it is the
notification of that thread's pool. -/
theorem WakeInv.cancel_attached (h : WakeInv s) {t : ι} (ht : s.threads t = .idle)
    {id : RequestId} {e : ActiveRequest} (he : s.requests id = some e) {τ : RunTerminator}
    (hτ : e.terminator = some τ) :
    WakeInv { s with
      requests := Function.update s.requests id (some { e with cancelled := true })
      threads := Function.update s.threads t (.cancelling id e.serial τ) } := by
  have htc : (s.threads t).cancelling? = none := by rw [ht]; rfl
  have harm : ∀ u x, (Function.update s.threads t (.cancelling id e.serial τ) u).armed? = some x →
      (s.threads u).armed? = some x := fun u x hu => (eq_some_of_update rfl hu).2
  have hown : ∀ u r p, (s.threads u).armed? = some (r, p) → e.serial = r.serial →
      τ = .sessionWait p := by
    intro u r p hu hs
    have hterm := (h.terminator_of_armed hu he hs).2
    rw [hτ] at hterm
    exact Option.some.inj hterm
  obtain ⟨hr, ha⟩ := h
  refine ⟨?_, ⟨?_, ?_, ?_⟩⟩
  · refine hr.mark ht he { e with cancelled := true } (.cancelling id e.serial τ) rfl rfl rfl rfl
      rfl ?_
    intro id' n τ' hc
    simp only [Pc.cancelling?, Option.some.injEq, Prod.mk.injEq] at hc
    exact ⟨hc.1.symm, hc.2.1.symm⟩
  · intro u r p hu id₁ hid e₁ h₁
    by_cases hid₁ : id₁ = id
    · subst hid₁
      simp only [Function.update_self, Option.some.injEq] at h₁
      subst h₁
      exact ha.unreturned u r p (harm u _ hu) id₁ hid e he
    · simp only [Function.update_of_ne hid₁] at h₁
      exact ha.unreturned u r p (harm u _ hu) id₁ hid e₁ h₁
  · intro u r p hu id₁ hid e₁ h₁ hc
    have hu' := harm u _ hu
    by_cases hid₁ : id₁ = id
    · subst hid₁
      obtain ⟨e₂, he₂, hs⟩ := hr.held u r (Pc.registration_of_armed hu') id₁ hid
      obtain rfl : e = e₂ := Option.some.inj (he.symm.trans he₂)
      obtain rfl := hown u r p hu' hs
      exact ⟨t, by simp only [Function.update_self, Pc.cancelling?, hs]⟩
    · simp only [Function.update_of_ne hid₁] at h₁
      obtain ⟨c, hc⟩ := ha.pending u r p hu' id₁ hid e₁ h₁ hc
      exact ⟨c, update_eq_some htc hc⟩
  · intro u r p hu c id₁ τ₁ hc
    have hu' := harm u _ hu
    by_cases hct : c = t
    · subst hct
      simp only [Function.update_self, Pc.cancelling?, Option.some.injEq, Prod.mk.injEq] at hc
      obtain ⟨rfl, hs, rfl⟩ := hc
      exact hown u r p hu' hs
    · simp only [Function.update_of_ne hct] at hc
      exact ha.terminator u r p hu' c id₁ τ₁ hc

/-- The locked section of `cancel`. -/
theorem WakeInv.cancel (h : WakeInv s) {t : ι} (ht : s.threads t = .idle) (id : RequestId) :
    WakeInv (s.cancel t id) := by
  dsimp only [State.cancel]
  split
  · exact h
  rename_i e he
  split
  · rename_i hτ
    exact h.cancel_unattached ht he hτ
  · rename_i τ hτ
    exact h.cancel_attached ht he hτ

omit [DecidableEq ι] in
/-- What an entry is after a `cancel` is recorded as returned. -/
theorem requests_markReturned {id id' : RequestId} {n : ℕ} {e' : ActiveRequest}
    (h : (s.markReturned id n).requests id' = some e') :
    ∃ e, s.requests id' = some e ∧ e'.serial = e.serial ∧ e'.cancelled = e.cancelled ∧
      e'.terminator = e.terminator ∧
      (e'.cancelReturned = e.cancelReturned ∨ (id' = id ∧ e.serial = n)) := by
  dsimp only [State.markReturned] at h
  split at h
  · rename_i hid
    obtain ⟨e, he, rfl⟩ := Option.map_eq_some_iff.mp h
    refine ⟨e, he, ?_⟩
    by_cases hn : e.serial = n
    · simp [hn, hid]
    · simp [hn]
  · exact ⟨e', h, rfl, rfl, rfl, .inl rfl⟩

omit [DecidableEq ι] in
/-- Once the pool of a cancelled request was notified, its thread is not past its check, unless it
stood inside the window. -/
theorem WakeInv.not_armed_of_terminate (h : WakeInv s) {t : ι} {id : RequestId} {n : ℕ}
    {τ : RunTerminator} (ht : s.threads t = .cancelling id n τ)
    (hout : ∀ u r p, s.threads u = .checked r p → r.serial ≠ n) {u : ι} {r : Registration}
    {p : PoolId} (hu : ((s.terminate τ).threads u).armed? = some (r, p)) : r.serial ≠ n := by
  rintro rfl
  have hu₀ : (s.threads u).armed? = some (r, p) := ((keeps_terminate s τ).threads u).armed _ hu
  obtain rfl := h.armed.terminator u r p hu₀ t id τ (by rw [ht]; rfl)
  cases hpc : s.threads u with
  | checked r' p' =>
    rw [hpc] at hu₀
    obtain ⟨rfl, rfl⟩ := Prod.mk.inj (Option.some.inj hu₀)
    exact hout u r' p' hpc rfl
  | waiting r' p' =>
    rw [hpc] at hu₀
    obtain ⟨rfl, rfl⟩ := Prod.mk.inj (Option.some.inj hu₀)
    simp [State.terminate, State.notifyAll, hpc, Pc.waitsOn, Pc.wake, Pc.armed?] at hu
  | _ => simp [hpc, Pc.armed?] at hu₀

/-- The call of the terminator, outside the window of the cancelled request: its sleeping thread is
notified before the `cancel` returns. -/
theorem WakeInv.terminate (h : WakeInv s) {t : ι} {id : RequestId} {n : ℕ} {τ : RunTerminator}
    (ht : s.threads t = .cancelling id n τ)
    (hout : ∀ u r p, s.threads u = .checked r p → r.serial ≠ n) :
    WakeInv (((s.terminate τ).markReturned id n).goto t .idle) := by
  have hna := fun u r p => h.not_armed_of_terminate ht hout (u := u) (r := r) (p := p)
  have htc : ((s.terminate τ).threads t).cancelling? = some (id, n, τ) := by
    rw [((keeps_terminate s τ).threads t).cancelling, ht]
    rfl
  obtain ⟨hr, ha⟩ := h.of_keeps (keeps_terminate s τ)
  generalize s.terminate τ = s₁ at hna htc hr ha
  have hreg : (s₁.threads t).registration? = none := by
    cases hpc : s₁.threads t <;> simp_all [Pc.registration?, Pc.cancelling?]
  -- The entries of a thread past its check carry another serial, so they are not touched.
  have hkeep : ∀ u r p, (s₁.threads u).armed? = some (r, p) → ∀ id₁ ∈ r.requestIds, ∀ e',
      (s₁.markReturned id n).requests id₁ = some e' → ∃ e, s₁.requests id₁ = some e ∧
        e'.cancelled = e.cancelled ∧ e'.cancelReturned = e.cancelReturned := by
    intro u r p hu id₁ hid e' he'
    obtain ⟨e, he, -, hc, -, hret | ⟨-, hn⟩⟩ := requests_markReturned he'
    · exact ⟨e, he, hc, hret⟩
    · obtain ⟨e₁, he₁, hs⟩ := hr.held u r (Pc.registration_of_armed hu) id₁ hid
      obtain rfl : e = e₁ := Option.some.inj (he.symm.trans he₁)
      exact absurd (hs.symm.trans hn) (hna u r p hu)
  refine ⟨hr.of_sameEntries ⟨rfl, ?_, ?_, ?_⟩ ?_ ?_ ?_,
    ha.of_entries (fun u x hu => (eq_some_of_update rfl hu).2) hkeep
      (fun c x hc => (eq_some_of_update rfl hc).2) ?_⟩
  · exact forall_goto (s := s₁.markReturned id n)
      (P := fun a b => b.registration? = a.registration?) (fun _ => rfl) hreg.symm
  · intro id₁ e he
    by_cases hid : id₁ = id
    · refine ⟨if e.serial = n then { e with cancelReturned := true } else e, ?_, ?_⟩
      · simp [State.goto, State.markReturned, hid ▸ he, hid]
      · split <;> rfl
    · exact ⟨e, by simp [State.goto, State.markReturned, hid, he], rfl⟩
  · intro id₁ e' he'
    obtain ⟨e, he, hs, hc, -, -⟩ := requests_markReturned he'
    exact ⟨e, he, hs, fun h => hc.trans h⟩
  · intro c id₁ n₁ τ₁ hc
    exact .inl (eq_some_of_update (f := Pc.cancelling?) rfl hc).2
  · intro u r p hu id₁ hid e' he'
    obtain ⟨e, he, -, -, hτ, -⟩ := requests_markReturned he'
    rw [hτ]
    exact hr.attached u r p (eq_some_of_update (f := Pc.attached?) rfl hu).2 id₁ hid e he
  · intro id₁ e' he' hret
    obtain ⟨e, he, -, hc, -, hold | ⟨rfl, hn⟩⟩ := requests_markReturned he'
    · rw [hc]
      exact hr.returned id₁ e he (hold ▸ hret)
    · rw [hc]
      exact hr.marked t id₁ n τ htc e he hn
  · intro u r p hu c id₁ τ₁ hc
    have hct : c ≠ t := by
      rintro rfl
      rw [htc] at hc
      exact hna u r p hu (Prod.mk.inj (Prod.mk.inj (Option.some.inj hc)).2).1.symm
    simpa only [State.goto, State.markReturned, Function.update_of_ne hct] using hc

end Steps

/-! ## Whole runs -/

section Runs

variable [DecidableEq ι]

/-- The locked section of `acquire` leaves the registry alone. -/
theorem keeps_look {s : State ι} {t : ι} {r : Registration} {p : PoolId}
    (ht : s.threads t = .checked r p) : Keeps s (s.look t r p) := by
  dsimp only [State.look]
  split
  · exact (keeps_setPool s p _).trans (keeps_goto ht (.of_eq rfl rfl (.inl rfl) (.inl rfl)))
  · split
    · exact (keeps_setPool s p _).trans (keeps_goto ht (.of_eq rfl rfl (.inr rfl) (.inl rfl)))
    · exact keeps_goto ht (.of_eq rfl rfl (.inr rfl) (.inr rfl))

variable [Fintype ι]

/-- A release of capacity: a pool is replaced, the releasing thread moves on, one sleeper is
notified. -/
theorem keeps_release {s s' : State ι} {t : ι} {p : PoolId} {pool : SessionPool} {pc pc' : Pc}
    {woken : Option ι} (ht : s.threads t = pc)
    (hs : ((s.setPool p pool).goto t pc').notifyOne p woken = some s') (hk : pc.Keeps pc') :
    Keeps s s' :=
  ((keeps_setPool s p pool).trans (keeps_goto ht hk)).trans (keeps_notifyOne hs)

/-- **One step outside every window keeps the invariant.** -/
theorem WakeInv.step {s s' : State ι} {a : Act ι} (h : WakeInv s) (hok : NotInWindow s a)
    (hs : step s a = some s') : WakeInv s' := by
  cases Step.of_step hs with
  | register ids ht => exact h.register ht ids
  | dropRegistration ht => exact h.dropRegistration ht
  | refused => exact h
  | beginInfer p ht => exact h.of_keeps (keeps_goto ht (.of_eq rfl rfl (.inl rfl) (.inl rfl)))
  | attachCancelled ht =>
    refine h.attach (by rw [ht]; rfl) rfl rfl rfl fun r' p' hatt => ?_
    obtain ⟨rfl, rfl⟩ := Prod.mk.inj (Option.some.inj hatt)
    exact ⟨rfl, rfl⟩
  | attachWait ht =>
    refine h.attach (by rw [ht]; rfl) rfl rfl rfl fun r' p' hatt => ?_
    obtain ⟨rfl, rfl⟩ := Prod.mk.inj (Option.some.inj hatt)
    exact ⟨rfl, rfl⟩
  | @terminateAttached t r p ht =>
    have ht' : ((s.terminate (.sessionWait p)).threads t) = .terminating r p := by
      simp [State.terminate, State.notifyAll, ht, Pc.waitsOn]
    exact h.of_keeps ((keeps_terminate s _).trans
      (keeps_goto ht' (.of_eq rfl rfl (.inr rfl) (.inl rfl))))
  | leave ht => exact h.of_keeps (keeps_goto ht (.of_eq rfl rfl (.inl rfl) (.inl rfl)))
  | pass ht hlive => exact h.pass ht hlive
  | look ht => exact h.of_keeps (keeps_look ht)
  | spuriousWakeup ht => exact h.of_keeps (keeps_goto ht (.of_eq rfl rfl (.inr rfl) (.inl rfl)))
  | relock ht => exact h.of_keeps (keeps_goto ht (.of_eq rfl rfl (.inr rfl) (.inl rfl)))
  | created ht =>
    exact h.of_keeps ((keeps_setPool s _ _).trans
      (keeps_goto ht (.of_eq rfl rfl (.inl rfl) (.inl rfl))))
  | createFailed ht hs =>
    exact h.of_keeps (keeps_release ht hs (.of_eq rfl rfl (.inl rfl) (.inl rfl)))
  | @attachRun t r p session ht =>
    -- The thread stays where it is.
    have hrt : (s.threads t).registration? = some r := by rw [ht]; rfl
    have hatt := h.attach (τ := .runOptions) (t := t) hrt hrt (by rw [ht]; rfl) (by rw [ht]; rfl)
      (by simp [ht, Pc.attached?])
    rwa [State.goto, State.setTerminator, Function.update_eq_self] at hatt
  | dropSession ht hs =>
    exact h.of_keeps (keeps_release ht hs (.of_eq rfl rfl (.inl rfl) (.inl rfl)))
  | returned ht => exact h.of_keeps (keeps_goto ht (.of_eq rfl rfl (.inl rfl) (.inl rfl)))
  | full => exact h
  | reserveSlot p ht _ =>
    exact h.of_keeps ((keeps_setPool s p _).trans
      (keeps_goto ht (.of_eq rfl rfl (.inl rfl) (.inl rfl))))
  | @addReservedSession t p woken s' ht hs =>
    exact h.of_keeps ((keeps_setPool s p _).trans
      (keeps_release (s := s.countCreated p) ht hs (.of_eq rfl rfl (.inl rfl) (.inl rfl))))
  | releaseReservedSlot ht hs =>
    exact h.of_keeps (keeps_release ht hs (.of_eq rfl rfl (.inl rfl) (.inl rfl)))
  | cancel id ht => exact h.cancel ht id
  | terminate ht => exact h.terminate ht (hok _ _ _ ht)

/-- The invariant along every run without a notification inside a window. -/
theorem wakeInv_of_reach {s : State ι} (h : (lts ι).ReachBy NotInWindow s) : WakeInv s := by
  refine h.invariant ?_ fun s a s' hi hok hs => hi.step hok hs
  rintro s ⟨maxSessions, rfl⟩
  exact wakeInv_initial maxSessions

/-- **No lost wakeup outside the window** — in every run in which no `cancel` notifies while its
request's thread stands between the check and the lock, a request whose `cancel` has returned is
never asleep. -/
theorem no_lostWakeup {s : State ι} (h : (lts ι).ReachBy NotInWindow s) : ¬LostWakeup s := by
  rintro ⟨t, r, p, ht, id, hid, e, he, hret⟩
  have harm : (s.threads t).armed? = some (r, p) := by rw [ht]; rfl
  rw [(wakeInv_of_reach h).armed.unreturned t r p harm id hid e he] at hret
  exact absurd hret (by simp)

/-- One pool of one session, held by the first thread; the second one sleeps, then the third one marks
its request. -/
def markedSleeper : List (Act Thread) :=
  [.register .first [7], .beginInfer .first 0, .attachWait .first, .checkCancelled .first,
   .look .first, .register .second [8], .beginInfer .second 0, .attachWait .second,
   .checkCancelled .second, .look .second, .cancel .third 8]

theorem no_lostWakeup_markedSleeper :
    ∃ s, (lts Thread).exec (State.initial fun _ => 1) markedSleeper = some s ∧
      s.threads .second = .waiting ⟨1, [8]⟩ 0 ∧ s.isCancelled ⟨1, [8]⟩ = true ∧ ¬LostWakeup s := by
  refine ⟨_, rfl, rfl, rfl, no_lostWakeup ?_⟩
  refine Lts.reachBy_of_exec (.init ⟨fun _ => 1, rfl⟩) markedSleeper ?_ rfl
  exact Lts.admits_of_forall _ _ (by simp [markedSleeper, NotInWindow])

/-- The same requests, with the whole `cancel` between the second thread's check and its lock. -/
def cancelInWindow : List (Act Thread) :=
  [.register .first [7], .beginInfer .first 0, .attachWait .first, .checkCancelled .first,
   .look .first, .register .second [8], .beginInfer .second 0, .attachWait .second,
   .checkCancelled .second, .cancel .third 8, .terminate .third, .look .second]

/-- **A cancelled request can be left asleep.** -/
theorem lostWakeup_cancelInWindow :
    ¬∀ s, (lts Thread).Reach s → ¬LostWakeup s := by
  intro hall
  refine hall _ (Lts.reach_of_exec (.init ⟨fun _ => 1, rfl⟩) cancelInWindow rfl) ?_
  exact ⟨.second, ⟨1, [8]⟩, 0, rfl, 8, List.mem_singleton_self 8, _, rfl, rfl⟩

/-- **Every notification inside a window is lost on an exhausted pool**: the thread goes to sleep
after the `cancel` of its request has returned. -/
theorem lostWakeup_of_window {s : State ι} {c t : ι} {id : RequestId} {r : Registration}
    {p : PoolId} {e : ActiveRequest} (hc : s.threads c = .cancelling id r.serial (.sessionWait p))
    (ht : s.threads t = .checked r p) (hid : id ∈ r.requestIds) (he : s.requests id = some e)
    (hserial : e.serial = r.serial) (hidle : (s.pools p).idle = [])
    (htotal : (s.pools p).maxSessions ≤ (s.pools p).total) :
    ∃ s', (lts ι).exec s [.terminate c, .look t] = some s' ∧ LostWakeup s' := by
  have htc : t ≠ c := by
    rintro rfl
    rw [ht] at hc
    exact absurd hc (by simp)
  set s₁ := ((s.terminate (.sessionWait p)).markReturned id r.serial).goto c .idle with hs₁
  have ht₁ : s₁.threads t = .checked r p := by
    simp [hs₁, State.goto, State.markReturned, State.terminate, State.notifyAll, htc, ht,
      Pc.waitsOn]
  have hpool : s₁.pools p = s.pools p := rfl
  refine ⟨s₁.goto t (.waiting r p), ?_, t, r, p, ?_, id, hid, { e with cancelReturned := true },
    ?_, rfl⟩
  · have h₁ : (lts ι).step s (.terminate c) = some s₁ := by
      simp only [lts, step, hc, hs₁]
    have h₂ : (lts ι).step s₁ (.look t) = some (s₁.goto t (.waiting r p)) := by
      simp only [lts, step, ht₁, State.look, hpool, hidle, if_neg (Nat.not_lt.mpr htotal)]
    simp only [Lts.exec_cons, h₁, h₂, Option.bind_some, Lts.exec_nil]
  · simp [State.goto]
  · simp [hs₁, State.goto, State.markReturned, State.terminate, State.notifyAll, he, hserial]

end Runs

end Kapsl.Ort
