import Mathlib.Tactic.FinCases
import Kapsl.Ort.CancelWakeup

/-!
# Ort/Stranded — no live waiter sleeps beside a free session unattended

Each release of capacity notifies one sleeper.  A sleeper that is cancelled leaves through the
cancellation branch and uses the notification up, so the account needs `CancelWakeup`: outside the
window every cancelled sleeper has a `notify_all` still to come.

* `Served` — the account of one pool: while a thread sleeps on it, its free places are at most the
  live threads still to look at it, or a notification of all its sleepers is pending.
* `no_stranded` — no live waiter is stranded in a run without a notification inside a window.
* `stranded_wastedNotification` — inside the window the last notification can be wasted.
-/

namespace Kapsl.Ort

open Threads (update_eq_some)

variable {ι : Type*}

/-- A live thread sleeps un-notified while its pool has an idle session or room for one, no thread
is awake in `acquire` with that pool still to look at, and no `cancel` has still to notify it. -/
def Stranded (s : State ι) : Prop :=
  ∃ t r p, s.threads t = .waiting r p ∧ s.isCancelled r = false ∧
    ((s.pools p).idle ≠ [] ∨ (s.pools p).total < (s.pools p).maxSessions) ∧
    (∀ u r', (s.threads u).looking? ≠ some (r', p)) ∧
    ∀ c id n, (s.threads c).cancelling? ≠ some (id, n, .sessionWait p)

/-- The acquisitions a pool can satisfy. -/
def SessionPool.capacity (pool : SessionPool) : ℕ :=
  pool.idle.length + (pool.maxSessions - pool.total)

/-- Some thread sleeps on `p`. -/
def State.Waited (s : State ι) (p : PoolId) : Prop := ∃ t r, s.threads t = .waiting r p

/-- A `cancel` has still to notify the sleepers of `p`. -/
def State.NotifyPending (s : State ι) (p : PoolId) : Prop :=
  ∃ c id n, (s.threads c).cancelling? = some (id, n, .sessionWait p)

section Account

variable [Fintype ι]

/-- The live threads that have still to look at pool `p`. -/
def State.lookers (s : State ι) (p : PoolId) : Finset ι :=
  Finset.univ.filter fun u => (s.threads u).looking?.any fun x => x.2 == p && !s.isCancelled x.1

theorem State.mem_lookers {s : State ι} {p : PoolId} {u : ι} :
    u ∈ s.lookers p ↔ ∃ r, (s.threads u).looking? = some (r, p) ∧ s.isCancelled r = false := by
  simp [State.lookers, Option.any_eq_true]

/-- **The account of a pool.** -/
def Served (s : State ι) (p : PoolId) : Prop :=
  s.Waited p → (s.pools p).capacity ≤ (s.lookers p).card ∨ s.NotifyPending p

variable {s s' : State ι} {p : PoolId}

/-- **A step keeps the account** when it frees no place, keeps every pending notification and every
live looker, and puts nobody to sleep. -/
theorem Served.of_tame (h : Served s p) (hcap : (s'.pools p).capacity ≤ (s.pools p).capacity)
    (hpend : s.NotifyPending p → s'.NotifyPending p)
    (hlook : ∀ u r, (s.threads u).looking? = some (r, p) → s.isCancelled r = false →
      (s'.threads u).looking? = some (r, p) ∧ s'.isCancelled r = false)
    (hwait : ∀ u r, s'.threads u = .waiting r p → s.threads u = .waiting r p) : Served s' p := by
  rintro ⟨u, r, hu⟩
  rcases h ⟨u, r, hwait u r hu⟩ with hle | hn
  · have hsub : s.lookers p ⊆ s'.lookers p := by
      intro v hv
      obtain ⟨r', hv, hlive⟩ := State.mem_lookers.mp hv
      obtain ⟨hv', hlive'⟩ := hlook v r' hv hlive
      exact State.mem_lookers.mpr ⟨r', hv', hlive'⟩
    exact .inl ((hcap.trans hle).trans (Finset.card_le_card hsub))
  · exact .inr (hpend hn)

/-- A looker that takes a free place keeps the account. -/
theorem Served.of_taken [DecidableEq ι] (h : Served s p) {t : ι}
    (hcap : (s'.pools p).capacity + 1 ≤ (s.pools p).capacity)
    (hpend : s.NotifyPending p → s'.NotifyPending p)
    (hlook : ∀ u ≠ t, ∀ r, (s.threads u).looking? = some (r, p) → s.isCancelled r = false →
      (s'.threads u).looking? = some (r, p) ∧ s'.isCancelled r = false)
    (hwait : ∀ u r, s'.threads u = .waiting r p → s.threads u = .waiting r p) : Served s' p := by
  rintro ⟨u, r, hu⟩
  rcases h ⟨u, r, hwait u r hu⟩ with hle | hn
  · have hsub : (s.lookers p).erase t ⊆ s'.lookers p := by
      intro v hv
      obtain ⟨hvt, hv⟩ := Finset.mem_erase.mp hv
      obtain ⟨r', hv, hlive⟩ := State.mem_lookers.mp hv
      obtain ⟨hv', hlive'⟩ := hlook v hvt r' hv hlive
      exact State.mem_lookers.mpr ⟨r', hv', hlive'⟩
    have hcard := Finset.card_le_card hsub
    have herase := Finset.pred_card_le_card_erase (s := s.lookers p) (a := t)
    exact .inl (by omega)
  · exact .inr (hpend hn)

/-- **A freed place is accounted for by the sleeper its notification wakes**: a live one will look,
a cancelled one has a notification of all sleepers still to come. -/
theorem Served.of_freed (h : Served s p) {u : ι} {r : Registration}
    (hcap : (s'.pools p).capacity ≤ (s.pools p).capacity + 1)
    (hpend : s.NotifyPending p → s'.NotifyPending p)
    (hlook : ∀ v r, (s.threads v).looking? = some (r, p) → s.isCancelled r = false →
      (s'.threads v).looking? = some (r, p) ∧ s'.isCancelled r = false)
    (hu : s.threads u = .waiting r p) (hu' : s'.threads u = .notified r p)
    (hcancelled : s'.isCancelled r = true → s'.NotifyPending p) : Served s' p := by
  classical
  intro _
  rcases h ⟨u, r, hu⟩ with hle | hn
  · by_cases hr : s'.isCancelled r = true
    · exact .inr (hcancelled hr)
    · have hsub : insert u (s.lookers p) ⊆ s'.lookers p := by
        intro v hv
        rcases Finset.mem_insert.mp hv with rfl | hv
        · exact State.mem_lookers.mpr ⟨r, by rw [hu']; rfl, Bool.not_eq_true _ ▸ hr⟩
        · obtain ⟨r', hv, hlive⟩ := State.mem_lookers.mp hv
          obtain ⟨hv', hlive'⟩ := hlook v r' hv hlive
          exact State.mem_lookers.mpr ⟨r', hv', hlive'⟩
      have hnot : u ∉ s.lookers p := by
        rw [State.mem_lookers, hu]
        rintro ⟨r', hr', -⟩
        exact absurd hr' (by simp [Pc.looking?])
      have hcard := Finset.card_le_card hsub
      rw [Finset.card_insert_of_notMem hnot] at hcard
      exact .inl (by omega)
  · exact .inr (hpend hn)

end Account

/-! ## Steps that leave the registry alone -/

section Moves

variable {s s' : State ι} {p : PoolId}

theorem isCancelled_congr (h : s'.requests = s.requests) (r : Registration) :
    s'.isCancelled r = s.isCancelled r := by
  simp only [State.isCancelled, h]

theorem notifyPending_of_cancelling
    (h : ∀ c x, (s.threads c).cancelling? = some x → (s'.threads c).cancelling? = some x) :
    s.NotifyPending p → s'.NotifyPending p := by
  rintro ⟨c, id, n, hc⟩
  exact ⟨c, id, n, h c _ hc⟩

/-- A cancelled thread past its check has a notification of its pool to come. -/
theorem Armed.notifyPending (ha : Armed s) {u : ι} {r : Registration}
    (hu : (s.threads u).armed? = some (r, p)) (hc : s.isCancelled r = true) :
    s.NotifyPending p := by
  obtain ⟨id, hid, hc⟩ := List.any_eq_true.mp hc
  cases he : s.requests id with
  | none => simp [he] at hc
  | some e =>
    obtain ⟨c, hc⟩ := ha.pending u r p hu id hid e he (by simpa [he] using hc)
    exact ⟨c, id, r.serial, hc⟩

/-- A move of one thread that goes neither to sleep nor away from a pool it had to look at. -/
structure Pc.Tame (live : Registration → Prop) (p : PoolId) (pc pc' : Pc) : Prop where
  looking : ∀ r, pc.looking? = some (r, p) → live r → pc'.looking? = some (r, p)
  waiting : ∀ r, pc' = .waiting r p → pc = .waiting r p

theorem Pc.Tame.refl (live : Registration → Prop) (p : PoolId) (pc : Pc) : pc.Tame live p pc :=
  ⟨fun _ h _ => h, fun _ h => h⟩

theorem Pc.Tame.trans {live : Registration → Prop} {a b c : Pc} (h : a.Tame live p b)
    (h' : b.Tame live p c) : a.Tame live p c where
  looking r hr hl := h'.looking r (h.looking r hr hl) hl
  waiting r hr := h.waiting r (h'.waiting r hr)

theorem Pc.tame_wake (live : Registration → Prop) (p : PoolId) (pc : Pc) :
    pc.Tame live p pc.wake := by
  cases pc with
  | waiting r q => exact ⟨by simp [looking?], by simp [wake]⟩
  | _ => exact .refl _ _ _

/-- A thread outside the loop of `acquire` that does not go to sleep. -/
theorem Pc.Tame.outside {live : Registration → Prop} {pc pc' : Pc} (h : pc.looking? = none)
    (h' : ∀ r, pc' ≠ .waiting r p) : pc.Tame live p pc' :=
  ⟨fun r hr => absurd (h.symm.trans hr) (by simp), fun r hr => absurd hr (h' r)⟩

/-- A thread that moves inside the loop of `acquire` and does not go to sleep. -/
theorem Pc.Tame.inside {live : Registration → Prop} {pc pc' : Pc} (h : pc'.looking? = pc.looking?)
    (h' : ∀ r, pc' ≠ .waiting r p) : pc.Tame live p pc' :=
  ⟨fun _ hr _ => h ▸ hr, fun r hr => absurd hr (h' r)⟩

/-- The account under moves that leave the registry alone. -/
theorem Served.of_moves [Fintype ι] (h : Served s p) (hreq : s'.requests = s.requests)
    (hcap : (s'.pools p).capacity ≤ (s.pools p).capacity)
    (hcan : ∀ c, (s'.threads c).cancelling? = (s.threads c).cancelling?)
    (htame : ∀ u, (s.threads u).Tame (s.isCancelled · = false) p (s'.threads u)) : Served s' p := by
  refine h.of_tame hcap (notifyPending_of_cancelling fun c x hc => hcan c ▸ hc) ?_ ?_
  · intro u r hu hlive
    exact ⟨(htame u).looking r hu hlive, isCancelled_congr hreq r ▸ hlive⟩
  · exact fun u r => (htame u).waiting r

variable [DecidableEq ι] [Fintype ι]

/-- The account when one thread moves and its pool loses no more than it had. -/
theorem Served.goto (h : Served s p) {t : ι} {pc : Pc}
    (hcan : pc.cancelling? = (s.threads t).cancelling?)
    (htame : (s.threads t).Tame (s.isCancelled · = false) p pc) : Served (s.goto t pc) p :=
  h.of_moves rfl le_rfl
    (forall_goto (P := fun a b => b.cancelling? = a.cancelling?) (fun _ => rfl) hcan)
    (forall_goto (Pc.Tame.refl _ p) htame)

omit [DecidableEq ι] [Fintype ι] in
theorem not_waited_notifyAll (q : PoolId) : ¬(s.notifyAll q).Waited q := by
  rintro ⟨t, r, ht⟩
  dsimp only [State.notifyAll] at ht
  split at ht
  · cases hpc : s.threads t <;> simp_all [Pc.wake, Pc.waitsOn]
  · rename_i hw
    exact hw (by simp [ht, Pc.waitsOn])

omit [DecidableEq ι] in
theorem Served.notifyAll (h : Served s p) (q : PoolId) : Served (s.notifyAll q) p := by
  refine h.of_moves rfl le_rfl (fun c => ((keeps_notifyAll s q).threads c).cancelling) fun u => ?_
  dsimp only [State.notifyAll]
  split
  · exact Pc.tame_wake _ p _
  · exact Pc.Tame.refl _ p _

omit [DecidableEq ι] [Fintype ι] in
theorem capacity_setPool_of_ne {q : PoolId} (pool : SessionPool) (hq : p ≠ q) :
    ((s.setPool q pool).pools p).capacity = (s.pools p).capacity := by
  simp only [State.setPool, Function.update_of_ne hq]

omit [DecidableEq ι] [Fintype ι] in
theorem capacity_setPool_self (pool : SessionPool) :
    ((s.setPool p pool).pools p).capacity = pool.capacity := by
  simp only [State.setPool, Function.update_self]

omit [DecidableEq ι] [Fintype ι] in
/-- A thread about to look at `q` has no other pool to look at. -/
theorem Pc.Tame.of_checked {live : Registration → Prop} {r : Registration} {q : PoolId} {pc : Pc}
    (hpq : p ≠ q) (h' : ∀ r, pc ≠ .waiting r p) : (Pc.checked r q).Tame live p pc := by
  refine ⟨fun r' hr' _ => ?_, fun r' hr' => absurd hr' (h' r')⟩
  exact absurd (Prod.mk.inj (Option.some.inj hr')).2.symm hpq

/-- The thread that looks takes a place of its pool. -/
theorem Served.take (h : Served s p) {t : ι} {r : Registration} {q : PoolId}
    (ht : s.threads t = .checked r q) {pool : SessionPool} {pc : Pc}
    (hcap : pool.capacity + 1 ≤ (s.pools q).capacity) (hcan : pc.cancelling? = none)
    (hpc : ∀ r p, pc ≠ .waiting r p) : Served ((s.setPool q pool).goto t pc) p := by
  have hcan' : ∀ c, (((s.setPool q pool).goto t pc).threads c).cancelling? =
      (s.threads c).cancelling? :=
    forall_goto (s := s) (P := fun a b => b.cancelling? = a.cancelling?) (fun _ => rfl)
      (by rw [hcan, ht]; rfl)
  have hother : ∀ u ≠ t, ((s.setPool q pool).goto t pc).threads u = s.threads u := by
    intro u hut
    simp only [State.goto, State.setPool, Function.update_of_ne hut]
  by_cases hpq : p = q
  · subst hpq
    refine h.of_taken (t := t) ?_ (notifyPending_of_cancelling fun c x hc => hcan' c ▸ hc) ?_ ?_
    · exact (capacity_setPool_self pool).symm ▸ hcap
    · intro u hut r' hu hlive
      exact ⟨(hother u hut).symm ▸ hu, hlive⟩
    · intro u r' hu
      by_cases hut : u = t
      · subst hut
        exact absurd ((Function.update_self ..).symm.trans hu) (hpc r' p)
      · exact hother u hut ▸ hu
  · refine h.of_moves rfl (capacity_setPool_of_ne pool hpq).le hcan' ?_
    exact forall_goto (s := s) (Pc.Tame.refl _ p) (ht ▸ .of_checked hpq fun r => hpc r p)

/-- The thread that looks finds no place and goes to sleep. -/
theorem Served.sleep (h : Served s p) {t : ι} {r : Registration} {q : PoolId}
    (ht : s.threads t = .checked r q) (hcap : (s.pools q).capacity = 0) :
    Served (s.goto t (.waiting r q)) p := by
  by_cases hpq : p = q
  · subst hpq
    exact fun _ => .inl (hcap.le.trans (Nat.zero_le _))
  · refine h.goto (by rw [ht]; rfl) (ht ▸ .of_checked hpq fun r' hr' => ?_)
    exact hpq (Pc.waiting.inj hr').2.symm

omit [DecidableEq ι] in
/-- Replacing a pool by one with no more places. -/
theorem Served.setPool (h : Served s p) {q : PoolId} {pool : SessionPool}
    (hcap : pool.capacity ≤ (s.pools q).capacity) : Served (s.setPool q pool) p := by
  refine h.of_moves rfl ?_ (fun _ => rfl) fun u => Pc.Tame.refl _ p _
  by_cases hpq : p = q
  · subst hpq
    exact (capacity_setPool_self pool).symm ▸ hcap
  · exact (capacity_setPool_of_ne pool hpq).le

/-- The locked section of `acquire`: a place is taken, or there is none. -/
theorem Served.look (h : Served s p) {t : ι} {r : Registration} {q : PoolId}
    (ht : s.threads t = .checked r q) : Served (s.look t r q) p := by
  dsimp only [State.look]
  split
  · rename_i session rest hidle
    refine h.take ht ?_ rfl (by simp)
    simp only [SessionPool.capacity, hidle, List.length_cons]
    omega
  · rename_i hidle
    split
    · refine h.take ht ?_ rfl (by simp)
      simp only [SessionPool.capacity]
      omega
    · refine h.sleep ht ?_
      simp only [SessionPool.capacity, hidle, List.length_nil]
      omega

/-- A release: the pool gains at most one place, and one sleeper is notified. -/
theorem Served.release (h : Served s p) (ha : Armed s) {t : ι} {q : PoolId} {pool : SessionPool}
    {pc : Pc} {woken : Option ι} (hlooking : (s.threads t).looking? = none)
    (hcan : (s.threads t).cancelling? = none) (hcan' : pc.cancelling? = none)
    (hpc : ∀ r p, pc ≠ .waiting r p) (hcap : pool.capacity ≤ (s.pools q).capacity + 1)
    (hs : ((s.setPool q pool).goto t pc).notifyOne q woken = some s') : Served s' p := by
  -- The state before the notification: only the capacity of `q` is out of account.
  set s₁ := (s.setPool q pool).goto t pc with hs₁
  have hcan₁ : ∀ c, (s₁.threads c).cancelling? = (s.threads c).cancelling? :=
    forall_goto (s := s) (P := fun a b => b.cancelling? = a.cancelling?) (fun _ => rfl)
      (by rw [hcan, hcan'])
  have htame : ∀ u, (s.threads u).Tame (s.isCancelled · = false) p (s₁.threads u) :=
    forall_goto (s := s) (Pc.Tame.refl _ p) (.outside hlooking fun r => hpc r p)
  cases woken with
  | none =>
    simp only [State.notifyOne, Option.ite_none_right_eq_some, Option.some.injEq] at hs
    obtain ⟨hnone, rfl⟩ := hs
    by_cases hpq : p = q
    · subst hpq
      rintro ⟨u, r, hu⟩
      exact absurd (hnone u) (by simp [hu, Pc.waitsOn])
    · exact h.of_moves rfl (capacity_setPool_of_ne pool hpq).le hcan₁ htame
  | some u =>
    simp only [State.notifyOne, Option.ite_none_right_eq_some, Option.some.injEq] at hs
    obtain ⟨hwaits, rfl⟩ := hs
    have hcan₂ : ∀ c, ((s₁.goto u (s₁.threads u).wake).threads c).cancelling? =
        (s.threads c).cancelling? := fun c =>
      (forall_goto (P := fun a b => b.cancelling? = a.cancelling?) (fun _ => rfl)
        (Pc.keeps_wake _).cancelling c).trans (hcan₁ c)
    have htame₂ : ∀ v, (s.threads v).Tame (s.isCancelled · = false) p
        ((s₁.goto u (s₁.threads u).wake).threads v) := fun v =>
      (htame v).trans (forall_goto (Pc.Tame.refl _ p) (Pc.tame_wake _ p _) v)
    by_cases hpq : p = q
    · subst hpq
      obtain ⟨r, hu⟩ : ∃ r, s₁.threads u = .waiting r p := by
        cases hpc : s₁.threads u <;> simp_all [Pc.waitsOn]
      have hu₀ := (htame u).waiting r hu
      have hpend : s.NotifyPending p → (s₁.goto u (s₁.threads u).wake).NotifyPending p :=
        notifyPending_of_cancelling fun c x hc => (hcan₂ c).trans hc
      refine h.of_freed (u := u) (r := r) ?_ hpend ?_ hu₀ ?_ ?_
      · exact (capacity_setPool_self (s := s) pool).symm ▸ hcap
      · intro v r' hv hlive
        exact ⟨(htame₂ v).looking r' hv hlive, hlive⟩
      · rw [hu]
        simp only [State.goto, Function.update_self, Pc.wake]
      · exact fun hc => hpend (ha.notifyPending (by rw [hu₀]; rfl) hc)
    · exact h.of_moves rfl (capacity_setPool_of_ne pool hpq).le hcan₂ htame₂

end Moves

/-! ## Steps that change the registry -/

section Registry

variable {s s' : State ι} {p : PoolId}

theorem Pc.attached_of_looking {pc : Pc} {x : Registration × PoolId} (h : pc.looking? = some x) :
    pc.attached? = some x := by
  cases pc <;> simp_all [looking?, attached?]

theorem Pc.registration_of_looking {pc : Pc} {r : Registration} (h : pc.looking? = some (r, p)) :
    pc.registration? = some r :=
  registration_of_attached (attached_of_looking h)

/-- `is_cancelled` reads only the flags of the registration's own entries. -/
theorem isCancelled_of_flags {r : Registration}
    (h : ∀ id ∈ r.requestIds, (s'.requests id).map (·.cancelled) =
      (s.requests id).map (·.cancelled)) : s'.isCancelled r = s.isCancelled r := by
  rw [Bool.eq_iff_iff, State.isCancelled, State.isCancelled, List.any_eq_true, List.any_eq_true]
  constructor
  · rintro ⟨id, hid, hc⟩
    exact ⟨id, hid, h id hid ▸ hc⟩
  · rintro ⟨id, hid, hc⟩
    exact ⟨id, hid, (h id hid).symm ▸ hc⟩

variable [Fintype ι]

/-- The account when the registry changes but the flags a looker reads do not. -/
theorem Served.of_flags (h : Served s p) (hpools : s'.pools = s.pools)
    (hcan : ∀ c x, (s.threads c).cancelling? = some x → (s'.threads c).cancelling? = some x)
    (hflags : ∀ u r, (s.threads u).looking? = some (r, p) → ∀ id ∈ r.requestIds,
      (s'.requests id).map (·.cancelled) = (s.requests id).map (·.cancelled))
    (htame : ∀ u, (s.threads u).Tame (s.isCancelled · = false) p (s'.threads u)) : Served s' p := by
  refine h.of_tame (hpools ▸ le_rfl) (notifyPending_of_cancelling hcan) ?_
    fun u r => (htame u).waiting r
  intro u r hu hlive
  exact ⟨(htame u).looking r hu hlive, (isCancelled_of_flags (hflags u r hu)).trans hlive⟩

variable [DecidableEq ι]

theorem Served.register (h : Served s p) (hr : Kapsl.Ort.Registry s) {t : ι}
    (ht : s.threads t = .idle) (ids : List RequestId) : Served (s.register t ids) p := by
  dsimp only [State.register]
  split
  · exact h
  rename_i hnew
  simp only [not_or, not_not, not_exists, not_and, Bool.not_eq_true, Option.isSome_eq_false_iff,
    Option.isNone_iff_eq_none] at hnew
  refine h.of_flags rfl ?_ ?_ ?_
  · exact fun c x hc => update_eq_some (by rw [ht]; rfl) hc
  · intro u r hu id hid
    simp only [if_neg (hr.not_mem_of_new hnew.2.2 (Pc.registration_of_looking hu) hid)]
  · exact forall_goto (s := s) (Pc.Tame.refl _ p) (ht ▸ .outside rfl (by simp))

theorem Served.dropRegistration (h : Served s p) (hr : Kapsl.Ort.Registry s) {t : ι}
    {r : Registration} (ht : s.threads t = .registered r) : Served (s.dropRegistration t r) p := by
  have hrt : (s.threads t).registration? = some r := by rw [ht]; rfl
  refine h.of_flags rfl ?_ ?_ ?_
  · exact fun c x hc => update_eq_some (by rw [ht]; rfl) hc
  · intro u r' hu id hid
    have hne : id ∉ r.requestIds := by
      intro hid'
      obtain rfl := hr.eq_of_mem hrt (Pc.registration_of_looking hu) hid' hid
      rw [ht] at hu
      exact absurd hu (by simp [Pc.looking?])
    simp only [State.dropRegistration, if_neg hne]
  · exact forall_goto (s := s) (Pc.Tame.refl _ p) (ht ▸ .outside rfl (by simp))

omit [Fintype ι] [DecidableEq ι] in
theorem cancelled_setTerminator (r : Registration) (τ : RunTerminator) (id : RequestId) :
    ((s.setTerminator r τ).requests id).map (·.cancelled) =
      (s.requests id).map (·.cancelled) := by
  dsimp only [State.setTerminator]
  split
  · rw [Option.map_map]
    rfl
  · rfl

theorem Served.attach (h : Served s p) {t : ι} {r : Registration} {τ : RunTerminator} {pc : Pc}
    (hlooking : (s.threads t).looking? = none) (hcan : (s.threads t).cancelling? = none)
    (hpc : ∀ r, pc ≠ .waiting r p) : Served ((s.setTerminator r τ).goto t pc) p := by
  refine h.of_flags rfl ?_ ?_ ?_
  · exact fun c x hc => update_eq_some hcan hc
  · exact fun u r' _ id _ => cancelled_setTerminator r τ id
  · exact forall_goto (s := s.setTerminator r τ) (Pc.Tame.refl _ p) (.outside hlooking hpc)

/-- A `cancel` that marks a live looker has the notification of its pool pending. -/
theorem Served.cancel (h : Served s p) (hr : Kapsl.Ort.Registry s) {t : ι}
    (ht : s.threads t = .idle) (id : RequestId) : Served (s.cancel t id) p := by
  have htc : (s.threads t).cancelling? = none := by rw [ht]; rfl
  dsimp only [State.cancel]
  split
  · exact h
  rename_i e he
  split
  · rename_i hτ
    refine h.of_flags rfl (fun c x hc => hc) ?_ fun u => Pc.Tame.refl _ p _
    intro u r hu id₁ hid
    have hne : id₁ ≠ id := by
      rintro rfl
      have hterm := hr.attached u r p (Pc.attached_of_looking hu) id₁ hid e he
      rw [hτ] at hterm
      exact absurd hterm (by simp)
    simp only [Function.update_of_ne hne]
  · rename_i τ hτ
    by_cases hlooker : ∃ u r, (s.threads u).looking? = some (r, p) ∧ id ∈ r.requestIds
    · obtain ⟨u, r, hu, hid⟩ := hlooker
      have hterm := hr.attached u r p (Pc.attached_of_looking hu) id hid e he
      rw [hτ] at hterm
      obtain rfl := Option.some.inj hterm
      exact fun _ => .inr ⟨t, id, e.serial, by simp only [Function.update_self, Pc.cancelling?]⟩
    · refine h.of_flags rfl ?_ ?_ ?_
      · exact fun c x hc => update_eq_some htc hc
      · intro u r hu id₁ hid
        have hne : id₁ ≠ id := by
          rintro rfl
          exact hlooker ⟨u, r, hu, hid⟩
        simp only [Function.update_of_ne hne]
      · exact forall_goto (s := s) (Pc.Tame.refl _ p) (ht ▸ .outside rfl (by simp))

omit [Fintype ι] [DecidableEq ι] in
theorem cancelled_markReturned (id : RequestId) (n : ℕ) (id₁ : RequestId) :
    ((s.markReturned id n).requests id₁).map (·.cancelled) =
      (s.requests id₁).map (·.cancelled) := by
  dsimp only [State.markReturned]
  split
  · cases s.requests id₁ with
    | none => rfl
    | some e => by_cases hn : e.serial = n <;> simp [hn]
  · rfl

/-- The call of a terminator leaves nobody asleep on the pool it notifies, and takes no other
notification away. -/
theorem Served.terminate (h : Served s p) {t : ι} {id : RequestId} {n : ℕ} {τ : RunTerminator}
    (ht : s.threads t = .cancelling id n τ) :
    Served (((s.terminate τ).markReturned id n).goto t .idle) p := by
  have ht₁ : (s.terminate τ).threads t = .cancelling id n τ := by
    cases τ with
    | sessionWait q => simp [State.terminate, State.notifyAll, ht, Pc.waitsOn]
    | runOptions => exact ht
  have htame : ∀ u, ((s.terminate τ).threads u).Tame ((s.terminate τ).isCancelled · = false) p
      ((((s.terminate τ).markReturned id n).goto t .idle).threads u) :=
    forall_goto (s := (s.terminate τ).markReturned id n) (Pc.Tame.refl _ p)
      (.outside (by rw [State.markReturned, ht₁]; rfl) (by simp))
  have hserved : Served (s.terminate τ) p := by
    cases τ with
    | sessionWait q => exact h.notifyAll q
    | runOptions => exact h
  by_cases hτ : τ = .sessionWait p
  · subst hτ
    rintro ⟨u, r, hu⟩
    exact absurd ⟨u, r, (htame u).waiting r hu⟩ (not_waited_notifyAll p)
  · refine hserved.of_tame le_rfl ?_ ?_ fun u r => (htame u).waiting r
    · rintro ⟨c, id₁, n₁, hc⟩
      have hct : c ≠ t := by
        rintro rfl
        rw [ht₁] at hc
        exact hτ (Prod.mk.inj (Prod.mk.inj (Option.some.inj hc)).2).2
      exact ⟨c, id₁, n₁, by
        simpa only [State.goto, State.markReturned, Function.update_of_ne hct] using hc⟩
    · intro u r hu hlive
      refine ⟨(htame u).looking r hu hlive, (isCancelled_of_flags fun id₁ _ => ?_).trans hlive⟩
      exact cancelled_markReturned id n id₁

end Registry

/-! ## Whole runs -/

section Runs

variable [DecidableEq ι] [Fintype ι]

omit [DecidableEq ι] [Fintype ι] in
/-- Returning a session makes one more place. -/
theorem capacity_pushIdle (pool : SessionPool) (session : Session) :
    SessionPool.capacity { pool with idle := session :: pool.idle } = pool.capacity + 1 := by
  simp only [SessionPool.capacity, List.length_cons]
  omega

/-- Releasing a reserved slot makes at most one more place. -/
theorem capacity_releaseSlot (pool : SessionPool) :
    SessionPool.capacity { pool with total := pool.total - 1 } ≤ pool.capacity + 1 := by
  simp only [SessionPool.capacity]
  omega

/-- **Every step keeps the account of every pool.** -/
theorem Served.step {s s' : State ι} {a : Act ι} {p : PoolId} (h : Served s p) (hw : WakeInv s)
    (hs : step s a = some s') : Served s' p := by
  cases Step.of_step hs with
  | register ids ht => exact h.register hw.registry ht ids
  | dropRegistration ht => exact h.dropRegistration hw.registry ht
  | refused => exact h
  | beginInfer q ht => exact h.goto (by rw [ht]; rfl) (ht ▸ .outside rfl (by simp))
  | attachCancelled ht => exact h.attach (by rw [ht]; rfl) (by rw [ht]; rfl) (by simp)
  | attachWait ht => exact h.attach (by rw [ht]; rfl) (by rw [ht]; rfl) (by simp)
  | @terminateAttached t r q ht =>
    have ht' : (s.notifyAll q).threads t = .terminating r q := by
      simp [State.notifyAll, ht, Pc.waitsOn]
    exact (h.notifyAll q).goto (by rw [ht']; rfl) (ht' ▸ .outside rfl (by simp))
  | leave ht hcancelled =>
    refine h.goto (by rw [ht]; rfl) (ht ▸ ⟨fun r' hr' hlive => ?_, by simp⟩)
    obtain ⟨rfl, rfl⟩ := Prod.mk.inj (Option.some.inj hr')
    exact absurd (hcancelled.symm.trans hlive) (by simp)
  | pass ht => exact h.goto (by rw [ht]; rfl) (ht ▸ .inside rfl (by simp))
  | look ht => exact h.look ht
  | spuriousWakeup ht => exact h.goto (by rw [ht]; rfl) (ht ▸ .outside rfl (by simp))
  | relock ht => exact h.goto (by rw [ht]; rfl) (ht ▸ .inside rfl (by simp))
  | @created t r q ht =>
    have hcount : Served (s.countCreated q) p := h.setPool le_rfl
    have ht' : (s.countCreated q).threads t = .creating r q := ht
    exact hcount.goto (by rw [ht']; rfl) (ht' ▸ .outside rfl (by simp))
  | createFailed ht hs =>
    exact h.release hw.armed (by rw [ht]; rfl) (by rw [ht]; rfl) rfl (by simp)
      (capacity_releaseSlot _) hs
  | @attachRun t r q session ht =>
    have hatt : Served ((s.setTerminator r .runOptions).goto t (s.threads t)) p :=
      h.attach (by rw [ht]; rfl) (by rw [ht]; rfl) (by rw [ht]; simp)
    rwa [State.goto, State.setTerminator, Function.update_eq_self] at hatt
  | dropSession ht hs =>
    exact h.release hw.armed (by rw [ht]; rfl) (by rw [ht]; rfl) rfl (by simp)
      (capacity_pushIdle _ _).le hs
  | returned ht => exact h.goto (by rw [ht]; rfl) (ht ▸ .outside rfl (by simp))
  | full => exact h
  | reserveSlot q ht _ =>
    refine Served.goto (h.setPool ?_) ?_ ?_
    · simp only [SessionPool.capacity]
      omega
    · rw [State.setPool, ht]
      rfl
    · rw [State.setPool, ht]
      exact .outside rfl (by simp)
  | @addReservedSession t q woken s' ht hs =>
    have hcount : Served (s.countCreated q) p := h.setPool le_rfl
    have hcount' : WakeInv (s.countCreated q) := hw.of_keeps (keeps_setPool s q _)
    have ht' : (s.countCreated q).threads t = .reserved q := ht
    exact hcount.release hcount'.armed (by rw [ht']; rfl) (by rw [ht']; rfl) rfl (by simp)
      (capacity_pushIdle _ _).le hs
  | releaseReservedSlot ht hs =>
    exact h.release hw.armed (by rw [ht]; rfl) (by rw [ht]; rfl) rfl (by simp)
      (capacity_releaseSlot _) hs
  | cancel id ht => exact h.cancel hw.registry ht id
  | terminate ht => exact h.terminate ht

/-- The account of every pool, along every run without a notification inside a window. -/
theorem served_of_reach {s : State ι} (h : (lts ι).ReachBy NotInWindow s) :
    WakeInv s ∧ ∀ p, Served s p := by
  refine h.invariant (I := fun s => WakeInv s ∧ ∀ p, Served s p) ?_ ?_
  · rintro s ⟨maxSessions, rfl⟩
    refine ⟨wakeInv_initial maxSessions, fun p => ?_⟩
    rintro ⟨t, r, ht⟩
    exact absurd ht (by simp [State.initial])
  · rintro s a s' ⟨hw, hserved⟩ hok hs
    exact ⟨hw.step hok hs, fun p => (hserved p).step hw hs⟩

/-- **No stranded waiter outside the window** — in every run in which no `cancel` notifies while its
request's thread stands between the check and the lock, a live sleeper beside a free place has a
wakeup under way. -/
theorem no_stranded {s : State ι} (h : (lts ι).ReachBy NotInWindow s) : ¬Stranded s := by
  rintro ⟨t, r, p, ht, -, hfree, hnolooker, hnopending⟩
  have hcap : 0 < (s.pools p).capacity := by
    rcases hfree with hidle | hslot
    · exact Nat.add_pos_left (List.length_pos_iff.mpr hidle) _
    · exact Nat.add_pos_right _ (Nat.sub_pos_of_lt hslot)
  rcases (served_of_reach h).2 p ⟨t, r, ht⟩ with hle | ⟨c, id, n, hc⟩
  · obtain ⟨u, hu⟩ := Finset.card_pos.mp (hcap.trans_le hle)
    obtain ⟨r', hu, -⟩ := State.mem_lookers.mp hu
    exact hnolooker u r' hu
  · exact hnopending c id n hc

/-- One pool of one session, held by thread 0; threads 1 and 3 sleep on it; the session comes back
and its notification wakes thread 1. -/
def notifiedSleeper : List (Act (Fin 4)) :=
  [.register 0 [7], .beginInfer 0 0, .attachWait 0, .checkCancelled 0, .look 0,
   .register 1 [8], .beginInfer 1 0, .attachWait 1, .checkCancelled 1, .look 1,
   .register 3 [9], .beginInfer 3 0, .attachWait 3, .checkCancelled 3, .look 3,
   .dropSession 0 (some 1)]

theorem no_stranded_notifiedSleeper :
    ∃ s, (lts (Fin 4)).exec (State.initial fun _ => 1) notifiedSleeper = some s ∧
      s.threads 3 = .waiting ⟨2, [9]⟩ 0 ∧ (s.pools 0).idle = [0] ∧ ¬Stranded s := by
  refine ⟨_, rfl, rfl, rfl, no_stranded ?_⟩
  refine Lts.reachBy_of_exec (.init ⟨fun _ => 1, rfl⟩) notifiedSleeper ?_ rfl
  exact Lts.admits_of_forall _ _ (by simp [notifiedSleeper, NotInWindow])

/-- The `cancel` of thread 1's request falls inside its window, thread 3 sleeps too, and the one
notification of the returned session goes to thread 1, which leaves with an error. -/
def wastedNotification : List (Act (Fin 4)) :=
  [.register 0 [7], .beginInfer 0 0, .attachWait 0, .checkCancelled 0, .look 0,
   .register 1 [8], .beginInfer 1 0, .attachWait 1, .checkCancelled 1, .cancel 2 8, .terminate 2,
   .look 1,
   .register 3 [9], .beginInfer 3 0, .attachWait 3, .checkCancelled 3, .look 3,
   .dropSession 0 (some 1), .relock 1, .checkCancelled 1]

theorem exec_wastedNotification :
    ∃ s, (lts (Fin 4)).exec (State.initial fun _ => 1) wastedNotification = some s ∧
      s.threads 3 = .waiting ⟨2, [9]⟩ 0 ∧ s.isCancelled ⟨2, [9]⟩ = false ∧
      (s.pools 0).idle = [0] ∧
      ∀ u, (s.threads u).looking? = none ∧ (s.threads u).cancelling? = none := by
  refine ⟨_, rfl, rfl, rfl, rfl, fun u => ?_⟩
  fin_cases u <;> exact ⟨rfl, rfl⟩

/-- **A live waiter can be stranded beside an idle session.** -/
theorem stranded_wastedNotification : ¬∀ s, (lts (Fin 4)).Reach s → ¬Stranded s := by
  intro hall
  obtain ⟨s, hs, ht, hlive, hidle, hnone⟩ := exec_wastedNotification
  refine hall s (Lts.reach_of_exec (.init ⟨fun _ => 1, rfl⟩) wastedNotification hs) ?_
  refine ⟨3, ⟨2, [9]⟩, 0, ht, hlive, .inl (by simp [hidle]), ?_, ?_⟩
  · intro u r'
    simp [(hnone u).1]
  · intro c id n
    simp [(hnone c).2]

end Runs

end Kapsl.Ort
