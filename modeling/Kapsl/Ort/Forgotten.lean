import Kapsl.Ort.Governed

/-!
# Ort/Forgotten — which allocations the allocator loses track of

`free_scoped` puts an allocation back when its host refuses to free it.  `unregister_client` and the
rejection of a grant ignore the status of the same call, and what the host still holds is then in no
map.

* `nothing_forgotten` — what was recorded or refused stays tracked until a `free` succeeds, in every
  run whose hosts free all that a leaving client held and every rejected grant.
* `unregister_forgets` — a client leaves, its host refuses one `free`, and the allocation is lost.
* `forgotten_of_unregister`, `forgotten_of_reject` — every step against the condition loses one.
-/

namespace Kapsl.Ort.Allocator

open Ledger (Kept Answerable)

variable {Host ι β : Type*}

/-- **The condition on the hosts**: they free the rejected grants, and all that a leaving client
held. -/
def Heeded (abi : Abi) (s : State ι β Host) : Act ι β Host → Prop
  | .allocate t d size answer freeStatus => ∀ inner, s.registry d = some inner →
    ∀ c, s.context t = some c → c.deviceId = d → (inner.client? c.client).isSome →
    ∀ a, answer = .ok a → (a.valid abi size = false ∨ (inner.live? a.devicePtr).isSome) →
    freeStatus = abi.statusOk
  | .unregister d client _ status => ∀ inner, s.registry d = some inner →
    ∀ e ∈ inner.live, e.client = client → status e.pointer = abi.statusOk
  | _ => True

section Kept

variable {s s' : State ι β Host} {d : Int32} {inner inner' : AllocatorInner Host}
  {events : List (Event Host)} {next : ℕ}

theorem answerable_cons {event : Event Host} {n : ℕ} : Answerable (event :: events) n ↔
    (event = .record n ∨ ∃ x, event = .free n x false) ∨ Answerable events n := by
  simp only [Answerable, List.mem_cons, exists_or, eq_comm]
  tauto

/-- What was live and is not touched is live. -/
theorem tracked_commit (hd : s.registry d = some inner) {n : ℕ} {x : Host × Allocation}
    (hx : (n, x) ∈ s.tracked) : (n, x) ∈ (s.commit d inner' events next).tracked ∨
      ∃ e ∈ inner.live, e ∉ inner'.live ∧ n = e.serial ∧ x = e.granted := by
  obtain ⟨d', e, ⟨inner'', hinner, hmem⟩, heq⟩ := hx
  obtain ⟨rfl, rfl⟩ := Prod.mk.inj heq
  by_cases hne : d' = d
  · subst hne
    obtain rfl := Option.some.inj (hd.symm.trans hinner)
    by_cases hlive : e ∈ inner'.live
    · exact .inl ⟨d', e, live_commit.mpr (.inl ⟨rfl, hlive⟩), rfl⟩
    · exact .inr ⟨e, hmem, hlive, rfl, rfl⟩
  · exact .inl ⟨d', e, live_commit.mpr (.inr ⟨hne, inner'', hinner, hmem⟩), rfl⟩

/-- What `live.remove` takes out is the one entry under its key. -/
theorem Governed.eq_of_gone (h : Governed s) (hd : s.registry d = some inner) {pointer : UInt64}
    {e e' : LiveAllocation Host} (he : inner.live? pointer = some e) (he' : e' ∈ inner.live)
    (hgone : e' ∉ (inner.removeLive pointer).live) : e' = e := by
  have hpointer : e'.pointer = e.pointer := by
    rw [(mem_of_live? he).2]
    by_contra hne
    exact hgone (mem_removeLive.mpr ⟨he', hne⟩)
  exact (h.ok d inner hd).eq_of_pointer he' (mem_of_live? he).1 hpointer

/-- **A freed allocation may leave the map.** -/
theorem kept_release (hk : Kept s.tracked s.events) (h : Governed s)
    (hd : s.registry d = some inner) {pointer : UInt64} {e : LiveAllocation Host}
    (he : inner.live? pointer = some e) :
    Kept (s.commit d (inner.removeLive pointer) (.free e.serial e.granted true :: s.events)
      next).tracked (.free e.serial e.granted true :: s.events) := by
  refine hk.step (fun n hn => ?_) (fun n x hx => ?_) (List.subset_cons_self _ _)
  · rcases answerable_cons.mp hn with hnew | hold
    · exact absurd hnew (by simp)
    · exact .inl hold
  · refine (tracked_commit hd hx).imp_right ?_
    rintro ⟨e', he', hgone, rfl, rfl⟩
    obtain rfl := h.eq_of_gone hd he he' hgone
    exact List.mem_cons_self

/-- **A refused allocation stays in the map.** -/
theorem kept_refuse (hk : Kept s.tracked s.events) (h : Governed s)
    (hd : s.registry d = some inner) {pointer : UInt64} {e : LiveAllocation Host}
    (he : inner.live? pointer = some e) :
    Kept (s.commit d { inner.removeLive pointer with
        live := e :: (inner.removeLive pointer).live }
      (.free e.serial e.granted false :: s.events) next).tracked
      (.free e.serial e.granted false :: s.events) := by
  refine hk.step (fun n hn => ?_) (fun n x hx => ?_) (List.subset_cons_self _ _)
  · rcases answerable_cons.mp hn with hnew | hold
    · obtain ⟨x, hx⟩ := hnew.resolve_left (by simp)
      obtain ⟨rfl, -⟩ := Ledger.Event.free.inj hx
      refine .inr (.inl ⟨e.granted, d, e, ?_, rfl⟩)
      exact live_commit.mpr (.inl ⟨rfl, List.mem_cons_self⟩)
    · exact .inl hold
  · refine (tracked_commit hd hx).imp_right ?_
    rintro ⟨e', he', hgone, rfl, rfl⟩
    obtain rfl := h.eq_of_gone hd he he' fun hmem => hgone (List.mem_cons_of_mem _ hmem)
    exact absurd List.mem_cons_self hgone

/-- A section that leaves the map as it is and is asked for nothing new. -/
theorem kept_same (hk : Kept s.tracked s.events) (hd : s.registry d = some inner)
    (hlive : ∀ e ∈ inner.live, e ∈ inner'.live) (hsub : s.events ⊆ events)
    (hnew : ∀ n, Answerable events n → Answerable s.events n) :
    Kept (s.commit d inner' events next).tracked events := by
  refine hk.step (fun n hn => .inl (hnew n hn)) (fun n x hx => .inl ?_) hsub
  refine (tracked_commit hd hx).resolve_right ?_
  rintro ⟨e, he, hgone, -⟩
  exact hgone (hlive e he)

/-- **`allocate_scoped` forgets nothing** if a rejected grant is freed. -/
theorem kept_allocate (hk : Kept s.tracked s.events) (hd : s.registry d = some inner) {abi : Abi}
    {context : Option Context} {size : UInt64} {answer : Except Int32 Allocation}
    {freeStatus : Int32} {outcome : Outcome Host}
    (hspec : Allocates abi context d inner size answer freeStatus s.nextGrant outcome)
    (hfreed : ∀ c, context = some c → c.deviceId = d → (inner.client? c.client).isSome →
      ∀ a, answer = .ok a → (a.valid abi size = false ∨ (inner.live? a.devicePtr).isSome) →
      freeStatus = abi.statusOk) :
    Kept (s.commit d outcome.inner (outcome.events ++ s.events) next).tracked
      (outcome.events ++ s.events) := by
  have hsub : s.events ⊆ outcome.events ++ s.events := List.subset_append_right _ _
  cases hspec with
  | refused => exact kept_same hk hd (fun e he => he) hsub fun n hn => hn
  | failed =>
    refine kept_same hk hd (fun e he => he) hsub fun n hn => ?_
    simpa [answerable_cons] using hn
  | rejected hc hdevice hclient hanswer hbad =>
    have hok := hfreed _ hc hdevice (by simp [hclient]) _ hanswer hbad
    refine kept_same hk hd (fun e he => he) hsub fun n hn => ?_
    simpa [answerable_cons, hok] using hn
  | @tracked c callbacks a =>
    refine hk.step (fun n hn => ?_) (fun n x hx => .inl ?_) hsub
    · rcases answerable_cons.mp hn with hnew | hold
      · obtain rfl : s.nextGrant = n := by simpa using hnew
        refine .inr (.inl ⟨(callbacks, a), d, ⟨a.devicePtr, a, callbacks, c.client, s.nextGrant⟩,
          ?_, rfl⟩)
        exact live_commit.mpr (.inl ⟨rfl, List.mem_cons_self⟩)
      · exact .inl (by simpa [answerable_cons] using hold)
    · refine (tracked_commit hd hx).resolve_right ?_
      rintro ⟨e, he, hgone, -⟩
      exact hgone (List.mem_cons_of_mem _ he)

/-- **`free_scoped` forgets nothing**, whatever the host answers. -/
theorem kept_free (hk : Kept s.tracked s.events) (h : Governed s) (hd : s.registry d = some inner)
    (abi : Abi) (pointer : UInt64) (status : Int32) :
    Kept (s.commit d (freeScoped abi inner pointer status).1
      ((freeScoped abi inner pointer status).2 ++ s.events) next).tracked
      ((freeScoped abi inner pointer status).2 ++ s.events) := by
  rw [freeScoped]
  split
  · exact kept_same hk hd (fun e he => he) (fun x hx => hx) fun n hn => hn
  · rename_i e he
    by_cases hstatus : (status == abi.statusOk) = true
    · simp only [hstatus, if_true, List.cons_append, List.nil_append]
      exact kept_release hk h hd he
    · rw [Bool.not_eq_true] at hstatus
      simp only [hstatus, Bool.false_eq_true, if_false, List.cons_append, List.nil_append]
      exact kept_refuse hk h hd he

/-- **The loop of `unregister_client` forgets nothing** if every `free` of it succeeds. -/
theorem kept_reclaim (hk : Kept s.tracked s.events) (h : Governed s)
    (hd : s.registry d = some inner) {abi : Abi} {status : UInt64 → Int32} {order : List UInt64}
    (hok : ∀ pointer ∈ order, status pointer = abi.statusOk) :
    Kept (s.commit d (reclaim abi status (inner, s.events) order).1
      (reclaim abi status (inner, s.events) order).2 s.nextGrant).tracked
      (reclaim abi status (inner, s.events) order).2 := by
  induction order generalizing s inner with
  | nil => simpa only [reclaim, commit_self hd] using hk
  | cons pointer order ih =>
    have hrest : ∀ p ∈ order, status p = abi.statusOk := fun p hp =>
      hok p (List.mem_cons_of_mem _ hp)
    rw [reclaim]
    split
    · exact ih hk h hd hrest
    · rename_i e he
      have hstatus : (status pointer == abi.statusOk) = true := by
        simpa using hok pointer List.mem_cons_self
      rw [hstatus]
      have hnext := ih (kept_release hk h hd he) (h.release hd he true)
        (registry_commit_self ..) hrest
      rwa [commit_commit] at hnext

/-- The promise is about the live allocations and the record of the hosts alone. -/
theorem kept_congr (hk : Kept s.tracked s.events) (hevents : s'.events = s.events)
    (hlive : ∀ d e, s.Live d e → s'.Live d e) : Kept s'.tracked s'.events := by
  rw [hevents]
  refine hk.step (fun n hn => .inl hn) ?_ (fun x hx => hx)
  rintro n x ⟨d, e, he, heq⟩
  exact .inl ⟨d, e, hlive d e he, heq⟩

/-- **`register_client` forgets nothing.** -/
theorem kept_registerClient (hk : Kept s.tracked s.events) (d : Int32) (client : ClientKey)
    (callbacks : Host) (ok : Bool) : Kept (s.registerClient d client callbacks ok).tracked
      (s.registerClient d client callbacks ok).events := by
  rw [State.registerClient]
  split
  · rename_i inner hd
    split
    · exact hk
    · refine kept_congr hk rfl ?_
      rintro d' e ⟨inner', hinner, he⟩
      by_cases hne : d' = d
      · subst hne
        obtain rfl := Option.some.inj (hd.symm.trans hinner)
        exact ⟨_, Function.update_self .., he⟩
      · exact ⟨inner', (Function.update_of_ne hne ..).trans hinner, he⟩
  · rename_i hd
    split
    · refine kept_congr hk rfl ?_
      rintro d' e ⟨inner', hinner, he⟩
      have hne : d' ≠ d := by
        rintro rfl
        exact absurd (hd.symm.trans hinner) (by simp)
      exact ⟨inner', (Function.update_of_ne hne ..).trans hinner, he⟩
    · exact hk

/-- **`unregister_client` forgets nothing** if the client's allocations are all freed. -/
theorem kept_unregisterClient (hk : Kept s.tracked s.events) (h : Governed s)
    (hd : s.registry d = some inner) {abi : Abi} {client : ClientKey} {order : List UInt64}
    (horder : order.Perm (inner.livePointers client)) {status : UInt64 → Int32}
    (hok : ∀ e ∈ inner.live, e.client = client → status e.pointer = abi.statusOk) :
    Kept (s.unregisterClient abi d inner client order status).tracked
      (s.unregisterClient abi d inner client order status).events := by
  have hstatus : ∀ pointer ∈ order, status pointer = abi.statusOk := by
    intro pointer hp
    obtain ⟨e, he, rfl⟩ := List.mem_map.mp (horder.mem_iff.mp hp)
    obtain ⟨hmem, hclient⟩ := List.mem_filter.mp he
    exact hok e hmem (by simpa using hclient)
  have hloop := kept_reclaim hk h hd hstatus
  rw [State.unregisterClient]
  generalize reclaim abi status (inner, s.events) order = result at hloop ⊢
  obtain ⟨reclaimed, events⟩ := result
  dsimp only at hloop ⊢
  split
  · exact hloop
  · refine kept_congr (s := s.commit d reclaimed events s.nextGrant) hloop rfl fun d' e he => ?_
    rcases live_commit.mp he with ⟨rfl, hmem⟩ | ⟨hne, inner', hinner, hmem⟩
    · exact ⟨_, Function.update_self .., hmem⟩
    · exact ⟨inner', (Function.update_of_ne hne ..).trans hinner, hmem⟩

/-- **An allocator that ORT lets go takes nothing along.** -/
theorem kept_unregisterAllocator (hk : Kept s.tracked s.events) (h : Governed s)
    (hclosing : s.closing = some d) (ok : Bool) :
    Kept (s.unregisterAllocator d ok).tracked (s.unregisterAllocator d ok).events := by
  cases ok with
  | false => exact hk
  | true =>
    refine kept_congr hk rfl fun d' e ⟨inner', hinner, he⟩ => ?_
    have hne : d' ≠ d := by
      rintro rfl
      have hnil := (h.ok d' inner' hinner).live_eq_nil (h.closing d' hclosing inner' hinner)
      exact absurd he (by simp [hnil])
    exact ⟨inner', (Function.update_of_ne hne ..).trans hinner, he⟩

end Kept

/-! ## Whole runs -/

section Runs

variable [DecidableEq ι] [DecidableEq β] {abi : Abi} {bridge : β → Bridge}
  {s s' : State ι β Host}

/-- **Every heeded step forgets nothing.** -/
theorem kept_step (hk : Kept s.tracked s.events) (h : Governed s) {a : Act ι β Host}
    (hok : Heeded abi s a) (hs : step abi bridge s a = some s') :
    Kept s'.tracked s'.events := by
  have henter : ∀ (s : State ι β Host) t c, Kept s.tracked s.events →
      Kept (State.noteEnter t c (s.enter abi t c)).tracked
        (State.noteEnter t c (s.enter abi t c)).events := by
    intro s t c hk
    rw [State.enter]
    split
    · exact hk
    · exact hk
  cases Step.of_step hs with
  | refused => exact hk
  | enterAdapterScope nextScopeId c => exact henter _ _ c hk
  | enterProvider c => exact henter s _ c hk
  | exit => exact hk
  | allocate hd houtcome =>
    subst houtcome
    exact kept_allocate hk hd (allocates ..) (hok _ hd)
  | free hd => exact kept_free hk h hd abi _ _
  | register => exact kept_registerClient hk _ _ _ _
  | unregister hd horder => exact kept_unregisterClient hk h hd horder (hok _ hd)
  | unregisterAllocator hclosing => exact kept_unregisterAllocator hk h hclosing _

/-- **Nothing is forgotten by hosts that free** — in every run whose rejected grants, and whose
leaving clients' allocations, are freed by their hosts: an allocation that was recorded, or that a
host refused to free, is tracked until a `free` of it succeeds. -/
theorem nothing_forgotten (h : (runs ι Host abi bridge).ReachBy (Heeded abi) s) :
    Kept s.tracked s.events := by
  have hboth : Governed s ∧ Kept s.tracked s.events := by
    refine h.invariant (I := fun s => Governed s ∧ Kept s.tracked s.events) ?_ ?_
    · rintro s rfl
      refine ⟨governed_initial, fun n hn => ?_⟩
      rcases hn with hn | ⟨x, hn⟩
      · exact absurd hn (by simp [State.initial])
      · exact absurd hn (by simp [State.initial])
    · rintro s a s' ⟨hg, hk⟩ hok hs
      exact ⟨hg.step hs, kept_step hk hg hok hs⟩
  exact hboth.2

/-- A client's allocation is refused by `free` and freed when the client leaves. -/
def freedAtShutdown : List (Act ℕ Unit Bool) :=
  [.register 0 ⟨7, 0⟩ true true, .enterAdapterScope 0 () 3 [11],
   .allocate 0 0 512 (.ok ⟨40, 0, 5, 4096, 512⟩) 0, .free 0 4096 1,
   .unregister 0 ⟨7, 0⟩ [4096] fun _ => 0]

theorem nothing_forgotten_freedAtShutdown :
    ∃ s, (runs ℕ Bool plainAbi fun _ : Unit => ⟨0, 7, 0⟩).ReachBy (Heeded plainAbi) s ∧
      Answerable s.events 0 ∧ Kept s.tracked s.events := by
  obtain ⟨s, hs, hrecord⟩ : ∃ s, (runs ℕ Bool plainAbi fun _ : Unit => ⟨0, 7, 0⟩).exec
      .initial freedAtShutdown = some s ∧ s.events =
        [.free 0 (true, ⟨40, 0, 5, 4096, 512⟩) true, .free 0 (true, ⟨40, 0, 5, 4096, 512⟩) false,
         .record 0, .grant 0 (true, ⟨40, 0, 5, 4096, 512⟩),
         .request (true, ⟨0, 2, 3, ⟨3, 1, 7, 0, [11]⟩, 512, 256⟩)] := ⟨_, rfl, rfl⟩
  have hmeets : (runs ℕ Bool plainAbi fun _ : Unit => ⟨0, 7, 0⟩).Admits
      (Heeded plainAbi) .initial freedAtShutdown := by
    refine ⟨trivial, trivial, ?_, trivial, ?_, trivial⟩
    · intro inner _ c _ _ _ a _ _
      rfl
    · intro inner _ e _ _
      rfl
  have hreach := Lts.reachBy_of_exec (.init rfl) freedAtShutdown hmeets hs
  exact ⟨s, hreach, .inl (by simp [hrecord]), nothing_forgotten hreach⟩

/-! ## The condition is exact for each step -/

omit [DecidableEq ι] [DecidableEq β] in
/-- What the loop passes to the hosts. -/
theorem mem_reclaim_cases (abi : Abi) (status : UInt64 → Int32) (inner : AllocatorInner Host)
    (events : List (Event Host)) (order : List UInt64) {event : Event Host}
    (h : event ∈ (reclaim abi status (inner, events) order).2) :
    event ∈ events ∨ ∃ e ∈ inner.live,
      event = .free e.serial e.granted (status e.pointer == abi.statusOk) := by
  induction order generalizing inner events with
  | nil => exact .inl h
  | cons pointer order ih =>
    rw [reclaim] at h
    split at h
    · exact ih inner events h
    · rename_i e he
      rcases ih _ _ h with hmem | ⟨e', he', heq⟩
      · refine (List.mem_cons.mp hmem).symm.imp_right fun heq => ⟨e, (mem_of_live? he).1, ?_⟩
        rw [heq, (mem_of_live? he).2]
      · exact .inr ⟨e', (mem_removeLive.mp he').1, heq⟩

omit [DecidableEq ι] [DecidableEq β] in
theorem subset_reclaim (abi : Abi) (status : UInt64 → Int32) (inner : AllocatorInner Host)
    (events : List (Event Host)) (order : List UInt64) :
    events ⊆ (reclaim abi status (inner, events) order).2 := by
  induction order generalizing inner events with
  | nil => exact fun x hx => hx
  | cons pointer order ih =>
    rw [reclaim]
    split
    · exact ih inner events
    · exact List.Subset.trans (List.subset_cons_self _ _) (ih _ _)

omit [DecidableEq ι] [DecidableEq β] in
/-- The loop passes everything it was given to the hosts. -/
theorem mem_reclaim (abi : Abi) (status : UInt64 → Int32) {inner : AllocatorInner Host}
    (hok : inner.Ok) (events : List (Event Host)) {order : List UInt64} {e : LiveAllocation Host}
    (he : e ∈ inner.live) (hp : e.pointer ∈ order) :
    .free e.serial e.granted (status e.pointer == abi.statusOk) ∈
      (reclaim abi status (inner, events) order).2 := by
  induction order generalizing inner events with
  | nil => exact absurd hp (by simp)
  | cons pointer order ih =>
    rw [reclaim]
    split
    · rename_i hnone
      have hne := pointer_ne_of_live? hnone he
      exact ih hok events he ((List.mem_cons.mp hp).resolve_left hne)
    · rename_i e' he'
      by_cases hpe : e.pointer = pointer
      · obtain rfl := hok.eq_of_pointer he (mem_of_live? he').1 (hpe.trans (mem_of_live? he').2.symm)
        rw [hpe]
        exact subset_reclaim _ _ _ _ _ List.mem_cons_self
      · exact ih (hok.removeLive pointer) _ (mem_removeLive.mpr ⟨he, hpe⟩)
          ((List.mem_cons.mp hp).resolve_left hpe)

omit [DecidableEq ι] [DecidableEq β] in
/-- The section of `unregister_client` leaves what its loop leaves. -/
theorem unregisterClient_eq (s : State ι β Host) (abi : Abi) (d : Int32)
    (inner : AllocatorInner Host) (client : ClientKey) (order : List UInt64)
    (status : UInt64 → Int32) :
    ∃ inner' closing, s.unregisterClient abi d inner client order status =
        { s.commit d inner' (reclaim abi status (inner, s.events) order).2 s.nextGrant with
          closing } ∧
      inner'.live = (reclaim abi status (inner, s.events) order).1.live := by
  rw [State.unregisterClient]
  split
  rename_i reclaimed events heq
  rw [heq]
  split
  · exact ⟨reclaimed, s.closing, rfl, rfl⟩
  · exact ⟨reclaimed.removeClient client, _, rfl, rfl⟩

omit [DecidableEq ι] [DecidableEq β] in
/-- **Every `unregister_client` with a refused `free` loses an allocation.** -/
theorem forgotten_of_unregister (h : Governed s) {d : Int32} {inner : AllocatorInner Host}
    (hd : s.registry d = some inner) {order : List UInt64} {e : LiveAllocation Host}
    (he : e ∈ inner.live) (horder : order.Perm (inner.livePointers e.client))
    {status : UInt64 → Int32} (hstatus : status e.pointer ≠ abi.statusOk) :
    ¬Kept (s.unregisterClient abi d inner e.client order status).tracked
      (s.unregisterClient abi d inner e.client order status).events := by
  have hp : e.pointer ∈ order := by
    refine horder.mem_iff.mpr (List.mem_map.mpr ⟨e, ?_, rfl⟩)
    exact List.mem_filter.mpr ⟨he, by simp⟩
  have hlive : s.Live d e := ⟨inner, hd, he⟩
  have hrefused := mem_reclaim abi status (h.ok d inner hd) s.events he hp
  rw [beq_eq_false_iff_ne.mpr hstatus] at hrefused
  obtain ⟨inner', closing, hs, hsame⟩ := unregisterClient_eq s abi d inner e.client order status
  rw [hs]
  intro hk
  rcases hk e.serial (.inr ⟨_, hrefused⟩) with ⟨x, d', e', he', heq⟩ | ⟨x, hfree⟩
  · replace he' : (s.commit d inner' (reclaim abi status (inner, s.events) order).2
      s.nextGrant).Live d' e' := he'
    have hmem : ∀ e'' ∈ inner'.live, e'' ∈ inner.live ∧ e''.pointer ∉ order := fun e'' he'' =>
      ((reclaim_spec abi status inner s.events order).2 e'').mp (hsame ▸ he'')
    have hlive' := live_of_commit hd (fun e'' he'' => (hmem e'' he'').1) he'
    obtain ⟨rfl, rfl⟩ := h.serial d e d' e' hlive hlive' (Prod.mk.inj heq).1
    rcases live_commit.mp he' with ⟨-, hin⟩ | ⟨hne, -⟩
    · exact (hmem e hin).2 hp
    · exact hne rfl
  · rcases mem_reclaim_cases _ _ _ _ _ hfree with hold | ⟨e', he', heq⟩
    · exact h.account.unfreed e.serial e.granted ⟨d, e, hlive, rfl⟩ x hold
    · obtain ⟨hserial, -, hok⟩ := Ledger.Event.free.inj heq
      obtain ⟨-, rfl⟩ := h.serial d e d e' hlive ⟨inner, hd, he'⟩ hserial
      exact hstatus (by simpa using hok.symm)

omit [DecidableEq ι] [DecidableEq β] in
/-- **A rejected grant that its host refuses to take back is lost.** -/
theorem forgotten_of_reject (h : Governed s) {d : Int32} {inner : AllocatorInner Host}
    (hd : s.registry d = some inner) {r : Host × Request} {x : Host × Allocation} {next : ℕ} :
    ¬Kept (s.commit d inner (.free s.nextGrant x false :: .grant s.nextGrant x :: .request r ::
        s.events) next).tracked
      (.free s.nextGrant x false :: .grant s.nextGrant x :: .request r :: s.events) := by
  intro hk
  rcases hk s.nextGrant (.inr ⟨x, List.mem_cons_self⟩) with ⟨y, hy⟩ | ⟨y, hfree⟩
  · have hold := tracked_commit_subset hd (fun e he => he) hy
    exact lt_irrefl _ (h.account.lt_next _ y (h.account.granted _ y hold))
  · exact h.account.not_freed_next y true (by simpa using hfree)

/-- A client holds one allocation. -/
def oneAllocation : List (Act ℕ Unit Bool) :=
  [.register 0 ⟨7, 0⟩ true true, .enterAdapterScope 0 () 3 [11],
   .allocate 0 0 512 (.ok ⟨40, 0, 5, 4096, 512⟩) 0]

/-- **An allocation that its host refused to free when the client left is in no map**, and no `free`
of it has succeeded. -/
theorem unregister_forgets :
    ¬∀ s, (runs ℕ Bool plainAbi fun _ : Unit => ⟨0, 7, 0⟩).Reach s →
      Kept s.tracked s.events := by
  intro hall
  let inner : AllocatorInner Bool :=
    ⟨[(⟨7, 0⟩, true)], [⟨4096, ⟨40, 0, 5, 4096, 512⟩, true, ⟨7, 0⟩, 0⟩]⟩
  obtain ⟨s, hs, hclosing, hd⟩ : ∃ s, (runs ℕ Bool plainAbi fun _ : Unit =>
      ⟨0, 7, 0⟩).exec .initial oneAllocation = some s ∧ s.closing = none ∧
        s.registry 0 = some inner := ⟨_, rfl, rfl, rfl⟩
  have hreach := Lts.reach_of_exec (.init rfl) oneAllocation hs
  have hnext : (runs ℕ Bool plainAbi fun _ : Unit => ⟨0, 7, 0⟩).step s
      (.unregister 0 ⟨7, 0⟩ [4096] fun _ => 1) =
        some (s.unregisterClient plainAbi 0 inner ⟨7, 0⟩ [4096] fun _ => 1) := by
    simp only [runs, step, hclosing, hd, if_true]
    exact if_pos (by decide)
  have hkept := hall _ (.step hreach trivial hnext)
  have hperm : [4096].Perm (inner.livePointers ⟨7, 0⟩) := by decide
  have hrefused : (1 : Int32) ≠ plainAbi.statusOk := by decide
  exact forgotten_of_unregister (governed_of_reach hreach) hd List.mem_cons_self hperm hrefused
    hkept

end Runs

end Kapsl.Ort.Allocator
