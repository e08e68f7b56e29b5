import Mathlib.Data.List.Nodup
import Kapsl.Lib.Threads
import Kapsl.Ort.Allocator

/-!
# Ort/Governed — every allocation belongs to the scope, the client and the host it came from

The invariant of the governed allocator, over every interleaving of scopes, allocations, frees and
clients coming and going:

* a thread's context is its innermost scope (`Nested`), so a request carries that scope;
* what is live belongs to a registered client, under the callbacks it was granted by, and under a
  pointer of its own (`AllocatorInner.Ok`);
* the live allocations are what a `Ledger` tracks, each under its own grant (`Governed`).

`allocator_governed` states what follows for the hosts.
-/

namespace Kapsl.Ort.Allocator

open Ledger (Account)

variable {Host : Type*}

/-! ## The sections of one allocator -/

section Sections

variable {inner : AllocatorInner Host} {pointer : UInt64} {e : LiveAllocation Host}

theorem mem_of_live? (h : inner.live? pointer = some e) :
    e ∈ inner.live ∧ e.pointer = pointer :=
  ⟨List.mem_of_find?_eq_some h, by simpa using List.find?_some h⟩

theorem pointer_ne_of_live? (h : inner.live? pointer = none) (he : e ∈ inner.live) :
    e.pointer ≠ pointer := by
  simpa using List.find?_eq_none.mp h e he

theorem mem_removeLive : e ∈ (inner.removeLive pointer).live ↔
    e ∈ inner.live ∧ e.pointer ≠ pointer := by
  simp [AllocatorInner.removeLive]

theorem client?_insertClient {client : ClientKey} (callbacks : Host) {client' : ClientKey}
    (h : client' ≠ client) :
    (inner.insertClient client callbacks).client? client' = inner.client? client' := by
  rw [AllocatorInner.client?, AllocatorInner.insertClient, List.lookup_cons,
    beq_eq_false_iff_ne.mpr h]
  rfl

theorem client?_removeClient {client client' : ClientKey} (h : client' ≠ client) :
    (inner.removeClient client).client? client' = inner.client? client' := by
  simp only [AllocatorInner.client?, AllocatorInner.removeClient]
  induction inner.clients with
  | nil => rfl
  | cons x clients ih =>
    obtain ⟨c, host⟩ := x
    by_cases hc : c = client
    · subst hc
      rw [List.filter_cons_of_neg (by simp), ih, List.lookup_cons, beq_eq_false_iff_ne.mpr h]
    · rw [List.filter_cons_of_pos (by simpa using hc), List.lookup_cons, List.lookup_cons, ih]

/-- **What `allocate_scoped` can do.** -/
inductive Allocates (abi : Abi) (context : Option Context) (deviceId : Int32)
    (inner : AllocatorInner Host) (size : UInt64) (answer : Except Int32 Allocation)
    (freeStatus : Int32) (serial : ℕ) : Outcome Host → Prop
  /-- Without a scope of this device and a registered client no host is asked. -/
  | refused (h : ∀ c, context = some c → c.deviceId = deviceId → inner.client? c.client = none) :
    Allocates abi context deviceId inner size answer freeStatus serial ⟨none, inner, []⟩
  | failed {c : Context} {callbacks : Host} {status : Int32} (hc : context = some c)
    (hdevice : c.deviceId = deviceId) (hclient : inner.client? c.client = some callbacks)
    (hanswer : answer = .error status) :
    Allocates abi context deviceId inner size answer freeStatus serial
      ⟨none, inner, [.request (callbacks, c.request abi deviceId size)]⟩
  | rejected {c : Context} {callbacks : Host} {a : Allocation} (hc : context = some c)
    (hdevice : c.deviceId = deviceId) (hclient : inner.client? c.client = some callbacks)
    (hanswer : answer = .ok a)
    (hbad : a.valid abi size = false ∨ (inner.live? a.devicePtr).isSome) :
    Allocates abi context deviceId inner size answer freeStatus serial
      ⟨none, inner, [.free serial (callbacks, a) (freeStatus == abi.statusOk),
        .grant serial (callbacks, a), .request (callbacks, c.request abi deviceId size)]⟩
  | tracked {c : Context} {callbacks : Host} {a : Allocation} (hc : context = some c)
    (hdevice : c.deviceId = deviceId) (hclient : inner.client? c.client = some callbacks)
    (hanswer : answer = .ok a) (hfree : inner.live? a.devicePtr = none) :
    Allocates abi context deviceId inner size answer freeStatus serial
      ⟨some a.devicePtr,
        { inner with live := ⟨a.devicePtr, a, callbacks, c.client, serial⟩ :: inner.live },
        [.record serial, .grant serial (callbacks, a),
         .request (callbacks, c.request abi deviceId size)]⟩

theorem allocates (abi : Abi) (context : Option Context) (deviceId : Int32)
    (inner : AllocatorInner Host) (size : UInt64) (answer : Except Int32 Allocation)
    (freeStatus : Int32) (serial : ℕ) :
    Allocates abi context deviceId inner size answer freeStatus serial
      (allocateScoped abi context deviceId inner size answer freeStatus serial) := by
  rw [allocateScoped]
  split
  · rename_i hfilter
    refine .refused fun c hc hdevice => ?_
    rw [hc, Option.filter_some] at hfilter
    simp [hdevice] at hfilter
  · rename_i c hfilter
    obtain ⟨hc, hdevice⟩ := Option.filter_eq_some_iff.mp hfilter
    have hdevice : c.deviceId = deviceId := by simpa using hdevice
    split
    · rename_i hclient
      refine .refused fun c' hc' _ => ?_
      obtain rfl := Option.some.inj (hc.symm.trans hc')
      exact hclient
    · rename_i callbacks hclient
      split
      · exact .failed hc hdevice hclient rfl
      · split
        · rename_i hbad
          exact .rejected hc hdevice hclient rfl (by simpa using hbad)
        · rename_i hgood
          refine .tracked hc hdevice hclient rfl ?_
          simp only [Bool.or_eq_true, not_or, Bool.not_eq_true] at hgood
          simpa using hgood.2

/-- A host is asked for the scope of the calling thread, or not at all. -/
theorem Allocates.scope {abi : Abi} {context : Option Context} {deviceId : Int32} {size : UInt64}
    {answer : Except Int32 Allocation} {freeStatus : Int32} {serial : ℕ} {outcome : Outcome Host}
    (h : Allocates abi context deviceId inner size answer freeStatus serial outcome) :
    outcome.events = [] ∨ ∃ c callbacks, context = some c ∧ c.deviceId = deviceId ∧
      inner.client? c.client = some callbacks ∧
      ∀ r, .request r ∈ outcome.events → r = (callbacks, c.request abi deviceId size) := by
  cases h with
  | refused => exact .inl rfl
  | failed hc hdevice hclient => exact .inr ⟨_, _, hc, hdevice, hclient, by simp⟩
  | rejected hc hdevice hclient => exact .inr ⟨_, _, hc, hdevice, hclient, by simp⟩
  | tracked hc hdevice hclient => exact .inr ⟨_, _, hc, hdevice, hclient, by simp⟩

/-- The loop of `unregister_client` removes what it was given, and nothing else. -/
theorem reclaim_spec (abi : Abi) (status : UInt64 → Int32) (inner : AllocatorInner Host)
    (events : List (Event Host)) (order : List UInt64) :
    (reclaim abi status (inner, events) order).1.clients = inner.clients ∧
    ∀ e, e ∈ (reclaim abi status (inner, events) order).1.live ↔
      e ∈ inner.live ∧ e.pointer ∉ order := by
  induction order generalizing inner events with
  | nil => simp [reclaim]
  | cons pointer order ih =>
    rw [reclaim]
    split
    · rename_i hnone
      refine ⟨(ih _ _).1, fun e => ((ih _ _).2 e).trans ?_⟩
      rw [List.mem_cons, not_or]
      exact and_congr_right fun he => by simp [pointer_ne_of_live? hnone he]
    · refine ⟨(ih _ _).1, fun e => ((ih _ _).2 e).trans ?_⟩
      rw [mem_removeLive, List.mem_cons, not_or, and_assoc]

end Sections

/-! ## The maps of one allocator -/

/-- **Live allocations are those of registered clients**, each under the callbacks registered for
its client and under a pointer of its own. -/
structure AllocatorInner.Ok (inner : AllocatorInner Host) : Prop where
  registered : ∀ e ∈ inner.live, inner.client? e.client = some e.callbacks
  distinct : (inner.live.map (·.pointer)).Nodup

namespace AllocatorInner.Ok

variable {inner : AllocatorInner Host}

theorem eq_of_pointer (h : inner.Ok) {e e' : LiveAllocation Host} (he : e ∈ inner.live)
    (he' : e' ∈ inner.live) (hp : e.pointer = e'.pointer) : e = e' :=
  List.inj_on_of_nodup_map h.distinct he he' hp

theorem of_sublist (h : inner.Ok) {inner' : AllocatorInner Host}
    (hclients : ∀ e ∈ inner'.live, inner'.client? e.client = inner.client? e.client)
    (hlive : inner'.live.Sublist inner.live) : inner'.Ok where
  registered e he := (hclients e he).trans (h.registered e (hlive.subset he))
  distinct := h.distinct.sublist (hlive.map _)

theorem removeLive (h : inner.Ok) (pointer : UInt64) : (inner.removeLive pointer).Ok :=
  h.of_sublist (fun _ _ => rfl) List.filter_sublist

theorem track (h : inner.Ok) {client : ClientKey} {callbacks : Host} {a : Allocation} {serial : ℕ}
    (hclient : inner.client? client = some callbacks) (hfree : inner.live? a.devicePtr = none) :
    AllocatorInner.Ok { inner with
      live := ⟨a.devicePtr, a, callbacks, client, serial⟩ :: inner.live } where
  registered e he := by
    rcases List.mem_cons.mp he with rfl | he
    · exact hclient
    · exact h.registered e he
  distinct := by
    rw [List.map_cons, List.nodup_cons, List.mem_map]
    refine ⟨?_, h.distinct⟩
    rintro ⟨e, he, hp⟩
    exact pointer_ne_of_live? hfree he hp

/-- A refused allocation goes back to the place it was taken from. -/
theorem putBack (h : inner.Ok) {pointer : UInt64} {e : LiveAllocation Host}
    (he : inner.live? pointer = some e) :
    AllocatorInner.Ok { inner.removeLive pointer with
      live := e :: (inner.removeLive pointer).live } where
  registered e' he' := by
    rcases List.mem_cons.mp he' with rfl | he'
    · exact h.registered _ (mem_of_live? he).1
    · exact h.registered e' (mem_removeLive.mp he').1
  distinct := by
    rw [List.map_cons, List.nodup_cons, List.mem_map]
    refine ⟨?_, (h.removeLive pointer).distinct⟩
    rintro ⟨e', he', hp⟩
    exact (mem_removeLive.mp he').2 (hp.trans (mem_of_live? he).2)

theorem insertClient (h : inner.Ok) {client : ClientKey} (hnew : inner.client? client = none)
    (callbacks : Host) : (inner.insertClient client callbacks).Ok := by
  refine h.of_sublist (fun e he => client?_insertClient callbacks ?_) (List.Sublist.refl _)
  rintro rfl
  exact absurd (hnew.symm.trans (h.registered e he)) (by simp)

theorem removeClient (h : inner.Ok) {client : ClientKey}
    (hnone : ∀ e ∈ inner.live, e.client ≠ client) : (inner.removeClient client).Ok :=
  h.of_sublist (fun e he => client?_removeClient (hnone e he)) (List.Sublist.refl _)

/-- Without a client nothing is live. -/
theorem live_eq_nil (h : inner.Ok) (hclients : inner.clients = []) : inner.live = [] := by
  refine List.eq_nil_iff_forall_not_mem.mpr fun e he => ?_
  have hreg := h.registered e he
  rw [AllocatorInner.client?, hclients] at hreg
  exact absurd hreg (by simp)

/-- After the loop nothing of the client is live. -/
theorem client_ne_of_reclaim (abi : Abi) (status : UInt64 → Int32) (events : List (Event Host))
    {client : ClientKey} {order : List UInt64} (horder : order.Perm (inner.livePointers client))
    {e : LiveAllocation Host} (he : e ∈ (reclaim abi status (inner, events) order).1.live) :
    e.client ≠ client := by
  obtain ⟨hmem, hnot⟩ := ((reclaim_spec abi status inner events order).2 e).mp he
  rintro rfl
  refine hnot (horder.mem_iff.mpr (List.mem_map.mpr ⟨e, ?_, rfl⟩))
  exact List.mem_filter.mpr ⟨hmem, by simp⟩

end AllocatorInner.Ok

/-! ## The invariant -/

variable {ι β : Type*}

/-- **The context is the innermost scope**, and each guard holds the context of the scope around
its own. -/
def Nested : Option Context → List (Option Context) → List Context → Prop
  | none, [], [] => True
  | some c, previous :: guards, scope :: scopes => c = scope ∧ Nested previous guards scopes
  | _, _, _ => False

theorem Nested.eq_head? {context : Option Context} {guards : List (Option Context)}
    {scopes : List Context} (h : Nested context guards scopes) : context = scopes.head? := by
  cases context with
  | none =>
    cases scopes with
    | nil => rfl
    | cons c scopes => cases guards <;> exact h.elim
  | some c =>
    cases guards with
    | nil => exact h.elim
    | cons previous guards =>
      cases scopes with
      | nil => exact h.elim
      | cons c' scopes => rw [h.1, List.head?_cons]

/-- The scope that is dropped uncovers the one around it. -/
theorem Nested.tail {context previous : Option Context} {guards : List (Option Context)}
    {scopes : List Context} (h : Nested context (previous :: guards) scopes) :
    Nested previous guards scopes.tail := by
  cases context with
  | none => cases scopes <;> exact h.elim
  | some c =>
    cases scopes with
    | nil => exact h.elim
    | cons c' scopes => exact h.2

/-- `e` is live on the device. -/
def State.Live (s : State ι β Host) (deviceId : Int32) (e : LiveAllocation Host) : Prop :=
  ∃ inner, s.registry deviceId = some inner ∧ e ∈ inner.live

/-- The grants that are live, on any device. -/
def State.tracked (s : State ι β Host) : Set (ℕ × (Host × Allocation)) :=
  { x | ∃ deviceId e, s.Live deviceId e ∧ x = (e.serial, e.granted) }

/-- **The invariant of the allocator.** -/
structure Governed (s : State ι β Host) : Prop where
  nested : ∀ t, Nested (s.context t) (s.guards t) (s.scopes t)
  ok : ∀ d inner, s.registry d = some inner → inner.Ok
  account : Account s.tracked s.nextGrant s.events
  serial : ∀ d e d' e', s.Live d e → s.Live d' e' → e.serial = e'.serial → d = d' ∧ e = e'
  closing : ∀ d, s.closing = some d → ∀ inner, s.registry d = some inner → inner.clients = []

/-- Replace the maps of a device and the record of the hosts. -/
def State.commit (s : State ι β Host) (d : Int32) (inner : AllocatorInner Host)
    (events : List (Event Host)) (next : ℕ) : State ι β Host :=
  { s.setInner d inner with events := events, nextGrant := next }

section Invariant

variable {s s' : State ι β Host} {d : Int32} {inner inner' : AllocatorInner Host}
  {events : List (Event Host)} {next : ℕ}

theorem governed_initial : Governed (State.initial : State ι β Host) where
  nested _ := trivial
  ok := by simp [State.initial]
  account := by
    refine Account.empty.mono ?_
    rintro x ⟨d, e, ⟨inner, hinner, -⟩, -⟩
    exact absurd hinner (by simp [State.initial])
  serial := by
    rintro d e d' e' ⟨inner, hinner, -⟩
    exact absurd hinner (by simp [State.initial])
  closing := by simp [State.initial]

theorem live_commit {d' : Int32} {e : LiveAllocation Host} :
    (s.commit d inner events next).Live d' e ↔
      (d' = d ∧ e ∈ inner.live) ∨ (d' ≠ d ∧ s.Live d' e) := by
  by_cases hd : d' = d
  · subst hd
    simp [State.Live, State.commit, State.setInner]
  · simp [State.Live, State.commit, State.setInner, hd]

theorem registry_commit {d' : Int32} {inner'' : AllocatorInner Host} :
    (s.commit d inner events next).registry d' = some inner'' ↔
      (d' = d ∧ inner'' = inner) ∨ (d' ≠ d ∧ s.registry d' = some inner'') := by
  by_cases hd : d' = d
  · subst hd
    simp [State.commit, State.setInner, eq_comm]
  · simp [State.commit, State.setInner, hd]

/-- **A section of one allocator keeps the invariant** when its maps, the account and the grant
numbers are in order. -/
theorem Governed.commit (h : Governed s) (hok : inner'.Ok)
    (hclients : s.closing = some d → inner'.clients = [])
    (haccount : Account (s.commit d inner' events next).tracked next events)
    (hserial : ∀ d₁ e₁ d₂ e₂, (s.commit d inner' events next).Live d₁ e₁ →
      (s.commit d inner' events next).Live d₂ e₂ → e₁.serial = e₂.serial → d₁ = d₂ ∧ e₁ = e₂) :
    Governed (s.commit d inner' events next) := by
  refine ⟨h.nested, fun d' inner'' hinner => ?_, haccount, hserial, fun d' hd' inner'' hinner => ?_⟩
  · rcases registry_commit.mp hinner with ⟨-, rfl⟩ | ⟨-, hold⟩
    · exact hok
    · exact h.ok d' inner'' hold
  · rcases registry_commit.mp hinner with ⟨rfl, rfl⟩ | ⟨-, hold⟩
    · exact hclients hd'
    · exact h.closing d' hd' inner'' hold

/-- A section that tracks nothing new has nothing live that was not live before. -/
theorem live_of_commit (hd : s.registry d = some inner)
    (hsub : ∀ e ∈ inner'.live, e ∈ inner.live) {d' : Int32} {e : LiveAllocation Host}
    (he : (s.commit d inner' events next).Live d' e) : s.Live d' e := by
  rcases live_commit.mp he with ⟨rfl, hmem⟩ | ⟨-, hlive⟩
  · exact ⟨inner, hd, hsub e hmem⟩
  · exact hlive

theorem tracked_commit_subset (hd : s.registry d = some inner)
    (hsub : ∀ e ∈ inner'.live, e ∈ inner.live) :
    (s.commit d inner' events next).tracked ⊆ s.tracked := by
  rintro x ⟨d', e, he, rfl⟩
  exact ⟨d', e, live_of_commit hd hsub he, rfl⟩

/-- **A section that tracks nothing new** keeps the invariant if it keeps the account. -/
theorem Governed.shrink (h : Governed s) (hd : s.registry d = some inner) (hok : inner'.Ok)
    (hsub : ∀ e ∈ inner'.live, e ∈ inner.live)
    (hclients : s.closing = some d → inner'.clients = [])
    (haccount : Account (s.commit d inner' events next).tracked next events) :
    Governed (s.commit d inner' events next) :=
  h.commit hok hclients haccount fun d₁ e₁ d₂ e₂ h₁ h₂ =>
    h.serial d₁ e₁ d₂ e₂ (live_of_commit hd hsub h₁) (live_of_commit hd hsub h₂)

/-- What is taken out of the map is tracked no longer: its grant is under no other pointer. -/
theorem Governed.tracked_removeLive (h : Governed s) (hd : s.registry d = some inner)
    {pointer : UInt64} {e : LiveAllocation Host} (he : inner.live? pointer = some e) :
    (s.commit d (inner.removeLive pointer) events next).tracked ⊆
      s.tracked \ {(e.serial, e.granted)} := by
  rintro x hx
  refine ⟨tracked_commit_subset hd (fun e he => (mem_removeLive.mp he).1) hx, ?_⟩
  rintro rfl
  obtain ⟨d', e', he', heq⟩ := hx
  have hlive : s.Live d e := ⟨inner, hd, (mem_of_live? he).1⟩
  rcases live_commit.mp he' with ⟨rfl, hmem⟩ | ⟨hne, hlive'⟩
  · obtain ⟨-, rfl⟩ := h.serial d' e d' e' hlive ⟨inner, hd, (mem_removeLive.mp hmem).1⟩
      (Prod.mk.inj heq).1
    exact (mem_removeLive.mp hmem).2 (mem_of_live? he).2
  · exact hne (h.serial d e d' e' hlive hlive' (Prod.mk.inj heq).1).1.symm

/-- **A live allocation is passed to its own host and leaves the map.** -/
theorem Governed.release (h : Governed s) (hd : s.registry d = some inner) {pointer : UInt64}
    {e : LiveAllocation Host} (he : inner.live? pointer = some e) (ok : Bool) :
    Governed (s.commit d (inner.removeLive pointer) (.free e.serial e.granted ok :: s.events)
      s.nextGrant) := by
  refine h.shrink hd ((h.ok d inner hd).removeLive pointer)
    (fun e he => (mem_removeLive.mp he).1) (fun hc => h.closing d hc inner hd) ?_
  have htracked : (e.serial, e.granted) ∈ s.tracked :=
    ⟨d, e, ⟨inner, hd, (mem_of_live? he).1⟩, rfl⟩
  exact (h.account.release htracked ok).mono (h.tracked_removeLive hd he)

/-- **A refused allocation stays in the map.** -/
theorem Governed.refuse (h : Governed s) (hd : s.registry d = some inner) {pointer : UInt64}
    {e : LiveAllocation Host} (he : inner.live? pointer = some e) :
    Governed (s.commit d { inner.removeLive pointer with
      live := e :: (inner.removeLive pointer).live } (.free e.serial e.granted false :: s.events)
      s.nextGrant) := by
  have hsub : ∀ e' ∈ e :: (inner.removeLive pointer).live, e' ∈ inner.live := by
    intro e' he'
    rcases List.mem_cons.mp he' with rfl | he'
    · exact (mem_of_live? he).1
    · exact (mem_removeLive.mp he').1
  refine h.shrink hd ((h.ok d inner hd).putBack he) hsub (fun hc => h.closing d hc inner hd) ?_
  have htracked : (e.serial, e.granted) ∈ s.tracked :=
    ⟨d, e, ⟨inner, hd, (mem_of_live? he).1⟩, rfl⟩
  exact (h.account.refuse htracked).mono (tracked_commit_subset hd hsub)

/-- **A valid grant is tracked under its own number.** -/
theorem Governed.track (h : Governed s) (hd : s.registry d = some inner) {client : ClientKey}
    {callbacks : Host} {a : Allocation} (hclient : inner.client? client = some callbacks)
    (hfree : inner.live? a.devicePtr = none) (r : Host × Request) :
    Governed (s.commit d { inner with
      live := ⟨a.devicePtr, a, callbacks, client, s.nextGrant⟩ :: inner.live }
      (.record s.nextGrant :: .grant s.nextGrant (callbacks, a) :: .request r :: s.events)
      (s.nextGrant + 1)) := by
  let e₀ : LiveAllocation Host := ⟨a.devicePtr, a, callbacks, client, s.nextGrant⟩
  have hlive : ∀ {events next d' e}, (s.commit d { inner with live := e₀ :: inner.live } events
      next).Live d' e → (d' = d ∧ e = e₀) ∨ s.Live d' e := by
    intro events next d' e he
    rcases live_commit.mp he with ⟨rfl, hmem⟩ | ⟨-, hold⟩
    · exact (List.mem_cons.mp hmem).imp (fun heq => ⟨rfl, heq⟩) fun hold => ⟨inner, hd, hold⟩
    · exact .inr hold
  have hlt : ∀ {d' e}, s.Live d' e → e.serial < s.nextGrant := fun {d' e} he =>
    h.account.lt_next _ _ (h.account.granted _ _ ⟨d', e, he, rfl⟩)
  refine h.commit ((h.ok d inner hd).track hclient hfree) (fun hc => h.closing d hc inner hd) ?_ ?_
  · refine ((h.account.request r).track (callbacks, a)).mono ?_
    rintro x ⟨d', e, he, rfl⟩
    rcases hlive he with ⟨-, rfl⟩ | hold
    · exact .inl rfl
    · exact .inr ⟨d', e, hold, rfl⟩
  · intro d₁ e₁ d₂ e₂ h₁ h₂ hserial
    rcases hlive h₁ with ⟨rfl, rfl⟩ | hold₁
    · rcases hlive h₂ with ⟨rfl, rfl⟩ | hold₂
      · exact ⟨rfl, rfl⟩
      · exact absurd (hlt hold₂) (by rw [← hserial]; exact lt_irrefl _)
    · rcases hlive h₂ with ⟨rfl, rfl⟩ | hold₂
      · exact absurd (hlt hold₁) (by rw [hserial]; exact lt_irrefl _)
      · exact h.serial d₁ e₁ d₂ e₂ hold₁ hold₂ hserial

theorem commit_self (hd : s.registry d = some inner) : s.commit d inner s.events s.nextGrant = s := by
  simp only [State.commit, State.setInner, ← hd, Function.update_eq_self]

theorem commit_commit (s : State ι β Host) (d : Int32) (inner inner' : AllocatorInner Host)
    (events events' : List (Event Host)) (next next' : ℕ) :
    (s.commit d inner events next).commit d inner' events' next' =
      s.commit d inner' events' next' := by
  simp only [State.commit, State.setInner, Function.update_idem]

theorem registry_commit_self (s : State ι β Host) (d : Int32) (inner : AllocatorInner Host)
    (events : List (Event Host)) (next : ℕ) :
    (s.commit d inner events next).registry d = some inner :=
  registry_commit.mpr (.inl ⟨rfl, rfl⟩)

/-! ## Every step keeps the invariant -/

/-- **`allocate_scoped` keeps the invariant**, whatever the host answers. -/
theorem Governed.allocate (h : Governed s) (hd : s.registry d = some inner) {abi : Abi}
    {context : Option Context} {size : UInt64} {answer : Except Int32 Allocation}
    {freeStatus : Int32} {outcome : Outcome Host}
    (hspec : Allocates abi context d inner size answer freeStatus s.nextGrant outcome) :
    Governed (s.commit d outcome.inner (outcome.events ++ s.events) (s.nextGrant + 1)) := by
  have hok := h.ok d inner hd
  have hclosing := fun hc => h.closing d hc inner hd
  have hsub : ∀ events next, (s.commit d inner events next).tracked ⊆ s.tracked := fun _ _ =>
    tracked_commit_subset hd fun e he => he
  cases hspec with
  | refused =>
    exact h.shrink hd hok (fun e he => he) hclosing
      ((h.account.mono_next (Nat.le_succ _)).mono (hsub _ _))
  | failed =>
    exact h.shrink hd hok (fun e he => he) hclosing
      (((h.account.request _).mono_next (Nat.le_succ _)).mono (hsub _ _))
  | rejected =>
    exact h.shrink hd hok (fun e he => he) hclosing
      (((h.account.request _).reject _ _).mono (hsub _ _))
  | tracked hc hdevice hclient hanswer hfree => exact h.track hd hclient hfree _

/-- **`free_scoped` keeps the invariant**, whatever the host answers. -/
theorem Governed.free (h : Governed s) (hd : s.registry d = some inner) (abi : Abi)
    (pointer : UInt64) (status : Int32) :
    Governed (s.commit d (freeScoped abi inner pointer status).1
      ((freeScoped abi inner pointer status).2 ++ s.events) s.nextGrant) := by
  rw [freeScoped]
  split
  · simpa only [List.nil_append, commit_self hd] using h
  · rename_i e he
    by_cases hstatus : (status == abi.statusOk) = true
    · simp only [hstatus, if_true, List.cons_append, List.nil_append]
      exact h.release hd he true
    · rw [Bool.not_eq_true] at hstatus
      simp only [hstatus, Bool.false_eq_true, if_false, List.cons_append, List.nil_append]
      exact h.refuse hd he

/-- **The loop of `unregister_client` keeps the invariant**, in any order and with any statuses. -/
theorem Governed.reclaim (h : Governed s) (hd : s.registry d = some inner) (abi : Abi)
    (status : UInt64 → Int32) (order : List UInt64) :
    Governed (s.commit d (reclaim abi status (inner, s.events) order).1
      (reclaim abi status (inner, s.events) order).2 s.nextGrant) := by
  induction order generalizing s inner with
  | nil => simpa only [Allocator.reclaim, commit_self hd] using h
  | cons pointer order ih =>
    rw [Allocator.reclaim]
    split
    · exact ih h hd
    · rename_i e he
      have hnext := ih (h.release hd he (status pointer == abi.statusOk))
        (registry_commit_self ..)
      rwa [commit_commit] at hnext

/-- Scopes are no business of the registry. -/
theorem Governed.scopes (h : Governed s) {context : ι → Option Context}
    {guards : ι → List (Option Context)} {scopes : ι → List Context} {nextScopeId : β → UInt64}
    (hnested : ∀ t, Nested (context t) (guards t) (scopes t)) :
    Governed { s with context, guards, scopes, nextScopeId } :=
  ⟨hnested, h.ok, h.account, h.serial, h.closing⟩

theorem Governed.close (h : Governed s) {closing : Option Int32}
    (hclosing : ∀ d, closing = some d → ∀ inner, s.registry d = some inner → inner.clients = []) :
    Governed { s with closing } :=
  ⟨h.nested, h.ok, h.account, h.serial, hclosing⟩

/-- An entered scope covers the one before. -/
theorem Governed.enter [DecidableEq ι] (h : Governed s) (abi : Abi) (t : ι) (c : Context) :
    Governed (State.noteEnter t c (s.enter abi t c)) := by
  rw [State.enter]
  split
  · exact h
  · refine h.scopes fun u => ?_
    by_cases hu : u = t
    · subst hu
      simp only [Function.update_self]
      exact ⟨rfl, h.nested u⟩
    · simp only [Function.update_of_ne hu]
      exact h.nested u

/-- A dropped scope uncovers the one before. -/
theorem Governed.exit [DecidableEq ι] (h : Governed s) {t : ι} {previous : Option Context}
    {guards : List (Option Context)} (ht : s.guards t = previous :: guards) :
    Governed (State.noteExit t (s.exit t previous)) := by
  rw [State.noteExit, State.exit]
  refine h.scopes fun u => ?_
  by_cases hu : u = t
  · subst hu
    simp only [Function.update_self, ht, List.tail_cons]
    exact Nested.tail (ht ▸ h.nested u)
  · simp only [Function.update_of_ne hu]
    exact h.nested u

/-- **`unregister_client` keeps the invariant**: nothing of the client is left when it goes. -/
theorem Governed.unregisterClient (h : Governed s) (hd : s.registry d = some inner) (abi : Abi)
    {client : ClientKey} {order : List UInt64} (horder : order.Perm (inner.livePointers client))
    (status : UInt64 → Int32) :
    Governed (s.unregisterClient abi d inner client order status) := by
  have hnone := fun e => AllocatorInner.Ok.client_ne_of_reclaim abi status s.events horder (e := e)
  have hloop := h.reclaim hd abi status order
  rw [State.unregisterClient]
  generalize hr : Allocator.reclaim abi status (inner, s.events) order = result at hnone hloop ⊢
  obtain ⟨reclaimed, events⟩ := result
  dsimp only at hnone hloop ⊢
  split
  · exact hloop
  · have hreg : (s.commit d reclaimed events s.nextGrant).registry d = some reclaimed :=
      registry_commit_self ..
    have hgone : Governed (s.commit d (reclaimed.removeClient client) events s.nextGrant) := by
      rw [← commit_commit s d reclaimed _ events _ s.nextGrant]
      refine hloop.shrink hreg ((hloop.ok d reclaimed hreg).removeClient hnone) (fun e he => he)
        (fun hc => ?_) (hloop.account.mono (tracked_commit_subset hreg fun e he => he))
      rw [AllocatorInner.removeClient, hloop.closing d hc reclaimed hreg]
      rfl
    refine hgone.close fun d' hd' inner' hinner => ?_
    split_ifs at hd' with hnil
    · obtain rfl := Option.some.inj hd'
      obtain rfl := Option.some.inj ((registry_commit_self ..).symm.trans hinner)
      exact hnil

/-- **`register_client` keeps the invariant.** -/
theorem Governed.registerClient (h : Governed s) (hclosing : s.closing = none) (d : Int32)
    (client : ClientKey) (callbacks : Host) (ok : Bool) :
    Governed (s.registerClient d client callbacks ok) := by
  rw [State.registerClient]
  split
  · rename_i inner hd
    split
    · exact h
    · rename_i hnew
      have hinsert : Governed (s.commit d (inner.insertClient client callbacks) s.events
          s.nextGrant) :=
        h.shrink hd ((h.ok d inner hd).insertClient (by simpa using hnew) callbacks)
          (fun e he => he) (by simp [hclosing])
          (h.account.mono (tracked_commit_subset hd fun e he => he))
      exact hinsert
  · rename_i hd
    split
    · have hlive : ∀ {d' e}, (s.commit d ⟨[(client, callbacks)], []⟩ s.events s.nextGrant).Live
          d' e → s.Live d' e := by
        intro d' e he
        rcases live_commit.mp he with ⟨-, hmem⟩ | ⟨-, hold⟩
        · exact absurd hmem (by simp)
        · exact hold
      have hopen : Governed (s.commit d ⟨[(client, callbacks)], []⟩ s.events s.nextGrant) := by
        refine h.commit ⟨by simp, by simp⟩ (by simp [hclosing]) (h.account.mono ?_)
          fun d₁ e₁ d₂ e₂ h₁ h₂ => h.serial d₁ e₁ d₂ e₂ (hlive h₁) (hlive h₂)
        rintro x ⟨d', e, he, rfl⟩
        exact ⟨d', e, hlive he, rfl⟩
      exact hopen
    · exact h

/-- **An allocator that ORT lets go holds nothing.** -/
theorem Governed.unregisterAllocator (h : Governed s) (d : Int32) (ok : Bool) :
    Governed (s.unregisterAllocator d ok) := by
  cases ok with
  | false =>
    have hclose : Governed { s with closing := none } := h.close (by simp)
    exact hclose
  | true =>
    have hold : ∀ {d' inner}, (s.unregisterAllocator d true).registry d' = some inner →
        s.registry d' = some inner := by
      intro d' inner hinner
      by_cases hne : d' = d
      · subst hne
        exact absurd ((Function.update_self ..).symm.trans hinner) (by simp)
      · exact (Function.update_of_ne hne ..).symm.trans hinner
    refine ⟨h.nested, fun d' inner hinner => h.ok d' inner (hold hinner), h.account.mono ?_, ?_,
      by simp [State.unregisterAllocator]⟩
    · rintro x ⟨d', e, ⟨inner, hinner, he⟩, rfl⟩
      exact ⟨d', e, ⟨inner, hold hinner, he⟩, rfl⟩
    · rintro d₁ e₁ d₂ e₂ ⟨inner₁, h₁, he₁⟩ ⟨inner₂, h₂, he₂⟩
      exact h.serial d₁ e₁ d₂ e₂ ⟨inner₁, hold h₁, he₁⟩ ⟨inner₂, hold h₂, he₂⟩

end Invariant

/-! ## Whole runs -/

section Runs

variable [DecidableEq ι] [DecidableEq β] {abi : Abi} {bridge : β → Bridge}
  {s s' : State ι β Host}

/-- **Every step keeps the invariant.** -/
theorem Governed.step (h : Governed s) {a : Act ι β Host} (hs : step abi bridge s a = some s') :
    Governed s' := by
  cases Step.of_step hs with
  | refused => exact h
  | enterAdapterScope nextScopeId c => exact (h.scopes h.nested).enter abi _ c
  | enterProvider c => exact h.enter abi _ c
  | exit hguards => exact h.exit hguards
  | allocate hd houtcome =>
    subst houtcome
    exact h.allocate hd (allocates ..)
  | free hd => exact h.free hd abi _ _
  | register hclosing => exact h.registerClient hclosing _ _ _ _
  | unregister hd horder => exact h.unregisterClient hd abi horder _
  | unregisterAllocator hclosing => exact h.unregisterAllocator _ _

theorem governed_of_reach (h : (runs ι Host abi bridge).Reach s) : Governed s := by
  refine h.invariant (I := Governed) ?_ ?_
  · rintro s rfl
    exact governed_initial
  · intro s a s' hs _ hstep
    exact hs.step hstep

/-- What the hosts of the allocator may rely on in a state. -/
structure Owned (abi : Abi) (s : State ι β Host) : Prop where
  /-- A request goes to the callbacks registered for the client of the calling thread's innermost
  scope, and carries exactly that scope. -/
  request : ∀ t d inner size answer freeStatus callbacks request, s.registry d = some inner →
    .request (callbacks, request) ∈
      (allocateScoped abi (s.context t) d inner size answer freeStatus s.nextGrant).events →
    ∃ c, (s.scopes t).head? = some c ∧ c.deviceId = d ∧ inner.client? c.client = some callbacks ∧
      request = c.request abi c.deviceId size
  /-- Without such a scope no host hears of the allocation. -/
  refused : ∀ t d inner size answer freeStatus, s.registry d = some inner →
    (∀ c, (s.scopes t).head? = some c → c.deviceId = d → inner.client? c.client = none) →
    (allocateScoped abi (s.context t) d inner size answer freeStatus s.nextGrant).events = []
  /-- What is live belongs to a registered client. -/
  registered : ∀ d inner, s.registry d = some inner → ∀ e ∈ inner.live,
    inner.client? e.client = some e.callbacks
  distinct : ∀ d inner, s.registry d = some inner → (inner.live.map (·.pointer)).Nodup
  /-- What is passed to `free` was granted as it is, by the callbacks it is passed through. -/
  free : ∀ n x ok, .free n x ok ∈ s.events → .grant n x ∈ s.events
  grant : ∀ n x y, .grant n x ∈ s.events → .grant n y ∈ s.events → x = y
  /-- No two `free` calls of one grant succeed… -/
  once : s.events.Pairwise fun e e' => ∀ n x y, e = .free n x true → e' ≠ .free n y true
  /-- …nor, with a fresh allocation ID in every grant of a host, any two of one allocation. -/
  once_of_fresh : (∀ n m x y, .grant n x ∈ s.events → .grant m y ∈ s.events → x.1 = y.1 →
      x.2.allocationId = y.2.allocationId → n = m) →
    s.events.Pairwise fun e e' => ∀ n m x y, e = .free n x true → e' = .free m y true →
      x.1 = y.1 → x.2.allocationId ≠ y.2.allocationId

/-- **The allocator is governed** — in every interleaving of scopes, allocations, frees and clients
coming and going, on any threads and devices. -/
theorem allocator_governed (h : (runs ι Host abi bridge).Reach s) : Owned abi s := by
  have hg := governed_of_reach h
  have hlegal := hg.account.legal
  refine ⟨?_, ?_, fun d inner hd => (hg.ok d inner hd).registered,
    fun d inner hd => (hg.ok d inner hd).distinct, fun n x ok => hlegal.granted_of_free,
    fun n x y => hlegal.grant_unique, hlegal.freed_once, ?_⟩
  · intro t d inner size answer freeStatus callbacks request hd hmem
    have hspec := allocates abi (s.context t) d inner size answer freeStatus s.nextGrant
    rcases hspec.scope with hnil | ⟨c, callbacks', hc, hdevice, hclient, hall⟩
    · exact absurd hmem (by simp [hnil])
    · obtain ⟨rfl, rfl⟩ := Prod.mk.inj (hall _ hmem)
      exact ⟨c, (hg.nested t).eq_head? ▸ hc, hdevice, hclient, by rw [hdevice]⟩
  · intro t d inner size answer freeStatus hd hnone
    have hspec := allocates abi (s.context t) d inner size answer freeStatus s.nextGrant
    rcases hspec.scope with hnil | ⟨c, callbacks', hc, hdevice, hclient, -⟩
    · exact hnil
    · have hrefused := hnone c ((hg.nested t).eq_head? ▸ hc) hdevice
      exact absurd (hrefused.symm.trans hclient) (by simp)
  · intro hfresh
    refine hlegal.freed_once.imp_of_mem fun {e e'} he he' honce n m x y hx hy hhost hid => ?_
    have hgx := hlegal.granted_of_free (hx ▸ he)
    have hgy := hlegal.granted_of_free (hy ▸ he')
    obtain rfl := hfresh n m x y hgx hgy hhost hid
    exact honce n x y hx hy

/-- An ABI of plain constants, whose scopes are all well formed. -/
def plainAbi : Abi where
  scopeModel := 1
  scopeReplica := 2
  scopeRequest := 3
  scopeRequestBatch := 4
  classWeights := 1
  classKv := 2
  classWorkspace := 3
  classRequest := 4
  classOther := 5
  memoryCuda := 2
  statusOk := 0
  allocationSize := 40
  wellFormed _ := true
  deviceScopeWellFormed _ := true

/-- Two hosts on device 0; thread 0 allocates inside a scope of the first, the grant is refused by
`free` once and freed when the client leaves. -/
def refusedOnce : List (Act ℕ Unit Bool) :=
  [.register 0 ⟨7, 0⟩ true true, .register 0 ⟨8, 0⟩ false true, .enterAdapterScope 0 () 3 [11, 12],
   .allocate 0 0 512 (.ok ⟨40, 0, 5, 4096, 512⟩) 0, .allocate 1 0 512 (.error 1) 0,
   .free 0 4096 1, .exit 0, .unregister 0 ⟨7, 0⟩ [4096] fun _ => 0]

theorem allocator_governed_refusedOnce :
    ∃ s, (runs ℕ Bool plainAbi fun _ : Unit => ⟨0, 7, 0⟩).Reach s ∧
      s.events.length = 5 ∧ Owned plainAbi s := by
  obtain ⟨s, hs, hlength⟩ : ∃ s, (runs ℕ Bool plainAbi fun _ : Unit => ⟨0, 7, 0⟩).exec
      .initial refusedOnce = some s ∧ s.events.length = 5 := ⟨_, rfl, rfl⟩
  have hreach := Lts.reach_of_exec (.init rfl) refusedOnce hs
  exact ⟨s, hreach, hlength, allocator_governed hreach⟩

end Runs

end Kapsl.Ort.Allocator
