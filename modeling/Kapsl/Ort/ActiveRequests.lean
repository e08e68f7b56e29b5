import Kapsl.Lib.Threads
import Kapsl.Ort.Ffi
import Kapsl.Ort.SessionPool

/-!
# Ort/ActiveRequests — no cancellation is lost or reaches another registration

The cancellation registry on its own: any thread may register, attach a terminator to a live
registration, cancel an ID or drop a registration.  A locked section is one step; `attach` and
`cancel` call `terminate` in a step of their own, after the lock is gone.  Each `attach` brings a
terminator of its own, as both callers do, and the lock is never poisoned.

The model keeps what the code cannot see: the registrations that are `live`, the terminator last
attached to each, the registrations a `cancel` took effect on, and the terminators that were called.

* `registry_directed` — in every reachable state the keys are those of the live registrations, a
  failed `register` changes nothing, the last terminator of a cancelled registration was called or
  is about to be, and a registration is cancelled exactly when a `cancel` took effect on it.
-/

namespace Kapsl.Ort.ActiveRequests

/-- The terminator of an `attach` call, numbered in the order of the calls. -/
abbrev Terminator := ℕ

/-- `ActiveRequest`. -/
structure Request where
  cancelled : Bool
  terminator : Option Terminator

/-- The map behind the lock. -/
abbrev Requests := RequestId → Option Request

/-! ## The locked sections -/

/-- The first loop of `register`. -/
def checkIds (requests : Requests) (seen : List RequestId) : List RequestId → Except FfiError Unit
  | [] => .ok ()
  | id :: ids =>
    if id ∈ seen then .error (invalidArgument s!"native ORT batch repeats request ID {id}")
    else if (requests id).isSome then
      .error (invalidArgument s!"native ORT request ID {id} is already active")
    else checkIds requests (id :: seen) ids

/-- A loop that gives every listed ID the same entry. -/
def setAll (entry : Option Request) (requests : Requests) : List RequestId → Requests
  | [] => requests
  | id :: ids => setAll entry (Function.update requests id entry) ids

/-- The second loop of `register`. -/
def insertAll : Requests → List RequestId → Requests :=
  setAll (some { cancelled := false, terminator := none })

/-- The loop of `Drop for RequestRegistration`. -/
def removeAll : Requests → List RequestId → Requests :=
  setAll none

/-- `ActiveRequests::register`: the answer and the map it leaves. -/
def register (requests : Requests) (ids : List RequestId) : Except FfiError Unit × Requests :=
  if ids = [] then
    (.error (invalidArgument "native ORT cancellation registration requires a request ID"),
      requests)
  else
    match checkIds requests [] ids with
    | .error e => (.error e, requests)
    | .ok () => (.ok (), insertAll requests ids)

/-- `RequestRegistration::is_cancelled`. -/
def isCancelled (requests : Requests) (r : Registration) : Bool :=
  r.requestIds.any fun id => (requests id).any (·.cancelled)

/-- The locked loop of `attach`: whether to terminate, and the map it leaves. -/
def attachAll (τ : Terminator) (requests : Requests) (shouldTerminate : Bool) :
    List RequestId → Except FfiError Bool × Requests
  | [] => (.ok shouldTerminate, requests)
  | id :: ids =>
    match requests id with
    | none =>
      (.error (backendError
        s!"native ORT request {id} left the cancellation registry during inference"), requests)
    | some e =>
      attachAll τ (Function.update requests id (some { e with terminator := some τ }))
        (shouldTerminate || e.cancelled) ids

/-- The locked section of `cancel`: the terminator it cloned, and the map it leaves. -/
def cancel (requests : Requests) (id : RequestId) : Option Terminator × Requests :=
  match requests id with
  | none => (none, requests)
  | some e => (e.terminator, Function.update requests id (some { e with cancelled := true }))

/-! ## What the locked sections do -/

section Sections

variable {requests : Requests} {ids : List RequestId} {id : RequestId}

theorem checkIds_eq_ok_iff (requests : Requests) (seen ids : List RequestId) :
    checkIds requests seen ids = .ok () ↔
      ids.Nodup ∧ ∀ id ∈ ids, id ∉ seen ∧ requests id = none := by
  induction ids generalizing seen with
  | nil => simp [checkIds]
  | cons id ids ih =>
    rw [checkIds]
    split_ifs with hseen hactive
    · simp [hseen]
    · simp only [Option.isSome_iff_ne_none] at hactive
      simp [hactive]
    · have hnone : requests id = none := by simpa using hactive
      rw [ih]
      simp only [List.nodup_cons, List.mem_cons, forall_eq_or_imp, hnone, hseen, not_false_eq_true,
        true_and, and_true, not_or]
      constructor
      · rintro ⟨hnodup, hall⟩
        exact ⟨⟨fun hmem => (hall id hmem).1.1 rfl, hnodup⟩,
          fun id' hid' => ⟨(hall id' hid').1.2, (hall id' hid').2⟩⟩
      · rintro ⟨⟨hnot, hnodup⟩, hall⟩
        refine ⟨hnodup, fun id' hid' => ⟨⟨?_, (hall id' hid').1⟩, (hall id' hid').2⟩⟩
        rintro rfl
        exact hnot hid'

theorem setAll_apply (entry : Option Request) (requests : Requests) (ids : List RequestId)
    (id : RequestId) : setAll entry requests ids id = if id ∈ ids then entry else requests id := by
  induction ids generalizing requests with
  | nil => simp [setAll]
  | cons id' ids ih =>
    rw [setAll, ih]
    by_cases hmem : id ∈ ids
    · simp [hmem]
    · by_cases hid : id = id'
      · subst hid
        simp
      · simp [hmem, hid]

/-- **`attach` reaches every entry of its registration** when all of them are there. -/
theorem attachAll_eq (τ : Terminator) (requests : Requests) (b : Bool) (ids : List RequestId)
    (h : ∀ id ∈ ids, (requests id).isSome) :
    attachAll τ requests b ids =
      (.ok (b || ids.any fun id => (requests id).any (·.cancelled)),
        fun id => if id ∈ ids then (requests id).map ({ · with terminator := some τ })
          else requests id) := by
  induction ids generalizing requests b with
  | nil => simp [attachAll]
  | cons id ids ih =>
    obtain ⟨e, he⟩ := Option.isSome_iff_exists.mp (h id List.mem_cons_self)
    have hrest : ∀ id' ∈ ids, ((Function.update requests id
        (some { e with terminator := some τ })) id').isSome := by
      intro id' hid'
      by_cases hid : id' = id
      · simp [hid]
      · simpa [hid] using h id' (List.mem_cons_of_mem _ hid')
    have hflag : ∀ id', ((Function.update requests id (some { e with terminator := some τ }))
        id').any (·.cancelled) = (requests id').any (·.cancelled) := by
      intro id'
      by_cases hid : id' = id
      · simp [hid, he]
      · simp [hid]
    rw [attachAll, he]
    simp only
    rw [ih _ _ hrest]
    refine Prod.ext ?_ (funext fun id' => ?_)
    · simp only [hflag, List.any_cons, he, Option.any_some, Bool.or_assoc]
    · by_cases hid : id' = id
      · subst hid
        simp [he]
      · simp [hid]

/-- **A `register` succeeds exactly on a nonempty list of distinct, inactive IDs**, and then enters
all of them; otherwise it changes nothing. -/
theorem register_cases (requests : Requests) (ids : List RequestId) :
    (ids ≠ [] ∧ ids.Nodup ∧ (∀ id ∈ ids, requests id = none) ∧
      register requests ids = (.ok (), insertAll requests ids)) ∨
    ((ids = [] ∨ ¬ids.Nodup ∨ ∃ id ∈ ids, (requests id).isSome) ∧
      ∃ e, register requests ids = (.error e, requests)) := by
  have hiff := checkIds_eq_ok_iff requests [] ids
  simp only [List.not_mem_nil, not_false_eq_true, true_and] at hiff
  by_cases hnil : ids = []
  · exact .inr ⟨.inl hnil, _, by rw [register, if_pos hnil]⟩
  · rcases hcheck : checkIds requests [] ids with e | ⟨⟩
    · refine .inr ⟨.inr ?_, e, by rw [register, if_neg hnil, hcheck]⟩
      by_contra hgood
      push Not at hgood
      obtain ⟨hnodup, hnone⟩ := hgood
      have hok := hiff.mpr ⟨hnodup, fun id hid => by simpa using hnone id hid⟩
      exact absurd (hcheck.symm.trans hok) (by simp)
    · obtain ⟨hnodup, hnone⟩ := hiff.mp hcheck
      exact .inl ⟨hnil, hnodup, hnone, by rw [register, if_neg hnil, hcheck]⟩

end Sections

/-! ## The system -/

/-- The registry, its registrations, and what has happened so far. -/
structure State (ι : Type*) where
  requests : Requests
  /-- The registrations not yet dropped. -/
  live : List Registration
  /-- The `terminate` call a thread owes, past the locked section of `attach` or `cancel`. -/
  owed : ι → Option Terminator
  nextSerial : ℕ
  nextTerminator : Terminator
  /-- The terminator most recently attached to a registration. -/
  latest : Registration → Option Terminator
  /-- The live registrations that held an ID when a `cancel` of it had the lock. -/
  effects : List (Registration × RequestId)
  terminated : List Terminator

/-- One step of a thread. -/
inductive Act (ι : Type*)
  | register (t : ι) (ids : List RequestId)
  | attach (t : ι) (r : Registration)
  | cancel (t : ι) (id : RequestId)
  | drop (t : ι) (r : Registration)
  | terminate (t : ι)

variable {ι : Type*} [DecidableEq ι]

/-- `register`, and the registration it hands out. -/
def State.register (s : State ι) (ids : List RequestId) : State ι :=
  match ActiveRequests.register s.requests ids with
  | (.error _, requests) => { s with requests := requests }
  | (.ok (), requests) =>
    { s with
      requests := requests
      live := ⟨s.nextSerial, ids⟩ :: s.live
      nextSerial := s.nextSerial + 1 }

/-- The locked section of `attach`, with a terminator of its own. -/
def State.attach (s : State ι) (t : ι) (r : Registration) : State ι :=
  match attachAll s.nextTerminator s.requests false r.requestIds with
  | (.error _, requests) =>
    { s with requests := requests, nextTerminator := s.nextTerminator + 1 }
  | (.ok shouldTerminate, requests) =>
    { s with
      requests := requests
      owed := Function.update s.owed t (if shouldTerminate then some s.nextTerminator else none)
      nextTerminator := s.nextTerminator + 1
      latest := Function.update s.latest r (some s.nextTerminator) }

/-- The locked section of `cancel`. -/
def State.cancel (s : State ι) (t : ι) (id : RequestId) : State ι :=
  { s with
    requests := (ActiveRequests.cancel s.requests id).2
    owed := Function.update s.owed t (ActiveRequests.cancel s.requests id).1
    effects := (s.live.filter (id ∈ ·.requestIds)).map (·, id) ++ s.effects }

/-- `Drop for RequestRegistration`. -/
def State.drop (s : State ι) (r : Registration) : State ι :=
  { s with requests := removeAll s.requests r.requestIds, live := s.live.erase r }

/-- The `terminate` call a thread owes. -/
def State.terminate (s : State ι) (t : ι) (τ : Terminator) : State ι :=
  { s with owed := Function.update s.owed t none, terminated := τ :: s.terminated }

/-- The successor under a step: a thread starts a call when it owes nothing, and uses a registration
while it is live. -/
def step (s : State ι) : Act ι → Option (State ι)
  | .register t ids => if s.owed t = none then some (s.register ids) else none
  | .attach t r => if s.owed t = none ∧ r ∈ s.live then some (s.attach t r) else none
  | .cancel t id => if s.owed t = none then some (s.cancel t id) else none
  | .drop t r => if s.owed t = none ∧ r ∈ s.live then some (s.drop r) else none
  | .terminate t => (s.owed t).map (s.terminate t)

/-- An empty registry. -/
def State.initial : State ι where
  requests _ := none
  live := []
  owed _ := none
  nextSerial := 0
  nextTerminator := 0
  latest _ := none
  effects := []
  terminated := []

/-- The runs of the threads `ι`. -/
def runs (ι : Type*) [DecidableEq ι] : Lts (State ι) (Act ι) where
  init s := s = .initial
  step := step

/-! ## The invariant -/

/-- The request IDs of the live registrations. -/
def State.liveIds (s : State ι) : List RequestId := s.live.flatMap (·.requestIds)

/-- **The registry follows its registrations.** -/
structure Tracks (s : State ι) : Prop where
  fresh : ∀ r, s.nextSerial ≤ r.serial → r ∉ s.live ∧ s.latest r = none ∧
    ∀ id, (r, id) ∉ s.effects
  nodup : s.liveIds.Nodup
  keys : ∀ id, (s.requests id).isSome ↔ id ∈ s.liveIds
  entry : ∀ r ∈ s.live, ∀ id ∈ r.requestIds, ∀ e, s.requests id = some e →
    e.terminator = s.latest r ∧ (e.cancelled = true ↔ (r, id) ∈ s.effects)
  member : ∀ r id, (r, id) ∈ s.effects → id ∈ r.requestIds
  called : ∀ r id, (r, id) ∈ s.effects → ∀ τ, s.latest r = some τ →
    τ ∈ s.terminated ∨ ∃ t, s.owed t = some τ

section Invariant

variable {s : State ι}

omit [DecidableEq ι] in
theorem mem_liveIds {id : RequestId} : id ∈ s.liveIds ↔ ∃ r ∈ s.live, id ∈ r.requestIds :=
  List.mem_flatMap

omit [DecidableEq ι] in
/-- An ID belongs to one live registration. -/
theorem Tracks.eq_of_mem (h : Tracks s) {r r' : Registration} (hr : r ∈ s.live) (hr' : r' ∈ s.live)
    {id : RequestId} (hid : id ∈ r.requestIds) (hid' : id ∈ r'.requestIds) : r = r' := by
  by_contra hne
  have hsymm : Std.Symm (Function.onFun List.Disjoint Registration.requestIds) :=
    ⟨fun _ _ hd => hd.symm⟩
  exact (List.nodup_flatMap.mp h.nodup).2.forall hr hr' hne hid hid'

omit [DecidableEq ι] in
/-- The IDs of a live registration are in the registry. -/
theorem Tracks.exists_entry (h : Tracks s) {r : Registration} (hr : r ∈ s.live) {id : RequestId}
    (hid : id ∈ r.requestIds) : ∃ e, s.requests id = some e :=
  Option.isSome_iff_exists.mp ((h.keys id).mpr (mem_liveIds.mpr ⟨r, hr, hid⟩))

omit [DecidableEq ι] in
/-- **`is_cancelled` answers whether a `cancel` took effect on this very registration.** -/
theorem Tracks.isCancelled_iff (h : Tracks s) {r : Registration} (hr : r ∈ s.live) :
    isCancelled s.requests r = true ↔ ∃ id, (r, id) ∈ s.effects := by
  simp only [isCancelled, List.any_eq_true, Option.any_eq_true]
  constructor
  · rintro ⟨id, hid, e, he, hcancelled⟩
    exact ⟨id, (h.entry r hr id hid e he).2.mp hcancelled⟩
  · rintro ⟨id, heffect⟩
    have hid := h.member r id heffect
    obtain ⟨e, he⟩ := h.exists_entry hr hid
    exact ⟨id, hid, e, he, (h.entry r hr id hid e he).2.mpr heffect⟩

omit [DecidableEq ι] in
theorem tracks_initial : Tracks (State.initial : State ι) where
  fresh := by simp [State.initial]
  nodup := by simp [State.liveIds, State.initial]
  keys := by simp [State.liveIds, State.initial]
  entry := by simp [State.initial]
  member := by simp [State.initial]
  called := by simp [State.initial]

omit [DecidableEq ι] in
/-- The registration a successful `register` hands out is new, and so are its entries. -/
theorem Tracks.register (h : Tracks s) (ids : List RequestId) : Tracks (s.register ids) := by
  rcases register_cases s.requests ids with ⟨-, hnodup, hnone, hok⟩ | ⟨-, e, herror⟩
  · have hnew : ∀ id ∈ ids, id ∉ s.liveIds := by
      intro id hid hlive
      have hsome := (h.keys id).mpr hlive
      rw [hnone id hid] at hsome
      exact absurd hsome (by simp)
    obtain ⟨-, hlatest, hnoeffect⟩ := h.fresh ⟨s.nextSerial, ids⟩ le_rfl
    have hs : s.register ids = { s with
        requests := insertAll s.requests ids
        live := ⟨s.nextSerial, ids⟩ :: s.live
        nextSerial := s.nextSerial + 1 } := by rw [State.register, hok]
    rw [hs]
    refine ⟨?_, ?_, ?_, ?_, h.member, h.called⟩
    · intro r hr
      obtain ⟨hlive, hrest⟩ := h.fresh r ((Nat.le_succ _).trans hr)
      refine ⟨?_, hrest⟩
      rw [List.mem_cons, not_or]
      refine ⟨?_, hlive⟩
      rintro rfl
      exact absurd hr (Nat.not_succ_le_self _)
    · rw [State.liveIds, List.flatMap_cons]
      exact hnodup.append h.nodup hnew
    · intro id
      show (insertAll s.requests ids id).isSome ↔ id ∈ ids ++ s.liveIds
      rw [List.mem_append, insertAll, setAll_apply]
      split_ifs with hid
      · simp [hid]
      · simpa [hid] using h.keys id
    · intro r hr id hid e he
      replace he : insertAll s.requests ids id = some e := he
      rw [insertAll, setAll_apply] at he
      rcases List.mem_cons.mp hr with rfl | hr
      · rw [if_pos hid] at he
        obtain rfl := Option.some.inj he
        exact ⟨hlatest.symm, by simp [hnoeffect id]⟩
      · rw [if_neg fun hmem => hnew id hmem (mem_liveIds.mpr ⟨r, hr, hid⟩)] at he
        exact h.entry r hr id hid e he
  · rw [State.register, herror]
    exact h

omit [DecidableEq ι] in
/-- A dropped registration takes its own entries along. -/
theorem Tracks.drop (h : Tracks s) {r : Registration} (hr : r ∈ s.live) : Tracks (s.drop r) := by
  have hperm : s.liveIds.Perm (r.requestIds ++ (s.drop r).liveIds) :=
    (List.perm_cons_erase hr).flatMap_right Registration.requestIds
  have hnodup := hperm.nodup_iff.mp h.nodup
  have hapart : ∀ id ∈ (s.drop r).liveIds, id ∉ r.requestIds := fun id hid hmem =>
    (List.disjoint_of_nodup_append hnodup) hmem hid
  refine ⟨?_, hnodup.of_append_right, ?_, ?_, h.member, h.called⟩
  · intro r' hr'
    obtain ⟨hlive, hrest⟩ := h.fresh r' hr'
    exact ⟨fun hmem => hlive (List.mem_of_mem_erase hmem), hrest⟩
  · intro id
    have hrequests : (s.drop r).requests id = if id ∈ r.requestIds then none else s.requests id :=
      setAll_apply ..
    rw [hrequests]
    split_ifs with hid
    · simpa using fun hmem => hapart id hmem hid
    · simp [h.keys id, hperm.mem_iff, hid]
  · intro r' hr' id hid e he
    have hnot : id ∉ r.requestIds := hapart id (mem_liveIds.mpr ⟨r', hr', hid⟩)
    simp only [State.drop, removeAll, setAll_apply, if_neg hnot] at he
    exact h.entry r' (List.mem_of_mem_erase hr') id hid e he

/-- A thread that owes nothing may take any call on: what is owed stays owed. -/
theorem called_of_update {t : ι} (ht : s.owed t = none) {x : Option Terminator} {τ : Terminator}
    {P : Prop} (h : P ∨ ∃ u, s.owed u = some τ) :
    P ∨ ∃ u, Function.update s.owed t x u = some τ :=
  h.imp_right fun ⟨u, hu⟩ => ⟨u, Threads.update_eq_some (f := fun x => x) ht hu⟩

/-- What `attach` does for a live registration. -/
theorem Tracks.attach_eq (h : Tracks s) (t : ι) {r : Registration} (hr : r ∈ s.live) :
    s.attach t r = { s with
      requests := fun id =>
        if id ∈ r.requestIds then
          (s.requests id).map ({ · with terminator := some s.nextTerminator })
        else s.requests id
      owed := Function.update s.owed t
        (if isCancelled s.requests r then some s.nextTerminator else none)
      nextTerminator := s.nextTerminator + 1
      latest := Function.update s.latest r (some s.nextTerminator) } := by
  have hall : ∀ id ∈ r.requestIds, (s.requests id).isSome := fun id hid =>
    (h.keys id).mpr (mem_liveIds.mpr ⟨r, hr, hid⟩)
  rw [State.attach, attachAll_eq _ _ _ _ hall, Bool.false_or]
  rfl

/-- **`attach` hands the cancellation over**: a marked registration owes the call of the terminator
that replaces the one before. -/
theorem Tracks.attach (h : Tracks s) {t : ι} (ht : s.owed t = none) {r : Registration}
    (hr : r ∈ s.live) : Tracks (s.attach t r) := by
  rw [h.attach_eq t hr]
  refine ⟨?_, h.nodup, ?_, ?_, h.member, ?_⟩
  · intro r' hr'
    obtain ⟨hlive, hlatest, hrest⟩ := h.fresh r' hr'
    refine ⟨hlive, ?_, hrest⟩
    have hne : r' ≠ r := fun heq => hlive (heq ▸ hr)
    simpa only [Function.update_of_ne hne] using hlatest
  · intro id
    refine Iff.trans ?_ (h.keys id)
    simp only
    split_ifs
    · simp
    · rfl
  · intro r' hr' id hid e he
    simp only at he
    split_ifs at he with hmem
    · obtain rfl := h.eq_of_mem hr' hr hid hmem
      obtain ⟨e₀, he₀, rfl⟩ := Option.map_eq_some_iff.mp he
      refine ⟨?_, (h.entry r' hr' id hid e₀ he₀).2⟩
      simp
    · have hne : r' ≠ r := fun heq => hmem (heq ▸ hid)
      simpa only [Function.update_of_ne hne] using h.entry r' hr' id hid e he
  · intro r' id heffect τ hτ
    by_cases hne : r' = r
    · subst hne
      have hcancelled := (h.isCancelled_iff hr).mpr ⟨id, heffect⟩
      simp only [Function.update_self] at hτ
      refine .inr ⟨t, ?_⟩
      simp only [hcancelled, if_true, Function.update_self, hτ]
    · simp only [Function.update_of_ne hne] at hτ
      exact called_of_update ht (h.called r' id heffect τ hτ)

/-- A `cancel` takes effect on the live registrations that hold its ID. -/
theorem mem_effects_cancel {t : ι} {id id' : RequestId} {r : Registration} :
    (r, id') ∈ (s.cancel t id).effects ↔
      (id' = id ∧ r ∈ s.live ∧ id ∈ r.requestIds) ∨ (r, id') ∈ s.effects := by
  rw [State.cancel, List.mem_append, List.mem_map]
  refine or_congr ⟨?_, ?_⟩ Iff.rfl
  · rintro ⟨r', hr', heq⟩
    obtain ⟨rfl, rfl⟩ := Prod.mk.inj heq
    exact ⟨rfl, by simpa using List.mem_filter.mp hr'⟩
  · rintro ⟨rfl, hr, hid⟩
    exact ⟨r, List.mem_filter.mpr ⟨hr, by simpa using hid⟩, rfl⟩

theorem requests_cancel_of_ne {t : ι} {id id' : RequestId} (hid : id' ≠ id) :
    (s.cancel t id).requests id' = s.requests id' := by
  simp only [State.cancel, ActiveRequests.cancel]
  split
  · rfl
  · exact Function.update_of_ne hid ..

/-- A `cancel` marks the entry of its ID and takes on the call of its terminator. -/
theorem requests_cancel_self {t : ι} {id : RequestId} {e : Request}
    (he : s.requests id = some e) :
    (s.cancel t id).requests id = some { e with cancelled := true } ∧
      (s.cancel t id).owed t = e.terminator := by
  simp [State.cancel, ActiveRequests.cancel, he]

/-- **`cancel` marks the one live registration that holds the ID** and owes the call of the
terminator attached to it; with no such registration it does nothing. -/
theorem Tracks.cancel (h : Tracks s) {t : ι} (ht : s.owed t = none) (id : RequestId) :
    Tracks (s.cancel t id) := by
  refine ⟨?_, h.nodup, ?_, ?_, ?_, ?_⟩
  · intro r hr
    obtain ⟨hlive, hlatest, hnoeffect⟩ := h.fresh r hr
    refine ⟨hlive, hlatest, fun id' heffect => ?_⟩
    rcases mem_effects_cancel.mp heffect with ⟨-, hlive', -⟩ | heffect
    · exact hlive hlive'
    · exact hnoeffect id' heffect
  · intro id'
    refine Iff.trans ?_ (h.keys id')
    by_cases hid : id' = id
    · subst hid
      rcases he : s.requests id' with _ | e
      · simp [State.cancel, ActiveRequests.cancel, he]
      · simp [(requests_cancel_self he).1]
    · rw [requests_cancel_of_ne hid]
  · intro r hr id' hid' e' he'
    by_cases hid : id' = id
    · subst hid
      obtain ⟨e, he⟩ := h.exists_entry hr hid'
      obtain rfl := Option.some.inj ((requests_cancel_self he).1.symm.trans he')
      have heffect : (r, id') ∈ (s.cancel t id').effects :=
        mem_effects_cancel.mpr (.inl ⟨rfl, hr, hid'⟩)
      exact ⟨(h.entry r hr id' hid' e he).1, fun _ => heffect, fun _ => rfl⟩
    · rw [requests_cancel_of_ne hid] at he'
      obtain ⟨hterminator, hcancelled⟩ := h.entry r hr id' hid' e' he'
      exact ⟨hterminator, hcancelled.trans (by simp [mem_effects_cancel, hid])⟩
  · intro r id' heffect
    rcases mem_effects_cancel.mp heffect with ⟨rfl, -, hid⟩ | heffect
    · exact hid
    · exact h.member r id' heffect
  · intro r id' heffect τ hτ
    rcases mem_effects_cancel.mp heffect with ⟨-, hr, hid⟩ | heffect
    · obtain ⟨e, he⟩ := h.exists_entry hr hid
      refine .inr ⟨t, ?_⟩
      rw [(requests_cancel_self he).2, (h.entry r hr id hid e he).1]
      exact hτ
    · exact called_of_update ht (h.called r id' heffect τ hτ)

/-- A `terminate` call that is made is owed no longer. -/
theorem Tracks.terminate (h : Tracks s) {t : ι} {τ : Terminator} (ht : s.owed t = some τ) :
    Tracks (s.terminate t τ) := by
  refine ⟨h.fresh, h.nodup, h.keys, h.entry, h.member, fun r id heffect τ' hτ' => ?_⟩
  rcases h.called r id heffect τ' hτ' with hdone | ⟨u, hu⟩
  · exact .inl (List.mem_cons_of_mem _ hdone)
  · by_cases hut : u = t
    · subst hut
      obtain rfl := Option.some.inj (ht.symm.trans hu)
      exact .inl List.mem_cons_self
    · exact .inr ⟨u, (Function.update_of_ne hut ..).trans hu⟩

end Invariant

/-! ## Whole runs -/

/-- **Every step keeps the registry on its registrations.** -/
theorem Tracks.step {s s' : State ι} {a : Act ι} (h : Tracks s) (hs : step s a = some s') :
    Tracks s' := by
  cases a with
  | register t ids =>
    obtain ⟨-, hs⟩ := Option.ite_none_right_eq_some.mp hs
    exact Option.some.inj hs ▸ h.register ids
  | attach t r =>
    obtain ⟨⟨ht, hr⟩, hs⟩ := Option.ite_none_right_eq_some.mp hs
    exact Option.some.inj hs ▸ h.attach ht hr
  | cancel t id =>
    obtain ⟨ht, hs⟩ := Option.ite_none_right_eq_some.mp hs
    exact Option.some.inj hs ▸ h.cancel ht id
  | drop t r =>
    obtain ⟨⟨-, hr⟩, hs⟩ := Option.ite_none_right_eq_some.mp hs
    exact Option.some.inj hs ▸ h.drop hr
  | terminate t =>
    obtain ⟨τ, ht, rfl⟩ := Option.map_eq_some_iff.mp hs
    exact h.terminate ht

theorem tracks_of_reach {s : State ι} (h : (runs ι).Reach s) : Tracks s := by
  refine h.invariant (I := Tracks) ?_ ?_
  · rintro s rfl
    exact tracks_initial
  · intro s a s' hs _ hstep
    exact hs.step hstep

/-- What a caller of the registry may rely on in a state. -/
structure Directed (s : State ι) : Prop where
  /-- The keys are exactly the disjoint union of the IDs of the live registrations. -/
  keys : s.liveIds.Nodup ∧ ∀ id, (s.requests id).isSome ↔ id ∈ s.liveIds
  /-- `register` fails on an empty, repeated or active ID and then changes nothing. -/
  failing : ∀ ids, (∃ e, (register s.requests ids).1 = .error e) ↔
    ids = [] ∨ ¬ids.Nodup ∨ ∃ id ∈ ids, (s.requests id).isSome
  unchanged : ∀ ids e, (register s.requests ids).1 = .error e →
    (register s.requests ids).2 = s.requests
  /-- A `cancel` of any member of a registration, once it took effect, has the terminator last
  attached to that registration called, unless a call already started is about to. -/
  called : ∀ r id, (r, id) ∈ s.effects → id ∈ r.requestIds ∧ ∀ τ, s.latest r = some τ →
    τ ∈ s.terminated ∨ ∃ t, s.owed t = some τ
  /-- …and once the started calls are complete, has been called. -/
  complete : (∀ t, s.owed t = none) → ∀ r id, (r, id) ∈ s.effects → ∀ τ, s.latest r = some τ →
    τ ∈ s.terminated
  /-- A live registration is cancelled exactly when a `cancel` took effect on that very one. -/
  cancelled : ∀ r ∈ s.live, isCancelled s.requests r = true ↔ ∃ id, (r, id) ∈ s.effects
  /-- A registration still to come is not marked yet. -/
  later : ∀ r, s.nextSerial ≤ r.serial → ∀ id, (r, id) ∉ s.effects

/-- **No cancellation is lost or misdirected**, in any interleaving of any threads. -/
theorem registry_directed {s : State ι} (h : (runs ι).Reach s) : Directed s := by
  have ht := tracks_of_reach h
  refine ⟨⟨ht.nodup, ht.keys⟩, ?_, ?_, ?_, ?_, fun r hr => ht.isCancelled_iff hr,
    fun r hr => (ht.fresh r hr).2.2⟩
  · intro ids
    rcases register_cases s.requests ids with ⟨hnil, hnodup, hnone, hok⟩ | ⟨hbad, e, herror⟩
    · simp only [hok, reduceCtorEq, exists_false, hnil, hnodup, not_true_eq_false, false_or,
        false_iff, not_exists, not_and]
      intro id hid
      simp [hnone id hid]
    · simp [herror, hbad]
  · intro ids e he
    rcases register_cases s.requests ids with ⟨-, -, -, hok⟩ | ⟨-, e', herror⟩
    · rw [hok] at he
      exact absurd he (by simp)
    · rw [herror]
  · exact fun r id heffect => ⟨ht.member r id heffect, ht.called r id heffect⟩
  · intro hidle r id heffect τ hτ
    refine (ht.called r id heffect τ hτ).resolve_right ?_
    rintro ⟨t, howed⟩
    exact absurd ((hidle t).symm.trans howed) (by simp)

/-- A batch of two is cancelled by its second ID before its run attaches; the run's terminator is
called by the `attach` itself, and the ID is registered again, unmarked. -/
def cancelBeforeAttach : List (Act ℕ) :=
  [.register 0 [7, 8], .attach 0 ⟨0, [7, 8]⟩, .cancel 1 8, .terminate 1, .attach 0 ⟨0, [7, 8]⟩,
   .terminate 0, .drop 0 ⟨0, [7, 8]⟩, .register 1 [8]]

theorem registry_directed_cancelBeforeAttach :
    ∃ s, (runs ℕ).Reach s ∧ s.live = [⟨1, [8]⟩] ∧ (⟨0, [7, 8]⟩, 8) ∈ s.effects ∧
      s.latest ⟨0, [7, 8]⟩ = some 1 ∧ s.terminated = [1, 0] ∧ Directed s := by
  obtain ⟨s, hs, hlive, heffects, hlatest, hterminated⟩ : ∃ s, (runs ℕ).exec .initial
      cancelBeforeAttach = some s ∧ s.live = [⟨1, [8]⟩] ∧ s.effects = [(⟨0, [7, 8]⟩, 8)] ∧
      s.latest ⟨0, [7, 8]⟩ = some 1 ∧ s.terminated = [1, 0] := ⟨_, rfl, rfl, rfl, rfl, rfl⟩
  have hreach := Lts.reach_of_exec (.init rfl) cancelBeforeAttach hs
  exact ⟨s, hreach, hlive, by simp [heffects], hlatest, hterminated, registry_directed hreach⟩

end Kapsl.Ort.ActiveRequests
