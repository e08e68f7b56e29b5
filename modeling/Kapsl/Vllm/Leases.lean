import Kapsl.Lib.Lts
import Kapsl.Lib.Threads
import Kapsl.Vllm.Python

/-!
# Vllm/Leases — the scheduler's lease table under concurrent callbacks

`on_new_request` reserves a lease outside the lock and stores it under the lock, `request_finished`
takes one out and commits and releases it, `shutdown` takes all of them and releases them one by
one.  Each lock section and each RPC is one step; an RPC may return or raise anything.  A lease is
its place in the order of grants.

* `lease_conservation` — every lease granted is in one place, and none is left once `shutdown` and
  all callbacks have ended, in the runs in which `shutdown` is not interrupted and nothing is stored
  behind it.
* `lease_lost_abortedDrain`, `lease_kept_lateStore` — the two runs that condition leaves out.
-/

namespace Kapsl.Vllm.Leases

open Threads (Thread)

/-- Where a callback stands. -/
inductive Pc
  | idle
  /-- `on_new_request` before its first look at the table. -/
  | checking (requestId : String)
  /-- `on_new_request` about to reserve. -/
  | reserving (requestId : String)
  /-- `on_new_request` holds a lease it has still to store. -/
  | reserved (requestId : String) (lease : ℕ)
  /-- `on_new_request` lost the race; it is about to release its lease. -/
  | duplicate (lease : ℕ)
  /-- `request_finished` about to commit. -/
  | committing (lease : ℕ)
  /-- `request_finished` about to release. -/
  | releasing (lease : ℕ)
  /-- `shutdown` before its lock section. -/
  | stopping
  /-- The loop of `shutdown`. -/
  | draining (leases : List ℕ)
  deriving DecidableEq

/-- The loop over the leases `shutdown` took, or its end. -/
def Pc.drain : List ℕ → Pc
  | [] => .idle
  | leases => .draining leases

/-- The table, the callbacks, and the history of grants and release attempts. -/
structure State (ι : Type*) where
  /-- `_leases`. -/
  table : List (String × ℕ)
  threads : ι → Pc
  /-- How many leases were granted. -/
  granted : ℕ
  /-- The request a lease was granted for. -/
  owner : ℕ → String
  /-- How often a release of the lease was attempted. -/
  attempts : ℕ → ℕ
  /-- A `shutdown` has cleared the table. -/
  cleared : Bool

/-- One step of a callback; RPCs carry their outcome. -/
inductive Act (ι : Type*)
  | begin (t : ι) (requestId : String)
  /-- `_raise_if_control_failed`, `_ensure_shared_active` or `make_reserve_request` raises. -/
  | abort (t : ι)
  | check (t : ι)
  | reserve (t : ι) (result : Except PyError Unit)
  | store (t : ι)
  | releaseDuplicate (t : ι) (result : Except PyError Unit)
  | finish (t : ι) (requestId : String)
  | commit (t : ι) (result : Except PyError Unit)
  | release (t : ι) (result : Except PyError Unit)
  | stop (t : ι)
  | clear (t : ι)
  | drain (t : ι) (result : Except PyError Unit)

namespace State

variable {ι : Type*}

/-- No lease, no callback. -/
def initial : State ι where
  table := []
  threads _ := .idle
  granted := 0
  owner _ := ""
  attempts _ := 0
  cleared := false

variable [DecidableEq ι]

/-- Move a callback. -/
def goto (s : State ι) (t : ι) (pc : Pc) : State ι :=
  { s with threads := Function.update s.threads t pc }

/-- A `release` RPC is attempted. -/
def attempt (s : State ι) (lease : ℕ) : State ι :=
  { s with attempts := Function.update s.attempts lease (s.attempts lease + 1) }

/-- The coordinator grants a lease. -/
def grant (s : State ι) (t : ι) (requestId : String) : State ι :=
  { s with
    threads := Function.update s.threads t (.reserved requestId s.granted)
    granted := s.granted + 1
    owner := Function.update s.owner s.granted requestId }

/-- `previous = self._leases.setdefault(request_id, lease)`. -/
def store (s : State ι) (t : ι) (requestId : String) (lease : ℕ) : State ι :=
  match s.table.lookup requestId with
  | some _ => s.goto t (.duplicate lease)
  | none => { s with table := s.table ++ [(requestId, lease)] }.goto t .idle

/-- `lease = self._leases.pop(request_id, None)`. -/
def pop (s : State ι) (t : ι) (requestId : String) : State ι :=
  match s.table.lookup requestId with
  | none => s
  | some lease =>
    { s with table := s.table.erase (requestId, lease) }.goto t (.committing lease)

/-- `leases = list(self._leases.values()); self._leases.clear()`. -/
def clear (s : State ι) (t : ι) : State ι :=
  { s with table := [], cleared := true }.goto t (.drain (s.table.map Prod.snd))

end State

variable {ι : Type*} [DecidableEq ι]

/-- Whether the loop of `shutdown` goes on after a release: only `KapslKvControlError` is caught. -/
def survives : Except PyError Unit → Bool
  | .ok () => true
  | .error error => error.isControlError

/-- The successor under a step, if the callback stands where the step starts. -/
def step (s : State ι) : Act ι → Option (State ι)
  | .begin t requestId =>
    match s.threads t with
    | .idle => some (s.goto t (.checking requestId))
    | _ => none
  | .abort t =>
    match s.threads t with
    | .checking _ | .reserving _ => some (s.goto t .idle)
    | _ => none
  | .check t =>
    match s.threads t with
    | .checking requestId =>
      some (s.goto t (if (s.table.lookup requestId).isSome then .idle else .reserving requestId))
    | _ => none
  | .reserve t result =>
    match s.threads t with
    | .reserving requestId =>
      match result with
      | .ok () => some (s.grant t requestId)
      | .error _ => some (s.goto t .idle)
    | _ => none
  | .store t =>
    match s.threads t with
    | .reserved requestId lease => some (s.store t requestId lease)
    | _ => none
  | .releaseDuplicate t _ =>
    match s.threads t with
    | .duplicate lease => some ((s.attempt lease).goto t .idle)
    | _ => none
  | .finish t requestId =>
    match s.threads t with
    | .idle => some (s.pop t requestId)
    | _ => none
  -- Whatever `commit` raises is kept for later: the release is still attempted.
  | .commit t _ =>
    match s.threads t with
    | .committing lease => some (s.goto t (.releasing lease))
    | _ => none
  | .release t _ =>
    match s.threads t with
    | .releasing lease => some ((s.attempt lease).goto t .idle)
    | _ => none
  | .stop t =>
    match s.threads t with
    | .idle => some (s.goto t .stopping)
    | _ => none
  | .clear t =>
    match s.threads t with
    | .stopping => some (s.clear t)
    | _ => none
  | .drain t result =>
    match s.threads t with
    | .draining (lease :: rest) =>
      some ((s.attempt lease).goto t (if survives result then .drain rest else .idle))
    | _ => none

/-- The runs of the callbacks `ι`. -/
def lts (ι : Type*) [DecidableEq ι] : Lts (State ι) (Act ι) where
  init s := s = .initial
  step := step

/-! ## Places of a lease -/

/-- The places a granted lease can be in. -/
inductive Location (ι : Type*)
  | running (t : ι)
  | stored (requestId : String)
  | releasing (t : ι)
  | released

/-- The lease a running `on_new_request` holds. -/
def Pc.requested : Pc → List ℕ
  | .reserved _ lease | .duplicate lease => [lease]
  | _ => []

/-- The leases whose release a running `request_finished` or `shutdown` will still attempt. -/
def Pc.owed : Pc → List ℕ
  | .committing lease | .releasing lease => [lease]
  | .draining leases => leases
  | _ => []

/-- The lease is at that place. -/
def State.At (s : State ι) (lease : ℕ) : Location ι → Prop
  | .running t => lease ∈ (s.threads t).requested
  | .stored requestId => (requestId, lease) ∈ s.table ∧ s.owner lease = requestId
  | .releasing t => lease ∈ (s.threads t).owed
  | .released => 1 ≤ s.attempts lease

/-- **Every lease granted is in exactly one place, with at most one release attempted; and once a
`shutdown` has cleared the table and no callback runs, each had exactly one.** -/
def Conserved (s : State ι) : Prop :=
  (∀ lease < s.granted, s.attempts lease ≤ 1 ∧ ∃! place, s.At lease place) ∧
    (s.cleared = true → (∀ t, s.threads t = .idle) → ∀ lease < s.granted, s.attempts lease = 1)

/-- The step neither interrupts the loop of `shutdown` with leases left in it nor stores a lease
behind a `shutdown` that has cleared the table. -/
def Contained (s : State ι) : Act ι → Prop
  | .drain t (.error error) => ∀ lease rest, s.threads t = .draining (lease :: rest) →
      rest ≠ [] → error.isControlError = true
  | .store _ => s.cleared = false
  | _ => True

/-! ## The account of a lease -/

/-- All a callback holds. -/
def Pc.held (pc : Pc) : List ℕ := pc.requested ++ pc.owed

@[simp] theorem Pc.held_drain (leases : List ℕ) : (Pc.drain leases).held = leases := by
  cases leases <;> rfl

theorem Pc.requested_eq_nil_or (pc : Pc) : pc.requested = [] ∨ pc.owed = [] := by
  cases pc <;> simp [requested, owed]

/-- How often the lease was granted. -/
def State.grants {ι : Type*} (s : State ι) (lease : ℕ) : ℕ := if lease < s.granted then 1 else 0

/-- How often the callbacks hold the lease. -/
def State.heldCount {ι : Type*} [Fintype ι] (s : State ι) (lease : ℕ) : ℕ :=
  ∑ t, (s.threads t).held.count lease

/-- How often the table holds the lease. -/
def State.tableCount {ι : Type*} (s : State ι) (lease : ℕ) : ℕ :=
  (s.table.map Prod.snd).count lease

/-- **Callbacks, table and release attempts account for every granted lease once**, and the table
files a lease under its own request. -/
structure Inv {ι : Type*} [Fintype ι] (s : State ι) : Prop where
  total : ∀ lease, s.heldCount lease + s.tableCount lease + s.attempts lease = s.grants lease
  table_owner : ∀ requestId lease, (requestId, lease) ∈ s.table → s.owner lease = requestId
  held_owner : ∀ t requestId lease, s.threads t = .reserved requestId lease →
    s.owner lease = requestId
  cleared : s.cleared = true → s.table = []

theorem inv_initial {ι : Type*} [Fintype ι] : Inv (State.initial : State ι) := by
  refine ⟨fun lease => ?_, by simp [State.initial], by simp [State.initial], fun _ => rfl⟩
  simp [State.heldCount, State.tableCount, State.grants, State.initial, Pc.held, Pc.requested,
    Pc.owed]

section Account

variable [Fintype ι] {s : State ι}

/-- What the callbacks hold after one of them moved. -/
theorem heldCount_goto (s : State ι) (t : ι) (pc : Pc) (lease : ℕ) :
    (s.goto t pc).heldCount lease + (s.threads t).held.count lease =
      s.heldCount lease + pc.held.count lease :=
  Threads.sum_update (fun pc => pc.held.count lease) s.threads t pc

/-- The owner clause for a callback that moved. -/
theorem Inv.held_owner_goto (h : Inv s) {t : ι} {pc : Pc}
    (hpc : ∀ requestId lease, pc = .reserved requestId lease → s.owner lease = requestId)
    (u : ι) (requestId : String) (lease : ℕ)
    (hu : (s.goto t pc).threads u = .reserved requestId lease) : s.owner lease = requestId := by
  by_cases hut : u = t
  · subst hut
    exact hpc requestId lease (by simpa only [State.goto, Function.update_self] using hu)
  · exact h.held_owner u requestId lease
      (by simpa only [State.goto, Function.update_of_ne hut] using hu)

/-- A callback that moves on with what it holds. -/
theorem Inv.goto (h : Inv s) {t : ι} {pc : Pc} (hheld : pc.held = (s.threads t).held)
    (hpc : ∀ requestId lease, pc = .reserved requestId lease → s.owner lease = requestId) :
    Inv (s.goto t pc) := by
  refine ⟨fun lease => ?_, h.table_owner, h.held_owner_goto hpc, h.cleared⟩
  have hsum := heldCount_goto s t pc lease
  have htotal := h.total lease
  rw [hheld] at hsum
  change (s.goto t pc).heldCount lease + s.tableCount lease + s.attempts lease = s.grants lease
  omega

/-- A release attempt: the lease leaves the callback that held it first in its list. -/
theorem Inv.attempt (h : Inv s) {t : ι} {pc : Pc} {lease : ℕ}
    (hheld : (s.threads t).held = lease :: pc.held)
    (hpc : ∀ requestId lease, pc ≠ .reserved requestId lease) :
    Inv ((s.attempt lease).goto t pc) := by
  refine ⟨fun n => ?_, h.table_owner,
    h.held_owner_goto fun r l hr => absurd hr (hpc r l), h.cleared⟩
  have hsum := heldCount_goto s t pc n
  have htotal := h.total n
  rw [hheld, List.count_cons] at hsum
  change (s.goto t pc).heldCount n + s.tableCount n +
    Function.update s.attempts lease (s.attempts lease + 1) n = s.grants n
  by_cases hn : n = lease
  · subst hn
    simp only [beq_self_eq_true, if_true] at hsum
    rw [Function.update_self]
    omega
  · have hn' : (lease == n) = false := by simpa using Ne.symm hn
    simp only [hn', Bool.false_eq_true, if_false] at hsum
    rw [Function.update_of_ne hn]
    omega

/-- The coordinator grants a fresh lease. -/
theorem Inv.grant (h : Inv s) {t : ι} {requestId : String}
    (ht : s.threads t = .reserving requestId) : Inv (s.grant t requestId) := by
  have hfresh := h.total s.granted
  have hzero : s.grants s.granted = 0 := if_neg (lt_irrefl _)
  have howner : ∀ n, n ≠ s.granted → Function.update s.owner s.granted requestId n = s.owner n :=
    fun n hn => Function.update_of_ne hn ..
  refine ⟨fun n => ?_, ?_, ?_, h.cleared⟩
  · have hsum := heldCount_goto s t (.reserved requestId s.granted) n
    have htotal := h.total n
    rw [ht] at hsum
    change (s.goto t (.reserved requestId s.granted)).heldCount n + s.tableCount n + s.attempts n =
      if n < s.granted + 1 then 1 else 0
    by_cases hn : n = s.granted
    · subst hn
      simp only [Pc.held, Pc.requested, Pc.owed, List.append_nil, List.count_nil,
        List.count_singleton_self] at hsum
      rw [if_pos (Nat.lt_succ_self _)]
      omega
    · have hn' : (s.granted == n) = false := by simpa using Ne.symm hn
      simp only [Pc.held, Pc.requested, Pc.owed, List.append_nil, List.count_nil,
        List.count_singleton, hn', Bool.false_eq_true, if_false] at hsum
      have hlt : (n < s.granted + 1) ↔ n < s.granted := by omega
      simp only [hlt]
      change _ = s.grants n
      omega
  · intro r n hmem
    have hpos : 0 < s.tableCount n := List.count_pos_iff.mpr (List.mem_map_of_mem hmem)
    have hne : n ≠ s.granted := by
      rintro rfl
      omega
    exact (howner n hne).trans (h.table_owner r n hmem)
  · intro u r n hu
    by_cases hut : u = t
    · subst hut
      simp only [State.grant, Function.update_self, Pc.reserved.injEq] at hu
      obtain ⟨rfl, rfl⟩ := hu
      exact Function.update_self ..
    · simp only [State.grant, Function.update_of_ne hut] at hu
      have hpos : 0 < s.heldCount n := by
        refine Finset.sum_pos' (fun _ _ => Nat.zero_le _) ⟨u, Finset.mem_univ u, ?_⟩
        simp [hu, Pc.held, Pc.requested]
      have hne : n ≠ s.granted := by
        rintro rfl
        omega
      exact (howner n hne).trans (h.held_owner u r n hu)

/-- `setdefault`: the lease goes into the table, or the callback keeps it as a duplicate. -/
theorem Inv.store (h : Inv s) {t : ι} {requestId : String} {lease : ℕ}
    (ht : s.threads t = .reserved requestId lease) (hcleared : s.cleared = false) :
    Inv (s.store t requestId lease) := by
  dsimp only [State.store]
  split
  · refine h.goto ?_ (by simp)
    rw [ht]
    rfl
  · have howner := h.held_owner t requestId lease ht
    refine ⟨fun n => ?_, ?_, h.held_owner_goto (by simp), ?_⟩
    · have hsum := heldCount_goto s t .idle n
      have htotal := h.total n
      rw [ht] at hsum
      change (s.goto t .idle).heldCount n +
        ((s.table ++ [(requestId, lease)]).map Prod.snd).count n + s.attempts n = s.grants n
      rw [List.map_append, List.count_append]
      change _ + (s.tableCount n + [lease].count n) + _ = _
      simp only [Pc.held, Pc.requested, Pc.owed, List.append_nil, List.count_nil] at hsum
      omega
    · intro r n hmem
      rcases List.mem_append.mp hmem with hmem | hmem
      · exact h.table_owner r n hmem
      · obtain ⟨rfl, rfl⟩ := Prod.mk.inj (List.mem_singleton.mp hmem)
        exact howner
    · intro hc
      exact absurd (hcleared.symm.trans hc) (by simp)

/-- `pop`: the lease leaves the table for the callback. -/
theorem Inv.pop (h : Inv s) {t : ι} (ht : s.threads t = .idle) (requestId : String) :
    Inv (s.pop t requestId) := by
  dsimp only [State.pop]
  split
  · exact h
  · rename_i lease hlookup
    have hmem : (requestId, lease) ∈ s.table := by
      obtain ⟨before, after, htable, -⟩ := List.lookup_eq_some_iff.mp hlookup
      rw [htable]
      exact List.mem_append_right before List.mem_cons_self
    refine ⟨fun n => ?_, ?_, h.held_owner_goto (by simp), ?_⟩
    · have hsum := heldCount_goto s t (.committing lease) n
      have htotal := h.total n
      have hperm := ((List.perm_cons_erase hmem).map Prod.snd).count_eq n
      rw [ht] at hsum
      change (s.goto t (.committing lease)).heldCount n +
        ((s.table.erase (requestId, lease)).map Prod.snd).count n + s.attempts n = s.grants n
      simp only [Pc.held, Pc.requested, Pc.owed, List.nil_append, List.count_nil] at hsum
      rw [List.map_cons, ← List.singleton_append, List.count_append] at hperm
      change s.tableCount n = [lease].count n + _ at hperm
      omega
    · intro r n hmem
      exact h.table_owner r n (List.mem_of_mem_erase hmem)
    · intro hc
      rw [h.cleared hc] at hmem
      exact absurd hmem (by simp)

/-- `clear`: all leases leave the table for the loop of `shutdown`. -/
theorem Inv.clear (h : Inv s) {t : ι} (ht : s.threads t = .stopping) : Inv (s.clear t) := by
  have hpc : ∀ r l, Pc.drain (s.table.map Prod.snd) ≠ .reserved r l := by
    intro r l
    cases s.table <;> simp [Pc.drain]
  refine ⟨fun n => ?_, by simp [State.clear, State.goto],
    h.held_owner_goto fun r l hr => absurd hr (hpc r l), fun _ => rfl⟩
  have hsum := heldCount_goto s t (.drain (s.table.map Prod.snd)) n
  have htotal := h.total n
  rw [ht, Pc.held_drain] at hsum
  change (s.goto t (.drain (s.table.map Prod.snd))).heldCount n + 0 + s.attempts n = s.grants n
  change _ = s.heldCount n + s.tableCount n at hsum
  simp only [Pc.held, Pc.requested, Pc.owed, List.append_nil, List.count_nil] at hsum
  omega

end Account

/-! ## Whole runs -/

section Runs

variable [Fintype ι]

/-- A release of `shutdown`: the list is left early only when nothing is left of it. -/
theorem Inv.drain (h : Inv s) {t : ι} {lease : ℕ} {rest : List ℕ} {result : Except PyError Unit}
    (ht : s.threads t = .draining (lease :: rest)) (hok : Contained s (.drain t result)) :
    Inv ((s.attempt lease).goto t (if survives result then .drain rest else .idle)) := by
  cases hsurvives : survives result with
  | true =>
    refine h.attempt ?_ ?_
    · rw [ht, if_pos rfl, Pc.held_drain]
      rfl
    · rw [if_pos rfl]
      cases rest <;> simp [Pc.drain]
  | false =>
    have hrest : rest = [] := by
      by_contra hne
      cases result with
      | ok u => exact absurd hsurvives (by simp [survives])
      | error error =>
        have hcontrol := hok lease rest ht hne
        exact absurd (hcontrol.symm.trans hsurvives) (by simp)
    refine h.attempt ?_ (by simp)
    rw [ht, hrest]
    rfl

/-- **One contained step keeps the account.** -/
theorem Inv.step {s s' : State ι} {a : Act ι} (h : Inv s) (hok : Contained s a)
    (hs : step s a = some s') : Inv s' := by
  cases a with (dsimp only [Leases.step] at hs; split at hs <;> try contradiction)
  | begin t requestId =>
    rename_i ht
    exact Option.some.inj hs ▸ h.goto (by rw [ht]; rfl) (by simp)
  | abort t =>
    all_goals
      rename_i ht
      exact Option.some.inj hs ▸ h.goto (by rw [ht]; rfl) (by simp)
  | check t =>
    rename_i requestId ht
    obtain rfl := Option.some.inj hs
    split
    · exact h.goto (by rw [ht]; rfl) (by simp)
    · exact h.goto (by rw [ht]; rfl) (by simp)
  | reserve t result =>
    rename_i requestId ht
    split at hs
    · exact Option.some.inj hs ▸ h.grant ht
    · exact Option.some.inj hs ▸ h.goto (by rw [ht]; rfl) (by simp)
  | store t =>
    rename_i requestId lease ht
    exact Option.some.inj hs ▸ h.store ht hok
  | releaseDuplicate t result =>
    rename_i lease ht
    exact Option.some.inj hs ▸ h.attempt (by rw [ht]; rfl) (by simp)
  | finish t requestId =>
    rename_i ht
    exact Option.some.inj hs ▸ h.pop ht requestId
  | commit t result =>
    rename_i lease ht
    exact Option.some.inj hs ▸ h.goto (by rw [ht]; rfl) (by simp)
  | release t result =>
    rename_i lease ht
    exact Option.some.inj hs ▸ h.attempt (by rw [ht]; rfl) (by simp)
  | stop t =>
    rename_i ht
    exact Option.some.inj hs ▸ h.goto (by rw [ht]; rfl) (by simp)
  | clear t =>
    rename_i ht
    exact Option.some.inj hs ▸ h.clear ht
  | drain t result =>
    rename_i lease rest ht
    exact Option.some.inj hs ▸ h.drain ht hok

/-- The account holds along every contained run. -/
theorem inv_of_reach {s : State ι} (h : (lts ι).ReachBy Contained s) : Inv s := by
  refine h.invariant ?_ fun s a s' hi hok hs => hi.step hok hs
  rintro s rfl
  exact inv_initial

omit [DecidableEq ι] in
/-- Which part of the account a place belongs to. -/
theorem State.At.counts {s : State ι} {lease : ℕ} {place : Location ι} (h : s.At lease place) :
    match place with
    | .running t | .releasing t => lease ∈ (s.threads t).held ∧ 0 < s.heldCount lease
    | .stored _ => 0 < s.tableCount lease
    | .released => 0 < s.attempts lease := by
  have hheld : ∀ t, lease ∈ (s.threads t).held → 0 < s.heldCount lease := fun t ht =>
    Finset.sum_pos' (fun _ _ => Nat.zero_le _) ⟨t, Finset.mem_univ t, List.count_pos_iff.mpr ht⟩
  cases place with
  | running t =>
    have ht := List.mem_append_left (s.threads t).owed h
    exact ⟨ht, hheld t ht⟩
  | stored requestId => exact List.count_pos_iff.mpr (List.mem_map_of_mem h.1)
  | releasing t =>
    have ht := List.mem_append_right (s.threads t).requested h
    exact ⟨ht, hheld t ht⟩
  | released => exact h

omit [DecidableEq ι] in
/-- A lease counted once is somewhere. -/
theorem Inv.exists_place {s : State ι} (h : Inv s) {lease : ℕ}
    (htotal : s.heldCount lease + s.tableCount lease + s.attempts lease = 1) :
    ∃ place, s.At lease place := by
  by_cases hheld : s.heldCount lease = 0
  · by_cases htable : s.tableCount lease = 0
    · exact ⟨.released, by simp only [State.At]; omega⟩
    · obtain ⟨⟨requestId, n⟩, hmem, rfl⟩ := List.mem_map.mp
        (List.count_pos_iff.mp (Nat.pos_of_ne_zero htable))
      exact ⟨.stored requestId, hmem, h.table_owner requestId n hmem⟩
  · obtain ⟨t, -, ht⟩ := Finset.exists_ne_zero_of_sum_ne_zero hheld
    rcases List.mem_append.mp (List.count_pos_iff.mp (Nat.pos_of_ne_zero ht)) with ht | ht
    · exact ⟨.running t, ht⟩
    · exact ⟨.releasing t, ht⟩

/-- A lease counted once is nowhere else. -/
theorem State.At.unique {s : State ι} {lease : ℕ}
    (htotal : s.heldCount lease + s.tableCount lease + s.attempts lease = 1) {p q : Location ι}
    (hp : s.At lease p) (hq : s.At lease q) : p = q := by
  have hthread : ∀ t u, lease ∈ (s.threads t).held → lease ∈ (s.threads u).held → t = u := by
    intro t u ht hu
    have hle : s.heldCount lease ≤ 1 := by omega
    exact Threads.eq_of_sum_le_one hle (List.count_pos_iff.mpr ht) (List.count_pos_iff.mpr hu)
  have hrole : ∀ t, lease ∈ (s.threads t).requested → lease ∉ (s.threads t).owed := by
    intro t hreq howed
    rcases (s.threads t).requested_eq_nil_or with h | h
    · exact absurd hreq (by simp [h])
    · exact absurd howed (by simp [h])
  have hpc := hp.counts
  have hqc := hq.counts
  cases p with
  | running t =>
    cases q with
    | running u => rw [hthread t u hpc.1 hqc.1]
    | releasing u =>
      obtain rfl := hthread t u hpc.1 hqc.1
      exact absurd hq (hrole t hp)
    | stored r => dsimp only at hpc hqc; omega
    | released => dsimp only at hpc hqc; omega
  | releasing t =>
    cases q with
    | releasing u => rw [hthread t u hpc.1 hqc.1]
    | running u =>
      obtain rfl := hthread t u hpc.1 hqc.1
      exact absurd hp (hrole t hq)
    | stored r => dsimp only at hpc hqc; omega
    | released => dsimp only at hpc hqc; omega
  | stored r =>
    cases q with
    | stored r' => rw [← hp.2, ← hq.2]
    | running u => dsimp only at hpc hqc; omega
    | releasing u => dsimp only at hpc hqc; omega
    | released => dsimp only at hpc hqc; omega
  | released =>
    cases q with
    | released => rfl
    | running u => dsimp only at hpc hqc; omega
    | releasing u => dsimp only at hpc hqc; omega
    | stored r => dsimp only at hpc hqc; omega

/-- **The account gives conservation.** -/
theorem Inv.conserved {s : State ι} (h : Inv s) : Conserved s := by
  refine ⟨fun lease hlease => ?_, fun hcleared hidle lease hlease => ?_⟩
  · have htotal := (h.total lease).trans (if_pos hlease)
    refine ⟨by omega, existsUnique_of_exists_of_unique (h.exists_place htotal) ?_⟩
    exact fun p q hp hq => hp.unique htotal hq
  · have htotal := (h.total lease).trans (if_pos hlease)
    have hheld : s.heldCount lease = 0 := by
      refine Finset.sum_eq_zero fun t _ => ?_
      rw [hidle t]
      rfl
    have htable : s.tableCount lease = 0 := by
      rw [State.tableCount, h.cleared hcleared]
      rfl
    omega

/-- **Lease conservation** — in every run whose steps neither interrupt the loop of `shutdown` with
leases left in it nor store a lease behind it, every lease granted is in exactly one place, and once
`shutdown` and all callbacks have ended each had exactly one release attempted. -/
theorem lease_conservation {s : State ι} (h : (lts ι).ReachBy Contained s) : Conserved s :=
  (inv_of_reach h).conserved

end Runs

/-- Two requests get a lease each; one finishes; `shutdown` releases the other, which fails. -/
def twoRequests : List (Act Thread) :=
  [.begin .first "a", .check .first, .reserve .first (.ok ()), .store .first,
   .begin .second "b", .check .second, .reserve .second (.ok ()), .store .second,
   .finish .first "a", .commit .first (.error (.typeError "unhashable type: 'list'")),
   .release .first (.ok ()), .stop .second, .clear .second,
   .drain .second (.error (.contractValidationError "error must be an object"))]

theorem lease_conservation_twoRequests :
    ∃ s, (lts Thread).exec .initial twoRequests = some s ∧ s.granted = 2 ∧ s.cleared = true ∧
      Conserved s := by
  refine ⟨_, rfl, rfl, rfl, lease_conservation (Lts.reachBy_of_exec (.init rfl) twoRequests ?_ rfl)⟩
  -- Only the two stores and the drain are conditions: the table is not cleared, and the list that
  -- `shutdown` drains has one lease.
  refine And.intro trivial (And.intro trivial (And.intro trivial (And.intro rfl (And.intro trivial
    (And.intro trivial (And.intro trivial (And.intro rfl (And.intro trivial (And.intro trivial
    (And.intro trivial (And.intro trivial (And.intro trivial (And.intro ?_ trivial)))))))))))))
  intro lease rest hdrain hrest
  exact absurd (List.cons.inj (Pc.draining.inj hdrain)).2.symm hrest

/-- `shutdown` takes two leases, and the first release raises an exception it does not catch. -/
def abortedDrain : List (Act Thread) :=
  [.begin .first "a", .check .first, .reserve .first (.ok ()), .store .first,
   .begin .second "b", .check .second, .reserve .second (.ok ()), .store .second,
   .stop .first, .clear .first,
   .drain .first (.error (.contractValidationError "error must be an object"))]

theorem exec_abortedDrain :
    ∃ s, (lts Thread).exec .initial abortedDrain = some s ∧ s.granted = 2 ∧ s.table = [] ∧
      s.attempts 1 = 0 ∧ ∀ t, s.threads t = .idle := by
  refine ⟨_, rfl, rfl, rfl, rfl, fun t => ?_⟩
  cases t <;> rfl

/-- **A lease can be forgotten**: it is in no place at all. -/
theorem lease_lost_abortedDrain : ¬∀ s, (lts Thread).Reach s → Conserved s := by
  intro hall
  obtain ⟨s, hs, hgranted, htable, hattempts, hidle⟩ := exec_abortedDrain
  have hend := hall s (Lts.reach_of_exec (.init rfl) abortedDrain hs)
  obtain ⟨place, hplace, -⟩ := (hend.1 1 (by omega)).2
  cases place with
  | running t => simp [State.At, hidle t, Pc.requested] at hplace
  | stored requestId => simp [State.At, htable] at hplace
  | releasing t => simp [State.At, hidle t, Pc.owed] at hplace
  | released => simp [State.At, hattempts] at hplace

/-- `shutdown` ends while `on_new_request` holds a lease, which is stored behind it. -/
def lateStore : List (Act Thread) :=
  [.begin .first "a", .check .first, .reserve .first (.ok ()), .stop .second, .clear .second,
   .store .first]

/-- A lease stored behind `shutdown` is never released, though no callback runs any more. -/
theorem lease_kept_lateStore :
    ∃ s, (lts Thread).exec .initial lateStore = some s ∧ s.cleared = true ∧
      (∀ t, s.threads t = .idle) ∧ s.granted = 1 ∧ s.attempts 0 = 0 := by
  refine ⟨_, rfl, rfl, fun t => ?_, rfl, rfl⟩
  cases t <;> rfl

end Kapsl.Vllm.Leases
