import Kapsl.Ort.LiveSessions

/-!
# Ort/MemoryReport — planned and actual memory of a loaded model

`planned_memory` multiplies the file size with the size of one pool, and `load` fills exactly that
pool.  `actual_memory` multiplies it with the sessions of the primary pool and of every pool in the
map.  The primary pool stays full and no pool is ever empty, so the plan covers the report exactly
while the map is empty, up to the saturation of `usize`.
-/

namespace Kapsl.Ort

open Threads (Thread)

/-- `usize::saturating_add`. -/
def saturatingAdd (m n : ℕ) : ℕ := min (m + n) (usizeBound - 1)

/-- `usize::saturating_mul`. -/
def saturatingMul (m n : ℕ) : ℕ := min (m * n) (usizeBound - 1)

/-- The bytes of `planned_memory`. -/
def OrtBackend.plannedMemory (b : OrtBackend) (fileBytes : UInt64) : ℕ :=
  saturatingMul fileBytes.toNat b.sessionPoolSize

variable {ι : Type*}

/-- `collect_pool_stats(..).total_sessions`. -/
def Serving.totalSessions (s : Serving ι) : ℕ :=
  s.loaded.buckets.sessions.entries.foldl
    (fun total pool => saturatingAdd total (s.base.pools pool.2).total)
    (s.base.pools primaryPool).total

/-- The bytes of `actual_memory`. -/
def Serving.actualMemory (s : Serving ι) (bytes : UInt64) : ℕ :=
  saturatingMul bytes.toNat s.totalSessions

/-! ## The sessions of the map come on top -/

theorem le_foldl_saturatingAdd {α : Type*} (f : α → ℕ) (xs : List α) {m : ℕ}
    (hm : m < usizeBound) :
    m ≤ xs.foldl (fun total x => saturatingAdd total (f x)) m := by
  induction xs generalizing m with
  | nil => exact le_rfl
  | cons x xs ih =>
    rw [List.foldl_cons]
    have hstep : m ≤ saturatingAdd m (f x) := by
      simp only [saturatingAdd]
      omega
    refine hstep.trans (ih ?_)
    simp only [saturatingAdd, usizeBound]
    omega

/-- One more pool with a session in it raises the sum. -/
theorem lt_foldl_saturatingAdd {α : Type*} (f : α → ℕ) (xs : List α) (hxs : xs ≠ [])
    (hf : ∀ x, 1 ≤ f x) {m : ℕ} (hm : m + 1 < usizeBound) :
    m < xs.foldl (fun total x => saturatingAdd total (f x)) m := by
  obtain ⟨x, xs, rfl⟩ := List.exists_cons_of_ne_nil hxs
  have hx := hf x
  rw [List.foldl_cons]
  refine lt_of_lt_of_le ?_ (le_foldl_saturatingAdd f xs ?_)
  · simp only [saturatingAdd]
    omega
  · simp only [saturatingAdd, usizeBound]
    omega

theorem saturatingMul_le_iff {n k l : ℕ} (hkl : k < l) :
    saturatingMul n l ≤ saturatingMul n k ↔ n = 0 ∨ usizeBound - 1 ≤ n * k := by
  simp only [saturatingMul]
  constructor
  · intro h
    rcases Nat.eq_zero_or_pos n with hn | hn
    · exact .inl hn
    · have hlt : n * k < n * l := Nat.mul_lt_mul_of_pos_left hkl hn
      omega
  · rintro (rfl | h)
    · simp
    · omega

variable [Fintype ι] {b : OrtBackend} {s s' : Serving ι}

theorem OrtBackend.sessionPoolSize_lt (b : OrtBackend) : b.sessionPoolSize < 2 ^ 32 := by
  have hlt := (b.tuning.peakConcurrencyHint.getD 1).toNat_lt
  simp only [sessionPoolSize]
  omega

theorem Accounted.totalSessions_eq (h : Accounted b s) (hlen : s.loaded.buckets.len = 0) :
    s.totalSessions = b.sessionPoolSize := by
  have hentries : s.loaded.buckets.sessions.entries = [] := by
    rwa [BucketSessionState.len, AList.keys, List.keys, List.length_map,
      List.length_eq_zero_iff] at hlen
  rw [Serving.totalSessions, hentries, List.foldl_nil, h.total_primary]

theorem Accounted.lt_totalSessions (h : Accounted b s) (hlen : s.loaded.buckets.len ≠ 0) :
    b.sessionPoolSize < s.totalSessions := by
  have hentries : s.loaded.buckets.sessions.entries ≠ [] := by
    intro hnil
    rw [BucketSessionState.len, AList.keys, hnil] at hlen
    exact hlen rfl
  have hsize := b.sessionPoolSize_lt
  rw [Serving.totalSessions, h.total_primary]
  refine lt_foldl_saturatingAdd _ _ hentries (fun x => h.total_pos x.2) ?_
  simp only [usizeBound]
  omega

/-- **The plan covers the report exactly** while the map is empty, the file is empty, or the plan
itself saturates. -/
theorem Accounted.actualMemory_le_iff (h : Accounted b s) (bytes : UInt64) :
    s.actualMemory bytes ≤ b.plannedMemory bytes ↔
      s.loaded.buckets.len = 0 ∨ bytes = 0 ∨
        usizeBound - 1 ≤ bytes.toNat * b.sessionPoolSize := by
  rw [Serving.actualMemory, OrtBackend.plannedMemory]
  by_cases hlen : s.loaded.buckets.len = 0
  · rw [h.totalSessions_eq hlen]
    simp [hlen]
  · rw [saturatingMul_le_iff (h.lt_totalSessions hlen)]
    have hzero : bytes.toNat = 0 ↔ bytes = 0 := by
      rw [← UInt64.toNat_inj, UInt64.toNat_zero]
    simp [hlen, hzero]

/-! ## Histories of one bucket -/

/-- The request of the step is of bucket `key`, or there is only one bucket. -/
def OneBucket (b : OrtBackend) (key : String) (_ : Serving ι) : ServingAct ι → Prop
  | .beginInfer _ (primary :: _) => b.maxBucketSessions ≤ 1 ∨ b.bucketKey primary = some key
  | _ => True

/-- Nothing but the primary bucket was asked for. -/
structure OnlyPrimary (b : OrtBackend) (key : String) (s : Serving ι) : Prop where
  len : s.loaded.buckets.len = 0
  primary : ∀ k, s.loaded.buckets.primaryBucketKey = some k → k = key
  passed : ∀ t primary, s.dispatch t = .passed primary →
    b.maxBucketSessions ≤ 1 ∨ b.bucketKey primary = some key
  creating : ∀ t, (s.dispatch t).locks = false

variable [DecidableEq ι] {key : String}

omit [Fintype ι] in
theorem OnlyPrimary.setDispatch (h : OnlyPrimary b key s) (t : ι) {d : Dispatch}
    (hpassed : ∀ primary, d = .passed primary →
      b.maxBucketSessions ≤ 1 ∨ b.bucketKey primary = some key) (hd : d.locks = false) :
    OnlyPrimary b key (s.setDispatch t d) where
  len := h.len
  primary := h.primary
  passed u primary hu := by
    by_cases hut : u = t
    · subst hut
      rw [Serving.setDispatch_self] at hu
      exact hpassed primary hu
    · rw [s.setDispatch_of_ne hut] at hu
      exact h.passed u primary hu
  creating u := by
    by_cases hut : u = t
    · subst hut
      rwa [Serving.setDispatch_self]
    · rw [s.setDispatch_of_ne hut]
      exact h.creating u

omit [Fintype ι] in
theorem OnlyPrimary.take (h : OnlyPrimary b key s) (t : ι) (r : Registration) (p : PoolId) :
    OnlyPrimary b key (s.take t r p) := by
  have hfree := h.setDispatch t (d := .none) nofun rfl
  exact ⟨hfree.len, hfree.primary, hfree.passed, hfree.creating⟩

omit [Fintype ι] [DecidableEq ι] in
/-- A request of the primary bucket finds the primary pool. -/
theorem OnlyPrimary.getD_eq (h : OnlyPrimary b key s) :
    s.loaded.buckets.primaryBucketKey.getD key = key := by
  rcases hchosen : s.loaded.buckets.primaryBucketKey with _ | k
  · rfl
  · exact h.primary k hchosen

theorem OnlyPrimary.step (h : OnlyPrimary b key s) {a : ServingAct ι} (hok : OneBucket b key s a)
    (hs : servingStep b s a = some s') : OnlyPrimary b key s' := by
  cases ServingStep.of_step hs with
  | request => exact ⟨h.len, h.primary, h.passed, h.creating⟩
  | refused => exact h
  | passed primary =>
    refine h.setDispatch _ (fun primary' hd => ?_) rfl
    obtain rfl := Dispatch.passed.inj hd
    exact hok
  | single => exact h.take _ _ _
  | panicked => exact h.setDispatch _ nofun rfl
  | @found t r primary key' state pool _ hpassed hmany hkey _ hlookup =>
    obtain hone | hkey' := h.passed t primary hpassed
    · omega
    obtain rfl := Option.some.inj (hkey'.symm.trans hkey)
    rw [BucketSessionState.lookup, if_pos h.getD_eq] at hlookup
    obtain ⟨rfl, -⟩ := Prod.mk.inj hlookup
    have hstate : OnlyPrimary b key (s.setBuckets (s.loaded.buckets.choosePrimary key)) := by
      refine ⟨h.len, fun k hk => ?_, h.passed, h.creating⟩
      exact (Option.some.inj hk).symm.trans h.getD_eq
    exact hstate.take t r pool
  | @missed t r primary key' state _ hpassed hmany hkey _ hlookup =>
    obtain hone | hkey' := h.passed t primary hpassed
    · omega
    obtain rfl := Option.some.inj (hkey'.symm.trans hkey)
    rw [BucketSessionState.lookup, if_pos h.getD_eq] at hlookup
    exact absurd (Prod.mk.inj hlookup).2 (by simp)
  | @opened t _ _ _ hcreating =>
    have hfree := h.creating t
    rw [Dispatch.locks_of_creating hcreating] at hfree
    exact absurd hfree (by simp)
  | openFailed => exact h.setDispatch _ nofun rfl

theorem onlyPrimary_of_reachBy (h : (serving ι b).ReachBy (OneBucket b key) s) :
    OnlyPrimary b key s := by
  refine h.invariant (I := OnlyPrimary b key) ?_ ?_
  · rintro s rfl
    exact ⟨rfl, nofun, nofun, fun _ => rfl⟩
  · intro s a s' honly hok hs
    exact honly.step hok hs

/-- **When the plan covers the report** — in every reachable state exactly if no bucket beside the
primary one has a pool, the file is empty, or the plan saturates; so in every state of a run whose
requests are all of one bucket. -/
theorem actualMemory_le_plannedMemory (ι : Type*) [Fintype ι] [DecidableEq ι] (b : OrtBackend)
    (bytes : UInt64) :
    (∀ s, (serving ι b).Reach s →
      (s.actualMemory bytes ≤ b.plannedMemory bytes ↔
        s.loaded.buckets.len = 0 ∨ bytes = 0 ∨
          usizeBound - 1 ≤ bytes.toNat * b.sessionPoolSize)) ∧
    ∀ key s, (serving ι b).ReachBy (OneBucket b key) s →
      s.actualMemory bytes ≤ b.plannedMemory bytes := by
  refine ⟨fun s h => (accounted_of_reachBy h).actualMemory_le_iff bytes, fun key s h => ?_⟩
  exact ((accounted_of_reachBy h).actualMemory_le_iff bytes).mpr
    (.inl (onlyPrimary_of_reachBy h).len)

/-- A second bucket makes the report twice the plan. -/
theorem plannedMemory_lt_openSecond :
    ∃ s : Serving Thread, (serving Thread twoBuckets).Reach s ∧
      twoBuckets.plannedMemory 1000 = 1000 ∧ s.actualMemory 1000 = 2000 := by
  obtain ⟨s, hs, hactual⟩ : ∃ s, (serving Thread twoBuckets).exec (.initial twoBuckets)
      openSecond = some s ∧ s.actualMemory 1000 = 2000 := ⟨_, rfl, by decide⟩
  exact ⟨s, Lts.reach_of_exec (.init rfl) _ hs, by decide, hactual⟩

end Kapsl.Ort
