import Kapsl.Vllm.Planning
import Mathlib.GroupTheory.GroupAction.Ring

/-!
# Vllm/Sizing — what a plan for one rank promises

`SizingContract` states the plan `size_rank` returns through extremal problems — least and greatest
aligned counts — with no mention of how it is computed; `sizeRank_contract` proves it of every plan
returned for a valid geometry and policy.  The three branches of `size_rank` (`min_bytes`,
`max_bytes`, `maximum_concurrency`) are read back by one lemma each.
-/

namespace Kapsl.Vllm

variable {τ : Type} [PyText τ] {rank : RankGeometry τ} {policy : SizingPolicy}

/-! ## What validity gives -/

/-- A checked sum is the sum. -/
theorem foldlM_checkedAdd_eq_ok {α : Type*} (f : α → ℕ) (field : String) :
    ∀ (l : List α) {init v : ℕ},
      l.foldlM (fun total a => checkedAdd total (f a) field) init = .ok v →
        init + (l.map f).sum = v
  | [], init, v, h => by simpa [Except.pure_eq_ok] using h
  | a :: l, init, v, h => by
      rw [List.foldlM_cons, Except.bind_eq_ok] at h
      obtain ⟨_, h₁, h₂⟩ := h
      obtain ⟨-, rfl⟩ := checkedAdd_eq_ok.mp h₁
      rw [← foldlM_checkedAdd_eq_ok f field l h₂, List.map_cons, List.sum_cons, Nat.add_assoc]

/-- A checked sum that fits is returned. -/
theorem foldlM_checkedAdd_of_le {α : Type*} (f : α → ℕ) (field : String) :
    ∀ (l : List α) {init : ℕ}, init + (l.map f).sum ≤ uint64Max →
      l.foldlM (fun total a => checkedAdd total (f a) field) init = .ok (init + (l.map f).sum)
  | [], init, _ => rfl
  | a :: l, init, h => by
      rw [List.map_cons, List.sum_cons, ← Nat.add_assoc] at h ⊢
      rw [List.foldlM_cons, Except.bind_eq_ok]
      exact ⟨init + f a, checkedAdd_eq_ok.mpr ⟨by omega, rfl⟩, foldlM_checkedAdd_of_le f field l h⟩

/-- A checked sum that was returned fits, as its first summand does. -/
theorem le_of_foldlM_checkedAdd {α : Type*} (f : α → ℕ) (field : String) :
    ∀ (l : List α) {init v : ℕ}, init ≤ uint64Max →
      l.foldlM (fun total a => checkedAdd total (f a) field) init = .ok v → v ≤ uint64Max
  | [], init, v, hinit, h => Except.ok.inj h ▸ hinit
  | a :: l, init, v, _, h => by
      rw [List.foldlM_cons, Except.bind_eq_ok] at h
      obtain ⟨_, h₁, h₂⟩ := h
      obtain ⟨hle, rfl⟩ := checkedAdd_eq_ok.mp h₁
      exact le_of_foldlM_checkedAdd f field l hle h₂

/-- **A checked total**: what it is and that it fits. -/
theorem foldlM_checkedAdd_iff {α : Type*} (f : α → ℕ) (field : String) (l : List α) {v : ℕ} :
    l.foldlM (fun total a => checkedAdd total (f a) field) 0 = .ok v ↔
      (l.map f).sum = v ∧ v ≤ uint64Max := by
  constructor
  · intro h
    have hsum := foldlM_checkedAdd_eq_ok f field l h
    rw [Nat.zero_add] at hsum
    exact ⟨hsum, le_of_foldlM_checkedAdd f field l (Nat.zero_le _) h⟩
  · rintro ⟨rfl, hle⟩
    have h := foldlM_checkedAdd_of_le f field l (by rwa [Nat.zero_add])
    rwa [Nat.zero_add] at h

/-- A valid group needs at least one block per sequence. -/
theorem CacheGroupGeometry.one_le_required {group : CacheGroupGeometry τ}
    (h : group.postInit = .ok group) : 1 ≤ group.requiredBlocksPerSequence := by
  simp only [CacheGroupGeometry.postInit, Except.bind_eq_ok, uint_eq_ok] at h
  obtain ⟨_, -, _, -, _, -, _, -, _, -, _, ⟨h, -⟩, -⟩ := h
  exact h.1

/-- What the constructor of `RankGeometry` checked of the two fields the sizing reads. -/
theorem RankGeometry.Valid.bounds (h : rank.Valid) :
    (1 ≤ rank.poolBytesPerBlock ∧ rank.poolBytesPerBlock ≤ uint64Max) ∧ rank.groups ≠ [] := by
  have hr := h.rank
  simp only [RankGeometry.postInit, Except.bind_eq_ok, uint_eq_ok, Except.raiseIf_eq_ok,
    Except.pure_eq_ok] at hr
  obtain ⟨_, -, _, -, _, ⟨hs, -⟩, _, -, _, hne, _, -, _, -, _, -, _, -, heq⟩ := hr
  refine ⟨hs, fun hnil => hne ?_⟩
  rw [hnil, List.insertionSort_nil]

/-- **A valid rank needs `q ≥ 1` blocks per sequence**, the sum over its groups. -/
theorem RankGeometry.Valid.required_eq_ok (h : rank.Valid) {q : ℕ}
    (hq : rank.requiredBlocksPerSequence = .ok q) :
    q = (rank.groups.map (·.requiredBlocksPerSequence)).sum ∧ 1 ≤ q := by
  have hsum := foldlM_checkedAdd_eq_ok _ _ _ hq
  rw [Nat.zero_add] at hsum
  refine ⟨hsum.symm, ?_⟩
  obtain ⟨group, rest, hg⟩ := List.exists_cons_of_ne_nil h.bounds.2
  have hone := CacheGroupGeometry.one_le_required (h.groups group (by simp [hg]))
  rw [← hsum, hg, List.map_cons, List.sum_cons]
  omega

/-- What the constructor of `SizingPolicy` checked of the fields the sizing reads. -/
theorem SizingPolicy.Valid.bounds (h : policy.Valid) :
    1 ≤ policy.targetConcurrency ∧ 1 ≤ policy.alignmentBlocks := by
  simp only [SizingPolicy.Valid, SizingPolicy.postInit, Except.bind_eq_ok, uint_eq_ok] at h
  obtain ⟨_, ⟨ht, -⟩, _, -, _, -, _, -, _, -, _, -, _, ⟨ha, -⟩, -⟩ := h
  exact ⟨ht.1, ha.1⟩

theorem optionalUint_eq_ok {value : Option ℕ} {field : String} {u : Unit}
    (h : optionalUint value field = .ok u) : ∀ n ∈ value, InRange n := by
  rintro n rfl
  simp only [optionalUint, Except.bind_eq_ok, uint_eq_ok] at h
  obtain ⟨_, ⟨hn, -⟩, -⟩ := h
  exact hn

/-- A policy as its constructor leaves it. -/
structure SizingPolicy.WellFormed (policy : SizingPolicy) : Prop where
  targetConcurrency : InRange policy.targetConcurrency
  maximumConcurrency : ∀ n ∈ policy.maximumConcurrency, InRange n
  headroomPercent : policy.headroomPercent ≤ 100
  prefixBlocks : policy.prefixBlocks ≤ uint64Max
  alignmentBlocks : InRange policy.alignmentBlocks
  minBytes : ∀ n ∈ policy.minBytes, InRange n
  maxBytes : ∀ n ∈ policy.maxBytes, InRange n

theorem SizingPolicy.Valid.wellFormed {policy : SizingPolicy} (h : policy.Valid) :
    policy.WellFormed := by
  simp only [SizingPolicy.Valid, SizingPolicy.postInit, Except.bind_eq_ok, uint_eq_ok,
    uint_allowZero_eq_ok, Except.raiseIf_eq_ok, Except.pure_eq_ok, not_lt] at h
  obtain ⟨_, ⟨htarget, -⟩, _, hmaximum, _, -, _, -, _, hheadroom, _, ⟨hprefixed, -⟩, _,
    ⟨halignment, -⟩, _, hmin, _, hmax, -⟩ := h
  exact ⟨htarget, optionalUint_eq_ok hmaximum, hheadroom, hprefixed, halignment,
    optionalUint_eq_ok hmin, optionalUint_eq_ok hmax⟩

/-- A valid policy sets no maximum below its target. -/
theorem SizingPolicy.Valid.target_le_maximum (h : policy.Valid) :
    ∀ m ∈ policy.maximumConcurrency, policy.targetConcurrency ≤ m := by
  simp only [SizingPolicy.Valid, SizingPolicy.postInit, Except.bind_eq_ok,
    Except.raiseIf_eq_ok] at h
  obtain ⟨_, -, _, -, _, hle, -⟩ := h
  intro m hm
  by_contra hlt
  exact hle ⟨m, hm, by omega⟩

/-! ## The three branches -/

/-- The floor: absent, or the least aligned count whose bytes reach `min_bytes`. -/
def IsFloor (rank : RankGeometry τ) (policy : SizingPolicy) (floor : ℕ) : Prop :=
  match policy.minBytes with
  | none => floor = 0
  | some minBytes =>
    IsLeast {n | policy.alignmentBlocks ∣ n ∧ minBytes ≤ n * rank.poolBytesPerBlock} floor

/-- The cap: absent, or the greatest aligned count whose bytes fit `max_bytes`. -/
def IsCap (rank : RankGeometry τ) (policy : SizingPolicy) (cap : ℕ) : Prop :=
  ∃ maxBytes, policy.maxBytes = some maxBytes ∧
    IsGreatest {n | policy.alignmentBlocks ∣ n ∧ n * rank.poolBytesPerBlock ≤ maxBytes} cap

theorem isLeast_alignUp_ceilDiv {a s : ℕ} (ha : 1 ≤ a) (hs : 1 ≤ s) (b : ℕ) :
    IsLeast {n | a ∣ n ∧ b ≤ n * s} (Nat.alignUp a (b ⌈/⌉ s)) := by
  have key : ∀ n, b ≤ n * s ↔ b ⌈/⌉ s ≤ n := fun n => by
    rw [ceilDiv_le_iff_le_mul hs, Nat.mul_comm]
  simp only [key]
  exact Nat.isLeast_alignUp ha _

theorem isGreatest_alignDown_div {a s : ℕ} (ha : 1 ≤ a) (hs : 1 ≤ s) (b : ℕ) :
    IsGreatest {n | a ∣ n ∧ n * s ≤ b} (Nat.alignDown a (b / s)) := by
  have key : ∀ n, n * s ≤ b ↔ n ≤ b / s := fun n => (Nat.le_div_iff_mul_le hs).symm
  simp only [key]
  exact Nat.isGreatest_alignDown ha _

omit [PyText τ] in
/-- The `min_bytes` branch returns the floor. -/
theorem floorBlocks_eq_ok {minimumBytes : ℕ} {floor : Option ℕ}
    (hs : 1 ≤ rank.poolBytesPerBlock) (h : floorBlocks rank policy minimumBytes = .ok floor) :
    IsFloor rank policy (floor.getD 0) ∧ (floor = none ↔ policy.minBytes = none) ∧
      (∀ f ∈ floor, policy.alignmentBlocks ∣ f) := by
  unfold floorBlocks at h
  split at h
  · next hnone =>
    obtain rfl := Except.ok.inj h
    refine ⟨?_, by simp [hnone], fun f hf => absurd hf (Option.not_mem_none f)⟩
    rw [IsFloor, hnone]
    rfl
  · next minBytes hsome =>
    simp only [Except.bind_eq_ok, ceilDiv_eq_ok, roundUp_eq_ok, Except.pure_eq_ok] at h
    obtain ⟨_, -, _, ⟨-, -, rfl⟩, _, ⟨ha, -, -, rfl⟩, rfl⟩ := h
    refine ⟨?_, by simp [hsome], fun f hf => ?_⟩
    · rw [IsFloor, hsome]
      exact isLeast_alignUp_ceilDiv ha.1 hs minBytes
    · obtain rfl := Option.mem_some_iff.mp hf
      exact Nat.dvd_alignUp _ _

omit [PyText τ] in
/-- The `max_bytes` branch returns the wish without a cap, and the capped wish with one; the cap
holds the minimum and the floor. -/
theorem capDesired_eq_ok {minimumBlocks wish desired : ℕ} {floor : Option ℕ}
    (hs : 1 ≤ rank.poolBytesPerBlock)
    (h : capDesired rank policy minimumBlocks floor wish = .ok desired) :
    (policy.maxBytes = none ∧ desired = wish) ∨
      ∃ cap, IsCap rank policy cap ∧ desired = min wish cap ∧ minimumBlocks ≤ cap ∧
        ∀ f ∈ floor, f ≤ cap := by
  unfold capDesired at h
  split at h
  · next hnone => exact .inl ⟨hnone, (Except.ok.inj h).symm⟩
  · next maxBytes hsome =>
    simp only [Except.bind_eq_ok, roundDown_eq_ok, Except.raiseIf_eq_ok, Except.pure_eq_ok] at h
    obtain ⟨_, ⟨-, ha, rfl⟩, _, hmin, _, hfloor, rfl⟩ := h
    refine .inr ⟨_, ⟨maxBytes, hsome, isGreatest_alignDown_div ha.1 hs maxBytes⟩, rfl,
      by omega, fun f hf => ?_⟩
    by_contra hlt
    exact hfloor ⟨f, hf, by omega⟩

omit [PyText τ] in
/-- The cap of the `maximum_concurrency` branch. -/
theorem capMaximum_value {uncapped maximum : ℕ}
    (h : capMaximum rank policy uncapped = .ok maximum) :
    maximum = match policy.maxBytes with
      | none => uncapped
      | some maxBytes => min uncapped
          (Nat.alignDown policy.alignmentBlocks (maxBytes / rank.poolBytesPerBlock)) := by
  unfold capMaximum at h
  obtain hmax | ⟨maxBytes, hmax⟩ := Option.eq_none_or_eq_some policy.maxBytes
  · simp only [hmax] at h ⊢
    exact (Except.ok.inj h).symm
  · simp only [hmax, Except.bind_eq_ok, roundDown_eq_ok, Except.pure_eq_ok] at h ⊢
    obtain ⟨_, ⟨-, -, rfl⟩, rfl⟩ := h
    rfl

omit [PyText τ] in
/-- …and the cap of the `maximum_concurrency` branch keeps an aligned count aligned. -/
theorem capMaximum_eq_ok {uncapped maximum : ℕ} (hs : 1 ≤ rank.poolBytesPerBlock)
    (ha : 1 ≤ policy.alignmentBlocks) (hu : policy.alignmentBlocks ∣ uncapped)
    (h : capMaximum rank policy uncapped = .ok maximum) :
    policy.alignmentBlocks ∣ maximum ∧ ∀ cap, IsCap rank policy cap → maximum ≤ cap := by
  have hvalue := capMaximum_value h
  obtain hnone | ⟨maxBytes, hsome⟩ := Option.eq_none_or_eq_some policy.maxBytes
  · simp only [hnone] at hvalue
    subst hvalue
    refine ⟨hu, ?_⟩
    rintro cap ⟨maxBytes, hsome, -⟩
    exact absurd (hnone.symm.trans hsome) nofun
  · simp only [hsome] at hvalue
    subst hvalue
    refine ⟨?_, ?_⟩
    · rcases min_choice uncapped
        (Nat.alignDown policy.alignmentBlocks (maxBytes / rank.poolBytesPerBlock)) with h | h
      · rw [h]; exact hu
      · rw [h]; exact Nat.dvd_alignDown _ _
    · rintro cap ⟨maxBytes', hsome', hgreatest⟩
      obtain rfl := Option.some.inj (hsome.symm.trans hsome')
      rw [hgreatest.unique (isGreatest_alignDown_div ha hs maxBytes)]
      exact min_le_right _ _

omit [PyText τ] in
/-- The `maximum_concurrency` branch returns an aligned count between the desired one and the
cap. -/
theorem maximumBlocksFor_eq_ok {q desired maximum : ℕ} (hs : 1 ≤ rank.poolBytesPerBlock)
    (h : maximumBlocksFor rank policy q desired = .ok maximum) :
    desired ≤ maximum ∧
      (maximum = desired ∨ policy.alignmentBlocks ∣ maximum ∧
        ∀ cap, IsCap rank policy cap → maximum ≤ cap) := by
  unfold maximumBlocksFor at h
  split at h
  · obtain rfl := Except.ok.inj h
    exact ⟨le_rfl, .inl rfl⟩
  · simp only [Except.bind_eq_ok, roundUp_eq_ok, Except.raiseIf_eq_ok, Except.pure_eq_ok] at h
    obtain ⟨_, -, _, -, _, -, _, -, _, -, _, -, _, ⟨ha, -, -, rfl⟩, _, hcap, _, hle, rfl⟩ := h
    exact ⟨by omega, .inr (capMaximum_eq_ok hs ha.1 (Nat.dvd_alignUp _ _) hcap)⟩

/-! ## The contract -/

/-- **What a plan promises.**  `s` is the stride, `o` the overhead, `q` the blocks one sequence
needs and `a` the alignment of the policy. -/
structure SizingContract (rank : RankGeometry τ) (policy : SizingPolicy) (sizing : RankSizing) :
    Prop where
  /-- `q` is what the groups of the rank need together. -/
  sequence : sizing.sequenceBlocks = (rank.groups.map (·.requiredBlocksPerSequence)).sum ∧
    1 ≤ sizing.sequenceBlocks
  ordered : sizing.minimumBlocks ≤ sizing.desiredBlocks ∧
    sizing.desiredBlocks ≤ sizing.maximumBlocks
  minimum : IsLeast {n | policy.alignmentBlocks ∣ n ∧
    rank.fixedOverheadBlocks + sizing.sequenceBlocks ≤ n} sizing.minimumBlocks
  aligned : policy.alignmentBlocks ∣ sizing.minimumBlocks ∧
    policy.alignmentBlocks ∣ sizing.desiredBlocks ∧ policy.alignmentBlocks ∣ sizing.maximumBlocks
  bytes : sizing.minimumBytes = sizing.minimumBlocks * rank.poolBytesPerBlock ∧
    sizing.desiredBytes = sizing.desiredBlocks * rank.poolBytesPerBlock ∧
    sizing.maximumBytes = sizing.maximumBlocks * rank.poolBytesPerBlock
  bytes_lt : sizing.minimumBytes < 2 ^ 64 ∧ sizing.desiredBytes < 2 ^ 64 ∧
    sizing.maximumBytes < 2 ^ 64
  min_bytes : ∀ b, policy.minBytes = some b → b ≤ sizing.desiredBytes
  max_bytes : ∀ b, policy.maxBytes = some b → sizing.maximumBytes ≤ b
  /-- `min(cap, max(floor, base))` with `base` the least aligned count for the whole workload. -/
  desired : ∃ base floor,
    IsLeast {n | policy.alignmentBlocks ∣ n ∧
      rank.fixedOverheadBlocks + sizing.sequenceBlocks * policy.targetConcurrency
        + policy.prefixBlocks
        + ((sizing.sequenceBlocks * policy.targetConcurrency + policy.prefixBlocks)
            * policy.headroomPercent) ⌈/⌉ 100 ≤ n} base ∧
    IsFloor rank policy floor ∧
    (policy.maxBytes = none → sizing.desiredBlocks = max floor base) ∧
    (policy.maxBytes ≠ none →
      ∃ cap, IsCap rank policy cap ∧ sizing.desiredBlocks = min cap (max floor base))
  effective : 1 ≤ sizing.effectiveTargetConcurrency ∧
    IsGreatest {k | k ≤ policy.targetConcurrency ∧
      rank.fixedOverheadBlocks + k * sizing.sequenceBlocks ≤ sizing.desiredBlocks}
      sizing.effectiveTargetConcurrency
  reduced : sizing.concurrencyReduced = true ↔
    sizing.effectiveTargetConcurrency < policy.targetConcurrency
  strict : policy.strictConcurrency = true → sizing.concurrencyReduced = false

/-- The greatest `k ≤ t` with `o + k * q ≤ d`, computed by division. -/
theorem isGreatest_min_div {t o q d : ℕ} (hq : 1 ≤ q) (hod : o ≤ d) :
    IsGreatest {k | k ≤ t ∧ o + k * q ≤ d} (min t ((d - o) / q)) := by
  refine ⟨⟨min_le_left _ _, ?_⟩, ?_⟩
  · have h₁ := Nat.mul_le_mul_right q (min_le_right t ((d - o) / q))
    have h₂ := Nat.div_mul_le_self (d - o) q
    omega
  · rintro k ⟨hk, hle⟩
    refine le_min hk ((Nat.le_div_iff_mul_le hq).mpr ?_)
    omega

/-- The effective concurrency, computed in Python's integers, is the one in `ℕ`. -/
theorem effective_toNat {t o q d : ℕ} (hod : o ≤ d) :
    min (t : ℤ) (((d : ℤ) - o).fdiv q) = ((min t ((d - o) / q) : ℕ) : ℤ) := by
  rw [← Nat.cast_sub hod, Int.fdiv_eq_ediv_of_nonneg _ (Int.natCast_nonneg q),
    ← Int.natCast_ediv]
  omega

omit [PyText τ] in
/-- **The desired count after the cap**: aligned, at least the minimum and the floor, at most the
cap. -/
theorem capDesired_bounds {minimum base desired : ℕ} {floor : Option ℕ}
    (hs : 1 ≤ rank.poolBytesPerBlock) (hmin : minimum ≤ base)
    (hbase : policy.alignmentBlocks ∣ base) (hfloor : ∀ f ∈ floor, policy.alignmentBlocks ∣ f)
    (h : capDesired rank policy minimum floor (max base (floor.getD 0)) = .ok desired) :
    minimum ≤ desired ∧ floor.getD 0 ≤ desired ∧ policy.alignmentBlocks ∣ desired ∧
      ∀ cap, IsCap rank policy cap → desired ≤ cap := by
  have hdvd : policy.alignmentBlocks ∣ max base (floor.getD 0) := by
    rcases max_choice base (floor.getD 0) with h | h
    · rw [h]; exact hbase
    · rw [h]
      cases floor with
      | none => exact Nat.dvd_zero _
      | some f => exact hfloor f rfl
  rcases capDesired_eq_ok hs h with ⟨hnone, rfl⟩ | ⟨cap, hc, rfl, hmincap, hfcap⟩
  · refine ⟨by omega, by omega, hdvd, ?_⟩
    rintro cap ⟨maxBytes, hsome, -⟩
    exact absurd (hnone.symm.trans hsome) nofun
  · have hcdvd : policy.alignmentBlocks ∣ cap := by
      obtain ⟨_, _, hg⟩ := hc
      exact hg.1.1
    have hflo : floor.getD 0 ≤ cap := by
      cases floor with
      | none => exact Nat.zero_le _
      | some f => exact hfcap f rfl
    refine ⟨by omega, by omega, ?_, ?_⟩
    · rcases min_choice (max base (floor.getD 0)) cap with h | h
      · rw [h]; exact hdvd
      · rw [h]; exact hcdvd
    · rintro cap' ⟨b', hb', hg'⟩
      obtain ⟨b, hb, hg⟩ := hc
      obtain rfl := Option.some.inj (hb.symm.trans hb')
      rw [hg'.unique hg]
      exact min_le_right _ _

omit [PyText τ] in
/-- A count under every cap has its bytes under `max_bytes`. -/
theorem mul_le_maxBytes {n b : ℕ} (hs : 1 ≤ rank.poolBytesPerBlock)
    (ha : 1 ≤ policy.alignmentBlocks) (hb : policy.maxBytes = some b)
    (h : ∀ cap, IsCap rank policy cap → n ≤ cap) : n * rank.poolBytesPerBlock ≤ b := by
  have hg := isGreatest_alignDown_div ha hs b
  exact le_trans (Nat.mul_le_mul_right _ (h _ ⟨b, hb, hg⟩)) hg.1.2

/-- **What `size_rank` has computed**, one stage after the other, in the fields of the plan it
returned. -/
structure RankSizing.Computed (rank : RankGeometry τ) (policy : SizingPolicy)
    (sizing : RankSizing) : Prop where
  identity : sizing.rank = rank.rank ∧ sizing.deviceId = rank.deviceId ∧
    sizing.bytesPerBlock = rank.poolBytesPerBlock
  sequence : rank.requiredBlocksPerSequence = .ok sizing.sequenceBlocks
  minimum : rank.fixedOverheadBlocks + sizing.sequenceBlocks ≤ uint64Max ∧
    sizing.minimumBlocks =
      Nat.alignUp policy.alignmentBlocks (rank.fixedOverheadBlocks + sizing.sequenceBlocks)
  base : sizing.baseBlocks ≤ uint64Max ∧ sizing.baseBlocks = rank.fixedOverheadBlocks +
    (sizing.sequenceBlocks * policy.targetConcurrency + policy.prefixBlocks)
  headroom : (sizing.sequenceBlocks * policy.targetConcurrency + policy.prefixBlocks) *
      policy.headroomPercent ≤ uint64Max ∧
    sizing.headroomBlocks = ((sizing.sequenceBlocks * policy.targetConcurrency +
      policy.prefixBlocks) * policy.headroomPercent) ⌈/⌉ 100
  desired : ∃ floor, floorBlocks rank policy sizing.minimumBytes = .ok floor ∧
    capDesired rank policy sizing.minimumBlocks floor (max (Nat.alignUp policy.alignmentBlocks
      (sizing.baseBlocks + sizing.headroomBlocks)) (floor.getD 0)) = .ok sizing.desiredBlocks
  maximum : maximumBlocksFor rank policy sizing.sequenceBlocks sizing.desiredBlocks =
    .ok sizing.maximumBlocks
  bytes : sizing.minimumBytes = sizing.minimumBlocks * rank.poolBytesPerBlock ∧
    sizing.desiredBytes = sizing.desiredBlocks * rank.poolBytesPerBlock ∧
    sizing.maximumBytes = sizing.maximumBlocks * rank.poolBytesPerBlock
  bytes_le : sizing.minimumBytes ≤ uint64Max ∧ sizing.desiredBytes ≤ uint64Max ∧
    sizing.maximumBytes ≤ uint64Max
  effective : ∃ effective : ℤ, effective = min (policy.targetConcurrency : ℤ)
      (((sizing.desiredBlocks : ℤ) - rank.fixedOverheadBlocks).fdiv sizing.sequenceBlocks) ∧
    1 ≤ effective ∧ sizing.effectiveTargetConcurrency = effective.toNat ∧
    sizing.concurrencyReduced = decide (effective < policy.targetConcurrency)
  strict : ¬(sizing.concurrencyReduced = true ∧ policy.strictConcurrency = true)

omit [PyText τ] in
/-- **A plan read back.**  Later proofs go through this and not through `sizeRank`. -/
theorem sizeRank_computed {rank : RankGeometry τ} {policy : SizingPolicy} {sizing : RankSizing}
    (h : sizeRank rank policy = .ok sizing) : sizing.Computed rank policy := by
  simp only [sizeRank, Except.bind_eq_ok, checkedAdd_eq_ok, checkedMul_eq_ok, ceilDiv_eq_ok,
    roundUp_eq_ok, Except.raiseIf_eq_ok, Except.pure_eq_ok] at h
  -- The demand of a sequence, the minimum and its bytes, the demand of the target, the headroom,
  -- the base; then floor, cap and maximum.
  obtain ⟨q, hq, _, ⟨hmin, rfl⟩, h⟩ := h
  obtain ⟨_, ⟨-, -, -, rfl⟩, _, ⟨-, hminB, rfl⟩, h⟩ := h
  obtain ⟨_, ⟨-, -, rfl⟩, _, ⟨-, rfl⟩, h⟩ := h
  obtain ⟨_, ⟨-, hnumerator, rfl⟩, _, ⟨-, -, rfl⟩, h⟩ := h
  obtain ⟨_, ⟨hbase, rfl⟩, _, ⟨-, rfl⟩, h⟩ := h
  obtain ⟨_, ⟨-, -, -, rfl⟩, floor, hfloor, desired, hcap, h⟩ := h
  obtain ⟨_, ⟨-, hdesB, rfl⟩, maximum, hmax, _, ⟨-, hmaxB, rfl⟩, _, heff, _, hstrict, rfl⟩ := h
  exact ⟨⟨rfl, rfl, rfl⟩, hq, ⟨hmin, rfl⟩, ⟨hbase, rfl⟩, ⟨hnumerator, rfl⟩, ⟨floor, hfloor, hcap⟩,
    hmax, ⟨rfl, rfl, rfl⟩, ⟨hminB, hdesB, hmaxB⟩, ⟨_, rfl, not_lt.mp heff, rfl, rfl⟩, hstrict⟩

omit [PyText τ] in
/-- The effective concurrency of a plan that covers the overhead. -/
theorem RankSizing.Computed.effective_eq {sizing : RankSizing}
    (h : sizing.Computed rank policy) (hod : rank.fixedOverheadBlocks ≤ sizing.desiredBlocks) :
    1 ≤ sizing.effectiveTargetConcurrency ∧
      sizing.effectiveTargetConcurrency = min policy.targetConcurrency
        ((sizing.desiredBlocks - rank.fixedOverheadBlocks) / sizing.sequenceBlocks) ∧
      (sizing.concurrencyReduced = true ↔
        sizing.effectiveTargetConcurrency < policy.targetConcurrency) := by
  obtain ⟨effective, heq, hone, htoNat, hreduced⟩ := h.effective
  rw [effective_toNat hod] at heq
  rw [hreduced, decide_eq_true_eq, htoNat, heq, Int.toNat_natCast, Int.ofNat_lt]
  exact ⟨by omega, rfl, Iff.rfl⟩

/-- **Every plan `size_rank` returns satisfies its contract.** -/
theorem sizeRank_contract (rank : RankGeometry τ) (policy : SizingPolicy) (sizing : RankSizing)
    (hrank : rank.Valid) (hpolicy : policy.Valid) (h : sizeRank rank policy = .ok sizing) :
    SizingContract rank policy sizing := by
  obtain ⟨⟨hs, -⟩, -⟩ := hrank.bounds
  obtain ⟨ht, ha⟩ := hpolicy.bounds
  have hc := sizeRank_computed h
  obtain ⟨hqsum, hq1⟩ := hrank.required_eq_ok hc.sequence
  obtain ⟨floor, hfloor, hcap⟩ := hc.desired
  obtain ⟨hisFloor, -, hfdvd⟩ := floorBlocks_eq_ok hs hfloor
  obtain ⟨-, hminEq⟩ := hc.minimum
  obtain ⟨-, hbaseEq⟩ := hc.base
  have hmin := Nat.isLeast_alignUp ha (rank.fixedOverheadBlocks + sizing.sequenceBlocks)
  rw [← hminEq] at hmin
  have hleast := Nat.isLeast_alignUp ha (sizing.baseBlocks + sizing.headroomBlocks)
  obtain ⟨base, hbase⟩ :
      ∃ base, Nat.alignUp policy.alignmentBlocks (sizing.baseBlocks + sizing.headroomBlocks) =
        base := ⟨_, rfl⟩
  rw [hbase] at hleast hcap
  have hminbase : sizing.minimumBlocks ≤ base := by
    have hqt : sizing.sequenceBlocks ≤ sizing.sequenceBlocks * policy.targetConcurrency :=
      Nat.le_mul_of_pos_right _ ht
    rw [hminEq, ← hbase]
    exact Nat.alignUp_mono ha (by omega)
  obtain ⟨hmd, hfd, hddvd, hdcap⟩ := capDesired_bounds hs hminbase hleast.1.1 hfdvd hcap
  obtain ⟨hdm, hmx⟩ := maximumBlocksFor_eq_ok hs hc.maximum
  have hmdvd : policy.alignmentBlocks ∣ sizing.maximumBlocks ∧
      ∀ cap, IsCap rank policy cap → sizing.maximumBlocks ≤ cap := by
    obtain heq | hmx := hmx
    · exact heq ▸ ⟨hddvd, hdcap⟩
    · exact hmx
  have hod : rank.fixedOverheadBlocks ≤ sizing.desiredBlocks := by
    have := hmin.1.2
    omega
  obtain ⟨hone, heffective, hreduced⟩ := hc.effective_eq hod
  obtain ⟨hminB, hdesB, hmaxB⟩ := hc.bytes
  obtain ⟨hminLe, hdesLe, hmaxLe⟩ := hc.bytes_le
  have hmax : uint64Max < 2 ^ 64 := by decide
  refine ⟨⟨hqsum, hq1⟩, ⟨hmd, hdm⟩, hmin, ⟨hmin.1.1, hddvd, hmdvd.1⟩, ⟨hminB, hdesB, hmaxB⟩,
    ⟨hminLe.trans_lt hmax, hdesLe.trans_lt hmax, hmaxLe.trans_lt hmax⟩, ?_, ?_, ?_, ⟨hone, ?_⟩,
    hreduced, ?_⟩
  · -- The floor's bytes already reach `min_bytes`.
    intro b hb
    rw [IsFloor, hb] at hisFloor
    exact hdesB ▸ le_trans hisFloor.1.2 (Nat.mul_le_mul_right _ hfd)
  · exact fun b hb => hmaxB ▸ mul_le_maxBytes hs ha hb hmdvd.2
  · refine ⟨base, floor.getD 0, ?_, hisFloor, fun hnone => ?_, fun hne => ?_⟩
    · rw [hbaseEq, hc.headroom.2] at hleast
      simpa only [Nat.add_assoc] using hleast
    · obtain ⟨-, heq⟩ | ⟨_, ⟨_, hsome, -⟩, -⟩ := capDesired_eq_ok hs hcap
      · rw [heq, max_comm]
      · exact absurd (hnone.symm.trans hsome) nofun
    · obtain ⟨hnone, -⟩ | ⟨cap, hisCap, heq, -⟩ := capDesired_eq_ok hs hcap
      · exact absurd hnone hne
      · exact ⟨cap, hisCap, by rw [heq, min_comm, max_comm]⟩
  · exact heffective ▸ isGreatest_min_div hq1 hod
  · intro hst
    exact Bool.eq_false_iff.mpr fun hred => hc.strict ⟨hred, hst⟩

/-- One full-attention group of two layers, eight bytes a block, two blocks a sequence. -/
def smallRank : RankGeometry where
  rank := 0
  deviceId := 0
  poolBytesPerBlock := 8
  groups :=
    [{ groupId := "vllm.group.0", layers := ["layer.0", "layer.1"], blockSizeTokens := 1
       bytesPerGroupBlock := 8, requiredBlocksPerSequence := 2, kvHeads := 1, keyHeadDim := 1
       valueHeadDim := 1, elementType := ⟨"float16", 16⟩, policyKind := .fullAttention }]

/-- Three sequences, a tenth of headroom, blocks in fours, and a cap that sheds one sequence. -/
def smallPolicy : SizingPolicy where
  targetConcurrency := 3
  maximumConcurrency := some 4
  headroomPercent := 10
  alignmentBlocks := 4
  maxBytes := some 48

theorem smallRank_valid : smallRank.Valid where
  groups := by decide
  elements := by decide
  rank := by decide

theorem sizeRank_contract_smallRank :
    ∃ sizing, sizeRank smallRank smallPolicy = .ok sizing ∧ sizing.desiredBlocks = 4 ∧
      sizing.effectiveTargetConcurrency = 1 ∧ SizingContract smallRank smallPolicy sizing :=
  ⟨_, rfl, rfl, rfl, sizeRank_contract smallRank smallPolicy _ smallRank_valid rfl rfl⟩

end Kapsl.Vllm
