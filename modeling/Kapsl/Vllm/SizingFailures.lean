import Kapsl.Vllm.SizingMonotone

/-!
# Vllm/SizingFailures — when `size_rank` raises, and which errors it can raise

`SizingFailure` lists the errors of `size_rank` with the condition each one reports;
`sizeRank_error` shows that the list is complete, by following the computation to the step that
raised.  Three of the conditions can only hold when a bound is set, and one error of the source is
not in the list at all (`sizeRank_raises_iff`).
-/

namespace Kapsl.Vllm

open Except (raiseIf)

variable {τ : Type} {rank : RankGeometry τ} {policy : SizingPolicy}

/-! ## The errors -/

/-- The error of a checked operation. -/
def overflowError (field : String) : PyError :=
  .planningError (field ++ " overflows unsigned 64-bit arithmetic")

/-- The error of strict mode. -/
def strictError (rank : RankGeometry τ) (policy : SizingPolicy) (effective : ℤ) : PyError :=
  .planningError s!"rank {rank.rank} max_bytes reduces target concurrency from {policy.targetConcurrency} to {effective} in strict mode"

/-- The error of a maximum below the desired count. -/
def maximumError : PyError :=
  .planningError "maximum_concurrency capacity cannot fit the initial target after caps"

/-- The error of a plan that holds no sequence. -/
def emptyPlanError : PyError :=
  .planningError "resolved plan cannot hold one max_model_len sequence"

/-- **What `size_rank` raises, and what is then the case.** -/
inductive SizingFailure (rank : RankGeometry τ) (policy : SizingPolicy) : PyError → Prop
  | overflow {n : ℕ} {field : String} : n ∈ quantities rank policy → uint64Max < n →
      SizingFailure rank policy (overflowError field)
  | belowMinimum {b : ℕ} : policy.minBytes = some b →
      b < minimumDemand rank policy * rank.poolBytesPerBlock →
      SizingFailure rank policy (.planningError
        s!"rank {rank.rank} min_bytes is below the one max_model_len sequence minimum")
  | capBelowMinimum {b : ℕ} : policy.maxBytes = some b →
      capFor rank policy b < minimumDemand rank policy →
      SizingFailure rank policy (.planningError
        s!"rank {rank.rank} max_bytes cannot hold one max_model_len sequence")
  | capBelowFloor {b : ℕ} : policy.maxBytes = some b →
      capFor rank policy b < floorDemand rank policy →
      SizingFailure rank policy
        (.planningError "min_bytes and max_bytes conflict after block alignment")
  | maximumBelowDesired : policy.maximumConcurrency ≠ none →
      maximumDemand rank policy < desiredDemand rank policy →
      SizingFailure rank policy maximumError
  | reduced : policy.strictConcurrency = true →
      effectiveTarget rank policy < policy.targetConcurrency →
      SizingFailure rank policy (strictError rank policy (effectiveTarget rank policy))

/-! ## Each step raises its own error -/

section

variable {left right value alignment divisor : ℕ} {field : String} {e : PyError}

theorem checkedAdd_eq_error (hl : left ≤ uint64Max) (hr : right ≤ uint64Max)
    (h : checkedAdd left right field = .error e) :
    uint64Max < left + right ∧ e = overflowError field := by
  simp only [checkedAdd, uint_allowZero_eq_ok.mpr ⟨hl, rfl⟩, uint_allowZero_eq_ok.mpr ⟨hr, rfl⟩,
    Except.ok_bind, Except.bind_eq_error, Except.raiseIf_eq_error] at h
  obtain ⟨hlt, rfl⟩ | ⟨_, -, h⟩ := h
  · exact ⟨hlt, rfl⟩
  · cases h

theorem checkedMul_eq_error (hl : left ≤ uint64Max) (hr : right ≤ uint64Max)
    (h : checkedMul left right field = .error e) :
    uint64Max < left * right ∧ e = overflowError field := by
  simp only [checkedMul, uint_allowZero_eq_ok.mpr ⟨hl, rfl⟩, uint_allowZero_eq_ok.mpr ⟨hr, rfl⟩,
    Except.ok_bind, Except.bind_eq_error, Except.raiseIf_eq_error] at h
  obtain ⟨hlt, rfl⟩ | ⟨_, -, h⟩ := h
  · exact ⟨hlt, rfl⟩
  · cases h

/-- A ceiling in range is always returned. -/
theorem ceilDiv_of_le (hv : value ≤ uint64Max) (hd : InRange divisor) :
    ceilDiv value divisor field = .ok (value ⌈/⌉ divisor) :=
  ceilDiv_eq_ok.mpr ⟨hv, hd, rfl⟩

theorem roundUp_eq_error (hv : value ≤ uint64Max) (ha : InRange alignment)
    (h : roundUp value alignment field = .error e) :
    uint64Max < Nat.alignUp alignment value ∧ e = overflowError field := by
  have hq : value ⌈/⌉ alignment ≤ uint64Max :=
    ((ceilDiv_le_iff_le_mul ha.1).mpr (Nat.le_mul_of_pos_left value ha.1)).trans hv
  simp only [roundUp, uint_allowZero_eq_ok.mpr ⟨hv, rfl⟩, uint_eq_ok.mpr ⟨ha, rfl⟩,
    ceilDiv_of_le hv ha, Except.ok_bind] at h
  exact checkedMul_eq_error hq ha.2 h

/-- **A checked sum of numbers in range raises** only when the total does not fit. -/
theorem foldlM_checkedAdd_eq_error {α : Type*} {f : α → ℕ} :
    ∀ {l : List α} {init : ℕ}, init ≤ uint64Max → (∀ a ∈ l, f a ≤ uint64Max) →
      l.foldlM (fun total a => checkedAdd total (f a) field) init = .error e →
        uint64Max < init + (l.map f).sum ∧ e = overflowError field
  | [], init, _, _, h => nomatch h
  | a :: l, init, hinit, hl, h => by
      have ha := hl a List.mem_cons_self
      rw [List.foldlM_cons, Except.bind_eq_error] at h
      rw [List.map_cons, List.sum_cons, ← Nat.add_assoc]
      obtain h | ⟨_, h₁, h⟩ := h
      · obtain ⟨hlt, rfl⟩ := checkedAdd_eq_error hinit ha h
        exact ⟨by omega, rfl⟩
      · obtain ⟨hle, rfl⟩ := checkedAdd_eq_ok.mp h₁
        exact foldlM_checkedAdd_eq_error hle (fun b hb => hl b (List.mem_cons_of_mem a hb)) h

end

/-! ## What validity gives -/

section

variable [PyText τ]

theorem CacheGroupGeometry.required_le {group : CacheGroupGeometry τ}
    (h : group.postInit = .ok group) : group.requiredBlocksPerSequence ≤ uint64Max := by
  simp only [CacheGroupGeometry.postInit, Except.bind_eq_ok, uint_eq_ok] at h
  obtain ⟨_, -, _, -, _, -, _, -, _, -, _, ⟨h, -⟩, -⟩ := h
  exact h.2

theorem RankGeometry.Valid.overhead_le (h : rank.Valid) :
    rank.fixedOverheadBlocks ≤ uint64Max := by
  have hr := h.rank
  simp only [RankGeometry.postInit, Except.bind_eq_ok, uint_allowZero_eq_ok] at hr
  obtain ⟨_, -, _, -, _, -, _, ⟨h, -⟩, -⟩ := hr
  exact h

end

/-! ## The capped counts fit -/

variable (rank policy) in
theorem capped_le (n : ℕ) : capped rank policy n ≤ n := by
  unfold capped
  obtain hnone | ⟨b, hsome⟩ := Option.eq_none_or_eq_some policy.maxBytes
  · simp only [hnone]
    exact le_rfl
  · simp only [hsome]
    exact min_le_left _ _

theorem maximumDemand_le {limit : ℕ} (hdesired : desiredDemand rank policy ≤ limit)
    (h : ∀ n ∈ policy.maximumConcurrency.elim [] (workloadQuantities rank policy), n ≤ limit) :
    maximumDemand rank policy ≤ limit := by
  unfold maximumDemand
  obtain hnone | ⟨c, hsome⟩ := Option.eq_none_or_eq_some policy.maximumConcurrency
  · simp only [hnone]
    exact hdesired
  · simp only [hsome, Option.elim_some] at h ⊢
    exact (capped_le rank policy _).trans (h _ (by simp [workloadQuantities]))

/-! ## The three branches -/

section

variable {m : ℕ} {floor : Option ℕ} {w : ℕ} {e : PyError}

theorem floorBlocks_eq_error (hpolicy : policy.WellFormed) (hs : InRange rank.poolBytesPerBlock)
    (h : floorBlocks rank policy m = .error e) :
    (∃ b, policy.minBytes = some b ∧ b < m ∧ e = .planningError
        s!"rank {rank.rank} min_bytes is below the one max_model_len sequence minimum") ∨
      uint64Max < floorDemand rank policy ∧ e = overflowError "min_bytes blocks" := by
  unfold floorBlocks at h
  unfold floorDemand
  obtain hnone | ⟨b, hsome⟩ := Option.eq_none_or_eq_some policy.minBytes
  · simp only [hnone] at h
    exact nomatch h
  · have hb := (hpolicy.minBytes b hsome).2
    have hq : b ⌈/⌉ rank.poolBytesPerBlock ≤ uint64Max :=
      ((ceilDiv_le_iff_le_mul hs.1).mpr (Nat.le_mul_of_pos_left b hs.1)).trans hb
    simp only [hsome, Option.map_some, Option.getD_some, ceilDiv_of_le hb hs, Except.ok_bind,
      Except.bind_eq_error, Except.raiseIf_eq_error] at h ⊢
    obtain ⟨hlt, rfl⟩ | ⟨_, -, h | ⟨_, -, h⟩⟩ := h
    · exact .inl ⟨b, rfl, hlt, rfl⟩
    · exact .inr (roundUp_eq_error hq hpolicy.alignmentBlocks h)
    · exact nomatch h

theorem capDesired_eq_error (hpolicy : policy.WellFormed)
    (h : capDesired rank policy m floor w = .error e) :
    ∃ b, policy.maxBytes = some b ∧
      (capFor rank policy b < m ∧ e = .planningError
          s!"rank {rank.rank} max_bytes cannot hold one max_model_len sequence" ∨
        capFor rank policy b < floor.getD 0 ∧
          e = .planningError "min_bytes and max_bytes conflict after block alignment") := by
  unfold capDesired at h
  obtain hnone | ⟨b, hsome⟩ := Option.eq_none_or_eq_some policy.maxBytes
  · simp only [hnone] at h
    exact nomatch h
  · simp only [hsome, roundDown_cap hpolicy hsome, Except.ok_bind, Except.bind_eq_error,
      Except.raiseIf_eq_error] at h
    refine ⟨b, hsome, ?_⟩
    obtain ⟨hlt, rfl⟩ | ⟨_, -, ⟨⟨f, hf, hlt⟩, rfl⟩ | ⟨_, -, h⟩⟩ := h
    · exact .inl ⟨hlt, rfl⟩
    · obtain rfl := Option.mem_def.mp hf
      exact .inr ⟨hlt, rfl⟩
    · exact nomatch h

/-- **The seven steps that compute a workload**, before `k`: they overflow, or hand `k` the base,
the headroom and the aligned count. -/
theorem workload_eq_error {α : Type} {c : ℕ} {f₁ f₂ f₃ f₄ f₅ f₆ f₇ : String}
    {k : ℕ → ℕ → ℕ → Except PyError α} (hpolicy : policy.WellFormed) (hc : InRange c)
    (hq : rank.sequenceDemand ≤ uint64Max) (ho : rank.fixedOverheadBlocks ≤ uint64Max)
    (h : (do
      let workload ← checkedMul rank.sequenceDemand c f₁
      let workload ← checkedAdd workload policy.prefixBlocks f₂
      let numerator ← checkedMul workload policy.headroomPercent f₃
      let headroom ← ceilDiv numerator 100 f₄
      let base ← checkedAdd rank.fixedOverheadBlocks workload f₅
      let unaligned ← checkedAdd base headroom f₆
      let aligned ← roundUp unaligned policy.alignmentBlocks f₇
      k base headroom aligned) = .error e) :
    (∃ n ∈ workloadQuantities rank policy c, uint64Max < n ∧ ∃ field, e = overflowError field) ∨
      (∀ n ∈ workloadQuantities rank policy c, n ≤ uint64Max) ∧
        k (rank.fixedOverheadBlocks + workload rank policy c) (headroom rank policy c)
          (alignedDemand rank policy c) = .error e := by
  have hh : policy.headroomPercent ≤ uint64Max := hpolicy.headroomPercent.trans (by decide)
  obtain h | ⟨_, hstep, h⟩ := Except.bind_eq_error.mp h
  · obtain ⟨hlt, rfl⟩ := checkedMul_eq_error hq hc.2 h
    exact .inl ⟨_, by simp [workloadQuantities], hlt, _, rfl⟩
  obtain ⟨-, h₁, rfl⟩ := checkedMul_eq_ok.mp hstep
  obtain h | ⟨_, hstep, h⟩ := Except.bind_eq_error.mp h
  · obtain ⟨hlt, rfl⟩ := checkedAdd_eq_error h₁ hpolicy.prefixBlocks h
    exact .inl ⟨workload rank policy c, by simp [workloadQuantities], hlt, _, rfl⟩
  obtain ⟨h₂, rfl⟩ := checkedAdd_eq_ok.mp hstep
  obtain h | ⟨_, hstep, h⟩ := Except.bind_eq_error.mp h
  · obtain ⟨hlt, rfl⟩ := checkedMul_eq_error h₂ hh h
    exact .inl ⟨workload rank policy c * policy.headroomPercent, by simp [workloadQuantities],
      hlt, _, rfl⟩
  obtain ⟨-, h₃, rfl⟩ := checkedMul_eq_ok.mp hstep
  rw [ceilDiv_of_le h₃ ⟨by decide, by decide⟩, Except.ok_bind] at h
  obtain h | ⟨_, hstep, h⟩ := Except.bind_eq_error.mp h
  · obtain ⟨hlt, rfl⟩ := checkedAdd_eq_error ho h₂ h
    exact .inl ⟨rank.fixedOverheadBlocks + workload rank policy c, by simp [workloadQuantities],
      hlt, _, rfl⟩
  obtain ⟨h₄, rfl⟩ := checkedAdd_eq_ok.mp hstep
  have hroom : headroom rank policy c ≤ uint64Max :=
    ((ceilDiv_le_iff_le_mul (by decide)).mpr (Nat.le_mul_of_pos_left _ (by decide))).trans h₃
  obtain h | ⟨_, hstep, h⟩ := Except.bind_eq_error.mp h
  · obtain ⟨hlt, rfl⟩ := checkedAdd_eq_error h₄ hroom h
    exact .inl ⟨unalignedDemand rank policy c, by simp [workloadQuantities], hlt, _, rfl⟩
  obtain ⟨h₅, rfl⟩ := checkedAdd_eq_ok.mp hstep
  obtain h | ⟨_, hstep, h⟩ := Except.bind_eq_error.mp h
  · obtain ⟨hlt, rfl⟩ := roundUp_eq_error h₅ hpolicy.alignmentBlocks h
    exact .inl ⟨alignedDemand rank policy c, by simp [workloadQuantities], hlt, _, rfl⟩
  obtain ⟨-, -, h₆, rfl⟩ := roundUp_eq_ok.mp hstep
  exact .inr ⟨mem_workloadQuantities.mpr ⟨h₁, h₂, h₃, h₄, h₅, h₆⟩, h⟩

theorem maximumBlocksFor_eq_error (hpolicy : policy.WellFormed)
    (hq : rank.sequenceDemand ≤ uint64Max) (ho : rank.fixedOverheadBlocks ≤ uint64Max)
    (h : maximumBlocksFor rank policy rank.sequenceDemand (desiredDemand rank policy) = .error e) :
    (∃ n ∈ policy.maximumConcurrency.elim [] (workloadQuantities rank policy),
        uint64Max < n ∧ ∃ field, e = overflowError field) ∨
      policy.maximumConcurrency ≠ none ∧ maximumDemand rank policy < desiredDemand rank policy ∧
        e = maximumError := by
  unfold maximumBlocksFor at h
  unfold maximumDemand
  obtain hnone | ⟨c, hsome⟩ := Option.eq_none_or_eq_some policy.maximumConcurrency
  · simp only [hnone] at h
    exact nomatch h
  · simp only [hsome, Option.elim_some] at h ⊢
    obtain hover | ⟨-, h⟩ := workload_eq_error hpolicy (hpolicy.maximumConcurrency c hsome) hq ho h
    · exact .inl hover
    simp only [capMaximum_eq hpolicy, Except.ok_bind, Except.bind_eq_error,
      Except.raiseIf_eq_error] at h
    obtain ⟨hlt, rfl⟩ | ⟨_, -, h⟩ := h
    · exact .inr ⟨nofun, hlt, rfl⟩
    · exact nomatch h

end

/-! ## The list is complete -/

variable [PyText τ]

/-- **`size_rank` raises nothing else.** -/
theorem sizeRank_error (hrank : rank.Valid) (hpolicy : policy.Valid) {e : PyError}
    (h : sizeRank rank policy = .error e) : SizingFailure rank policy e := by
  have hwell := hpolicy.wellFormed
  obtain ⟨hs, -⟩ := hrank.bounds
  have ho := hrank.overhead_le
  have hmem : ∀ n, n ∈ [rank.sequenceDemand, rank.fixedOverheadBlocks + rank.sequenceDemand,
      minimumDemand rank policy, minimumDemand rank policy * rank.poolBytesPerBlock] →
      n ∈ quantities rank policy := fun n hn => by
    simp only [quantities, List.mem_append, hn, true_or]
  obtain h | ⟨_, hstep, h⟩ := Except.bind_eq_error.mp h
  · have hl := fun g hg => CacheGroupGeometry.required_le (hrank.groups g hg)
    obtain ⟨hlt, rfl⟩ := foldlM_checkedAdd_eq_error (Nat.zero_le _) hl h
    rw [Nat.zero_add] at hlt
    exact .overflow (hmem rank.sequenceDemand (by simp)) hlt
  obtain ⟨rfl, hq⟩ := requiredBlocksPerSequence_eq_ok.mp hstep
  obtain h | ⟨_, hstep, h⟩ := Except.bind_eq_error.mp h
  · obtain ⟨hlt, rfl⟩ := checkedAdd_eq_error ho hq h
    exact .overflow (hmem _ (by simp)) hlt
  obtain ⟨hmin, rfl⟩ := checkedAdd_eq_ok.mp hstep
  obtain h | ⟨_, hstep, h⟩ := Except.bind_eq_error.mp h
  · obtain ⟨hlt, rfl⟩ := roundUp_eq_error hmin hwell.alignmentBlocks h
    exact .overflow (hmem (minimumDemand rank policy) (by simp)) hlt
  obtain ⟨-, -, hmin, rfl⟩ := roundUp_eq_ok.mp hstep
  obtain h | ⟨_, hstep, h⟩ := Except.bind_eq_error.mp h
  · obtain ⟨hlt, rfl⟩ := checkedMul_eq_error hmin hs.2 h
    exact .overflow (hmem (minimumDemand rank policy * rank.poolBytesPerBlock) (by simp)) hlt
  obtain ⟨-, hminB, rfl⟩ := checkedMul_eq_ok.mp hstep
  -- The workload of the target, then the floor and the cap.
  obtain ⟨n, hn, hlt, field, rfl⟩ | ⟨hworkload, h⟩ :=
    workload_eq_error hwell hwell.targetConcurrency hq ho h
  · exact .overflow (by simp [quantities, hn]) hlt
  obtain h | ⟨floor, hstep, h⟩ := Except.bind_eq_error.mp h
  · obtain ⟨b, hb, hlt, rfl⟩ | ⟨hlt, rfl⟩ := floorBlocks_eq_error hwell hs h
    · exact .belowMinimum hb hlt
    · exact .overflow (n := floorDemand rank policy) (by simp [quantities]) hlt
  obtain ⟨-, hfloor, rfl⟩ := (floorBlocks_iff hwell hs).mp hstep
  obtain h | ⟨desired, hstep, h⟩ := Except.bind_eq_error.mp h
  · obtain ⟨b, hb, ⟨hlt, rfl⟩ | ⟨hlt, rfl⟩⟩ := capDesired_eq_error hwell h
    · exact .capBelowMinimum hb hlt
    · exact .capBelowFloor hb hlt
  obtain ⟨hcaps, hdesired⟩ := (capDesired_iff hwell).mp hstep
  obtain rfl : desired = desiredDemand rank policy := hdesired
  have hcapmin := fun b hb => (hcaps b hb).1
  have halign := hworkload (alignedDemand rank policy policy.targetConcurrency)
    (by simp [workloadQuantities])
  have hdesired : desiredDemand rank policy ≤ uint64Max :=
    (capped_le rank policy _).trans (max_le halign hfloor)
  obtain h | ⟨_, hstep, h⟩ := Except.bind_eq_error.mp h
  · obtain ⟨hlt, rfl⟩ := checkedMul_eq_error hdesired hs.2 h
    exact .overflow (n := desiredDemand rank policy * rank.poolBytesPerBlock)
      (by simp [quantities]) hlt
  obtain ⟨-, -, rfl⟩ := checkedMul_eq_ok.mp hstep
  obtain h | ⟨_, hstep, h⟩ := Except.bind_eq_error.mp h
  · obtain ⟨n, hn, hlt, field, rfl⟩ | ⟨hset, hlt, rfl⟩ := maximumBlocksFor_eq_error hwell hq ho h
    · exact .overflow (by simp [quantities, hn]) hlt
    · exact .maximumBelowDesired hset hlt
  obtain ⟨hmaxle, -, rfl⟩ := (maximumBlocksFor_iff hwell hq).mp hstep
  have hmaximum : maximumDemand rank policy ≤ uint64Max := maximumDemand_le hdesired hmaxle
  obtain h | ⟨_, hstep, h⟩ := Except.bind_eq_error.mp h
  · obtain ⟨hlt, rfl⟩ := checkedMul_eq_error hmaximum hs.2 h
    exact .overflow (n := maximumDemand rank policy * rank.poolBytesPerBlock)
      (by simp [quantities]) hlt
  -- A plan that holds the minimum holds a sequence, so only strict mode is left to raise.
  have hmindes := minimumDemand_le_desiredDemand hwell hcapmin
  have hcovers : rank.fixedOverheadBlocks ≤ desiredDemand rank policy := by
    have := le_minimumDemand rank hwell
    omega
  have heff := one_le_effectiveTarget hwell hrank.sequenceDemand_pos hmindes
  have heffective : min (policy.targetConcurrency : ℤ)
      (((desiredDemand rank policy : ℤ) - rank.fixedOverheadBlocks).fdiv rank.sequenceDemand) =
        (effectiveTarget rank policy : ℤ) := effective_toNat hcovers
  simp only [heffective, Except.bind_eq_error, Except.raiseIf_eq_error, decide_eq_true_eq,
    Int.ofNat_lt] at h
  obtain ⟨hlt, -⟩ | ⟨_, -, ⟨⟨hlt, hstrict⟩, rfl⟩ | ⟨_, -, h⟩⟩ := h
  · omega
  · exact .reduced hstrict hlt
  · cases h

/-! ## The conditions behind the bounds -/

omit [PyText τ] in
/-- **Without `max_bytes` the target is kept** — the desired count covers its whole workload. -/
theorem effectiveTarget_of_maxBytes_eq_none (hpolicy : policy.WellFormed)
    (hq : 1 ≤ rank.sequenceDemand) (h : policy.maxBytes = none) :
    effectiveTarget rank policy = policy.targetConcurrency := by
  refine min_eq_left ((Nat.le_div_iff_mul_le hq).mpr ?_)
  have hdesired : alignedDemand rank policy policy.targetConcurrency ≤
      desiredDemand rank policy := by
    simp only [desiredDemand, capped, h]
    exact le_max_left _ _
  have haligned : unalignedDemand rank policy policy.targetConcurrency ≤
      alignedDemand rank policy policy.targetConcurrency :=
    (Nat.isLeast_alignUp hpolicy.alignmentBlocks.1 _).1.2
  have hworkload : policy.targetConcurrency * rank.sequenceDemand ≤
      workload rank policy policy.targetConcurrency := by
    rw [Nat.mul_comm]
    exact Nat.le_add_right _ _
  unfold unalignedDemand at haligned
  omega

omit [PyText τ] in
/-- **Without `min_bytes` the maximum reaches the desired count** — it is the same count, for no
fewer sequences. -/
theorem desiredDemand_le_maximumDemand (hpolicy : policy.WellFormed)
    (htarget : ∀ c ∈ policy.maximumConcurrency, policy.targetConcurrency ≤ c)
    (h : policy.minBytes = none) : desiredDemand rank policy ≤ maximumDemand rank policy := by
  unfold maximumDemand
  obtain hnone | ⟨c, hsome⟩ := Option.eq_none_or_eq_some policy.maximumConcurrency
  · simp only [hnone]
    exact le_rfl
  · simp only [hsome, desiredDemand, floorDemand, h, Option.map_none, Option.getD_none]
    refine capped_mono hpolicy.alignmentBlocks.1 (.refl policy) ?_
    rw [Nat.max_zero]
    exact Nat.alignUp_mono hpolicy.alignmentBlocks.1 (unalignedDemand_mono (htarget c hsome))

/-! ## The message of an error tells which one it is -/

section

omit [PyText τ]

variable {e : PyError} {effective : ℤ}

/-- The last two letters of an error's message, read backwards. -/
def PyError.ending (e : PyError) : List Char := e.message.toList.reverse.take 2

/-- An error that ends in a fixed text ends as that text does. -/
theorem PyError.ending_append {s t : String} {a b : Char} (h : t.toList.reverse.take 2 = [a, b]) :
    (PyError.planningError (s ++ t)).ending = [a, b] := by
  have hlen : 2 ≤ t.toList.reverse.length := by
    have := congrArg List.length h
    rw [List.length_take, List.length_cons, List.length_singleton] at this
    omega
  rw [ending, message, String.toList_append, List.reverse_append, List.take_append_of_le_length hlen,
    h]

/-- **The six errors end differently**, and the ending of the error of an empty plan comes with
another beginning. -/
theorem SizingFailure.ending (h : SizingFailure rank policy e) :
    e.ending ∈ [['c', 'i'], ['m', 'u'], ['t', 'n']] ∨
      (e.ending = ['e', 'c'] ∧ e.message.toList[1]? = some 'a') ∨
      (e.ending = ['s', 'p'] ∧ maximumDemand rank policy < desiredDemand rank policy) ∨
      (e.ending = ['e', 'd'] ∧ effectiveTarget rank policy < policy.targetConcurrency) := by
  obtain - | - | - | - | ⟨-, hlt⟩ | ⟨-, hlt⟩ := h
  · rw [overflowError, PyError.ending_append (a := 'c') (b := 'i') rfl]
    exact .inl (by decide)
  · rw [PyError.ending_append (a := 'm') (b := 'u') rfl]
    exact .inl (by decide)
  · refine .inr (.inl ⟨PyError.ending_append rfl, ?_⟩)
    rw [PyError.message, String.toList_append, String.toList_append]
    rfl
  · exact .inl (by decide)
  · exact .inr (.inr (.inl ⟨rfl, hlt⟩))
  · exact .inr (.inr (.inr ⟨PyError.ending_append rfl, hlt⟩))

/-- **An empty plan is never reported.** -/
theorem SizingFailure.ne_emptyPlanError (h : SizingFailure rank policy e) :
    e ≠ emptyPlanError := by
  rintro rfl
  have hending : emptyPlanError.ending = ['e', 'c'] := rfl
  have hsecond : emptyPlanError.message.toList[1]? = some 'e' := rfl
  simpa [hending, hsecond] using h.ending

theorem SizingFailure.of_maximumError (h : SizingFailure rank policy maximumError) :
    maximumDemand rank policy < desiredDemand rank policy := by
  have hending : maximumError.ending = ['s', 'p'] := rfl
  simpa [hending] using h.ending

theorem SizingFailure.of_strictError
    (h : SizingFailure rank policy (strictError rank policy effective)) :
    effectiveTarget rank policy < policy.targetConcurrency := by
  have hending : (strictError rank policy effective).ending = ['e', 'd'] :=
    PyError.ending_append rfl
  simpa [hending] using h.ending

end

/-! ## The conditions, both ways -/

/-- **Exactly when `size_rank` raises.**  A quantity overflows, `min_bytes` is below one sequence,
the cap is below the minimum or the floor, the maximum that `min_bytes` outgrew is below the desired
count, or strict mode meets a cap that sheds sequences.  An empty plan is never reported, strict
mode only raises under `max_bytes`, and the maximum only under `min_bytes`. -/
theorem sizeRank_raises_iff (hrank : rank.Valid) (hpolicy : policy.Valid) :
    ((∃ e, sizeRank rank policy = .error e) ↔
      (∃ n ∈ quantities rank policy, uint64Max < n) ∨
      (∃ b, policy.minBytes = some b ∧ b < minimumDemand rank policy * rank.poolBytesPerBlock) ∨
      (∃ b, policy.maxBytes = some b ∧ (capFor rank policy b < minimumDemand rank policy ∨
        capFor rank policy b < floorDemand rank policy)) ∨
      (policy.maximumConcurrency ≠ none ∧ policy.minBytes ≠ none ∧
        maximumDemand rank policy < desiredDemand rank policy) ∨
      (policy.strictConcurrency = true ∧ policy.maxBytes ≠ none ∧
        effectiveTarget rank policy < policy.targetConcurrency)) ∧
    sizeRank rank policy ≠ .error emptyPlanError ∧
    (policy.maxBytes = none →
      ∀ effective, sizeRank rank policy ≠ .error (strictError rank policy effective)) ∧
    (policy.minBytes = none → sizeRank rank policy ≠ .error maximumError) := by
  have hwell := hpolicy.wellFormed
  have hkept := effectiveTarget_of_maxBytes_eq_none hwell hrank.sequenceDemand_pos
  have hreaches : policy.minBytes = none →
      desiredDemand rank policy ≤ maximumDemand rank policy :=
    desiredDemand_le_maximumDemand hwell hpolicy.target_le_maximum
  refine ⟨⟨?_, ?_⟩, ?_, ?_, ?_⟩
  · rintro ⟨e, he⟩
    obtain ⟨hn, hlt⟩ | ⟨hb, hlt⟩ | ⟨hb, hlt⟩ | ⟨hb, hlt⟩ | ⟨hset, hlt⟩ | ⟨hstrict, hlt⟩ :=
      sizeRank_error hrank hpolicy he
    · exact .inl ⟨_, hn, hlt⟩
    · exact .inr (.inl ⟨_, hb, hlt⟩)
    · exact .inr (.inr (.inl ⟨_, hb, .inl hlt⟩))
    · exact .inr (.inr (.inl ⟨_, hb, .inr hlt⟩))
    · exact .inr (.inr (.inr (.inl ⟨hset, fun hnone => hlt.not_ge (hreaches hnone), hlt⟩)))
    · exact .inr (.inr (.inr (.inr ⟨hstrict, fun hnone => hlt.ne (hkept hnone), hlt⟩)))
  · intro hfails
    by_contra hreturns
    have hfits : Fits rank policy := by
      cases hrun : sizeRank rank policy with
      | error e => exact absurd ⟨e, hrun⟩ hreturns
      | ok sizing => exact ((sizeRank_eq_ok hrank hpolicy).mp hrun).1
    obtain ⟨n, hn, hlt⟩ | ⟨b, hb, hlt⟩ | ⟨b, hb, hlt | hlt⟩ | ⟨-, -, hlt⟩ | ⟨hstrict, -, hlt⟩ :=
      hfails
    · exact (hfits.le n hn).not_gt hlt
    · exact (hfits.min_bytes b hb).not_gt hlt
    · exact (hfits.cap_minimum b hb).not_gt hlt
    · exact (hfits.cap_floor b hb).not_gt hlt
    · exact hfits.maximum.not_gt hlt
    · exact hlt.ne (hfits.strict hstrict)
  · exact fun h => (sizeRank_error hrank hpolicy h).ne_emptyPlanError rfl
  · intro hnone effective h
    exact ((sizeRank_error hrank hpolicy h).of_strictError).ne (hkept hnone)
  · intro hnone h
    exact ((sizeRank_error hrank hpolicy h).of_maximumError).not_ge (hreaches hnone)

/-- The small policy in strict mode: its cap sheds two of three sequences, so nothing is planned. -/
theorem sizeRank_raises_iff_strict :
    ∃ e, sizeRank smallRank { smallPolicy with strictConcurrency := true } = .error e :=
  (sizeRank_raises_iff smallRank_valid
    (rfl : SizingPolicy.Valid { smallPolicy with strictConcurrency := true })).1.mpr
    (.inr (.inr (.inr (.inr ⟨rfl, nofun, by decide⟩))))

end Kapsl.Vllm
