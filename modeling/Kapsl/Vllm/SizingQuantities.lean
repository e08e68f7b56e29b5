import Kapsl.Vllm.Sizing

/-!
# Vllm/SizingQuantities — the numbers `size_rank` works with, and when it returns

`size_rank` computes a dozen counts, each checked against 64 bits before the next one.  Here they
are plain numbers (`alignedDemand`, `desiredDemand`, …), defined whether or not the computation gets
to them.  `sizeRank_eq_ok` says when it gets to the end (`Fits`), and with which values.
-/

namespace Kapsl.Vllm

variable {τ : Type}

/-! ## The quantities -/

/-- `required_blocks_per_sequence`, without a bound. -/
def RankGeometry.sequenceDemand (rank : RankGeometry τ) : ℕ :=
  (rank.groups.map (·.requiredBlocksPerSequence)).sum

section

variable (rank : RankGeometry τ) (policy : SizingPolicy)

/-- The blocks of `concurrency` sequences and the prefix. -/
def workload (concurrency : ℕ) : ℕ := rank.sequenceDemand * concurrency + policy.prefixBlocks

/-- The headroom on that workload. -/
def headroom (concurrency : ℕ) : ℕ :=
  (workload rank policy concurrency * policy.headroomPercent) ⌈/⌉ 100

/-- The blocks of that workload, with its headroom and the overhead. -/
def unalignedDemand (concurrency : ℕ) : ℕ :=
  rank.fixedOverheadBlocks + workload rank policy concurrency + headroom rank policy concurrency

/-- The same, aligned. -/
def alignedDemand (concurrency : ℕ) : ℕ :=
  Nat.alignUp policy.alignmentBlocks (unalignedDemand rank policy concurrency)

/-- `minimum_blocks`. -/
def minimumDemand : ℕ :=
  Nat.alignUp policy.alignmentBlocks (rank.fixedOverheadBlocks + rank.sequenceDemand)

/-- The floor that `min_bytes` sets. -/
def floorFor (minBytes : ℕ) : ℕ :=
  Nat.alignUp policy.alignmentBlocks (minBytes ⌈/⌉ rank.poolBytesPerBlock)

/-- `floor_blocks`, zero without `min_bytes`. -/
def floorDemand : ℕ := (policy.minBytes.map (floorFor rank policy)).getD 0

/-- `cap_blocks`. -/
def capFor (maxBytes : ℕ) : ℕ :=
  Nat.alignDown policy.alignmentBlocks (maxBytes / rank.poolBytesPerBlock)

/-- A count under the cap, if `max_bytes` is set. -/
def capped (blocks : ℕ) : ℕ :=
  match policy.maxBytes with
  | none => blocks
  | some maxBytes => min blocks (capFor rank policy maxBytes)

/-- `desired_blocks`. -/
def desiredDemand : ℕ :=
  capped rank policy
    (max (alignedDemand rank policy policy.targetConcurrency) (floorDemand rank policy))

/-- `maximum_blocks`. -/
def maximumDemand : ℕ :=
  match policy.maximumConcurrency with
  | none => desiredDemand rank policy
  | some maximum => capped rank policy (alignedDemand rank policy maximum)

/-- `effective`. -/
def effectiveTarget : ℕ :=
  min policy.targetConcurrency
    ((desiredDemand rank policy - rank.fixedOverheadBlocks) / rank.sequenceDemand)

/-- The checked quantities of the workload of `concurrency` sequences. -/
def workloadQuantities (concurrency : ℕ) : List ℕ :=
  [rank.sequenceDemand * concurrency, workload rank policy concurrency,
    workload rank policy concurrency * policy.headroomPercent,
    rank.fixedOverheadBlocks + workload rank policy concurrency,
    unalignedDemand rank policy concurrency, alignedDemand rank policy concurrency]

/-- **The quantities `size_rank` checks against 64 bits.** -/
def quantities : List ℕ :=
  [rank.sequenceDemand, rank.fixedOverheadBlocks + rank.sequenceDemand, minimumDemand rank policy,
      minimumDemand rank policy * rank.poolBytesPerBlock] ++
    workloadQuantities rank policy policy.targetConcurrency ++
    [floorDemand rank policy, desiredDemand rank policy * rank.poolBytesPerBlock] ++
    policy.maximumConcurrency.elim [] (workloadQuantities rank policy) ++
    [maximumDemand rank policy * rank.poolBytesPerBlock]

/-- **The policy fits the rank** — every quantity has 64 bits, the bounds hold one sequence and do
not cross, and the target is kept where it has to be. -/
structure Fits : Prop where
  le : ∀ n ∈ quantities rank policy, n ≤ uint64Max
  min_bytes : ∀ b, policy.minBytes = some b →
    minimumDemand rank policy * rank.poolBytesPerBlock ≤ b
  cap_minimum : ∀ b, policy.maxBytes = some b → minimumDemand rank policy ≤ capFor rank policy b
  cap_floor : ∀ b, policy.maxBytes = some b → floorDemand rank policy ≤ capFor rank policy b
  maximum : desiredDemand rank policy ≤ maximumDemand rank policy
  strict : policy.strictConcurrency = true →
    effectiveTarget rank policy = policy.targetConcurrency

end

/-! ## What validity gives -/

variable [PyText τ] {rank : RankGeometry τ} {policy : SizingPolicy}

theorem RankGeometry.Valid.sequenceDemand_pos (h : rank.Valid) : 1 ≤ rank.sequenceDemand := by
  obtain ⟨group, rest, hg⟩ := List.exists_cons_of_ne_nil h.bounds.2
  have hone := CacheGroupGeometry.one_le_required (h.groups group (by simp [hg]))
  rw [sequenceDemand, hg, List.map_cons, List.sum_cons]
  omega

/-! ## Each computation returns its quantity -/

section

variable {q w m d : ℕ} {floor : Option ℕ}

omit [PyText τ] in
theorem requiredBlocksPerSequence_eq_ok :
    rank.requiredBlocksPerSequence = .ok q ↔ rank.sequenceDemand = q ∧ q ≤ uint64Max :=
  foldlM_checkedAdd_iff _ _ _

omit [PyText τ] in
theorem mem_workloadQuantities {concurrency : ℕ} :
    (∀ n ∈ workloadQuantities rank policy concurrency, n ≤ uint64Max) ↔
      rank.sequenceDemand * concurrency ≤ uint64Max ∧
      workload rank policy concurrency ≤ uint64Max ∧
      workload rank policy concurrency * policy.headroomPercent ≤ uint64Max ∧
      rank.fixedOverheadBlocks + workload rank policy concurrency ≤ uint64Max ∧
      unalignedDemand rank policy concurrency ≤ uint64Max ∧
      alignedDemand rank policy concurrency ≤ uint64Max := by
  simp [workloadQuantities]

omit [PyText τ] in
theorem mem_quantities :
    (∀ n ∈ quantities rank policy, n ≤ uint64Max) ↔
      (rank.sequenceDemand ≤ uint64Max ∧
        rank.fixedOverheadBlocks + rank.sequenceDemand ≤ uint64Max ∧
        minimumDemand rank policy ≤ uint64Max ∧
        minimumDemand rank policy * rank.poolBytesPerBlock ≤ uint64Max) ∧
      (∀ n ∈ workloadQuantities rank policy policy.targetConcurrency, n ≤ uint64Max) ∧
      (floorDemand rank policy ≤ uint64Max ∧
        desiredDemand rank policy * rank.poolBytesPerBlock ≤ uint64Max) ∧
      (∀ n ∈ policy.maximumConcurrency.elim [] (workloadQuantities rank policy),
        n ≤ uint64Max) ∧
      maximumDemand rank policy * rank.poolBytesPerBlock ≤ uint64Max := by
  simp [quantities, or_imp, forall_and, and_assoc]

omit [PyText τ] in
theorem floorBlocks_iff (hpolicy : policy.WellFormed) (hs : InRange rank.poolBytesPerBlock) :
    floorBlocks rank policy m = .ok floor ↔ (∀ b, policy.minBytes = some b → m ≤ b) ∧
      floorDemand rank policy ≤ uint64Max ∧ floor = policy.minBytes.map (floorFor rank policy) := by
  unfold floorBlocks floorDemand
  obtain hnone | ⟨b, hsome⟩ := Option.eq_none_or_eq_some policy.minBytes
  · simp [hnone, eq_comm]
  · have hb := (hpolicy.minBytes b hsome).2
    have hq : b ⌈/⌉ rank.poolBytesPerBlock ≤ uint64Max :=
      ((ceilDiv_le_iff_le_mul hs.1).mpr (Nat.le_mul_of_pos_left b hs.1)).trans hb
    simp only [hsome, Except.bind_eq_ok, Except.raiseIf_eq_ok, ceilDiv_eq_ok, roundUp_eq_ok,
      Except.pure_eq_ok, exists_const, not_lt, Option.map_some, Option.getD_some, floorFor]
    constructor
    · rintro ⟨hm, _, ⟨-, -, rfl⟩, _, ⟨-, -, hle, rfl⟩, rfl⟩
      exact ⟨fun b' hb' => Option.some.inj hb' ▸ hm, hle, rfl⟩
    · rintro ⟨hm, hle, rfl⟩
      exact ⟨hm b rfl, _, ⟨hb, hs, rfl⟩, _, ⟨hpolicy.alignmentBlocks, hq, hle, rfl⟩, rfl⟩

omit [PyText τ] in
/-- The cap never fails to be computed. -/
theorem roundDown_cap (hpolicy : policy.WellFormed) {b : ℕ} (hb : policy.maxBytes = some b)
    {field : String} : roundDown (b / rank.poolBytesPerBlock) policy.alignmentBlocks field =
      .ok (capFor rank policy b) :=
  roundDown_eq_ok.mpr ⟨(Nat.div_le_self b _).trans (hpolicy.maxBytes b hb).2,
    hpolicy.alignmentBlocks, rfl⟩

omit [PyText τ] in
theorem capDesired_iff (hpolicy : policy.WellFormed) :
    capDesired rank policy m floor w = .ok d ↔
      (∀ b, policy.maxBytes = some b → m ≤ capFor rank policy b ∧
        floor.getD 0 ≤ capFor rank policy b) ∧ d = capped rank policy w := by
  unfold capDesired capped
  obtain hnone | ⟨b, hsome⟩ := Option.eq_none_or_eq_some policy.maxBytes
  · simp [hnone, eq_comm]
  · have hfloor : (¬∃ f ∈ floor, capFor rank policy b < f) ↔
        floor.getD 0 ≤ capFor rank policy b := by
      cases floor <;> simp
    simp only [hsome, roundDown_cap hpolicy hsome, Except.ok_bind, Except.bind_eq_ok,
      Except.raiseIf_eq_ok, Except.pure_eq_ok, exists_const, not_lt, hfloor]
    constructor
    · rintro ⟨hm, hf, rfl⟩
      exact ⟨fun b' hb' => Option.some.inj hb' ▸ ⟨hm, hf⟩, rfl⟩
    · rintro ⟨h, rfl⟩
      exact ⟨(h b rfl).1, (h b rfl).2, rfl⟩

omit [PyText τ] in
theorem capMaximum_eq (hpolicy : policy.WellFormed) :
    capMaximum rank policy w = .ok (capped rank policy w) := by
  unfold capMaximum capped
  obtain hnone | ⟨b, hsome⟩ := Option.eq_none_or_eq_some policy.maxBytes
  · simp only [hnone]
  · simp only [hsome, roundDown_cap hpolicy hsome, Except.ok_bind]
    rfl

omit [PyText τ] in
/-- **The `maximum_concurrency` branch** returns when its workload fits and reaches the target. -/
theorem maximumBlocksFor_iff (hpolicy : policy.WellFormed) (hq : rank.sequenceDemand ≤ uint64Max) :
    maximumBlocksFor rank policy rank.sequenceDemand (desiredDemand rank policy) = .ok m ↔
      (∀ n ∈ policy.maximumConcurrency.elim [] (workloadQuantities rank policy), n ≤ uint64Max) ∧
        desiredDemand rank policy ≤ maximumDemand rank policy ∧ m = maximumDemand rank policy := by
  unfold maximumBlocksFor maximumDemand
  obtain hnone | ⟨c, hsome⟩ := Option.eq_none_or_eq_some policy.maximumConcurrency
  · simp [hnone, eq_comm]
  · have hc := (hpolicy.maximumConcurrency c hsome).2
    have hh : policy.headroomPercent ≤ uint64Max := hpolicy.headroomPercent.trans (by decide)
    have hhundred : 1 ≤ 100 ∧ 100 ≤ uint64Max := by decide
    simp only [hsome, Option.elim_some, mem_workloadQuantities, Except.bind_eq_ok,
      checkedMul_eq_ok, checkedAdd_eq_ok, ceilDiv_eq_ok, roundUp_eq_ok, capMaximum_eq hpolicy,
      Except.raiseIf_eq_ok, Except.pure_eq_ok, not_lt]
    constructor
    · rintro ⟨_, ⟨-, h₁, rfl⟩, _, ⟨h₂, rfl⟩, _, ⟨-, h₃, rfl⟩, _, ⟨-, -, rfl⟩, _, ⟨h₄, rfl⟩, _,
        ⟨h₅, rfl⟩, _, ⟨-, -, h₆, rfl⟩, _, heq, _, hle, rfl⟩
      obtain rfl := Except.ok.inj heq
      exact ⟨⟨h₁, h₂, h₃, h₄, h₅, h₆⟩, hle, rfl⟩
    · rintro ⟨⟨h₁, h₂, h₃, h₄, h₅, h₆⟩, hle, rfl⟩
      exact ⟨_, ⟨⟨hq, hc⟩, h₁, rfl⟩, _, ⟨h₂, rfl⟩, _, ⟨⟨h₂, hh⟩, h₃, rfl⟩, _,
        ⟨h₃, hhundred, rfl⟩, _, ⟨h₄, rfl⟩, _, ⟨h₅, rfl⟩, _,
        ⟨hpolicy.alignmentBlocks, h₅, h₆, rfl⟩, _, rfl, (), hle, rfl⟩

end

/-! ## The plan -/

/-- The plan made of the quantities. -/
def sizingOf (rank : RankGeometry τ) (policy : SizingPolicy) : RankSizing where
  rank := rank.rank
  deviceId := rank.deviceId
  bytesPerBlock := rank.poolBytesPerBlock
  sequenceBlocks := rank.sequenceDemand
  minimumBlocks := minimumDemand rank policy
  minimumBytes := minimumDemand rank policy * rank.poolBytesPerBlock
  baseBlocks := rank.fixedOverheadBlocks + workload rank policy policy.targetConcurrency
  headroomBlocks := headroom rank policy policy.targetConcurrency
  desiredBlocks := desiredDemand rank policy
  desiredBytes := desiredDemand rank policy * rank.poolBytesPerBlock
  maximumBlocks := maximumDemand rank policy
  maximumBytes := maximumDemand rank policy * rank.poolBytesPerBlock
  effectiveTargetConcurrency := effectiveTarget rank policy
  concurrencyReduced := decide (effectiveTarget rank policy < policy.targetConcurrency)

omit [PyText τ] in
/-- More sequences need no fewer blocks. -/
theorem unalignedDemand_mono {c c' : ℕ} (h : c ≤ c') :
    unalignedDemand rank policy c ≤ unalignedDemand rank policy c' := by
  have hworkload : workload rank policy c ≤ workload rank policy c' :=
    Nat.add_le_add_right (Nat.mul_le_mul_left _ h) _
  have hheadroom : headroom rank policy c ≤ headroom rank policy c' :=
    (gc_smul_ceilDiv (by decide : 0 < 100)).monotone_l (Nat.mul_le_mul_right _ hworkload)
  exact Nat.add_le_add (Nat.add_le_add_left hworkload _) hheadroom

variable (rank) in
omit [PyText τ] in
/-- The target holds one sequence. -/
theorem minimumDemand_le_alignedDemand (hpolicy : policy.WellFormed) :
    minimumDemand rank policy ≤ alignedDemand rank policy policy.targetConcurrency := by
  refine Nat.alignUp_mono hpolicy.alignmentBlocks.1 ?_
  have hone : rank.sequenceDemand ≤ rank.sequenceDemand * policy.targetConcurrency :=
    Nat.le_mul_of_pos_right _ hpolicy.targetConcurrency.1
  unfold unalignedDemand workload
  omega

omit [PyText τ] in
/-- **A cap that holds the minimum leaves it to the plan.** -/
theorem minimumDemand_le_desiredDemand (hpolicy : policy.WellFormed)
    (hcap : ∀ b, policy.maxBytes = some b → minimumDemand rank policy ≤ capFor rank policy b) :
    minimumDemand rank policy ≤ desiredDemand rank policy := by
  have hwish := (minimumDemand_le_alignedDemand rank hpolicy).trans
    (le_max_left _ (floorDemand rank policy))
  unfold desiredDemand capped
  obtain hnone | ⟨b, hsome⟩ := Option.eq_none_or_eq_some policy.maxBytes
  · simp only [hnone]
    exact hwish
  · simp only [hsome]
    exact le_min hwish (hcap b hsome)

variable (rank) in
omit [PyText τ] in
theorem le_minimumDemand (hpolicy : policy.WellFormed) :
    rank.fixedOverheadBlocks + rank.sequenceDemand ≤ minimumDemand rank policy :=
  (Nat.isLeast_alignUp hpolicy.alignmentBlocks.1 _).1.2

omit [PyText τ] in
/-- **A plan that holds the minimum holds a sequence.** -/
theorem one_le_effectiveTarget (hpolicy : policy.WellFormed) (hq : 1 ≤ rank.sequenceDemand)
    (hmin : minimumDemand rank policy ≤ desiredDemand rank policy) :
    1 ≤ effectiveTarget rank policy := by
  have hle := le_minimumDemand rank hpolicy
  refine le_min hpolicy.targetConcurrency.1 ((Nat.le_div_iff_mul_le hq).mpr ?_)
  omega

/-- **When `size_rank` returns, and what.** -/
theorem sizeRank_eq_ok (hrank : rank.Valid) (hpolicy : policy.Valid) {sizing : RankSizing} :
    sizeRank rank policy = .ok sizing ↔ Fits rank policy ∧ sizing = sizingOf rank policy := by
  have hwell := hpolicy.wellFormed
  obtain ⟨hs, -⟩ := hrank.bounds
  have hone := hrank.sequenceDemand_pos
  have hh : policy.headroomPercent ≤ uint64Max := hwell.headroomPercent.trans (by decide)
  have hhundred : 1 ≤ 100 ∧ 100 ≤ uint64Max := by decide
  have hover := le_minimumDemand rank hwell
  simp only [sizeRank, Except.bind_eq_ok, requiredBlocksPerSequence_eq_ok, checkedAdd_eq_ok,
    checkedMul_eq_ok, ceilDiv_eq_ok, roundUp_eq_ok, Except.raiseIf_eq_ok, Except.pure_eq_ok]
  constructor
  · rintro ⟨_, ⟨rfl, hq⟩, _, ⟨hmin, rfl⟩, _, ⟨-, -, hminA, rfl⟩, _, ⟨-, hminB, rfl⟩, _,
      ⟨-, hdemand, rfl⟩, _, ⟨hwork, rfl⟩, _, ⟨-, hnumerator, rfl⟩, _, ⟨-, -, rfl⟩, _,
      ⟨hbase, rfl⟩, _, ⟨hsum, rfl⟩, _, ⟨-, -, halign, rfl⟩, floor, hfloor, desired, hcap, h⟩
    obtain ⟨hminb, hfloorle, rfl⟩ := (floorBlocks_iff hwell hs).mp hfloor
    obtain ⟨hcaps, hdesired⟩ := (capDesired_iff hwell).mp hcap
    obtain rfl : desired = desiredDemand rank policy := hdesired
    obtain ⟨_, ⟨-, hdesB, rfl⟩, _, hmax, _, ⟨-, hmaxB, rfl⟩, _, heff, _, hstrict, rfl⟩ := h
    obtain ⟨hmaxle, hle, rfl⟩ := (maximumBlocksFor_iff hwell hq).mp hmax
    have hcapmin := fun b hb => (hcaps b hb).1
    have hcovers : rank.fixedOverheadBlocks ≤ desiredDemand rank policy := by
      have := minimumDemand_le_desiredDemand hwell hcapmin
      omega
    have heffective := effective_toNat (t := policy.targetConcurrency) (q := rank.sequenceDemand)
      hcovers
    simp only [heffective, decide_eq_true_eq, Int.ofNat_lt] at hstrict
    refine ⟨⟨mem_quantities.mpr ⟨⟨hq, hmin, hminA, hminB⟩, mem_workloadQuantities.mpr
      ⟨hdemand, hwork, hnumerator, hbase, hsum, halign⟩, ⟨hfloorle, hdesB⟩, hmaxle, hmaxB⟩, hminb,
      hcapmin, fun b hb => ?_, hle, fun hs => ?_⟩, ?_⟩
    · exact (hcaps b hb).2
    · exact le_antisymm (min_le_left _ _) (not_lt.mp fun hlt => hstrict ⟨hlt, hs⟩)
    · simp only [heffective, Int.toNat_natCast, Int.ofNat_lt]
      rfl
  · rintro ⟨⟨hle, hminb, hcapmin, hcapfloor, hmax, hstrict⟩, rfl⟩
    obtain ⟨⟨hq, hmin, hminA, hminB⟩, hworkload, ⟨hfloor, hdesB⟩, hmaxle, hmaxB⟩ :=
      mem_quantities.mp hle
    obtain ⟨hdemand, hwork, hnumerator, hbase, hsum, halign⟩ := mem_workloadQuantities.mp hworkload
    have hmindes := minimumDemand_le_desiredDemand hwell hcapmin
    have hcovers : rank.fixedOverheadBlocks ≤ desiredDemand rank policy := by omega
    have heffective := effective_toNat (t := policy.targetConcurrency) (q := rank.sequenceDemand)
      hcovers
    have heff := one_le_effectiveTarget hwell hone hmindes
    refine ⟨_, ⟨rfl, hq⟩, _, ⟨hmin, rfl⟩, _, ⟨hwell.alignmentBlocks, hmin, hminA, rfl⟩, _,
      ⟨⟨hminA, hs.2⟩, hminB, rfl⟩, _, ⟨⟨hq, hwell.targetConcurrency.2⟩, hdemand, rfl⟩, _,
      ⟨hwork, rfl⟩, _, ⟨⟨hwork, hh⟩, hnumerator, rfl⟩, _, ⟨hnumerator, hhundred, rfl⟩, _,
      ⟨hbase, rfl⟩, _, ⟨hsum, rfl⟩, _, ⟨hwell.alignmentBlocks, hsum, halign, rfl⟩, _,
      (floorBlocks_iff hwell hs).mpr ⟨hminb, hfloor, rfl⟩, desiredDemand rank policy,
      (capDesired_iff hwell).mpr ⟨fun b hb => ⟨hcapmin b hb, hcapfloor b hb⟩, rfl⟩, _,
      ⟨⟨?_, hs.2⟩, hdesB, rfl⟩, _, (maximumBlocksFor_iff hwell hq).mpr ⟨hmaxle, hmax, rfl⟩, _,
      ⟨⟨?_, hs.2⟩, hmaxB, rfl⟩, (), ?_, (), ?_, ?_⟩
    · exact (Nat.le_mul_of_pos_right _ hs.1).trans hdesB
    · exact (Nat.le_mul_of_pos_right _ hs.1).trans hmaxB
    · rw [heffective]
      unfold effectiveTarget at heff
      omega
    · rintro ⟨hlt, hs⟩
      simp only [heffective, decide_eq_true_eq, Int.ofNat_lt] at hlt
      exact hlt.ne (hstrict hs)
    · simp only [heffective, Int.toNat_natCast, Int.ofNat_lt]
      rfl

end Kapsl.Vllm
