import Kapsl.Vllm.SizingQuantities

/-!
# Vllm/SizingMonotone — asking for more never yields less

`Raised` orders the policies that an operator reaches by turning knobs up: an absent `min_bytes` is
zero, an absent `max_bytes` infinite.  Each quantity of `size_rank` is monotone in that order, so
the plans are (`sizeRank_mono`).
-/

namespace Kapsl.Vllm

/-- **`raised` asks for no less than `policy`**: the target, the headroom, the prefix and the two
byte bounds may be higher; alignment, maximum and strictness are the same. -/
structure Raised (policy raised : SizingPolicy) : Prop where
  targetConcurrency : policy.targetConcurrency ≤ raised.targetConcurrency
  headroomPercent : policy.headroomPercent ≤ raised.headroomPercent
  prefixBlocks : policy.prefixBlocks ≤ raised.prefixBlocks
  minBytes : policy.minBytes.getD 0 ≤ raised.minBytes.getD 0
  maxBytes : ∀ b', raised.maxBytes = some b' → ∃ b, policy.maxBytes = some b ∧ b ≤ b'
  maximumConcurrency : raised.maximumConcurrency = policy.maximumConcurrency
  alignmentBlocks : raised.alignmentBlocks = policy.alignmentBlocks
  strictConcurrency : raised.strictConcurrency = policy.strictConcurrency

theorem Raised.refl (policy : SizingPolicy) : Raised policy policy :=
  ⟨le_rfl, le_rfl, le_rfl, le_rfl, fun b h => ⟨b, h, le_rfl⟩, rfl, rfl, rfl⟩

variable {τ : Type} {rank : RankGeometry τ} {policy raised : SizingPolicy}

/-! ## Each quantity is monotone -/

theorem workload_mono (h : Raised policy raised) :
    workload rank policy policy.targetConcurrency ≤
      workload rank raised raised.targetConcurrency :=
  Nat.add_le_add (Nat.mul_le_mul_left _ h.targetConcurrency) h.prefixBlocks

theorem headroom_mono (h : Raised policy raised) :
    headroom rank policy policy.targetConcurrency ≤
      headroom rank raised raised.targetConcurrency :=
  (gc_smul_ceilDiv (by decide : 0 < 100)).monotone_l
    (Nat.mul_le_mul (workload_mono h) h.headroomPercent)

theorem alignedDemand_mono (ha : 1 ≤ policy.alignmentBlocks) (h : Raised policy raised) :
    alignedDemand rank policy policy.targetConcurrency ≤
      alignedDemand rank raised raised.targetConcurrency := by
  unfold alignedDemand
  rw [h.alignmentBlocks]
  exact Nat.alignUp_mono ha
    (Nat.add_le_add (Nat.add_le_add_left (workload_mono h) _) (headroom_mono h))

/-- **An absent `min_bytes` counts as zero** — its floor is no block. -/
theorem floorDemand_eq :
    floorDemand rank policy = floorFor rank policy (policy.minBytes.getD 0) := by
  unfold floorDemand
  obtain hnone | ⟨b, hsome⟩ := Option.eq_none_or_eq_some policy.minBytes
  · simp [hnone, floorFor, Nat.alignUp]
  · simp [hsome]

theorem floorDemand_mono (ha : 1 ≤ policy.alignmentBlocks) (hs : 1 ≤ rank.poolBytesPerBlock)
    (h : Raised policy raised) : floorDemand rank policy ≤ floorDemand rank raised := by
  rw [floorDemand_eq, floorDemand_eq]
  unfold floorFor
  rw [h.alignmentBlocks]
  exact Nat.alignUp_mono ha ((gc_smul_ceilDiv hs).monotone_l h.minBytes)

/-- A higher `max_bytes` cuts no deeper. -/
theorem capFor_mono (ha : 1 ≤ policy.alignmentBlocks) (h : Raised policy raised) {b b' : ℕ}
    (hb : b ≤ b') : capFor rank policy b ≤ capFor rank raised b' := by
  unfold capFor
  rw [h.alignmentBlocks]
  exact Nat.alignDown_mono ha (Nat.div_le_div_right hb)

/-- **The cap keeps the order**, and an absent `max_bytes` counts as infinite. -/
theorem capped_mono (ha : 1 ≤ policy.alignmentBlocks) (h : Raised policy raised) {n n' : ℕ}
    (hn : n ≤ n') : capped rank policy n ≤ capped rank raised n' := by
  unfold capped
  obtain hnone | ⟨b', hsome⟩ := Option.eq_none_or_eq_some raised.maxBytes
  · simp only [hnone]
    obtain hnone | ⟨b, hsome⟩ := Option.eq_none_or_eq_some policy.maxBytes
    · simpa only [hnone] using hn
    · simp only [hsome]
      exact (min_le_left _ _).trans hn
  · obtain ⟨b, hb, hle⟩ := h.maxBytes b' hsome
    simp only [hsome, hb]
    exact min_le_min hn (capFor_mono ha h hle)

theorem desiredDemand_mono (ha : 1 ≤ policy.alignmentBlocks) (hs : 1 ≤ rank.poolBytesPerBlock)
    (h : Raised policy raised) : desiredDemand rank policy ≤ desiredDemand rank raised :=
  capped_mono ha h (max_le_max (alignedDemand_mono ha h) (floorDemand_mono ha hs h))

theorem effectiveTarget_mono (ha : 1 ≤ policy.alignmentBlocks) (hs : 1 ≤ rank.poolBytesPerBlock)
    (h : Raised policy raised) : effectiveTarget rank policy ≤ effectiveTarget rank raised :=
  min_le_min h.targetConcurrency
    (Nat.div_le_div_right (Nat.sub_le_sub_right (desiredDemand_mono ha hs h) _))

/-! ## The plans -/

variable [PyText τ]

/-- **Sizing is monotone** — a raised policy gets no fewer blocks and holds no fewer sequences. -/
theorem sizeRank_mono (hrank : rank.Valid) (hpolicy : policy.Valid) (hraised : raised.Valid)
    (h : Raised policy raised) {sizing sizing' : RankSizing}
    (hs : sizeRank rank policy = .ok sizing) (hs' : sizeRank rank raised = .ok sizing') :
    sizing.desiredBlocks ≤ sizing'.desiredBlocks ∧
      sizing.effectiveTargetConcurrency ≤ sizing'.effectiveTargetConcurrency := by
  obtain ⟨-, rfl⟩ := (sizeRank_eq_ok hrank hpolicy).mp hs
  obtain ⟨-, rfl⟩ := (sizeRank_eq_ok hrank hraised).mp hs'
  have ha := hpolicy.bounds.2
  have hstride := hrank.bounds.1.1
  exact ⟨desiredDemand_mono ha hstride h, effectiveTarget_mono ha hstride h⟩

/-- Four sequences and no cap, in place of three under a cap. -/
def raisedPolicy : SizingPolicy where
  targetConcurrency := 4
  maximumConcurrency := some 4
  headroomPercent := 20
  alignmentBlocks := 4
  minBytes := some 40

theorem sizeRank_mono_raisedPolicy : ∃ sizing sizing',
    sizeRank smallRank smallPolicy = .ok sizing ∧ sizeRank smallRank raisedPolicy = .ok sizing' ∧
      sizing.desiredBlocks ≤ sizing'.desiredBlocks ∧
      sizing.effectiveTargetConcurrency ≤ sizing'.effectiveTargetConcurrency := by
  have hraised : Raised smallPolicy raisedPolicy :=
    ⟨by decide, by decide, by decide, by decide, nofun, rfl, rfl, rfl⟩
  exact ⟨_, _, rfl, rfl, sizeRank_mono smallRank_valid (rfl : smallPolicy.Valid)
    (rfl : raisedPolicy.Valid) hraised rfl rfl⟩

end Kapsl.Vllm
