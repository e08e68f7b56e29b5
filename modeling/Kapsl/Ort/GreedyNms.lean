import Mathlib.Algebra.Field.Rat
import Mathlib.Algebra.Order.Ring.Rat
import Mathlib.Tactic.NormNum
import Mathlib.Data.List.ReduceOption
import Kapsl.Lib.KeySort
import Kapsl.Ort.Detect

/-!
# Ort/GreedyNms — detection returns the greedy selection of its candidates

What `detect` is for, said of the numbers alone: `value anchor channel` is the output of the model,
an anchor whose best class scores high enough is a candidate (`decoded`), and the candidates are
listed by score (`Listing`).  Of the listing one sublist is kept, in which a candidate stands
exactly when no member before it suppresses it (`Kept`).

`detect` computes the first members of that selection from an output of the right shape, in either
layout, and reads no value outside of it (`detect_eq_greedy`).  Each loop is matched with what it
computes: `scanClasses_eq`, `decodeAnchor_eq`, `nonMaxSuppression_eq`.
-/

namespace Kapsl.Ort.Detect

variable {F : Type} [Field F] [LinearOrder F]

/-! ## What a candidate is -/

/-- The lowest of the first `n` classes whose score no other one beats. -/
def bestClass (scores : ℕ → F) : ℕ → ℕ
  | 0 => 0
  | n + 1 => if scores (bestClass scores n) < scores n then n else bestClass scores n

/-- `best` is the lowest index among the maxima of the first `n` scores. -/
structure Best (scores : ℕ → F) (n best : ℕ) : Prop where
  lt : best < n
  le : ∀ other < n, scores other ≤ scores best
  first : ∀ other < best, scores other < scores best

/-- The score of a class. -/
def classScore (config : DetectConfig F) (value : ℕ → ℕ → F) (anchor class' : ℕ) : F :=
  value anchor (config.classOffset + class')

/-- The score of the best class, times the objectness if there is one. -/
def anchorScore (config : DetectConfig F) (value : ℕ → ℕ → F) (anchor : ℕ) : F :=
  let score := classScore config value anchor
    (bestClass (classScore config value anchor) config.numClasses)
  if config.objectness then value anchor 4 * score else score

/-- The candidate read from an anchor. -/
def decoded (config : DetectConfig F) (value : ℕ → ℕ → F) (anchor : ℕ) : Candidate F :=
  let (x1, y1, x2, y2) := config.boxFormat.corners (value anchor 0) (value anchor 1)
    (value anchor 2) (value anchor 3)
  { x1, y1, x2, y2, score := anchorScore config value anchor,
    class' := bestClass (classScore config value anchor) config.numClasses }

/-- The order candidates are listed in: by descending score, ties by anchor. -/
def Precedes (config : DetectConfig F) (value : ℕ → ℕ → F) (a b : ℕ) : Prop :=
  anchorScore config value b < anchorScore config value a ∨
    anchorScore config value a = anchorScore config value b ∧ a < b

instance (config : DetectConfig F) (value : ℕ → ℕ → F) : DecidableRel (Precedes config value) :=
  fun a b => inferInstanceAs (Decidable
    (anchorScore config value b < anchorScore config value a ∨
      anchorScore config value a = anchorScore config value b ∧ a < b))

/-- **The listing of the candidates**, each given by its anchor. -/
structure Listing (config : DetectConfig F) (value : ℕ → ℕ → F) (anchors : ℕ)
    (listed : List ℕ) : Prop where
  mem : ∀ a, a ∈ listed ↔ a < anchors ∧ config.scoreThreshold ≤ anchorScore config value a
  ordered : listed.Pairwise (Precedes config value)

/-- One candidate suppresses another. -/
def Blocks (config : DetectConfig F) (value : ℕ → ℕ → F) (a b : ℕ) : Prop :=
  Suppresses config.iouThreshold config.classAgnostic (decoded config value a)
    (decoded config value b)

instance (config : DetectConfig F) (value : ℕ → ℕ → F) : DecidableRel (Blocks config value) :=
  fun a b => inferInstanceAs (Decidable (Suppresses config.iouThreshold config.classAgnostic
    (decoded config value a) (decoded config value b)))

/-- **What detection keeps** — the greedy selection of the listing. -/
def Kept (config : DetectConfig F) (value : ℕ → ℕ → F) (anchors : ℕ) (kept : List ℕ) : Prop :=
  ∃ listed, Listing config value anchors listed ∧
    Greedy.Survivors (Blocks config value) listed kept

omit [Field F] in
/-- The scan finds the lowest maximum. -/
theorem best_bestClass (scores : ℕ → F) {n : ℕ} (hn : 0 < n) :
    Best scores n (bestClass scores n) := by
  induction n with
  | zero => exact absurd hn (lt_irrefl 0)
  | succ n ih =>
    rcases Nat.eq_zero_or_pos n with rfl | hpos
    · have hzero : bestClass scores 1 = 0 := by simp [bestClass]
      rw [hzero]
      refine ⟨Nat.one_pos, fun other hother => ?_, fun other hother => absurd hother (by omega)⟩
      rw [Nat.lt_one_iff.mp hother]
    · have hbest := ih hpos
      rw [bestClass]
      split
      · next hlt =>
        have hbelow : ∀ other < n, scores other < scores n :=
          fun other hother => (hbest.le other hother).trans_lt hlt
        refine ⟨Nat.lt_succ_self n, fun other hother => ?_, hbelow⟩
        rcases Nat.lt_succ_iff_lt_or_eq.mp hother with hother | rfl
        exacts [(hbelow other hother).le, le_rfl]
      · next hge =>
        refine ⟨hbest.lt.trans (Nat.lt_succ_self n), fun other hother => ?_, hbest.first⟩
        rcases Nat.lt_succ_iff_lt_or_eq.mp hother with hother | rfl
        exacts [hbest.le other hother, not_lt.mp hge]

/-! ## The loops compute it -/

section

variable {config : DetectConfig F} {value : ℕ → ℕ → F} {grid : Grid F} {anchor : ℕ}

/-- The grid holds the value of each channel of the anchor. -/
def Grid.Holds (grid : Grid F) (value : ℕ → ℕ → F) (channels anchor : ℕ) : Prop :=
  ∀ channel < channels, grid.at' anchor channel = .ok (value anchor channel)

/-- The channels of a configuration, without wrapping. -/
def DetectConfig.channelCount (config : DetectConfig F) : ℕ :=
  config.classOffset + config.numClasses

omit [Field F] in
/-- One turn of the loop over the classes. -/
theorem scanClass_eq {classOffset class' : ℕ} {score : F} {best : WithBot F × ℕ}
    (hread : grid.at' anchor (classOffset + class') = .ok score) :
    scanClass grid anchor classOffset best class' =
      .ok (if best.1 < score then (↑score, class') else best) := by
  rw [scanClass, hread]
  rfl

omit [Field F] in
/-- **The loop over the classes finds the best one.** -/
theorem scanClasses_eq (hgrid : grid.Holds value config.channelCount anchor) {n : ℕ}
    (hn : n ≤ config.numClasses) (hpos : 0 < n) :
    (List.range n).foldlM (scanClass grid anchor config.classOffset) (⊥, 0) =
      .ok (↑(classScore config value anchor (bestClass (classScore config value anchor) n)),
        bestClass (classScore config value anchor) n) := by
  induction n with
  | zero => exact absurd hpos (lt_irrefl 0)
  | succ n ih =>
    have hread : grid.at' anchor (config.classOffset + n) =
        .ok (classScore config value anchor n) :=
      hgrid _ (by rw [DetectConfig.channelCount]; omega)
    rw [List.range_succ, List.foldlM_append]
    rcases Nat.eq_zero_or_pos n with rfl | hpos'
    · change scanClass grid anchor config.classOffset (⊥, 0) 0 >>= pure = _
      rw [scanClass_eq hread, if_pos (WithBot.bot_lt_coe _)]
      simp [bestClass, bind, Except.bind, pure, Except.pure]
    · rw [ih (by omega) hpos']
      change scanClass grid anchor config.classOffset _ n >>= pure = _
      rw [scanClass_eq hread, bestClass, bind_pure]
      simp only [WithBot.coe_lt_coe]
      split <;> rfl

omit [LinearOrder F] in
/-- The score of an anchor, once its best class is known. -/
theorem readScore_eq (best : F)
    (hread : config.objectness → grid.at' anchor 4 = .ok (value anchor 4)) :
    readScore config grid anchor ↑best =
      .ok ↑(if config.objectness then value anchor 4 * best else best) := by
  rw [readScore]
  by_cases hobjectness : config.objectness
  · rw [if_pos hobjectness, if_pos hobjectness, hread hobjectness]
    rfl
  · rw [if_neg hobjectness, if_neg hobjectness]
    rfl

/-- The box of an anchor. -/
theorem readCandidate_eq
    (hread : ∀ channel < 4, grid.at' anchor channel = .ok (value anchor channel)) :
    readCandidate config grid anchor (anchorScore config value anchor)
        (bestClass (classScore config value anchor) config.numClasses) =
      .ok (decoded config value anchor) := by
  rw [readCandidate, hread 0 (by omega), hread 1 (by omega), hread 2 (by omega), hread 3 (by omega)]
  rfl

/-- **The candidate of an anchor**, unless its score is too low. -/
theorem decodeAnchor_eq (hgrid : grid.Holds value config.channelCount anchor)
    (hclasses : 0 < config.numClasses) :
    decodeAnchor config grid anchor =
      .ok (if config.scoreThreshold ≤ anchorScore config value anchor
        then some (decoded config value anchor) else none) := by
  have hread : ∀ channel < 4, grid.at' anchor channel = .ok (value anchor channel) :=
    fun channel hchannel => hgrid channel (by
      rw [DetectConfig.channelCount, DetectConfig.classOffset]; omega)
  have hobjectness : config.objectness → grid.at' anchor 4 = .ok (value anchor 4) := fun h =>
    hgrid 4 (by rw [DetectConfig.channelCount, DetectConfig.classOffset, h, Bool.toNat_true]; omega)
  rw [decodeAnchor, scanClasses_eq hgrid le_rfl hclasses]
  change readScore config grid anchor _ >>= _ = _
  rw [readScore_eq _ hobjectness]
  change (if anchorScore config value anchor < config.scoreThreshold then pure none else
    readCandidate config grid anchor (anchorScore config value anchor) _ >>= fun c => pure (some c))
      = _
  rw [readCandidate_eq hread]
  by_cases hlow : anchorScore config value anchor < config.scoreThreshold
  · rw [if_pos hlow, if_neg (not_le.mpr hlow)]
    rfl
  · rw [if_neg hlow, if_pos (not_lt.mp hlow)]
    rfl

/-- The anchors whose score is high enough, in their order. -/
def accepted (config : DetectConfig F) (value : ℕ → ℕ → F) (anchors : ℕ) : List ℕ :=
  (List.range anchors).filter fun anchor =>
    decide (config.scoreThreshold ≤ anchorScore config value anchor)

/-- **The loop over the anchors collects the candidates.** -/
theorem decodeAnchors_eq {anchors : ℕ} (hclasses : 0 < config.numClasses)
    (hgrid : ∀ anchor < anchors, grid.Holds value config.channelCount anchor) :
    ∃ read, (List.range anchors).mapM (decodeAnchor config grid) = .ok read ∧
      read.reduceOption = (accepted config value anchors).map (decoded config value) := by
  refine ⟨(List.range anchors).map fun anchor =>
    if config.scoreThreshold ≤ anchorScore config value anchor
      then some (decoded config value anchor) else none, ?_, ?_⟩
  · exact Except.mapM_of_ok fun anchor hanchor =>
      decodeAnchor_eq (hgrid anchor (List.mem_range.mp hanchor)) hclasses
  · rw [List.reduceOption, List.filterMap_map, accepted, ← List.filterMap_eq_map,
      List.filterMap_filter]
    simp

/-- The listing `sortByScore` arrives at, by anchors. -/
def listing (config : DetectConfig F) (value : ℕ → ℕ → F) (anchors : ℕ) : List ℕ :=
  (accepted config value anchors).mergeSort fun a b =>
    decide (anchorScore config value b ≤ anchorScore config value a)

/-- **Suppression selects greedily from the listing.** -/
theorem nonMaxSuppression_eq {anchors : ℕ} :
    nonMaxSuppression ((accepted config value anchors).map (decoded config value))
        config.iouThreshold config.classAgnostic =
      (Greedy.survivors (Blocks config value) (listing config value anchors)).map
        (decoded config value) := by
  have hsort : sortByScore ((accepted config value anchors).map (decoded config value)) =
      (listing config value anchors).map (decoded config value) :=
    (List.map_mergeSort (f := decoded config value) fun _ _ _ _ => rfl).symm
  rw [nonMaxSuppression, hsort]
  exact (Greedy.map_survivors _ _).symm

end

/-! ## The listing, and what is kept of it -/

section

variable {config : DetectConfig F} {value : ℕ → ℕ → F} {anchors : ℕ} {listed listed' kept : List ℕ}

/-- **The sort lists the candidates.** -/
theorem listing_spec : Listing config value anchors (listing config value anchors) where
  mem a := by simp [listing, accepted]
  ordered := by
    refine List.pairwise_mergeSort_of_stable _ ?_ ?_
    · exact (List.pairwise_lt_range).filter _
    · exact (List.nodup_range).filter _

theorem Precedes.not_precedes {a b : ℕ} (hab : Precedes config value a b) :
    ¬Precedes config value b a := by
  rintro (hlt | ⟨heq, hlt⟩)
  · rcases hab with hab | ⟨hab, -⟩
    exacts [lt_asymm hlt hab, hlt.ne hab]
  · rcases hab with hab | ⟨-, hab⟩
    exacts [hab.ne heq, lt_asymm hlt hab]

theorem Listing.nodup (h : Listing config value anchors listed) : listed.Nodup := by
  refine h.ordered.imp fun {a b} hab => ?_
  rintro rfl
  exact hab.not_precedes hab

/-- **There is one listing.** -/
theorem Listing.unique (h : Listing config value anchors listed)
    (h' : Listing config value anchors listed') : listed = listed' := by
  have hperm : listed.Perm listed' :=
    (List.perm_ext_iff_of_nodup h.nodup h'.nodup).mpr fun a => (h.mem a).trans (h'.mem a).symm
  exact hperm.eq_of_pairwise (fun a b _ _ hab hba => absurd hba hab.not_precedes) h.ordered
    h'.ordered

/-- **What is kept is determined**: it is the outcome of the run over the listing. -/
theorem kept_iff : Kept config value anchors kept ↔
    kept = Greedy.survivors (Blocks config value) (listing config value anchors) := by
  constructor
  · rintro ⟨listed, hlisted, hkept⟩
    obtain rfl := hlisted.unique listing_spec
    exact hkept.eq_survivors hlisted.nodup
  · rintro rfl
    exact ⟨_, listing_spec, Greedy.survivors_spec listing_spec.nodup⟩

/-- The threshold of a configuration, raised. -/
abbrev DetectConfig.withThreshold (config : DetectConfig F) (threshold : F) : DetectConfig F :=
  { config with scoreThreshold := threshold }

/-- Raising the threshold cuts the listing short. -/
theorem listing_eq_append {threshold : F} (hraise : config.scoreThreshold ≤ threshold) :
    listing config value anchors = listing (config.withThreshold threshold) value anchors ++
      (listing config value anchors).filter fun a =>
        decide (anchorScore config value a < threshold) := by
  have hall : Listing config value anchors _ := listing_spec
  have hhigh : Listing (config.withThreshold threshold) value anchors _ := listing_spec
  have hscore : ∀ a ∈ listing (config.withThreshold threshold) value anchors,
      threshold ≤ anchorScore config value a := fun a ha => ((hhigh.mem a).mp ha).2
  refine hall.unique ⟨fun a => ?_, ?_⟩
  · rw [List.mem_append, hhigh.mem, List.mem_filter, hall.mem, decide_eq_true_eq]
    constructor
    · rintro (⟨ha, hle⟩ | ⟨ha, -⟩)
      exacts [⟨ha, hraise.trans hle⟩, ha]
    · intro ha
      rcases le_or_gt threshold (anchorScore config value a) with hle | hlt
      exacts [.inl ⟨ha.1, hle⟩, .inr ⟨ha, hlt⟩]
  · refine List.pairwise_append.mpr ⟨hhigh.ordered, hall.ordered.filter _, ?_⟩
    intro a ha b hb
    exact .inl ((decide_eq_true_eq.mp (List.mem_filter.mp hb).2).trans_le (hscore a ha))

/-- **Raising the threshold only removes the members below it.** -/
theorem Kept.raise {threshold : F} (h : Kept config value anchors kept)
    (hraise : config.scoreThreshold ≤ threshold) :
    Kept (config.withThreshold threshold) value anchors
      (kept.filter fun a => decide (threshold ≤ anchorScore config value a)) := by
  have hhigh : Listing (config.withThreshold threshold) value anchors _ := listing_spec
  rw [kept_iff] at h ⊢
  rw [h, listing_eq_append hraise]
  refine Greedy.filter_survivors_append (fun a ha => ?_) (fun a ha => ?_)
  · exact decide_eq_true ((hhigh.mem a).mp ha).2
  · rw [decide_eq_true_eq, not_le]
    exact decide_eq_true_eq.mp (List.mem_filter.mp ha).2

theorem intersectionOverUnion_comm (left right : Candidate F) :
    intersectionOverUnion left right = intersectionOverUnion right left := by
  simp only [intersectionOverUnion, min_comm left.x2, max_comm left.x1, min_comm left.y2,
    max_comm left.y1, add_comm (max (left.x2 - left.x1) 0 * _)]

/-- **No two kept boxes of a class overlap too much.** -/
theorem Kept.pairwise (h : Kept config value anchors kept) :
    kept.Pairwise fun a b =>
      config.classAgnostic ∨ (decoded config value a).class' = (decoded config value b).class' →
        intersectionOverUnion (decoded config value a) (decoded config value b) ≤
            config.iouThreshold ∧
          intersectionOverUnion (decoded config value b) (decoded config value a) ≤
            config.iouThreshold := by
  rw [kept_iff.mp h]
  refine (Greedy.pairwise_survivors _).imp fun {a b} hfree hclass => ?_
  rw [intersectionOverUnion_comm (decoded config value b), and_self]
  exact not_lt.mp fun hlt => hfree ⟨hclass, hlt⟩

end

/-! ## Outputs of matching shape -/

section

variable (ofBytes : UInt8 → UInt8 → UInt8 → UInt8 → F) (toBytes : F → List UInt8)

/-- The sizes of an output, in the order of its layout. -/
def DetectConfig.dimensions (config : DetectConfig F) (anchors : ℕ) : List ℤ :=
  if config.transposed then [config.channelCount, anchors] else [anchors, config.channelCount]

/-- **An output of matching shape** — floats with the channels of the configuration, in at most
one batch; its sizes are `i64` and its bytes a `Vec`. -/
structure Matching (config : DetectConfig F) (output : OwnedTensor) (anchors : ℕ) : Prop where
  dtype : output.dtype = .f32
  shape : output.shape = config.dimensions anchors ∨ output.shape = 1 :: config.dimensions anchors
  size : output.data.length = 4 * (anchors * config.channelCount)
  i64 : ∀ d ∈ output.shape, d < 2 ^ 63
  vec : output.data.length < 2 ^ 63

/-- The grid read from an output of matching shape. -/
def matchingGrid (config : DetectConfig F) (output : OwnedTensor) (anchors : ℕ) : Grid F where
  values := parseF32 ofBytes output.data
  anchors := anchors
  channels := config.channelCount
  transposed := config.transposed

/-- The value a grid has for an anchor and a channel. -/
def Grid.value (grid : Grid F) (anchor channel : ℕ) : F :=
  grid.values.getD (grid.index anchor channel) 0

variable {ofBytes toBytes} {config : DetectConfig F} {output : OwnedTensor} {anchors : ℕ}

omit [Field F] [LinearOrder F] in
theorem length_parseF32 {data : List UInt8} {n : ℕ} (h : data.length = 4 * n) :
    (parseF32 ofBytes data).length = n := by
  induction n generalizing data with
  | zero => rw [List.eq_nil_of_length_eq_zero h]; rfl
  | succ n ih =>
    match data, h with
    | a :: b :: c :: d :: data, h =>
      rw [parseF32, List.length_cons, ih (by simp only [List.length_cons] at h; omega)]

omit [Field F] [LinearOrder F] in
/-- **Every value of the grid is in bounds.** -/
theorem matchingGrid_index_lt (hmatch : Matching config output anchors) {anchor channel : ℕ}
    (hanchor : anchor < anchors) (hchannel : channel < config.channelCount) :
    (matchingGrid ofBytes config output anchors).index anchor channel <
      (matchingGrid ofBytes config output anchors).values.length := by
  have hcell : ∀ {i m j n : ℕ}, i < m → j < n → i * n + j < m * n := fun {i m j n} hi hj =>
    calc i * n + j < i * n + n := Nat.add_lt_add_left hj _
      _ = (i + 1) * n := (Nat.succ_mul i n).symm
      _ ≤ m * n := Nat.mul_le_mul_right n hi
  rw [matchingGrid, Grid.index, length_parseF32 hmatch.size]
  split
  · rw [mul_comm anchors]
    exact hcell hchannel hanchor
  · exact hcell hanchor hchannel

omit [LinearOrder F] in
theorem matchingGrid_holds (hmatch : Matching config output anchors) {anchor : ℕ}
    (hanchor : anchor < anchors) :
    (matchingGrid ofBytes config output anchors).Holds
      (matchingGrid ofBytes config output anchors).value config.channelCount anchor := by
  intro channel hchannel
  have hlt : (matchingGrid ofBytes config output anchors).index anchor channel < _ :=
    matchingGrid_index_lt hmatch hanchor hchannel
  rw [Grid.at', Grid.value, List.getD_eq_getElem?_getD, List.getElem?_eq_getElem hlt]
  rfl

theorem dimension_natCast (n : ℕ) (label : String) : dimension (n : ℤ) label = .ok n :=
  Except.bind_eq_ok.mpr ⟨(), Except.raiseIf_eq_ok.mpr (by omega), rfl⟩

theorem checkedProduct_eq {total dimension : ℕ} (label : String)
    (h : total * dimension < usizeBound) :
    checkedProduct label total dimension = .ok (total * dimension) :=
  Except.bind_eq_ok.mpr ⟨(), Except.raiseIf_eq_ok.mpr h.not_ge, rfl⟩

omit [Field F] [LinearOrder F] in
theorem gridShape_eq (hmatch : Matching config output anchors) :
    gridShape output.shape = .ok (if config.transposed then (config.channelCount, anchors)
      else (anchors, config.channelCount)) := by
  rcases hmatch.shape with hshape | hshape <;> rw [hshape, DetectConfig.dimensions] <;>
    split <;> simp only [gridShape, dimension_natCast] <;> rfl

omit [Field F] [LinearOrder F] in
/-- The sizes of an output are the numbers of the machine. -/
theorem Matching.lt (hmatch : Matching config output anchors) :
    config.channelCount < 2 ^ 63 ∧ anchors < 2 ^ 63 := by
  have hmem : (config.channelCount : ℤ) ∈ output.shape ∧ (anchors : ℤ) ∈ output.shape := by
    rcases hmatch.shape with hshape | hshape <;> rw [hshape, DetectConfig.dimensions] <;>
      split <;> simp
  have hchannels := hmatch.i64 _ hmem.1
  have hanchors := hmatch.i64 _ hmem.2
  omega

omit [Field F] [LinearOrder F] in
theorem requireElements_eq (hmatch : Matching config output anchors) :
    requireElements (anchors * config.channelCount) [anchors, config.channelCount] "detection" =
      .ok () := by
  have hsize := hmatch.size
  have hvec := hmatch.vec
  have hanchors := hmatch.lt.2
  have hproduct : [anchors, config.channelCount].foldlM (checkedProduct "detection") 1 =
      .ok (1 * anchors * config.channelCount) := by
    rw [List.foldlM_cons, checkedProduct_eq _ (by rw [usizeBound]; omega)]
    exact bind_pure _ |>.trans (checkedProduct_eq _ (by rw [one_mul, usizeBound]; omega))
  refine Except.bind_eq_ok.mpr ⟨_, hproduct, Except.raiseIf_eq_ok.mpr ?_⟩
  rw [one_mul, not_not]

omit [Field F] [LinearOrder F] in
/-- **An output of matching shape passes the checks.** -/
theorem readGrid_eq (hmatch : Matching config output anchors) :
    readGrid ofBytes output config = .ok (matchingGrid ofBytes config output anchors) := by
  have hsize := hmatch.size
  have hvalues : f32Values ofBytes output "detection" = .ok (parseF32 ofBytes output.data) := by
    refine Except.bind_eq_ok.mpr ⟨(), Except.raiseIf_eq_ok.mpr ?_, rfl⟩
    rintro (hdtype | hdata)
    exacts [hdtype hmatch.dtype, by omega]
  have hchannels : config.channels = config.channelCount :=
    Nat.mod_eq_of_lt (hmatch.lt.1.trans (by rw [usizeBound]; omega))
  have helements : requireElements (parseF32 ofBytes output.data).length
      [anchors, config.channelCount] "detection" = .ok () := by
    rw [length_parseF32 hsize]
    exact requireElements_eq hmatch
  unfold readGrid
  refine Except.bind_eq_ok.mpr ⟨_, hvalues, Except.bind_eq_ok.mpr ⟨_, gridShape_eq hmatch, ?_⟩⟩
  rw [matchingGrid]
  -- Either layout leaves the same anchors and channels.
  cases config.transposed <;>
    exact Except.bind_eq_ok.mpr ⟨(), Except.raiseIf_eq_ok.mpr (not_not_intro hchannels.symm),
      Except.bind_eq_ok.mpr ⟨(), helements, rfl⟩⟩

/-- **Detection computes the first members of what is kept.** -/
theorem detect_eq {value : ℕ → ℕ → F} (hclasses : 0 < config.numClasses)
    (hmatch : Matching config output anchors)
    (hgrid : ∀ anchor < anchors, (matchingGrid ofBytes config output anchors).Holds value
      config.channelCount anchor) :
    detect ofBytes toBytes output config = .ok (detections toBytes
      (((Greedy.survivors (Blocks config value) (listing config value anchors)).take
        config.maxDetections).map (decoded config value))) := by
  obtain ⟨read, hread, hcandidates⟩ := decodeAnchors_eq hclasses hgrid
  rw [detect, readGrid_eq hmatch]
  refine Except.bind_eq_ok.mpr ⟨_, rfl, Except.bind_eq_ok.mpr ⟨read, hread, ?_⟩⟩
  rw [hcandidates, nonMaxSuppression_eq, List.map_take]
  rfl

/-- The same configuration for the other layout. -/
abbrev DetectConfig.flipped (config : DetectConfig F) : DetectConfig F :=
  { config with transposed := !config.transposed }

/-- **The layout does not matter.** -/
theorem detect_flipped {output' : OwnedTensor} (hclasses : 0 < config.numClasses)
    (hmatch : Matching config output anchors) (hmatch' : Matching config.flipped output' anchors)
    (hvalues : ∀ anchor < anchors, ∀ channel < config.channelCount,
      (matchingGrid ofBytes config.flipped output' anchors).value anchor channel =
        (matchingGrid ofBytes config output anchors).value anchor channel) :
    detect ofBytes toBytes output' config.flipped = detect ofBytes toBytes output config := by
  rw [detect_eq hclasses hmatch fun anchor hanchor => matchingGrid_holds hmatch hanchor]
  refine detect_eq hclasses hmatch' fun anchor hanchor channel hchannel => ?_
  rw [matchingGrid_holds hmatch' hanchor channel hchannel, hvalues anchor hanchor channel hchannel]

/-- **What `validate` lets through.** -/
theorem DetectConfig.validate_eq_ok : config.validate = .ok () ↔
    config.numClasses ≠ 0 ∧ (0 ≤ config.iouThreshold ∧ config.iouThreshold ≤ 1) ∧
      config.maxDetections ≠ 0 := by
  rw [validate, Except.bind_eq_ok]
  simp only [Except.bind_eq_ok, Except.raiseIf_eq_ok, not_not, exists_const]

end

/-- Two classes, boxes by their corners. -/
def twoClasses : DetectConfig ℚ where
  numClasses := 2
  scoreThreshold := 1 / 4
  iouThreshold := 9 / 20
  maxDetections := 300
  boxFormat := .xyxy
  objectness := false
  transposed := false
  classAgnostic := false

/-- The floats `0`, `1/2` and `1`, from their bytes. -/
def halvesOfBytes (a b c d : UInt8) : ℚ :=
  if [a, b, c, d] = [0, 0, 128, 63] then 1 else if [a, b, c, d] = [0, 0, 0, 63] then 1 / 2 else 0

/-- …and back. -/
def halvesToBytes (x : ℚ) : List UInt8 :=
  if x = 1 then [0, 0, 128, 63] else if x = 1 / 2 then [0, 0, 0, 63] else [0, 0, 0, 0]

/-- Four anchors with the corners `0, 0, 1, 1`.  The first class scores `1/2`, `1`, `0` and `1`; the
second one scores `1/2` at the third anchor. -/
def fourBoxes : OwnedTensor :=
  f32Tensor halvesToBytes "raw" [4, 6]
    [0, 0, 1, 1, 1 / 2, 0, 0, 0, 1, 1, 1, 0, 0, 0, 1, 1, 0, 1 / 2, 0, 0, 1, 1, 1, 0]

/-- The values of `fourBoxes`. -/
abbrev fourValues : ℕ → ℕ → ℚ := (matchingGrid halvesOfBytes twoClasses fourBoxes 4).value

end Kapsl.Ort.Detect
