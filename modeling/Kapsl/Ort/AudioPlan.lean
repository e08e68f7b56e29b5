import Kapsl.Ort.AudioFrames

/-!
# Ort/AudioPlan — the planned memory covers what the audio preprocessor holds

`planned_bytes` computes the lengths that `apply` will meet a second time, and multiplies.  It
returns as soon as the product fits a `usize` (`plannedBytes_eq_ok`).

`apply_ends` follows the buffers of `apply`: they add up to the plan, less the derived length, at
the moment the features are encoded, and to no more than that before.  `planned_covers` draws both
conclusions: a plan covers every moment of the run, and a run whose buffers fit the machine has a
plan.
-/

namespace Kapsl.Ort.Audio

open Attempt Holdings Preprocess
open Detect (parseF32 chunksExact)

variable {F : Type} [Field F] [LinearOrder F]

/-! ## Lengths -/

omit [Field F] [LinearOrder F] in
/-- Rows of a length, put together. -/
theorem length_flatMap_chunksExact {size : ℕ} (hpos : 0 < size) {f : List F → List F}
    (hf : ∀ row, (f row).length = row.length) (xs : List F) :
    ((chunksExact size xs).flatMap f).length = xs.length / size * size := by
  rw [List.length_flatMap, chunksExact, List.map_map]
  have hrow : ∀ row ∈ List.range (xs.length / size),
      ((fun row => (f row).length) ∘ fun row => (xs.drop (row * size)).take size) row = size := by
    intro row hrow
    have hle : (row + 1) * size ≤ xs.length :=
      (Nat.le_div_iff_mul_le hpos).mp (List.mem_range.mp hrow)
    rw [Nat.add_mul, one_mul] at hle
    rw [Function.comp_apply, hf, List.length_take, List.length_drop]
    omega
  rw [List.map_congr_left hrow, List.map_const', List.sum_replicate_nat, List.length_range]

namespace AudioPreprocessor

variable [ToString F] {p : AudioPreprocessor F}

theorem length_normalize {mels : List F} {frames : ℕ} (hpos : 0 < frames) :
    (p.normalize mels frames).length = mels.length := by
  rw [normalize]
  split
  · rfl
  · have hrow : ∀ row, (p.normalizeRow frames row).length = row.length := fun _ => List.length_map _
    rw [List.length_append, length_flatMap_chunksExact hpos hrow, List.length_drop]
    have := Nat.div_mul_le_self mels.length frames
    omega

theorem length_of_addMel {spectrum : List (F × F)} {frames frame mel : ℕ} {xs ys : List F}
    (h : p.addMel spectrum frames frame xs mel = .ok ys) : ys.length = xs.length := by
  simp only [addMel, Except.bind_eq_ok] at h
  obtain ⟨_, -, _, -, h⟩ := h
  exact length_of_writeAt h

theorem length_of_addFrames {signal : List F} {frames : ℕ} {items : List ℕ} {xs ys : List F}
    (h : items.foldlM (p.addFrame signal frames) xs = .ok ys) : ys.length = xs.length := by
  refine length_of_foldlM (fun xs frame ys hframe => ?_) h
  simp only [addFrame, Except.bind_eq_ok] at hframe
  obtain ⟨_, -, _, -, hframe⟩ := hframe
  exact length_of_foldlM (fun _ _ _ => length_of_addMel) hframe

theorem length_of_transpose {mels : List F} {frames elements : ℕ} {ys : List F}
    (h : p.transpose mels frames elements = .ok ys) : ys.length = elements := by
  refine (length_of_foldlM (fun xs mel ys hmel => ?_) h).trans List.length_replicate
  refine length_of_foldlM (fun xs frame ys hframe => ?_) hmel
  obtain ⟨_, -, hframe⟩ := Except.bind_eq_ok.mp hframe
  exact length_of_writeAt hframe

end AudioPreprocessor

omit [Field F] [LinearOrder F] in
/-- Whatever `maybe_center` returns has the length that `centered_length` says. -/
theorem AudioConfig.length_of_maybeCenter {config : AudioConfig F} {samples signal : List F}
    (h : config.maybeCenter samples = .ok signal) :
    config.centeredLength samples.length = .ok signal.length := by
  unfold maybeCenter at h
  split at h
  · next hcenter =>
    rw [centeredLength, if_neg hcenter, ← Except.pure_eq_ok.mp h]
    rfl
  · next hcenter =>
    have hreads : ∀ {g : ℕ → ℕ} {n : ℕ} {ys : List F},
        (List.range n).mapM (fun i => readAt samples (g i)) = .ok ys → ys.length = n :=
      fun hys => (Except.mapM_eq_ok.mp hys).length_eq.symm.trans List.length_range
    simp only [Except.bind_eq_ok, Except.pure_eq_ok] at h
    obtain ⟨length, hlength, left, hleft, right, hright, rfl⟩ := h
    cases hcentered : config.centeredLength samples.length with
    | error e => rw [hcentered] at hlength; cases hlength
    | ok length =>
      rw [centeredLength, if_pos (not_not.mp hcenter), checkedAdd_eq_ok] at hcentered
      rw [List.length_append, List.length_append, hreads hleft, hreads hright, ← hcentered.2]
      congr 1
      omega

/-! ## The plan as a sum -/

namespace AudioPreprocessor

variable [ToString F] (p : AudioPreprocessor F)

/-- The buffers held while the features are computed. -/
def held (samples signal elements : ℕ) : List (Buffer × ℕ) :=
  [(.scratch, p.scratchLength * 8), (.buffer, p.config.nFft * 8), (.mels, elements * 4),
    (.signal, signal * 4), (.samples, samples * 4)]

/-- …and the values that are encoded. -/
def heldValues (samples signal elements : ℕ) : List (Buffer × ℕ) :=
  (if p.config.layout = .timeMel then [(.transposed, elements * 4)] else []) ++
    p.held samples signal elements

/-- **The buffers held while the features are encoded.** -/
def peak (samples signal elements : ℕ) : List (Buffer × ℕ) :=
  (.encoded, elements * 4) :: p.heldValues samples signal elements

/-- What is planned for the derived length. -/
def lengthBytes : ℕ := if p.config.lengthInput.isSome then 8 else 0

/-- The lengths that a run over `samples` samples meets. -/
structure Lengths (samples signal frames : ℕ) : Prop where
  signal_eq : p.config.centeredLength samples = .ok signal
  frames_eq : p.config.frameCount signal = .ok frames
  elements_lt : p.config.nMels * frames < usizeBound

variable {p} {code : Dtype → UInt32} {input : BorrowedTensor} {samples signal frames : ℕ}

theorem held_suffix_peak {elements : ℕ} :
    p.held samples signal elements <:+ p.peak samples signal elements :=
  (List.suffix_append _ _).trans (List.suffix_cons _ _)

theorem le_bytes_peak (samples signal elements : ℕ) :
    elements * 4 ≤ bytes (p.peak samples signal elements) := by
  rw [peak, bytes_cons]
  exact Nat.le_add_right _ _

theorem Lengths.unique {signal' frames' : ℕ} (h : p.Lengths samples signal frames)
    (h' : p.Lengths samples signal' frames') : signal' = signal ∧ frames' = frames := by
  obtain rfl := Except.ok.inj (h.signal_eq.symm.trans h'.signal_eq)
  exact ⟨rfl, (Except.ok.inj (h.frames_eq.symm.trans h'.frames_eq)).symm⟩

/-- **When the plan succeeds, and with what**: the checks of the input pass, and everything that is
planned for fits a `usize` together. -/
theorem plannedBytes_eq_ok {plan : ℕ} : p.plannedBytes code input = .ok plan ↔
    validateInput code input = .ok () ∧ ∃ signal frames,
      p.Lengths (input.data.length / 4) signal frames ∧ plan < usizeBound ∧
        plan = bytes (p.peak (input.data.length / 4) signal (p.config.nMels * frames)) +
          p.lengthBytes := by
  have hsum : ∀ samples signal elements, bytes (p.peak samples signal elements) =
      samples * 4 + signal * 4 + p.config.nFft * 8 + p.scratchLength * 8 +
        elements * 4 * p.featureCopies := by
    intro samples signal elements
    rw [peak, heldValues, held, featureCopies]
    split <;> simp only [bytes, List.map_cons, List.map_nil, List.sum_cons,
      List.sum_nil, List.nil_append, List.cons_append] <;> omega
  have hcopies : p.featureCopies = 3 ∨ p.featureCopies = 2 := by
    rw [featureCopies]
    split <;> simp
  simp only [plannedBytes, Except.bind_eq_ok, checkedMul_eq_ok, checkedAdd_eq_ok, hsum,
    lengthBytes]
  constructor
  · rintro ⟨_, hvalid, signal, hsignal, frames, hframes, _, ⟨helements, rfl⟩, _, ⟨-, rfl⟩, _,
      ⟨-, rfl⟩, _, ⟨-, rfl⟩, _, ⟨-, rfl⟩, _, ⟨-, rfl⟩, _, ⟨-, rfl⟩, _, ⟨-, rfl⟩, _, ⟨-, rfl⟩, _,
      ⟨-, rfl⟩, _, ⟨-, rfl⟩, hlt, rfl⟩
    exact ⟨hvalid, signal, frames, ⟨hsignal, hframes, helements⟩, hlt, rfl⟩
  · rintro ⟨hvalid, signal, frames, h, hlt, rfl⟩
    -- Every product and every partial sum is at most the total.
    have hfeatures : p.config.nMels * frames * 4 ≤ p.config.nMels * frames * 4 * p.featureCopies :=
      Nat.le_mul_of_pos_right _ (by omega)
    exact ⟨(), hvalid, signal, h.signal_eq, frames, h.frames_eq, _, ⟨h.elements_lt, rfl⟩, _,
      ⟨by omega, rfl⟩, _, ⟨by omega, rfl⟩, _, ⟨by omega, rfl⟩, _, ⟨by omega, rfl⟩, _,
      ⟨by omega, rfl⟩, _, ⟨by omega, rfl⟩, _, ⟨by omega, rfl⟩, _, ⟨by omega, rfl⟩, _,
      ⟨by omega, rfl⟩, _, ⟨by omega, rfl⟩, hlt, rfl⟩

/-! ## What a run holds -/

/-- No more was held at one time than is planned, if there is a plan. -/
def Covered (p : AudioPreprocessor F) (code : Dtype → UInt32) (input : BorrowedTensor)
    (s : Holdings.State Buffer) : Prop :=
  ∀ plan, p.plannedBytes code input = .ok plan → s.Within plan

/-- Taking a buffer is covered while the peak ends in what is then held. -/
theorem Covered.hold {s : Holdings.State Buffer} (h : Covered p code input s) (b : Buffer) (size : ℕ)
    (hpeak : ∀ signal frames, p.Lengths (input.data.length / 4) signal frames →
      ((b, size) :: s.live) <:+
        p.peak (input.data.length / 4) signal (p.config.nMels * frames)) :
    Covered p code input (s.hold b size) := by
  intro plan hplan
  obtain ⟨-, signal, frames, hlengths, -, rfl⟩ := plannedBytes_eq_ok.mp hplan
  refine (h _ hplan).hold ?_
  calc size + bytes s.live = bytes ((b, size) :: s.live) := (bytes_cons (b, size) _).symm
    _ ≤ bytes (p.peak (input.data.length / 4) signal (p.config.nMels * frames)) :=
      bytes_le_of_sublist (hpeak signal frames hlengths).sublist
    _ ≤ _ := Nat.le_add_right _ _

/-- The samples are one buffer. -/
theorem samples_ends : Ends (p.samples code input) Holdings.State.empty
    (fun xs s => validateInput code input = .ok () ∧ xs.length = input.data.length / 4 ∧
      s = Holdings.State.empty.hold .samples (input.data.length / 4 * 4))
    (fun _ s => Covered p code input s) := by
  have hempty : Covered p code input Holdings.State.empty := fun _ _ => within_empty
  rw [samples]
  refine Ends.bind_lift (fun _ hvalid => ?_) fun _ _ => hempty
  have hvalid := mapError_eq_ok hvalid
  have hmod : input.data.length = 4 * (input.data.length / 4) := by
    simp only [validateInput, Except.bind_eq_ok, Except.raiseIf_eq_ok, exists_const] at hvalid
    omega
  have hlength : (parseF32 p.machine.ofBytes input.data).length = input.data.length / 4 :=
    Detect.length_parseF32 hmod
  refine ends_bind_hold ?_
  rw [hlength]
  have hsamples : Covered p code input (Holdings.State.empty.hold .samples (input.data.length / 4 * 4)) :=
    hempty.hold _ _ fun _ _ _ => (List.suffix_append [_, _, _, _] [_]).trans held_suffix_peak
  refine Ends.bind_lift (fun _ _ => ?_) fun _ _ => hsamples
  exact Ends.pure ⟨hvalid, hlength, rfl⟩

theorem asI64_eq {n : ℕ} (h : n < 2 ^ 63) : asI64 n = n := Int.bmod_eq_of_le (by omega) (by omega)

/-- The values that are encoded, in either layout. -/
theorem inLayout_ends {mels : List F} {elements : ℕ} {s : Holdings.State Buffer}
    (hmels : mels.length = elements) (hlengths : p.Lengths (input.data.length / 4) signal frames)
    (helements : p.config.nMels * frames = elements)
    (hlive : s.live = p.held (input.data.length / 4) signal elements)
    (hcovered : Covered p code input s) :
    Ends (p.inLayout mels frames elements) s
      (fun values s' => values.length = elements ∧
        s'.live = p.heldValues (input.data.length / 4) signal elements ∧
        Covered p code input s')
      (fun _ s' => Covered p code input s') := by
  subst helements
  rw [inLayout]
  cases hlayout : p.config.layout with
  | melTime =>
    refine Ends.pure ⟨hmels, ?_, hcovered⟩
    rw [heldValues, if_neg (by rw [hlayout]; decide), hlive, List.nil_append]
  | timeMel =>
    have hvalues : p.heldValues (input.data.length / 4) signal (p.config.nMels * frames) =
        (.transposed, p.config.nMels * frames * 4) :: s.live := by
      rw [heldValues, if_pos hlayout, hlive, List.singleton_append]
    have hcovered' := hcovered.hold .transposed (p.config.nMels * frames * 4)
      fun signal' frames' h => by
        obtain ⟨rfl, rfl⟩ := hlengths.unique h
        rw [← hvalues]
        exact List.suffix_cons _ _
    refine ends_bind_hold ⟨fun values s' hexec => ?_, fun e s' hexec => ?_⟩ <;>
      rw [exec_lift, Prod.mk.injEq] at hexec <;> obtain ⟨hvalue, rfl⟩ := hexec
    · exact ⟨length_of_transpose hvalue, hvalues.symm, hcovered'⟩
    · exact hcovered'

/-- **The buffers of a run** — its lengths are those of the plan, all of the peak is held when the
features are encoded, only the encoding is handed on, and nothing exceeds the plan. -/
theorem apply_ends : Ends (p.apply code input) Holdings.State.empty
    (fun output s => validateInput code input = .ok () ∧ ∃ signal frames,
      p.Lengths (input.data.length / 4) signal frames ∧ output.shape = p.featureShape frames ∧
        s.live = [(.encoded, p.config.nMels * frames * 4)] ∧
        p.peak (input.data.length / 4) signal (p.config.nMels * frames) ∈ s.past ∧
        Covered p code input s)
    (fun _ s => Covered p code input s) := by
  rw [apply]
  refine samples_ends.bind ?_
  rintro xs s ⟨hvalid, hlength, hs⟩
  have hempty : Covered p code input Holdings.State.empty := fun _ _ => within_empty
  have hsamples : Covered p code input s := hs ▸ hempty.hold _ _ fun _ _ _ =>
    (List.suffix_append [_, _, _, _] [_]).trans held_suffix_peak
  refine Ends.bind_lift (fun signal hsignal => ?_) fun _ _ => hsamples
  have hcentered := AudioConfig.length_of_maybeCenter hsignal
  rw [hlength] at hcentered
  have hheld : Covered p code input (s.hold .signal (signal.length * 4)) := by
    refine hsamples.hold _ _ fun signal' frames h => ?_
    rw [← Except.ok.inj (hcentered.symm.trans h.signal_eq), hs]
    exact (List.suffix_append [_, _, _] [_, _]).trans held_suffix_peak
  refine ends_bind_hold (Ends.bind_lift (fun frames hframes => ?_) fun _ _ => hheld)
  refine Ends.bind_lift (fun elements helements => ?_) fun _ _ => hheld
  obtain ⟨hlt, helements⟩ := checkedMul_eq_ok.mp (mapError_eq_ok helements)
  have hlengths : p.Lengths (input.data.length / 4) signal.length frames :=
    ⟨hcentered, mapError_eq_ok hframes, hlt⟩
  have hfixed : ∀ signal' frames', p.Lengths (input.data.length / 4) signal' frames' →
      p.held (input.data.length / 4) signal.length elements <:+
        p.peak (input.data.length / 4) signal' (p.config.nMels * frames') := by
    intro signal' frames' h
    obtain ⟨rfl, rfl⟩ := hlengths.unique h
    rw [← helements]
    exact held_suffix_peak
  have hmels : Covered p code input ((s.hold .signal (signal.length * 4)).hold .mels
      (elements * 4)) := hheld.hold _ _ fun signal' frames' h => by
    rw [hs]
    exact (List.suffix_append [_, _] [_, _, _]).trans (hfixed signal' frames' h)
  have hbuffer := hmels.hold .buffer (p.config.nFft * 8)
    fun signal' frames' h => by
      rw [hs]
      exact (List.suffix_append [_] [_, _, _, _]).trans (hfixed signal' frames' h)
  have hscratch := hbuffer.hold .scratch (p.scratchLength * 8)
    fun signal' frames' h => by
      rw [hs]
      exact hfixed signal' frames' h
  refine ends_bind_hold (ends_bind_hold (ends_bind_hold ?_))
  refine Ends.bind_lift (fun mels hmels => ?_) fun _ _ => hscratch
  have hframesPos : 0 < frames := by
    have hcount := mapError_eq_ok hframes
    simp only [AudioConfig.frameCount, Except.bind_eq_ok, Except.pure_eq_ok] at hcount
    obtain ⟨_, -, rfl⟩ := hcount
    exact Nat.lt_add_right _ Nat.one_pos
  have hmelsLength : (p.normalize mels frames).length = elements := by
    rw [length_normalize hframesPos, length_of_addFrames hmels, List.length_replicate]
  refine (inLayout_ends hmelsLength hlengths helements (by rw [hs]; rfl) hscratch).bind ?_
  rintro values s' ⟨hvalues, hlive, hcovered⟩
  have hpeak : (.encoded, values.length * 4) :: s'.live =
      p.peak (input.data.length / 4) signal.length (p.config.nMels * frames) := by
    rw [hvalues, hlive, helements, peak]
  have hencoded : Covered p code input (s'.hold .encoded (values.length * 4)) := by
    refine hcovered.hold _ _ fun signal' frames' h => ?_
    obtain ⟨rfl, rfl⟩ := hlengths.unique h
    exact hpeak ▸ List.suffix_rfl
  have hrest : ((((((s'.hold .encoded (values.length * 4)).release .transposed).release
      .mels).release .scratch).release .buffer).release .signal).release .samples =
        ⟨[(.encoded, p.config.nMels * frames * 4)],
          (s'.hold .encoded (values.length * 4)).past⟩ := by
    simp only [Holdings.State.release, Holdings.State.hold, hpeak, peak, heldValues, held]
    split <;> rfl
  refine ends_bind_hold (Ends.bind (ends_of_exec_ok (a := ()) (Q := fun _ s => s = _) rfl hrest) ?_)
  rintro _ _ rfl
  exact Ends.pure ⟨hvalid, signal.length, frames, hlengths, rfl, rfl, hpeak ▸ List.mem_cons_self,
    hencoded⟩

theorem length_of_lengthTensor {name : String} {length : ℤ} {tensor : OwnedTensor}
    (h : p.lengthTensor name length = .ok tensor) : tensor.data.length ≤ 8 := by
  have hbytes : ∀ width, (toNeBytes p.machine.bigEndian width length).length = width := by
    intro width
    rw [toNeBytes]
    split <;> simp
  unfold lengthTensor at h
  split at h
  · rw [← Except.pure_eq_ok.mp h]
    exact (hbytes 8).le
  · simp only [Except.bind_eq_ok, Except.pure_eq_ok] at h
    obtain ⟨_, -, rfl⟩ := h
    exact (hbytes 4).le.trans (by decide)

/-- Deriving the length takes what is planned for it. -/
theorem derivedInputs_ends {output : OwnedTensor} {s : Holdings.State Buffer}
    (hlengths : p.Lengths (input.data.length / 4) signal frames)
    (hlive : s.live = [(.encoded, p.config.nMels * frames * 4)])
    (hcovered : Covered p code input s) :
    Ends (p.derivedInputs output) s (fun _ s' => Covered p code input s')
      (fun _ s' => Covered p code input s') := by
  rw [derivedInputs]
  split
  · exact Ends.pure hcovered
  · next name hname =>
    refine Ends.bind_lift (fun length _ => ?_) fun _ _ => hcovered
    refine Ends.bind_lift (fun tensor htensor => ?_) fun _ _ => hcovered
    refine ends_bind_hold (Ends.pure fun plan hplan => (hcovered plan hplan).hold ?_)
    obtain ⟨-, signal', frames', hlengths', -, rfl⟩ := plannedBytes_eq_ok.mp hplan
    obtain ⟨rfl, rfl⟩ := hlengths.unique hlengths'
    have hsize := length_of_lengthTensor (mapError_eq_ok htensor)
    have hencoded := le_bytes_peak (p := p) (input.data.length / 4) signal'
      (p.config.nMels * frames')
    have hbytes : bytes s.live = p.config.nMels * frames' * 4 := by rw [hlive]; rfl
    have hplanned : p.lengthBytes = 8 := by rw [lengthBytes, hname]; rfl
    omega

/-- **The plan covers the run** — of the features and of the derived length, in either layout.  A
run whose buffers fit the machine has a plan, which counts as many frames as are in the features. -/
theorem planned_covers (p : AudioPreprocessor F) (code : Dtype → UInt32) (input : BorrowedTensor) :
    (∀ output final, exec (p.apply code input) Holdings.State.empty = (.ok output, final) →
        final.Within (2 ^ 63 - 1) → ∃ signal frames plan,
          p.Lengths (input.data.length / 4) signal frames ∧
          output.shape = (match p.config.layout with
            | .melTime => [1, (p.config.nMels : ℤ), (frames : ℤ)]
            | .timeMel => [1, (frames : ℤ), (p.config.nMels : ℤ)]) ∧
          p.plannedBytes code input = .ok plan ∧
          plan = bytes (p.peak (input.data.length / 4) signal (p.config.nMels * frames)) +
            p.lengthBytes) ∧
      ∀ plan, p.plannedBytes code input = .ok plan → ∀ answer final,
        exec (do
          let output ← p.apply code input
          p.derivedInputs output) Holdings.State.empty = (answer, final) → final.Within plan := by
  refine ⟨fun output final hexec hfits => ?_, fun plan hplan answer final hexec => ?_⟩
  · obtain ⟨hvalid, signal, frames, hlengths, hshape, -, hpeak, -⟩ :=
      apply_ends.1 output final hexec
    have hbytes := hfits _ hpeak
    have hlength : p.lengthBytes ≤ 8 := by
      rw [lengthBytes]
      split <;> omega
    have hplan : p.plannedBytes code input = .ok (bytes (p.peak (input.data.length / 4) signal
        (p.config.nMels * frames)) + p.lengthBytes) :=
      plannedBytes_eq_ok.mpr ⟨hvalid, signal, frames, hlengths, by rw [usizeBound]; omega, rfl⟩
    refine ⟨signal, frames, _, hlengths, ?_, hplan, rfl⟩
    have helements := le_bytes_peak (p := p) (input.data.length / 4) signal
      (p.config.nMels * frames)
    have hsized := AudioConfig.sized_of_validate p.config_valid
    have hframes : frames ≤ p.config.nMels * frames :=
      Nat.le_mul_of_pos_left frames hsized.nMels_pos
    have hnMels := hsized.nMels_le
    rw [maxMelBins] at hnMels
    have hasMels : asI64 p.config.nMels = p.config.nMels := asI64_eq (by omega)
    have hasFrames : asI64 frames = frames := asI64_eq (by omega)
    rw [hshape, featureShape]
    cases p.config.layout <;> simp only [hasMels, hasFrames]
  · have hends : Ends (p.apply code input >>= fun output => p.derivedInputs output) Holdings.State.empty
        (fun _ s => Covered p code input s) (fun _ s => Covered p code input s) := by
      refine apply_ends.bind ?_
      rintro output s ⟨_, _, _, hlengths, _, hlive, _, hcovered⟩
      exact derivedInputs_ends hlengths hlive hcovered
    cases answer with
    | ok derived => exact hends.1 derived final hexec plan hplan
    | error e => exact hends.2 e final hexec plan hplan

/-- The samples `1, 2, 3`, one byte of each in use. -/
def threeSamples : BorrowedTensor where
  name := "input"
  dtype := .f32
  shape := [3]
  data := [1, 0, 0, 0, 2, 0, 0, 0, 3, 0, 0, 0]

theorem planned_covers_fourByTwo :
    (∃ output final signal plan,
      exec (fourByTwo.apply (fun _ => 0) threeSamples) Holdings.State.empty = (.ok output, final) ∧
        output.shape = [1, 2, 2] ∧ fourByTwo.Lengths 3 signal 2 ∧
          fourByTwo.plannedBytes (fun _ => 0) threeSamples = .ok plan) ∧
      (exec (do
        let output ← fourByTwo.apply (fun _ => 0) threeSamples
        fourByTwo.derivedInputs output) Holdings.State.empty).2.Within 160 := by
  obtain ⟨hruns, hplans⟩ := planned_covers fourByTwo (fun _ => 0) threeSamples
  refine ⟨?_, hplans 160 (by decide +kernel) _ _ rfl⟩
  have hshape : (exec (fourByTwo.apply (fun _ => 0) threeSamples) Holdings.State.empty).1.map
      (·.shape) = .ok [1, 2, 2] := by
    decide +kernel
  have hfits : (exec (fourByTwo.apply (fun _ => 0) threeSamples) Holdings.State.empty).2.Within
      (2 ^ 63 - 1) := by
    unfold State.Within
    decide +kernel
  generalize hexec : exec (fourByTwo.apply (fun _ => 0) threeSamples) Holdings.State.empty = ended
    at hshape hfits
  obtain ⟨_ | output, final⟩ := ended
  · cases hshape
  · have hshape : output.shape = [1, 2, 2] := Except.ok.inj hshape
    obtain ⟨signal, frames, plan, hlengths, hframes, hplan, -⟩ := hruns output final hexec hfits
    have hlast : (2 : ℤ) = frames := by
      have hlayout : [1, 2, 2] = [1, (frames : ℤ), (2 : ℤ)] := hshape.symm.trans hframes
      simpa using hlayout
    obtain rfl : frames = 2 := by omega
    exact ⟨output, final, signal, plan, rfl, hshape, hlengths, hplan⟩

end AudioPreprocessor

end Kapsl.Ort.Audio
