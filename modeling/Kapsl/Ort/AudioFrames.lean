import Kapsl.Lib.TriangleWave
import Kapsl.Ort.Audio

/-!
# Ort/AudioFrames — centring reflects the waveform, and the frames fill the signal

The left and the right padding of `maybe_center` are read off by different expressions.  Both are
the triangle wave between the first and the last sample (`reflectIndex_eq`): the left one because
the wave is even, the right one because it is symmetric about the last sample.  So one formula gives
every sample of the centred signal (`maybeCenter_eq`).

`frame_count` gives as many frames as fit: `windowed` reads every frame below it, and panics at it.
-/

namespace Kapsl.Ort.Audio

open Detect (Stop)
open Preprocess

variable {F : Type} [Field F] [LinearOrder F]

/-! ## What a valid configuration promises -/

/-- The sizes of a valid configuration. -/
structure AudioConfig.Sized (config : AudioConfig F) : Prop where
  nFft_pos : 0 < config.nFft
  nFft_le : config.nFft ≤ maxFftSize
  hopLength_pos : 0 < config.hopLength
  nMels_pos : 0 < config.nMels
  nMels_le : config.nMels ≤ maxMelBins

theorem AudioConfig.sized_of_validate [ToString F] {machine : Machine F} {config : AudioConfig F}
    (h : config.validate machine = .ok ()) : config.Sized := by
  simp only [validate, Except.bind_eq_ok, Except.raiseIf_eq_ok, exists_const] at h
  obtain ⟨hzero, hlarge, -⟩ := h
  exact ⟨by omega, by omega, by omega, by omega, by omega⟩

/-! ## Reflection -/

/-- **`reflect_index` is the triangle wave** between the first and the last sample. -/
theorem reflectIndex_eq (index : ℤ) {length : ℕ} (hpos : 0 < length) :
    reflectIndex index length = triangleWave (length - 1) index := by
  rw [reflectIndex]
  split
  · next hone => rw [hone, triangleWave_zero]
  · have hcast : ((length - 1 : ℕ) : ℤ) = (length : ℤ) - 1 := by omega
    rw [triangleWave, hcast]
    simp only
    split <;> omega

theorem reflectIndex_lt (index : ℤ) {length : ℕ} (hpos : 0 < length) :
    reflectIndex index length < length := by
  have hle := triangleWave_le (n := length - 1) (x := index)
  rw [reflectIndex_eq index hpos]
  omega

/-! ## Centring -/

omit [LinearOrder F] in
/-- Reads within a slice return its values. -/
theorem mapM_readAt (xs : List F) (g : ℕ → ℕ) {n : ℕ} (h : ∀ i < n, g i < xs.length) :
    ∃ ys, (List.range n).mapM (fun i => readAt xs (g i)) = .ok ys ∧ ys.length = n ∧
      ∀ i < n, ys[i]? = xs[g i]? := by
  have hread : ∀ i < n, xs[g i]? = some (xs.getD (g i) 0) := fun i hi => by
    rw [List.getD_eq_getElem?_getD, List.getElem?_eq_getElem (h i hi), Option.getD_some]
  refine ⟨(List.range n).map fun i => xs.getD (g i) 0, Except.mapM_of_ok fun i hi => ?_,
    by rw [List.length_map, List.length_range], fun i hi => ?_⟩
  · rw [readAt, hread i (List.mem_range.mp hi)]
  · rw [List.getElem?_map, List.getElem?_range hi, Option.map_some, hread i hi]

omit [LinearOrder F] in
/-- **The centred signal is the reflected waveform.** -/
theorem AudioConfig.maybeCenter_eq {config : AudioConfig F} (hcenter : config.center)
    {samples : List F} (hne : 0 < samples.length)
    (hfits : samples.length + 2 * (config.nFft / 2) < usizeBound) :
    ∃ signal, config.maybeCenter samples = .ok signal ∧
      signal.length = samples.length + 2 * (config.nFft / 2) ∧
      ∀ k < signal.length, signal[k]? =
        samples[triangleWave (samples.length - 1) ((k : ℤ) - (config.nFft / 2 : ℕ))]? := by
  have hlength : config.centeredLength samples.length =
      .ok (samples.length + 2 * (config.nFft / 2)) := by
    rw [centeredLength, if_pos hcenter, checkedAdd_eq_ok]
    exact ⟨hfits, rfl⟩
  generalize hpad : config.nFft / 2 = pad at *
  have hlast : ((samples.length - 1 : ℕ) : ℤ) = (samples.length : ℤ) - 1 := by omega
  obtain ⟨left, hleft, hleftLength, hleftGet⟩ := mapM_readAt (n := pad) samples
    (fun index : ℕ => reflectIndex ((pad : ℤ) - index) samples.length)
    fun _ _ => reflectIndex_lt _ hne
  obtain ⟨right, hright, hrightLength, hrightGet⟩ := mapM_readAt (n := pad) samples
    (fun index : ℕ => reflectIndex ((samples.length : ℤ) - 2 - index) samples.length)
    fun _ _ => reflectIndex_lt _ hne
  refine ⟨left ++ samples ++ right, ?_, ?_, fun k hk => ?_⟩
  · rw [maybeCenter, if_neg (not_not_intro hcenter)]
    simp only [hpad, hlength, hleft, hright, Except.mapError, Except.ok_bind]
    rfl
  · rw [List.length_append, List.length_append, hleftLength, hrightLength]
    omega
  · rw [List.length_append, List.length_append, hleftLength, hrightLength] at hk
    rcases lt_or_ge k pad with hlt | hge
    · -- Left of the waveform the wave is even.
      rw [List.append_assoc, List.getElem?_append_left (by omega), hleftGet k hlt,
        reflectIndex_eq _ hne, ← triangleWave_neg, neg_sub]
    · rcases lt_or_ge k (pad + samples.length) with hbody | hright'
      · have hself := triangleWave_of_le (n := samples.length - 1) (x := (k : ℤ) - pad)
          (by omega) (by omega)
        rw [List.append_assoc, List.getElem?_append_right (by omega),
          List.getElem?_append_left (by omega), hleftLength]
        congr 1
        omega
      · -- Right of it the wave is symmetric about the last sample.
        have hindex : (samples.length : ℤ) - 2 - (k - (pad + samples.length) : ℕ) =
            2 * (samples.length - 1 : ℕ) - ((k : ℤ) - pad) := by omega
        rw [List.getElem?_append_right (by rw [List.length_append]; omega), List.length_append,
          hleftLength, hrightGet _ (by omega), reflectIndex_eq _ hne, hindex,
          triangleWave_reflect]

/-! ## Framing -/

omit [Field F] [LinearOrder F] in
/-- **As many frames as fit.** -/
theorem AudioConfig.frameCount_eq_ok {config : AudioConfig F} (hsized : config.Sized)
    {signalLength frames : ℕ} (h : config.frameCount signalLength = .ok frames) :
    (∀ frame < frames, frame * config.hopLength + config.nFft ≤ signalLength) ∧
      signalLength < frames * config.hopLength + config.nFft := by
  simp only [frameCount, Except.bind_eq_ok, Except.raiseIf_eq_ok, Except.pure_eq_ok, exists_const,
    not_lt] at h
  obtain ⟨hle, rfl⟩ := h
  refine ⟨fun frame hframe => ?_, ?_⟩
  · have hquotient : frame ≤ (signalLength - config.nFft) / config.hopLength := by omega
    have hmul := (Nat.le_div_iff_mul_le hsized.hopLength_pos).mp hquotient
    omega
  · have hlt := Nat.lt_div_mul_add (a := signalLength - config.nFft) hsized.hopLength_pos
    rw [Nat.add_mul, one_mul]
    omega

variable [ToString F]

/-- A frame is read when it lies in the signal. -/
theorem AudioPreprocessor.windowed_eq_ok (p : AudioPreprocessor F) {signal : List F} {start : ℕ}
    (h : start + p.config.nFft ≤ signal.length) :
    ∃ values, p.windowed signal start = .ok values := by
  refine Except.mapM_returns fun index hindex => ?_
  have hlt := List.mem_range.mp hindex
  have hsample : start + index < signal.length := by omega
  have hweight : index < p.window.length := p.window_length.symm ▸ hlt
  simp only [readAt, List.getElem?_eq_getElem hsample, List.getElem?_eq_getElem hweight,
    Except.ok_bind]
  exact ⟨_, rfl⟩

/-- …and only then. -/
theorem AudioPreprocessor.windowed_eq_panicked (p : AudioPreprocessor F) {signal : List F}
    {start : ℕ} (h : signal.length < start + p.config.nFft) (hpos : 0 < p.config.nFft) :
    p.windowed signal start = .error .panicked := by
  have hread : ∀ (xs : List F) index, Except.RaisesOnly (· = Stop.panicked) (readAt xs index) := by
    intro xs index e he
    unfold readAt at he
    split at he
    · exact nomatch he
    · exact (Except.error.inj he).symm
  cases hwindowed : p.windowed signal start with
  | error e =>
    have honly : Except.RaisesOnly (· = Stop.panicked) (p.windowed signal start) :=
      Except.RaisesOnly.mapM fun _ _ =>
        (hread _ _).bind fun _ _ => (hread _ _).bind fun _ _ => Except.raisesOnly_pure
    exact congrArg _ (honly e hwindowed)
  | ok values =>
    -- The last sample of the frame was read, beyond the end of the signal.
    obtain ⟨_, _, hlast⟩ := Except.exists_mem_of_mapM hwindowed
      (List.mem_range.mpr (Nat.sub_lt hpos Nat.one_pos))
    have hnone : signal[start + (p.config.nFft - 1)]? = none :=
      List.getElem?_eq_none (by omega)
    have hpanicked : readAt signal (start + (p.config.nFft - 1)) = .error .panicked := by
      unfold readAt
      rw [hnone]
    rw [hpanicked] at hlast
    exact nomatch hlast

/-- **Centring and framing** — the centred signal is the triangle wave of the waveform at every
index, `reflect_index` stays below the length, and `frame_count` gives the greatest number of frames
that are read within the signal. -/
theorem centering_and_framing (p : AudioPreprocessor F) (samples : List F) (hne : samples ≠ [])
    (hvec : samples.length < 2 ^ 61) :
    (p.config.center → ∃ signal, p.config.maybeCenter samples = .ok signal ∧
        signal.length = samples.length + 2 * (p.config.nFft / 2) ∧
        ∀ k < signal.length, signal[k]? =
          samples[triangleWave (samples.length - 1) ((k : ℤ) - (p.config.nFft / 2 : ℕ))]?) ∧
      (∀ index, reflectIndex index samples.length < samples.length) ∧
      ∀ (signal : List F) (frames : ℕ), p.config.frameCount signal.length = .ok frames →
        (∀ frame < frames,
          (∀ index < p.config.nFft, frame * p.config.hopLength + index < signal.length) ∧
          ∃ values, p.windowed signal (frame * p.config.hopLength) = .ok values) ∧
        (∃ index < p.config.nFft, signal.length ≤ frames * p.config.hopLength + index) ∧
        p.windowed signal (frames * p.config.hopLength) = .error .panicked := by
  have hsized := AudioConfig.sized_of_validate p.config_valid
  have hpos : 0 < samples.length := List.length_pos_of_ne_nil hne
  have hnFft := hsized.nFft_le
  rw [maxFftSize] at hnFft
  refine ⟨fun hcenter => AudioConfig.maybeCenter_eq hcenter hpos (by rw [usizeBound]; omega),
    fun index => reflectIndex_lt index hpos, fun signal frames hframes => ?_⟩
  obtain ⟨hin, hout⟩ := AudioConfig.frameCount_eq_ok hsized hframes
  have hnFft_pos := hsized.nFft_pos
  refine ⟨fun frame hframe => ⟨fun index hindex => ?_, ?_⟩, ⟨p.config.nFft - 1, ?_, ?_⟩, ?_⟩
  · have := hin frame hframe
    omega
  · exact p.windowed_eq_ok (hin frame hframe)
  · omega
  · omega
  · exact p.windowed_eq_panicked hout hnFft_pos

/-- A little-endian machine whose numbers are integers. -/
def integers : Machine ℚ where
  ofBytes a _ _ _ := a.toNat
  toBytes x := [UInt8.ofNat x.num.toNat, 0, 0, 0]
  isFinite _ := true
  sqrt x := x
  ln x := x
  log10 x := x
  bigEndian := false

/-- Frames of four samples, two apart, into two bands. -/
def fourByTwo : AudioPreprocessor ℚ where
  machine := integers
  config :=
    { sampleRate := 16000
      nFft := 4
      hopLength := 2
      nMels := 2
      fMin := 0
      fMax := some 8000
      log := .none
      power := 2
      center := true
      layout := .timeMel
      logEps := 1
      normalize := .none
      normalizeEps := 1
      lengthInput := some "length"
      lengthDtype := .int64 }
  config_valid := by decide +kernel
  window := [0, 1, 1, 1]
  window_length := rfl
  melFilterbank := [1, 1, 0, 0, 1, 1]
  frequencies := 3
  frequencies_eq := rfl
  melFilterbank_length := rfl
  fft buffer := buffer
  scratchLength := 4

theorem centering_and_framing_fourByTwo :
    ∃ signal, fourByTwo.config.maybeCenter [1, 2, 3] = .ok signal ∧ signal.length = 7 ∧
      fourByTwo.config.frameCount signal.length = .ok 2 ∧
        (∃ values, fourByTwo.windowed signal 2 = .ok values) ∧
          fourByTwo.windowed signal 4 = .error .panicked := by
  obtain ⟨hcenter, -, hframes⟩ := centering_and_framing fourByTwo [1, 2, 3] (by decide) (by decide)
  obtain ⟨signal, hsignal, hlength, -⟩ := hcenter rfl
  have hcount : fourByTwo.config.frameCount signal.length = .ok 2 := by
    rw [hlength]
    rfl
  obtain ⟨hread, -, hpast⟩ := hframes signal 2 hcount
  exact ⟨signal, hsignal, hlength, hcount, (hread 1 (by decide)).2, hpast⟩

/-- A waveform of three samples with two samples of padding. -/
example : fourByTwo.config.maybeCenter [1, 2, 3] = .ok [3, 2, 1, 2, 3, 2, 1] := by decide +kernel

end Kapsl.Ort.Audio
