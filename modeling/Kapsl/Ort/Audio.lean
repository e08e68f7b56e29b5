import Kapsl.Lib.Trim
import Kapsl.Ort.Preprocess

/-!
# Ort/Audio — log-mel features of a waveform, and the memory they are planned to take

`apply` centres the waveform, cuts it into frames, and turns the spectrum of every frame into
energies of mel bands; `planned_bytes` says beforehand how much memory that takes.

Numbers are exact: `F` is an ordered field, and `Machine` stands for what `f32` and the target add
to it.  The transform of `rustfft` is a field of the preprocessor, with the length of its scratch.
`apply` records the buffers it holds (`Lib/Holdings`).
-/

namespace Kapsl.Ort.Audio

open Except (raiseIf)
open Detect (Stop parseF32 chunksExact)
open Holdings (hold release)
open Preprocess

variable {F : Type} [Field F] [LinearOrder F]

/-! ## The configuration -/

/-- `LogKind`. -/
inductive LogKind
  | none
  | ln
  | log10
  deriving DecidableEq

/-- `AudioLayout`. -/
inductive AudioLayout
  | melTime
  | timeMel
  deriving DecidableEq

/-- `FeatureNormalization`. -/
inductive FeatureNormalization
  | none
  | perFeature
  deriving DecidableEq

/-- `LengthDtype`. -/
inductive LengthDtype
  | int32
  | int64
  deriving DecidableEq

/-- The functions of `f32` beyond its field operations, and the order of bytes. -/
structure Machine (F : Type) where
  ofBytes : UInt8 → UInt8 → UInt8 → UInt8 → F
  toBytes : F → List UInt8
  isFinite : F → Bool
  sqrt : F → F
  ln : F → F
  log10 : F → F
  bigEndian : Bool

/-- `AudioConfig`, without the fields that only the filterbank is built from. -/
structure AudioConfig (F : Type) where
  sampleRate : ℕ
  nFft : ℕ
  hopLength : ℕ
  nMels : ℕ
  fMin : F
  fMax : Option F
  log : LogKind
  power : F
  center : Bool
  layout : AudioLayout
  logEps : F
  normalize : FeatureNormalization
  normalizeEps : F
  lengthInput : Option String
  lengthDtype : LengthDtype

def maxFftSize : ℕ := 2 ^ 20

def maxMelBins : ℕ := 65536

def maxStaticElements : ℕ := 64 * 1024 * 1024

/-- `char::is_whitespace`. -/
def isWhitespace (c : Char) : Bool :=
  (9 ≤ c.toNat && c.toNat ≤ 13) || (0x2000 ≤ c.toNat && c.toNat ≤ 0x200a) ||
    [0x20, 0x85, 0xa0, 0x1680, 0x2028, 0x2029, 0x202f, 0x205f, 0x3000].contains c.toNat

namespace AudioConfig

/-- `AudioConfig::f_max`. -/
def maximumFrequency (config : AudioConfig F) : F := config.fMax.getD (config.sampleRate / 2)

/-- `AudioConfig::validate`. -/
def validate [ToString F] (machine : Machine F) (config : AudioConfig F) :
    Except FfiError Unit := do
  raiseIf (config.sampleRate = 0 ∨ config.nFft = 0 ∨ config.hopLength = 0 ∨ config.nMels = 0)
    (invalidArgument "audio sample_rate, n_fft, hop_length, and n_mels must be non-zero")
  raiseIf (maxFftSize < config.nFft ∨ maxMelBins < config.nMels)
    (invalidArgument (s!"audio preprocessing supports n_fft <= {maxFftSize} and " ++
      s!"n_mels <= {maxMelBins}"))
  let staticElements ← checkedMul config.nMels (config.nFft / 2 + 1)
    "audio mel filterbank size overflows"
  raiseIf (maxStaticElements < staticElements)
    (invalidArgument s!"audio mel filterbank exceeds {maxStaticElements} elements")
  let nyquist : F := config.sampleRate / 2
  raiseIf (!machine.isFinite config.fMin ∨ !machine.isFinite config.maximumFrequency ∨
      config.fMin < 0 ∨ config.maximumFrequency ≤ config.fMin ∨ nyquist < config.maximumFrequency)
    (invalidArgument s!"audio frequencies must satisfy 0 <= f_min < f_max <= Nyquist ({nyquist})")
  raiseIf (¬(config.power = 1 ∨ config.power = 2))
    (invalidArgument "audio power must be 1.0 or 2.0")
  raiseIf (!machine.isFinite config.logEps ∨ config.logEps ≤ 0)
    (invalidArgument "audio log_eps must be finite and greater than zero")
  raiseIf (!machine.isFinite config.normalizeEps ∨ config.normalizeEps ≤ 0)
    (invalidArgument "audio normalize_eps must be finite and greater than zero")
  raiseIf (config.lengthInput.any fun name =>
      (name.toList.trim isWhitespace).isEmpty || name == "input")
    (invalidArgument
      "audio length_input must be non-empty and may not use the reserved name `input`")

end AudioConfig

/-! ## Centring and framing -/

/-- `reflect_index`. -/
def reflectIndex (index : ℤ) (length : ℕ) : ℕ :=
  if length = 1 then 0
  else
    let period := 2 * ((length : ℤ) - 1)
    let folded := index % period
    if length ≤ folded then (period - folded).toNat else folded.toNat

namespace AudioConfig

/-- `centered_length`. -/
def centeredLength (config : AudioConfig F) (samples : ℕ) : Except FfiError ℕ :=
  if config.center then
    checkedAdd samples (2 * (config.nFft / 2)) "centered audio length overflows"
  else
    return samples

/-- `frame_count`. -/
def frameCount (config : AudioConfig F) (signalLength : ℕ) : Except FfiError ℕ := do
  raiseIf (signalLength < config.nFft)
    (invalidArgument
      s!"audio waveform is too short for n_fft={config.nFft} after centering")
  return 1 + (signalLength - config.nFft) / config.hopLength

/-- `maybe_center`. -/
def maybeCenter (config : AudioConfig F) (samples : List F) : Except Stop (List F) :=
  if ¬config.center then
    return samples
  else do
    let pad := config.nFft / 2
    let _ ← (config.centeredLength samples.length).mapError .error
    let left ← (List.range pad).mapM fun index : ℕ =>
      readAt samples (reflectIndex ((pad : ℤ) - index) samples.length)
    let right ← (List.range pad).mapM fun index : ℕ =>
      readAt samples (reflectIndex ((samples.length : ℤ) - 2 - index) samples.length)
    return left ++ samples ++ right

end AudioConfig

/-- `AudioPreprocessor`, as `AudioPreprocessor::new` builds it. -/
structure AudioPreprocessor (F : Type) [Field F] [LinearOrder F] [ToString F] where
  machine : Machine F
  config : AudioConfig F
  config_valid : config.validate machine = .ok ()
  window : List F
  window_length : window.length = config.nFft
  melFilterbank : List F
  frequencies : ℕ
  frequencies_eq : frequencies = config.nFft / 2 + 1
  melFilterbank_length : melFilterbank.length = config.nMels * frequencies
  fft : List (F × F) → List (F × F)
  scratchLength : ℕ

/-! ## Features -/

/-- The buffers that `apply` and `derived_inputs` hold. -/
inductive Buffer
  | samples
  | signal
  | mels
  | buffer
  | scratch
  | transposed
  | encoded
  | length
  deriving DecidableEq

/-- A computation that holds buffers and may stop. -/
abbrev Run (α : Type) := Attempt Stop (Holdings.State Buffer) α

/-- `to_ne_bytes` of an integer of `width` bytes. -/
def toNeBytes (bigEndian : Bool) (width : ℕ) (value : ℤ) : List UInt8 :=
  let bytes := (List.range width).map fun i => UInt8.ofNat ((value / 256 ^ i) % 256).toNat
  if bigEndian then bytes.reverse else bytes

/-- `usize as i64`. -/
def asI64 (n : ℕ) : ℤ := (n : ℤ).bmod (2 ^ 64)

variable [ToString F]

namespace AudioPreprocessor

/-- `validate_input`; `code` is the number of a dtype. -/
def validateInput (code : Dtype → UInt32) (input : BorrowedTensor) : Except FfiError Unit := do
  raiseIf (input.dtype ≠ .f32)
    (invalidArgument (s!"audio preprocessing expects float32 PCM samples, received dtype " ++
      s!"{code input.dtype}"))
  raiseIf (input.data = [] ∨ input.data.length % 4 ≠ 0)
    (invalidArgument "audio preprocessing requires a non-empty float32 waveform")

/-- `samples`. -/
def samples (p : AudioPreprocessor F) (code : Dtype → UInt32) (input : BorrowedTensor) :
    Run (List F) := do
  ffi (validateInput code input)
  let samples := parseF32 p.machine.ofBytes input.data
  hold .samples (samples.length * 4)
  ffi (raiseIf (samples.any fun sample => !p.machine.isFinite sample)
    (invalidArgument "audio preprocessing requires finite PCM samples"))
  return samples

/-- The windowed samples of a frame: the loop that fills `buffer`. -/
def windowed (p : AudioPreprocessor F) (signal : List F) (start : ℕ) :
    Except Stop (List (F × F)) :=
  (List.range p.config.nFft).mapM fun index => do
    let sample ← readAt signal (start + index)
    let weight ← readAt p.window index
    return (sample * weight, 0)

/-- `compress`. -/
def compress (p : AudioPreprocessor F) (energy : F) : F :=
  match p.config.log with
  | .none => energy
  | .ln => p.machine.ln (energy + p.config.logEps)
  | .log10 => p.machine.log10 (energy + p.config.logEps)

/-- One turn of the loop over the bins of a filter. -/
def addBin (p : AudioPreprocessor F) (spectrum : List (F × F)) (energy : F) :
    F × ℕ → Except Stop F
  | (weight, bin) =>
    if weight = 0 then return energy
    else
      match spectrum[bin]? with
      | none => .error .panicked
      | some value =>
        let square := value.1 * value.1 + value.2 * value.2
        let magnitude := if p.config.power = 1 then p.machine.sqrt square else square
        return energy + weight * magnitude

/-- One turn of the loop over the mel bands. -/
def addMel (p : AudioPreprocessor F) (spectrum : List (F × F)) (frames frame : ℕ)
    (mels : List F) (mel : ℕ) : Except Stop (List F) := do
  let filter ← sliceAt p.melFilterbank (mel * p.frequencies) ((mel + 1) * p.frequencies)
  let energy ← filter.zipIdx.foldlM (p.addBin spectrum) 0
  writeAt mels (mel * frames + frame) (p.compress energy)

/-- One turn of the loop over the frames. -/
def addFrame (p : AudioPreprocessor F) (signal : List F) (frames : ℕ) (mels : List F)
    (frame : ℕ) : Except Stop (List F) := do
  let start ← (checkedMul frame p.config.hopLength "audio frame offset overflows").mapError .error
  let buffer ← p.windowed signal start
  (List.range p.config.nMels).foldlM (p.addMel (p.fft buffer) frames frame) mels

/-- The row `normalize` leaves of a row. -/
def normalizeRow (p : AudioPreprocessor F) (frames : ℕ) (row : List F) : List F :=
  let mean := row.sum / frames
  let variance := if 1 < frames then
      (row.map fun value => (value - mean) * (value - mean)).sum / (frames - 1 : ℕ)
    else 0
  let denominator := p.machine.sqrt variance + p.config.normalizeEps
  row.map fun value => (value - mean) / denominator

/-- `normalize`. -/
def normalize (p : AudioPreprocessor F) (mels : List F) (frames : ℕ) : List F :=
  if p.config.normalize ≠ .perFeature then mels
  else
    (chunksExact frames mels).flatMap (p.normalizeRow frames) ++
      mels.drop (mels.length / frames * frames)

/-- The two loops that fill `transposed`. -/
def transpose (p : AudioPreprocessor F) (mels : List F) (frames elements : ℕ) :
    Except Stop (List F) :=
  (List.range p.config.nMels).foldlM (fun transposed mel =>
    (List.range frames).foldlM (fun transposed frame => do
      writeAt transposed (frame * p.config.nMels + mel) (← readAt mels (mel * frames + frame)))
      transposed) (List.replicate elements 0)

/-- The shape of the features. -/
def featureShape (p : AudioPreprocessor F) (frames : ℕ) : List ℤ :=
  match p.config.layout with
  | .melTime => [1, asI64 p.config.nMels, asI64 frames]
  | .timeMel => [1, asI64 frames, asI64 p.config.nMels]

/-- The values `apply` encodes: the features in the order of the layout. -/
def inLayout (p : AudioPreprocessor F) (mels : List F) (frames elements : ℕ) : Run (List F) :=
  match p.config.layout with
  | .melTime => pure mels
  | .timeMel => do
    hold .transposed (elements * 4)
    Attempt.lift (p.transpose mels frames elements)

/-- `apply`. -/
def apply (p : AudioPreprocessor F) (code : Dtype → UInt32) (input : BorrowedTensor) :
    Run OwnedTensor := do
  let samples ← p.samples code input
  let signal ← Attempt.lift (p.config.maybeCenter samples)
  hold .signal (signal.length * 4)
  let frames ← ffi (p.config.frameCount signal.length)
  let elements ← ffi (checkedMul p.config.nMels frames "audio feature tensor size overflows")
  hold .mels (elements * 4)
  hold .buffer (p.config.nFft * 8)
  hold .scratch (p.scratchLength * 8)
  let mels ← Attempt.lift ((List.range frames).foldlM (p.addFrame signal frames)
    (List.replicate elements 0))
  let values ← p.inLayout (p.normalize mels frames) frames elements
  hold .encoded (values.length * 4)
  -- The values are moved into the encoding; the other locals are dropped on return.
  [Buffer.transposed, .mels, .scratch, .buffer, .signal, .samples].forM release
  return {
    name := "input"
    dtype := .f32
    shape := p.featureShape frames
    data := values.flatMap p.machine.toBytes }

/-- The frames `derived_inputs` reads off the shape of the features. -/
def outputFrames (p : AudioPreprocessor F) (output : OwnedTensor) : Except FfiError ℤ :=
  let axis := match p.config.layout with
    | .melTime => 2
    | .timeMel => 1
  match output.shape[axis]? with
  | some frames => .ok frames
  | none => .error (invalidArgument
      s!"audio preprocessing cannot derive length from shape {output.shape}")

/-- The tensor `derived_inputs` writes the frames into. -/
def lengthTensor (p : AudioPreprocessor F) (name : String) (frames : ℤ) :
    Except FfiError OwnedTensor :=
  match p.config.lengthDtype with
  | .int64 =>
    return { name, dtype := .i64, shape := [1], data := toNeBytes p.machine.bigEndian 8 frames }
  | .int32 => do
    raiseIf (¬(-2 ^ 31 ≤ frames ∧ frames < 2 ^ 31))
      (invalidArgument s!"audio frame count {frames} does not fit int32")
    return { name, dtype := .i32, shape := [1], data := toNeBytes p.machine.bigEndian 4 frames }

/-- `derived_inputs`. -/
def derivedInputs (p : AudioPreprocessor F) (output : OwnedTensor) : Run (List OwnedTensor) :=
  match p.config.lengthInput with
  | none => return []
  | some name => do
    let frames ← ffi (p.outputFrames output)
    let tensor ← ffi (p.lengthTensor name frames)
    hold .length tensor.data.length
    return [tensor]

/-! ## The plan -/

/-- How many copies of the features are planned for. -/
def featureCopies (p : AudioPreprocessor F) : ℕ := if p.config.layout = .timeMel then 3 else 2

/-- `planned_bytes`. -/
def plannedBytes (p : AudioPreprocessor F) (code : Dtype → UInt32) (input : BorrowedTensor) :
    Except FfiError ℕ := do
  validateInput code input
  let samples := input.data.length / 4
  let signal ← p.config.centeredLength samples
  let frames ← p.config.frameCount signal
  let melElements ← checkedMul p.config.nMels frames "audio feature tensor size overflows"
  let sampleBytes ← checkedMul samples 4 "audio sample memory estimate overflows"
  let centeredBytes ← checkedMul signal 4 "audio centered signal estimate overflows"
  let fftBytes ← checkedMul p.config.nFft 8 "audio FFT memory estimate overflows"
  let scratchBytes ← checkedMul p.scratchLength 8 "audio FFT scratch estimate overflows"
  let featureBytes ← checkedMul melElements 4 "audio feature memory estimate overflows"
  let featureBytes ← checkedMul featureBytes p.featureCopies
    "audio feature memory estimate overflows"
  let total ← checkedAdd sampleBytes centeredBytes
    "audio preprocessing memory estimate overflows"
  let total ← checkedAdd total fftBytes "audio preprocessing memory estimate overflows"
  let total ← checkedAdd total scratchBytes "audio preprocessing memory estimate overflows"
  let total ← checkedAdd total featureBytes "audio preprocessing memory estimate overflows"
  checkedAdd total (if p.config.lengthInput.isSome then 8 else 0)
    "audio preprocessing memory estimate overflows"

end AudioPreprocessor

end Kapsl.Ort.Audio
