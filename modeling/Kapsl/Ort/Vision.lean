import Mathlib.Algebra.Order.Field.Rat
import Mathlib.Algebra.Order.Floor.Defs
import Mathlib.Data.Rat.Floor
import Kapsl.Ort.Preprocess

/-!
# Ort/Vision — image tensors of encoded images, and the memory they are planned to take

`apply` decodes an image, fits it to the size of the tensor, and normalises its channels;
`planned_bytes` says beforehand how much memory that takes.

The `image` crate is the parameter `ImageCrate`, with what its documentation says in `Documented`.
Numbers are exact: `F` is a field for `f32`, with its encoding, and the letterbox is computed in
`ℚ` for `f64`.  `usize` has 64 bits.  `apply` records the buffers it holds (`Lib/Holdings`).
-/

namespace Kapsl.Ort.Vision

open Except (raiseIf)
open Detect (Stop)
open Holdings (hold release)
open Preprocess

variable {F : Type} [Field F]

/-! ## Images -/

/-- `RgbImage`. -/
structure RgbImage where
  width : ℕ
  height : ℕ
  pixels : List (UInt8 × UInt8 × UInt8)
  length_eq : pixels.length = width * height

/-- The bytes of an `RgbImage`. -/
def RgbImage.bytes (image : RgbImage) : ℕ := 3 * (image.width * image.height)

/-- `RgbImage::from_pixel`. -/
def RgbImage.fromPixel (width height : ℕ) (pixel : UInt8 × UInt8 × UInt8) : RgbImage where
  width := width
  height := height
  pixels := List.replicate (width * height) pixel
  length_eq := List.length_replicate

/-- A `DynamicImage`: its size, and its samples as they are stored. -/
structure DynamicImage where
  width : ℕ
  height : ℕ
  storage : List UInt8

/-- `Limits`. -/
structure Limits where
  maxImageWidth : ℕ
  maxImageHeight : ℕ
  maxAlloc : ℕ

/-- What is used of the `image` crate. -/
structure ImageCrate where
  guessFormat : List UInt8 → Except String Unit
  decode : Limits → List UInt8 → Except String DynamicImage
  dimensions : Limits → List UInt8 → Except String (ℕ × ℕ)
  toRgb8 : DynamicImage → RgbImage
  resize : RgbImage → ℕ → ℕ → RgbImage
  overlay : RgbImage → RgbImage → ℕ → ℕ → RgbImage

/-- **The documented sizes** — an image has the dimensions that its header states, a conversion and
an overlay keep them, and resizing gives those asked for. -/
structure ImageCrate.Documented (crate : ImageCrate) : Prop where
  dimensions_eq : ∀ {limits data image width height}, crate.decode limits data = .ok image →
    crate.dimensions limits data = .ok (width, height) →
      image.width = width ∧ image.height = height
  toRgb8_eq : ∀ image, (crate.toRgb8 image).width = image.width ∧
    (crate.toRgb8 image).height = image.height
  resize_eq : ∀ image width height, (crate.resize image width height).width = width ∧
    (crate.resize image width height).height = height
  overlay_eq : ∀ canvas image x y, (crate.overlay canvas image x y).width = canvas.width ∧
    (crate.overlay canvas image x y).height = canvas.height

/-! ## The configuration -/

/-- `ResizeMode`. -/
inductive ResizeMode
  | stretch
  | letterbox
  deriving DecidableEq

/-- `Layout`. -/
inductive Layout
  | nchw
  | nhwc
  deriving DecidableEq

/-- `VisionConfig`. -/
structure VisionConfig (F : Type) where
  width : ℕ
  height : ℕ
  resize : ResizeMode
  layout : Layout
  scale : F
  mean : Fin 3 → F
  std : Fin 3 → F
  pad : UInt8
  maxDecodeWidth : ℕ
  maxDecodeHeight : ℕ
  maxDecodeBytes : ℕ

/-- `checked_pixels`. -/
def checkedPixels (width height : ℕ) (label : String) : Except FfiError ℕ :=
  checkedMul width height s!"{label} dimensions overflow"

/-- `VisionConfig::validate`. -/
def VisionConfig.validate [DecidableEq F] (isFinite : F → Bool) (config : VisionConfig F) :
    Except FfiError Unit := do
  raiseIf (config.width = 0 ∨ config.height = 0)
    (invalidArgument "vision preprocessing width and height must be non-zero")
  raiseIf (config.maxDecodeWidth = 0 ∨ config.maxDecodeHeight = 0 ∨ config.maxDecodeBytes = 0)
    (invalidArgument "vision preprocessing decode limits must be non-zero")
  raiseIf (!isFinite config.scale ∨ (∃ channel, !isFinite (config.mean channel)) ∨
      ∃ channel, !isFinite (config.std channel) ∨ config.std channel = 0)
    (invalidArgument
      "vision preprocessing scale/mean/std must be finite and std must be non-zero")
  let pixels ← checkedPixels config.width config.height "vision target"
  let elements ← checkedMul pixels 3 "vision target tensor size overflows"
  let _ ← checkedMul elements 4 "vision target tensor size overflows"
  return ()

/-- `VisionPreprocessor`, as `VisionPreprocessor::new` builds it, with the `image` crate and the
encoding of `f32`. -/
structure VisionPreprocessor (F : Type) [Field F] [DecidableEq F] where
  config : VisionConfig F
  isFinite : F → Bool
  config_valid : config.validate isFinite = .ok ()
  toBytes : F → List UInt8
  crate : ImageCrate
  documented : crate.Documented

/-! ## Fitting and normalising -/

/-- The buffers that `apply` holds. -/
inductive Buffer
  | decoded
  | rgb
  | resized
  | fitted
  | values
  | encoded
  deriving DecidableEq

/-- A computation that holds buffers and may stop. -/
abbrev Run (α : Type) := Attempt Stop (Holdings.State Buffer) α

/-- `round` of a number that is not negative. -/
def round (x : ℚ) : ℕ := ⌊x + 1 / 2⌋.toNat

variable [DecidableEq F]

namespace VisionPreprocessor

/-- `validate_input`; `code` is the number of a dtype. -/
def validateInput (code : Dtype → UInt32) (input : BorrowedTensor) : Except FfiError Unit := do
  raiseIf (input.dtype ≠ .u8)
    (invalidArgument (s!"vision preprocessing expects encoded image bytes as uint8, " ++
      s!"received dtype {code input.dtype}"))
  raiseIf (input.data = [])
    (invalidArgument "vision preprocessing received an empty image payload")

/-- `reader`: the limits of the reader, once the format is known. -/
def reader (p : VisionPreprocessor F) (data : List UInt8) : Except FfiError Limits := do
  (p.crate.guessFormat data).mapError fun error =>
    invalidArgument s!"vision preprocessing could not inspect image: {error}"
  return ⟨p.config.maxDecodeWidth, p.config.maxDecodeHeight, p.config.maxDecodeBytes⟩

/-- A side of the image `ResizeMode::Letterbox` resizes to. -/
def resizedSide (side : ℕ) (ratio : ℚ) (limit : ℕ) : ℕ := min (max (round (side * ratio)) 1) limit

/-- `fit`. -/
def fit (p : VisionPreprocessor F) (image : RgbImage) : Run RgbImage :=
  let width := p.config.width
  let height := p.config.height
  match p.config.resize with
  | .stretch => do
    let fitted := p.crate.resize image width height
    hold .fitted fitted.bytes
    return fitted
  | .letterbox => do
    let ratio := min ((width : ℚ) / image.width) ((height : ℚ) / image.height)
    let resizedWidth := resizedSide image.width ratio width
    let resizedHeight := resizedSide image.height ratio height
    let resized := p.crate.resize image resizedWidth resizedHeight
    hold .resized resized.bytes
    let pad := (p.config.pad, p.config.pad, p.config.pad)
    let canvas := RgbImage.fromPixel width height pad
    hold .fitted canvas.bytes
    let x := (width - resizedWidth) / 2
    let y := (height - resizedHeight) / 2
    let canvas := p.crate.overlay canvas resized x y
    release .resized
    return canvas

/-- `normalized`. -/
def normalized (p : VisionPreprocessor F) (value : UInt8) (channel : Fin 3) : F :=
  (value.toNat * p.config.scale - p.config.mean channel) / p.config.std channel

/-- Where the value of a channel of a pixel goes. -/
def offset (p : VisionPreprocessor F) (pixels index : ℕ) (channel : Fin 3) : ℕ :=
  match p.config.layout with
  | .nchw => channel * pixels + index
  | .nhwc => index * 3 + channel

/-- One turn of the loop over the pixels. -/
def writePixel (p : VisionPreprocessor F) (pixels : ℕ) (output : List F)
    (pixel : (UInt8 × UInt8 × UInt8) × ℕ) : Except Stop (List F) := do
  let ((red, green, blue), index) := pixel
  let output ← writeAt output (p.offset pixels index 0) (p.normalized red 0)
  let output ← writeAt output (p.offset pixels index 1) (p.normalized green 1)
  writeAt output (p.offset pixels index 2) (p.normalized blue 2)

/-- `normalize`. -/
def normalize (p : VisionPreprocessor F) (image : RgbImage) : Run (List F) := do
  let pixels ← ffi (checkedMul p.config.width p.config.height "vision target dimensions overflow")
  let elements ← ffi (checkedMul pixels 3 "vision tensor element count overflows")
  hold .values (elements * 4)
  Attempt.lift (image.pixels.zipIdx.foldlM (p.writePixel pixels) (List.replicate elements 0))

/-- `apply`. -/
def apply (p : VisionPreprocessor F) (code : Dtype → UInt32) (input : BorrowedTensor) :
    Run OwnedTensor := do
  ffi (validateInput code input)
  let limits ← ffi (p.reader input.data)
  let decoded ← ffi ((p.crate.decode limits input.data).mapError fun error =>
    invalidArgument s!"vision preprocessing could not decode image: {error}")
  hold .decoded decoded.storage.length
  let rgb := p.crate.toRgb8 decoded
  hold .rgb rgb.bytes
  let fitted ← p.fit rgb
  let values ← p.normalize fitted
  hold .encoded (values.length * 4)
  -- The values are moved into the encoding; the other locals are dropped on return.
  [Buffer.values, .fitted, .rgb, .decoded].forM release
  return {
    name := "input"
    dtype := .f32
    shape := match p.config.layout with
      | .nchw => [1, 3, p.config.height, p.config.width]
      | .nhwc => [1, p.config.height, p.config.width, 3]
    data := values.flatMap p.toBytes }

/-- `planned_bytes`. -/
def plannedBytes (p : VisionPreprocessor F) (code : Dtype → UInt32) (input : BorrowedTensor) :
    Except FfiError ℕ := do
  validateInput code input
  let limits ← p.reader input.data
  let (sourceWidth, sourceHeight) ← (p.crate.dimensions limits input.data).mapError fun error =>
    invalidArgument s!"vision preprocessing could not inspect image dimensions: {error}"
  let sourcePixels ← checkedPixels sourceWidth sourceHeight "decoded image"
  let targetPixels ← checkedPixels p.config.width p.config.height "image tensor"
  let bytes ← checkedMul sourcePixels 8 "vision preprocessing memory estimate overflows"
  let target ← checkedMul targetPixels 19 "vision preprocessing memory estimate overflows"
  checkedAdd bytes target "vision preprocessing memory estimate overflows"

end VisionPreprocessor

end Kapsl.Ort.Vision
