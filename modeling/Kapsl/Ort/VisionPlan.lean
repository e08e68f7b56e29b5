import Kapsl.Ort.Vision

/-!
# Ort/VisionPlan — when the planned memory covers what the vision preprocessor holds

`planned_bytes` counts eight bytes for a pixel of the image and nineteen for one of the tensor.
Five buffers are held when the values are encoded: the decoded image, its conversion to three bytes
a pixel, the fitted image, and twelve bytes for each pixel of the tensor both as values and encoded
(`peak`).  A run that decodes gets there, and holds no more at any other time (`apply_ends`).

So a plan covers the run exactly when the image is large enough against the tensor, and stored in
few enough bytes a pixel (`planned_covers_iff`).
-/

namespace Kapsl.Ort.Vision

open Attempt Holdings Preprocess
open Detect (Stop)

variable {F : Type} [Field F] [DecidableEq F]

namespace VisionPreprocessor

variable {p : VisionPreprocessor F} {code : Dtype → UInt32} {input : BorrowedTensor}
  {image : DynamicImage}

/-- The pixels of the tensor. -/
def targetPixels (p : VisionPreprocessor F) : ℕ := p.config.width * p.config.height

/-- **The buffers held while the values are encoded.** -/
def peak (p : VisionPreprocessor F) (image : DynamicImage) : List (Buffer × ℕ) :=
  [(.encoded, 12 * p.targetPixels), (.values, 12 * p.targetPixels), (.fitted, 3 * p.targetPixels),
    (.rgb, 3 * (image.width * image.height)), (.decoded, image.storage.length)]

theorem bytes_peak (p : VisionPreprocessor F) (image : DynamicImage) : bytes (p.peak image) =
    image.storage.length + 3 * (image.width * image.height) + 27 * p.targetPixels := by
  simp only [peak, bytes, List.map_cons, List.map_nil, List.sum_cons, List.sum_nil]
  omega

/-- The tensor of a valid configuration is not empty, and its size is a `usize`. -/
theorem targetPixels_bounds (p : VisionPreprocessor F) :
    0 < p.targetPixels ∧ p.targetPixels * 3 * 4 < usizeBound := by
  have h := p.config_valid
  simp only [VisionConfig.validate, Except.bind_eq_ok, Except.raiseIf_eq_ok, exists_const,
    checkedPixels, checkedMul_eq_ok] at h
  obtain ⟨hzero, -, -, _, ⟨-, rfl⟩, _, ⟨-, rfl⟩, _, ⟨hlt, -⟩, -⟩ := h
  refine ⟨Nat.mul_pos ?_ ?_, hlt⟩ <;> omega

/-! ## Normalising -/

theorem offset_lt {pixels index : ℕ} (h : index < pixels) (channel : Fin 3) :
    p.offset pixels index channel < pixels * 3 := by
  have hchannel := channel.isLt
  rw [offset]
  split
  · calc channel * pixels + index < channel * pixels + pixels := Nat.add_lt_add_left h _
      _ = (channel + 1) * pixels := (Nat.succ_mul _ _).symm
      _ ≤ 3 * pixels := Nat.mul_le_mul_right _ hchannel
      _ = pixels * 3 := Nat.mul_comm _ _
  · omega

/-- A pixel is written within the tensor. -/
theorem writePixel_eq_ok {pixels : ℕ} {output : List F} {pixel : (UInt8 × UInt8 × UInt8) × ℕ}
    (hlength : output.length = pixels * 3) (hindex : pixel.2 < pixels) :
    ∃ output', p.writePixel pixels output pixel = .ok output' ∧ output'.length = pixels * 3 := by
  have hoffset : ∀ channel, p.offset pixels pixel.2 channel < pixels * 3 := offset_lt hindex
  simp only [writePixel]
  rw [writeAt_eq_ok (by rw [hlength]; exact hoffset 0), Except.ok_bind,
    writeAt_eq_ok (by rw [List.length_set, hlength]; exact hoffset 1), Except.ok_bind,
    writeAt_eq_ok (by rw [List.length_set, List.length_set, hlength]; exact hoffset 2)]
  exact ⟨_, rfl, by rw [List.length_set, List.length_set, List.length_set, hlength]⟩

theorem writePixels_eq_ok (pixels : ℕ) (items : List ((UInt8 × UInt8 × UInt8) × ℕ))
    (output : List F) (hlength : output.length = pixels * 3)
    (hindex : ∀ pixel ∈ items, pixel.2 < pixels) :
    ∃ output', items.foldlM (p.writePixel pixels) output = .ok output' ∧
      output'.length = pixels * 3 := by
  induction items generalizing output with
  | nil => exact ⟨output, rfl, hlength⟩
  | cons pixel items ih =>
    obtain ⟨output₁, houtput₁, hlength₁⟩ :=
      writePixel_eq_ok (p := p) hlength (hindex pixel List.mem_cons_self)
    rw [List.foldlM_cons, houtput₁]
    exact ih output₁ hlength₁ fun other hother => hindex other (List.mem_cons_of_mem pixel hother)

/-- **Normalising a fitted image succeeds**, with one buffer of values. -/
theorem normalize_ends {fitted : RgbImage} {s : Holdings.State Buffer}
    (hwidth : fitted.width = p.config.width) (hheight : fitted.height = p.config.height) :
    Ends (p.normalize fitted) s
      (fun values s' => values.length = p.targetPixels * 3 ∧
        s' = s.hold .values (12 * p.targetPixels))
      (fun _ _ => False) := by
  obtain ⟨hpos, hlt⟩ := targetPixels_bounds p
  have hpixels : ∀ message, checkedMul p.config.width p.config.height message =
      .ok p.targetPixels := fun message =>
    checkedMul_eq_ok.mpr ⟨(by omega : p.targetPixels < usizeBound), rfl⟩
  have helements : ∀ message, checkedMul p.targetPixels 3 message = .ok (p.targetPixels * 3) :=
    fun message => checkedMul_eq_ok.mpr ⟨by omega, rfl⟩
  have hindex : ∀ pixel ∈ fitted.pixels.zipIdx, pixel.2 < p.targetPixels := by
    intro pixel hpixel
    have hlt := (List.mem_zipIdx hpixel).2.1
    rw [fitted.length_eq, hwidth, hheight] at hlt
    rw [targetPixels]
    omega
  obtain ⟨values, hvalues, hlength⟩ := writePixels_eq_ok (p := p) p.targetPixels
    fitted.pixels.zipIdx (List.replicate (p.targetPixels * 3) 0) List.length_replicate hindex
  rw [normalize, hpixels]
  refine Ends.bind_lift (fun _ hpixels' => ?_) nofun
  obtain rfl := Except.ok.inj hpixels'
  rw [helements]
  refine Ends.bind_lift (fun _ helements' => ?_) nofun
  obtain rfl := Except.ok.inj helements'
  rw [hvalues, show p.targetPixels * 3 * 4 = 12 * p.targetPixels by omega]
  exact ends_bind_hold (ends_of_exec_ok (exec_lift _ _) ⟨hlength, rfl⟩)

/-! ## A run -/

theorem resizedSide_le (side : ℕ) (ratio : ℚ) (limit : ℕ) : resizedSide side ratio limit ≤ limit :=
  min_le_right _ _

/-- **Fitting** leaves one buffer of the size of the tensor, and takes at most two meanwhile. -/
theorem fit_ends {rgb : RgbImage} {s : Holdings.State Buffer} {bound : ℕ} (hwithin : s.Within bound)
    (hbound : 6 * p.targetPixels + bytes s.live ≤ bound)
    (hlive : ∀ held ∈ s.live, held.1 ≠ .resized) :
    Ends (p.fit rgb) s
      (fun fitted s' => fitted.width = p.config.width ∧ fitted.height = p.config.height ∧
        s'.live = (.fitted, 3 * p.targetPixels) :: s.live ∧ s'.Within bound)
      (fun _ _ => False) := by
  rw [fit]
  cases p.config.resize with
  | stretch =>
    obtain ⟨hwidth, hheight⟩ := p.documented.resize_eq rgb p.config.width p.config.height
    have hbytes : (p.crate.resize rgb p.config.width p.config.height).bytes =
        3 * p.targetPixels := by rw [RgbImage.bytes, hwidth, hheight, targetPixels]
    refine ends_bind_hold (Ends.pure ⟨hwidth, hheight, ?_, hwithin.hold (by omega)⟩)
    rw [hbytes]
    rfl
  | letterbox =>
    simp only
    generalize min ((p.config.width : ℚ) / rgb.width) ((p.config.height : ℚ) / rgb.height) = ratio
    obtain ⟨hwidth, hheight⟩ := p.documented.resize_eq rgb
      (resizedSide rgb.width ratio p.config.width) (resizedSide rgb.height ratio p.config.height)
    have hresized : (p.crate.resize rgb (resizedSide rgb.width ratio p.config.width)
        (resizedSide rgb.height ratio p.config.height)).bytes ≤ 3 * p.targetPixels := by
      rw [RgbImage.bytes, hwidth, hheight]
      exact Nat.mul_le_mul_left 3 (Nat.mul_le_mul (resizedSide_le _ _ _) (resizedSide_le _ _ _))
    have hcanvas : ∀ pixel, (RgbImage.fromPixel p.config.width p.config.height pixel).bytes =
        3 * p.targetPixels := fun _ => rfl
    refine ends_bind_hold (ends_bind_hold (ends_bind_release (Ends.pure ⟨?_, ?_, ?_, ?_⟩)))
    · exact (p.documented.overlay_eq _ _ _ _).1
    · exact (p.documented.overlay_eq _ _ _ _).2
    · rw [hcanvas]
      have hrest : s.live.filter (fun held => decide (held.1 ≠ .resized)) = s.live :=
        List.filter_eq_self.mpr fun held hheld => decide_eq_true (hlive held hheld)
      exact congrArg _ hrest
    · refine ((hwithin.hold (by omega)).hold ?_).release
      rw [hcanvas, Holdings.State.hold, bytes_cons]
      simp only
      omega

/-- **A run that decodes** holds all of the peak when the values are encoded, and no more at any
other time. -/
theorem apply_ends {limits : Limits} (hvalid : validateInput code input = .ok ())
    (hreader : p.reader input.data = .ok limits)
    (hdecode : p.crate.decode limits input.data = .ok image) :
    Ends (p.apply code input) Holdings.State.empty
      (fun _ s => p.peak image ∈ s.past ∧ s.Within (bytes (p.peak image))) (fun _ _ => False) := by
  have hpeak := bytes_peak p image
  obtain ⟨hwidth, hheight⟩ := p.documented.toRgb8_eq image
  have hrgb : (p.crate.toRgb8 image).bytes = 3 * (image.width * image.height) := by
    rw [RgbImage.bytes, hwidth, hheight]
  rw [apply, hvalid, hreader]
  refine Ends.bind_lift (fun _ _ => ?_) nofun
  refine Ends.bind_lift (fun _ hlimits => ?_) nofun
  obtain rfl := Except.ok.inj hlimits
  rw [hdecode]
  refine Ends.bind_lift (fun _ hdecoded => ?_) nofun
  obtain rfl := Except.ok.inj hdecoded
  refine ends_bind_hold (ends_bind_hold ?_)
  rw [hrgb]
  have hdecoded : (Holdings.State.empty.hold Buffer.decoded image.storage.length).Within
      (bytes (p.peak image)) := by
    refine within_empty.hold ?_
    show image.storage.length + 0 ≤ _
    omega
  have hconverted : ((Holdings.State.empty.hold Buffer.decoded image.storage.length).hold .rgb
      (3 * (image.width * image.height))).Within (bytes (p.peak image)) := by
    refine hdecoded.hold ?_
    show 3 * (image.width * image.height) + (image.storage.length + 0) ≤ _
    omega
  have hroom : 6 * p.targetPixels + (3 * (image.width * image.height) +
      (image.storage.length + 0)) ≤ bytes (p.peak image) := by omega
  refine (fit_ends hconverted hroom (by simp [Holdings.State.hold, Holdings.State.empty])).bind ?_
  rintro fitted s ⟨hfittedWidth, hfittedHeight, hlive, hfitted⟩
  refine (normalize_ends hfittedWidth hfittedHeight).bind ?_
  rintro values _ ⟨hlength, rfl⟩
  have hpeakLive : (.encoded, values.length * 4) :: (s.hold .values (12 * p.targetPixels)).live =
      p.peak image := by
    rw [hlength, Holdings.State.hold, hlive, show p.targetPixels * 3 * 4 = 12 * p.targetPixels by omega]
    rfl
  have hvalues : (s.hold .values (12 * p.targetPixels)).Within (bytes (p.peak image)) := by
    refine hfitted.hold ?_
    rw [hlive]
    show 12 * p.targetPixels + (3 * p.targetPixels + (3 * (image.width * image.height) +
      (image.storage.length + 0))) ≤ _
    omega
  have hencoded : ((s.hold .values (12 * p.targetPixels)).hold .encoded
      (values.length * 4)).Within (bytes (p.peak image)) := by
    refine hvalues.hold ?_
    rw [← hpeakLive]
    exact (bytes_cons (.encoded, values.length * 4) _).ge
  refine ends_bind_hold (Ends.bind (ends_of_exec_ok (a := ()) (Q := fun _ s' => s'.past =
    ((s.hold .values (12 * p.targetPixels)).hold .encoded (values.length * 4)).past) rfl rfl) ?_)
  intro _ s' hpast
  refine Ends.pure ⟨?_, fun live hmem => hencoded live (hpast ▸ hmem)⟩
  rw [hpast, ← hpeakLive]
  exact List.mem_cons_self

/-! ## The plan -/

/-- What a plan adds up to. -/
theorem plannedBytes_eq {plan : ℕ} {limits : Limits} (hreader : p.reader input.data = .ok limits)
    (hdecode : p.crate.decode limits input.data = .ok image)
    (hplan : p.plannedBytes code input = .ok plan) :
    validateInput code input = .ok () ∧
      plan = 8 * (image.width * image.height) + 19 * p.targetPixels := by
  simp only [plannedBytes, Except.bind_eq_ok, checkedPixels, checkedMul_eq_ok, checkedAdd_eq_ok,
    hreader, Except.ok.injEq] at hplan
  obtain ⟨_, hvalid, _, rfl, ⟨width, height⟩, hdimensions, _, ⟨-, rfl⟩, _, ⟨-, rfl⟩, _, ⟨-, rfl⟩,
    _, ⟨-, rfl⟩, -, rfl⟩ := hplan
  have hheader : p.crate.dimensions limits input.data = .ok (width, height) := by
    cases hcrate : p.crate.dimensions limits input.data with
    | error e => rw [hcrate] at hdimensions; exact nomatch hdimensions
    | ok size => rw [hcrate] at hdimensions; exact congrArg _ (Except.ok.inj hdimensions)
  obtain ⟨rfl, rfl⟩ := p.documented.dimensions_eq hdecode hheader
  refine ⟨hvalid, ?_⟩
  simp only [targetPixels]
  omega

/-- **A plan covers the run exactly when the tensor is small against the image** — eight bytes for
each pixel of the tensor must fit into what is planned for the image beyond the bytes it is stored
in and the three of its conversion. -/
theorem planned_covers_iff (p : VisionPreprocessor F) (code : Dtype → UInt32)
    (input : BorrowedTensor) (image : DynamicImage) (limits : Limits) (bytesPerPixel plan : ℕ)
    (hreader : p.reader input.data = .ok limits)
    (hdecode : p.crate.decode limits input.data = .ok image)
    (hstorage : image.storage.length = bytesPerPixel * (image.width * image.height))
    (hplan : p.plannedBytes code input = .ok plan) :
    (∀ answer final, exec (p.apply code input) Holdings.State.empty = (answer, final) →
        final.Within plan) ↔
      8 * (p.config.width * p.config.height) ≤
        (5 - bytesPerPixel) * (image.width * image.height) := by
  obtain ⟨hvalid, rfl⟩ := plannedBytes_eq hreader hdecode hplan
  have hends := apply_ends hvalid hreader hdecode
  have hpeak := bytes_peak p image
  have hpos := (targetPixels_bounds p).1
  have hcovers : (∀ answer final, exec (p.apply code input) Holdings.State.empty = (answer, final) →
      final.Within (8 * (image.width * image.height) + 19 * p.targetPixels)) ↔
        bytes (p.peak image) ≤ 8 * (image.width * image.height) + 19 * p.targetPixels := by
    constructor
    · intro h
      rcases hexec : exec (p.apply code input) Holdings.State.empty with ⟨e | output, final⟩
      · exact (hends.2 e final hexec).elim
      · exact h _ final hexec _ (hends.1 output final hexec).1
    · rintro h (e | output) final hexec
      · exact (hends.2 e final hexec).elim
      · exact fun live hlive => ((hends.1 output final hexec).2 live hlive).trans h
  rw [hcovers, hpeak, hstorage, ← targetPixels, Nat.sub_mul]
  rcases le_total bytesPerPixel 5 with hle | hge
  · have := Nat.mul_le_mul_right (image.width * image.height) hle
    omega
  · have := Nat.mul_le_mul_right (image.width * image.height) hge
    omega

/-! ## An image of one pixel for a tensor of two -/

/-- One black pixel in three bytes. -/
def onePixel : DynamicImage := ⟨1, 1, [0, 0, 0]⟩

/-- A black image. -/
def black (width height : ℕ) : RgbImage := .fromPixel width height (0, 0, 0)

/-- What the crate does with one black pixel. -/
def blackCrate : ImageCrate where
  guessFormat _ := .ok ()
  decode _ _ := .ok onePixel
  dimensions _ _ := .ok (1, 1)
  toRgb8 image := black image.width image.height
  resize _ width height := black width height
  overlay canvas _ _ _ := canvas

theorem documented_blackCrate : blackCrate.Documented where
  dimensions_eq hdecode hdimensions := by
    obtain rfl := Except.ok.inj hdecode
    obtain ⟨rfl, rfl⟩ := Prod.mk.inj (Except.ok.inj hdimensions)
    exact ⟨rfl, rfl⟩
  toRgb8_eq _ := ⟨rfl, rfl⟩
  resize_eq _ _ _ := ⟨rfl, rfl⟩
  overlay_eq _ _ _ _ := ⟨rfl, rfl⟩

/-- A tensor two pixels wide and one high. -/
def twoByOne : VisionPreprocessor ℚ where
  config :=
    { width := 2
      height := 1
      resize := .stretch
      layout := .nchw
      scale := 1
      mean := fun _ => 0
      std := fun _ => 1
      pad := 0
      maxDecodeWidth := 32768
      maxDecodeHeight := 32768
      maxDecodeBytes := 536870912 }
  isFinite _ := true
  config_valid := by decide +kernel
  toBytes _ := [0, 0, 0, 0]
  crate := blackCrate
  documented := documented_blackCrate

/-- The pixel as a PNG. -/
def pngPixel : BorrowedTensor where
  name := "input"
  dtype := .u8
  shape := [69]
  data := [
    137, 80, 78, 71, 13, 10, 26, 10, 0, 0, 0, 13, 73, 72, 68, 82, 0, 0, 0, 1, 0, 0, 0, 1, 8, 2,
    0, 0, 0, 144, 119, 83, 222, 0, 0, 0, 12, 73, 68, 65, 84, 120, 156, 99, 96, 96, 96, 0, 0, 0,
    4, 0, 1, 246, 23, 56, 85, 0, 0, 0, 0, 73, 69, 78, 68, 174, 66, 96, 130]

theorem planned_covers_iff_pngPixel :
    (∀ answer final, exec (twoByOne.apply (fun _ => 0) pngPixel) Holdings.State.empty = (answer, final) →
      final.Within 46) ↔ 8 * (2 * 1) ≤ (5 - 3) * (1 * 1) :=
  planned_covers_iff twoByOne (fun _ => 0) pngPixel onePixel ⟨32768, 32768, 536870912⟩ 3 46 rfl rfl
    rfl rfl

/-- **A plan of forty-six bytes for sixty.** -/
theorem planned_not_covers : ¬∀ (p : VisionPreprocessor ℚ) (code : Dtype → UInt32)
    (input : BorrowedTensor) (image : DynamicImage) (limits : Limits) (bytesPerPixel plan : ℕ),
    p.reader input.data = .ok limits → p.crate.decode limits input.data = .ok image →
    image.storage.length = bytesPerPixel * (image.width * image.height) →
    1 ≤ bytesPerPixel ∧ bytesPerPixel ≤ 8 → p.plannedBytes code input = .ok plan →
    ∀ answer final, exec (p.apply code input) Holdings.State.empty = (answer, final) →
      final.Within plan := by
  intro h
  have hwithin := h twoByOne (fun _ => 0) pngPixel onePixel ⟨32768, 32768, 536870912⟩ 3 46 rfl rfl
    rfl (by decide) rfl
  have hreader : twoByOne.reader pngPixel.data = .ok ⟨32768, 32768, 536870912⟩ := rfl
  have hends : Ends (twoByOne.apply (fun _ => 0) pngPixel) Holdings.State.empty
      (fun _ s => twoByOne.peak onePixel ∈ s.past ∧ s.Within (bytes (twoByOne.peak onePixel)))
      (fun _ _ => False) := apply_ends rfl hreader rfl
  rcases hexec : exec (twoByOne.apply (fun _ => 0) pngPixel) Holdings.State.empty with ⟨e | output, final⟩
  · exact hends.2 e final hexec
  · have hle := hwithin _ final hexec _ (hends.1 output final hexec).1
    exact absurd hle (by decide)

end VisionPreprocessor

end Kapsl.Ort.Vision
