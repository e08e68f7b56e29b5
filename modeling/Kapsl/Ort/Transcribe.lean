import Mathlib.Data.List.Destutter
import Kapsl.Ort.GreedyNms

/-!
# Ort/Transcribe — greedy CTC decoding is merging, then deleting the blanks

`transcribe` takes the best label of every row and decides in one loop whether to keep it: a label
is dropped when it repeats the one before it, and a blank is remembered but not kept.

The reference `tokensOf` does it in two passes over the whole sequence of labels, so a blank between
two equal labels keeps both.  `foldl_decodeLabel` compares them, with whatever label came last
generalised; `transcribe_eq_reference` is the account of the whole function.

Logits are exact: `F` is any linear order, and `ofBytes` and `i32Bytes` stand for the encodings of
`f32` and `i32`.
-/

namespace Kapsl.Ort.Detect

open Except (raiseIf)

variable {F : Type} [LinearOrder F]

/-! ## The decoder -/

/-- `TranscribeConfig`. -/
structure TranscribeConfig where
  blankId : ℕ
  collapseRepeats : Bool

/-- `TranscribeConfig::default`. -/
def TranscribeConfig.default : TranscribeConfig where
  blankId := 0
  collapseRepeats := true

/-- `i32_tensor`. -/
def i32Tensor (i32Bytes : Int32 → List UInt8) (name : String) (shape : List ℤ)
    (values : List Int32) : OwnedTensor where
  name := name
  dtype := .i32
  shape := shape
  data := values.flatMap i32Bytes

/-- `chunks_exact`, for a chunk that is not empty. -/
def chunksExact {α : Type} (size : ℕ) (values : List α) : List (List α) :=
  (List.range (values.length / size)).map fun row => (values.drop (row * size)).take size

/-- `row[index]`. -/
def readRow (row : List F) (index : ℕ) : Except Stop F :=
  match row[index]? with
  | some value => .ok value
  | none => .error .panicked

/-- One turn of the loop over a row. -/
def scanLabel (row : List F) (best index : ℕ) : Except Stop ℕ := do
  let score ← readRow row index
  let bestScore ← readRow row best
  return if bestScore < score then index else best

/-- The best label of a row. -/
def bestLabel (row : List F) : Except Stop ℕ :=
  (List.range' 1 (row.length - 1)).foldlM (scanLabel row) 0

/-- The variables of the loop over the rows. -/
structure Decoding where
  tokens : List Int32
  previous : Option ℕ

/-- The rest of a turn, once the best label of its row is known. -/
def decodeLabel (config : TranscribeConfig) (decoding : Decoding) (best : ℕ) : Decoding :=
  if config.collapseRepeats ∧ decoding.previous = some best then decoding
  else
    { tokens := if best ≠ config.blankId then decoding.tokens ++ [Int32.ofNat best]
        else decoding.tokens
      previous := some best }

/-- One turn of the loop over the rows. -/
def decodeRow (config : TranscribeConfig) (decoding : Decoding) (row : List F) :
    Except Stop Decoding := do
  return decodeLabel config decoding (← bestLabel row)

/-- The sizes `transcribe` reads from the shape. -/
def sequenceShape (shape : List ℤ) : Except FfiError (ℕ × ℕ) :=
  match shape with
  | [time, vocabulary] => do
    return (← dimension time "transcription time",
      ← dimension vocabulary "transcription vocabulary")
  | [1, time, vocabulary] => do
    return (← dimension time "transcription time",
      ← dimension vocabulary "transcription vocabulary")
  | shape => .error (backendError
      s!"transcription expects [time, vocabulary] or [1, time, vocabulary], got {shape}")

/-- The checks `transcribe` starts with. -/
def readLogits (ofBytes : UInt8 → UInt8 → UInt8 → UInt8 → F) (output : OwnedTensor)
    (config : TranscribeConfig) : Except FfiError (List F × ℕ × ℕ) := do
  let values ← f32Values ofBytes output "transcription"
  let (time, vocabulary) ← sequenceShape output.shape
  raiseIf (vocabulary = 0 ∨ vocabulary ≤ config.blankId)
    (backendError (s!"transcription blank_id {config.blankId} is invalid for " ++
      s!"vocabulary size {vocabulary}"))
  requireElements values.length [time, vocabulary] "transcription"
  return (values, time, vocabulary)

/-- `transcribe`. -/
def transcribe (ofBytes : UInt8 → UInt8 → UInt8 → UInt8 → F) (i32Bytes : Int32 → List UInt8)
    (output : OwnedTensor) (config : TranscribeConfig) : Except Stop OwnedTensor := do
  let (values, time, vocabulary) ← (readLogits ofBytes output config).mapError .error
  let decoding ← ((chunksExact vocabulary values).take time).foldlM (decodeRow config) ⟨[], none⟩
  return i32Tensor i32Bytes "tokens" [decoding.tokens.length] decoding.tokens

/-! ## The reference -/

/-- **The tokens of a sequence of labels** — equal neighbours merged if the configuration says so,
then the blanks deleted. -/
def tokensOf (config : TranscribeConfig) (labels : List ℕ) : List ℕ :=
  (if config.collapseRepeats then labels.destutter (· ≠ ·) else labels).filter
    fun label => decide (label ≠ config.blankId)

theorem tokensOf_sublist (config : TranscribeConfig) (labels : List ℕ) :
    (tokensOf config labels).Sublist labels := by
  refine List.filter_sublist.trans ?_
  split
  exacts [labels.destutter_sublist _, List.Sublist.refl _]

theorem blankId_notMem_tokensOf (config : TranscribeConfig) (labels : List ℕ) :
    config.blankId ∉ tokensOf config labels := by
  intro hmem
  exact of_decide_eq_true (List.mem_filter.mp hmem).2 rfl

/-! ## The loop computes it -/

theorem destutter'_eq_cons_tail (first : ℕ) (labels : List ℕ) :
    labels.destutter' (· ≠ ·) first = first :: (labels.destutter' (· ≠ ·) first).tail := by
  induction labels generalizing first with
  | nil => rfl
  | cons label labels ih =>
    by_cases hne : first ≠ label
    · rw [List.destutter'_cons_pos _ hne, List.tail_cons]
    · rw [List.destutter'_cons_neg _ hne]
      exact ih first

section

variable {config : TranscribeConfig}

/-- Without merging the loop only deletes blanks. -/
theorem foldl_decodeLabel_of_not_collapse (hcollapse : ¬config.collapseRepeats) (labels : List ℕ)
    (decoding : Decoding) :
    (labels.foldl (decodeLabel config) decoding).tokens = decoding.tokens ++
      (labels.filter fun label => decide (label ≠ config.blankId)).map Int32.ofNat := by
  induction labels generalizing decoding with
  | nil => rw [List.foldl_nil, List.filter_nil, List.map_nil, List.append_nil]
  | cons label labels ih =>
    rw [List.foldl_cons, ih, decodeLabel, if_neg fun h => hcollapse h.1, List.filter_cons]
    by_cases hblank : label = config.blankId
    · simp only [hblank, ne_eq, not_true_eq_false, if_false, decide_false, Bool.false_eq_true]
    · simp only [hblank, ne_eq, not_false_eq_true, if_true, decide_true, List.map_cons,
        List.append_assoc, List.singleton_append]

/-- After a label the loop keeps what merging keeps behind that label, blanks deleted. -/
theorem foldl_decodeLabel_of_collapse (hcollapse : config.collapseRepeats) (labels : List ℕ)
    (tokens : List Int32) (last : ℕ) :
    (labels.foldl (decodeLabel config) ⟨tokens, some last⟩).tokens = tokens ++
      ((labels.destutter' (· ≠ ·) last).tail.filter
        fun label => decide (label ≠ config.blankId)).map Int32.ofNat := by
  induction labels generalizing tokens last with
  | nil => simp
  | cons label labels ih =>
    rw [List.foldl_cons, decodeLabel]
    by_cases hne : last ≠ label
    · rw [if_neg fun h => hne (Option.some.inj h.2), ih, List.destutter'_cons_pos _ hne,
        List.tail_cons, destutter'_eq_cons_tail label labels, List.filter_cons, List.tail_cons]
      by_cases hblank : label = config.blankId
      · simp only [hblank, ne_eq, not_true_eq_false, if_false, decide_false, Bool.false_eq_true]
      · simp only [hblank, ne_eq, not_false_eq_true, if_true, decide_true, List.map_cons,
          List.append_assoc, List.singleton_append]
    · rw [if_pos ⟨hcollapse, congrArg some (not_not.mp hne)⟩, ih, List.destutter'_cons_neg _ hne]

/-- **One loop does both passes.** -/
theorem foldl_decodeLabel (labels : List ℕ) :
    (labels.foldl (decodeLabel config) ⟨[], none⟩).tokens =
      (tokensOf config labels).map Int32.ofNat := by
  rw [tokensOf]
  by_cases hcollapse : config.collapseRepeats
  · rw [if_pos hcollapse]
    cases labels with
    | nil => rfl
    | cons first labels =>
      -- No label came before the first one, which is thus kept by either reading.
      have hkept : ¬(config.collapseRepeats ∧ (none : Option ℕ) = some first) := by simp
      rw [List.foldl_cons, decodeLabel, if_neg hkept, foldl_decodeLabel_of_collapse hcollapse,
        List.destutter_cons', destutter'_eq_cons_tail first labels, List.filter_cons,
        List.tail_cons]
      by_cases hblank : first = config.blankId
      · simp only [hblank, ne_eq, not_true_eq_false, if_false, decide_false, Bool.false_eq_true,
          List.nil_append]
      · simp only [hblank, ne_eq, not_false_eq_true, if_true, decide_true, List.map_cons,
          List.nil_append, List.singleton_append]
  · rw [if_neg hcollapse, foldl_decodeLabel_of_not_collapse hcollapse, List.nil_append]

end

/-! ## The whole function -/

section

variable {ofBytes : UInt8 → UInt8 → UInt8 → UInt8 → F} {output : OwnedTensor}
  {time vocabulary : ℕ}

/-- The logit of a row and a label. -/
def logit (ofBytes : UInt8 → UInt8 → UInt8 → UInt8 → F) (output : OwnedTensor)
    (vocabulary row label : ℕ) : F :=
  (parseF32 ofBytes output.data).getD (row * vocabulary + label) (ofBytes 0 0 0 0)

/-- The label of a row: the lowest one among those of the highest logit. -/
def label (ofBytes : UInt8 → UInt8 → UInt8 → UInt8 → F) (output : OwnedTensor)
    (vocabulary row : ℕ) : ℕ :=
  bestClass (logit ofBytes output vocabulary row) vocabulary

/-- **An output of `[time, vocabulary]` floats**, in at most one batch; its bytes are a `Vec`. -/
structure Logits (output : OwnedTensor) (time vocabulary : ℕ) : Prop where
  dtype : output.dtype = .f32
  shape : output.shape = [(time : ℤ), (vocabulary : ℤ)] ∨
    output.shape = [1, (time : ℤ), (vocabulary : ℤ)]
  size : output.data.length = 4 * (time * vocabulary)
  vec : output.data.length < 2 ^ 63

variable (ofBytes) in
omit [LinearOrder F] in
/-- **Every logit is in bounds.** -/
theorem Logits.index_lt (h : Logits output time vocabulary) {row label : ℕ} (hrow : row < time)
    (hlabel : label < vocabulary) :
    row * vocabulary + label < (parseF32 ofBytes output.data).length := by
  rw [length_parseF32 h.size]
  calc row * vocabulary + label < row * vocabulary + vocabulary := Nat.add_lt_add_left hlabel _
    _ = (row + 1) * vocabulary := (Nat.succ_mul row vocabulary).symm
    _ ≤ time * vocabulary := Nat.mul_le_mul_right vocabulary hrow

/-- **The scan finds the best label** of a row that holds the logits `scores`. -/
theorem bestLabel_eq {row : List F} (scores : ℕ → F) (hpos : 0 < row.length)
    (hrow : ∀ label < row.length, row[label]? = some (scores label)) :
    bestLabel row = .ok (bestClass scores row.length) := by
  have hread : ∀ label < row.length, readRow row label = .ok (scores label) :=
    fun label hlabel => by rw [readRow, hrow label hlabel]
  -- The induction is on how many labels the loop has compared with the best one before them.
  have hscan : ∀ n < row.length, (List.range' 1 n).foldlM (scanLabel row) 0 =
      .ok (bestClass scores (n + 1)) := by
    intro n hn
    induction n with
    | zero => rw [bestClass, bestClass, if_neg (lt_irrefl _)]; rfl
    | succ n ih =>
      have hbest := (best_bestClass scores (Nat.succ_pos n)).lt
      rw [List.range'_concat, List.foldlM_append, ih (by omega), Except.ok_bind, one_mul,
        List.foldlM_cons, scanLabel, Nat.add_comm 1 n, hread _ hn, Except.ok_bind,
        hread _ (hbest.trans hn), Except.ok_bind, bestClass]
      rfl
  rw [bestLabel, hscan _ (by omega), Nat.sub_add_cancel hpos]

variable (ofBytes) in
/-- The rows hold the logits. -/
theorem Logits.bestLabel_row (h : Logits output time vocabulary) (hpos : 0 < vocabulary) {row : ℕ}
    (hrow : row < time) :
    bestLabel (((parseF32 ofBytes output.data).drop (row * vocabulary)).take vocabulary) =
      .ok (label ofBytes output vocabulary row) := by
  have hlength : (((parseF32 ofBytes output.data).drop (row * vocabulary)).take
      vocabulary).length = vocabulary := by
    have hlast := h.index_lt ofBytes hrow (Nat.sub_lt hpos Nat.one_pos)
    rw [List.length_take, List.length_drop]
    omega
  rw [bestLabel_eq (logit ofBytes output vocabulary row) (hlength.symm ▸ hpos) ?_, hlength, label]
  intro other hother
  rw [hlength] at hother
  have hlt := h.index_lt ofBytes hrow hother
  rw [List.getElem?_take_of_lt hother, List.getElem?_drop, logit, List.getD_eq_getElem?_getD,
    List.getElem?_eq_getElem hlt, Option.getD_some]

omit [LinearOrder F] in
/-- The checks let logits through. -/
theorem Logits.readLogits_eq (h : Logits output time vocabulary) {config : TranscribeConfig}
    (hblank : config.blankId < vocabulary) :
    readLogits ofBytes output config = .ok (parseF32 ofBytes output.data, time, vocabulary) := by
  have hsize := h.size
  have hvec := h.vec
  have htime : time ≤ time * vocabulary := Nat.le_mul_of_pos_right time (by omega)
  have hvalues : f32Values ofBytes output "transcription" = .ok (parseF32 ofBytes output.data) := by
    refine Except.bind_eq_ok.mpr ⟨(), Except.raiseIf_eq_ok.mpr ?_, rfl⟩
    rintro (hdtype | hdata)
    exacts [hdtype h.dtype, by omega]
  have hshape : sequenceShape output.shape = .ok (time, vocabulary) := by
    rcases h.shape with hshape | hshape <;> rw [hshape] <;>
      simp only [sequenceShape, dimension_natCast] <;> rfl
  have hproduct : [time, vocabulary].foldlM (checkedProduct "transcription") 1 =
      .ok (1 * time * vocabulary) := by
    rw [List.foldlM_cons, checkedProduct_eq _ (by rw [usizeBound]; omega)]
    exact bind_pure _ |>.trans (checkedProduct_eq _ (by rw [one_mul, usizeBound]; omega))
  have helements : requireElements (parseF32 ofBytes output.data).length [time, vocabulary]
      "transcription" = .ok () := by
    refine Except.bind_eq_ok.mpr ⟨_, hproduct, Except.raiseIf_eq_ok.mpr ?_⟩
    rw [length_parseF32 hsize, one_mul, not_not]
  unfold readLogits
  refine Except.bind_eq_ok.mpr ⟨_, hvalues, Except.bind_eq_ok.mpr ⟨_, hshape, ?_⟩⟩
  exact Except.bind_eq_ok.mpr ⟨(), Except.raiseIf_eq_ok.mpr (by omega),
    Except.bind_eq_ok.mpr ⟨(), helements, rfl⟩⟩

/-- A loop over rows whose best labels are known is the loop over those labels. -/
theorem foldlM_decodeRow (config : TranscribeConfig) {rows : List ℕ} {read : ℕ → List F}
    {best : ℕ → ℕ} (hbest : ∀ row ∈ rows, bestLabel (read row) = .ok (best row))
    (decoding : Decoding) :
    (rows.map read).foldlM (decodeRow config) decoding =
      .ok ((rows.map best).foldl (decodeLabel config) decoding) := by
  induction rows generalizing decoding with
  | nil => rfl
  | cons row rows ih =>
    rw [List.map_cons, List.foldlM_cons, decodeRow, hbest row List.mem_cons_self]
    exact ih (fun other hother => hbest other (List.mem_cons_of_mem row hother)) _

/-- **Transcription of logits is the reference on their labels.** -/
theorem Logits.transcribe_eq (h : Logits output time vocabulary) {config : TranscribeConfig}
    (hblank : config.blankId < vocabulary) (i32Bytes : Int32 → List UInt8) :
    let tokens := (tokensOf config
      ((List.range time).map (label ofBytes output vocabulary))).map Int32.ofNat
    transcribe ofBytes i32Bytes output config =
      .ok (i32Tensor i32Bytes "tokens" [tokens.length] tokens) := by
  intro tokens
  have hpos : 0 < vocabulary := by omega
  have hrows : (chunksExact vocabulary (parseF32 ofBytes output.data)).take time =
      (List.range time).map fun row =>
        ((parseF32 ofBytes output.data).drop (row * vocabulary)).take vocabulary := by
    rw [chunksExact, length_parseF32 h.size, Nat.mul_div_cancel _ hpos, List.take_of_length_le]
    rw [List.length_map, List.length_range]
  have hloop := foldlM_decodeRow config
    (fun row hrow => h.bestLabel_row ofBytes hpos (List.mem_range.mp hrow)) ⟨[], none⟩
  rw [transcribe, h.readLogits_eq hblank, Except.mapError, Except.ok_bind]
  simp only [hrows, hloop, Except.ok_bind, foldl_decodeLabel]
  rfl

end

/-- The floats `0` and `1`, from their bytes. -/
def unitOfBytes (a b c d : UInt8) : ℚ := if [a, b, c, d] = [0, 0, 128, 63] then 1 else 0

/-- Five rows over a blank and two labels: the labels are `1, 1, 0, 2, 2`. -/
def fiveRows : OwnedTensor where
  name := "raw"
  dtype := .f32
  shape := [5, 3]
  data := [0, 1, 0, 0, 1, 0, 1, 0, 0, 0, 0, 1, 0, 0, 1].flatMap fun value =>
    if value = 1 then [0, 0, 128, 63] else [0, 0, 0, 0]

example : tokensOf .default [1, 1, 0, 2, 2] = [1, 2] := by decide

example : tokensOf .default [1, 0, 1] = [1, 1] := by decide

/-- `to_ne_bytes` of a little-endian machine. -/
def littleEndianBytes (value : Int32) : List UInt8 :=
  let bits := value.toUInt32
  [bits.toUInt8, (bits >>> 8).toUInt8, (bits >>> 16).toUInt8, (bits >>> 24).toUInt8]

end Kapsl.Ort.Detect
