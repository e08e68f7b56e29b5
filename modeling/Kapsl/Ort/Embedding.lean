import Mathlib.Analysis.Real.Sqrt
import Kapsl.Ort.Classify
import Kapsl.Ort.Preprocess

/-!
# Ort/Embedding — one vector for a sequence: the mean of its unmasked tokens

`embed` answers with a vector for every row of a batch.  Where the model returns one for each token,
`masked_mean_pool` adds up those of a row in place, by the weights of the attention mask, and divides
by the sum of the weights; `l2_normalize_rows` scales the result to length one.

The reference `mean` is told the tokens of non-zero weight and nothing else.  `foldlM_columns` is the
one loop over columns, `maskedMeanPool_eq` follows the three loops around it, and `embed_exact` is
the account of the whole function: no index is out of bounds, and padding leaves no trace.

Numbers are exact, as in `Ort/Detect`.
-/

namespace Kapsl.Ort.Embedding

open Except (raiseIf)
open Detect (Stop chunksExact dimension f32Tensor f32Values oneE parseF32 requireElements)
open Preprocess (readAt writeAt)

variable {F : Type} [Field F] [LinearOrder F]

/-- **A square root** on an ordered field. -/
structure SquareRoot (F : Type) [Field F] [LinearOrder F] where
  sqrt : F → F
  ordered : IsStrictOrderedRing F
  nonneg : ∀ x, 0 ≤ sqrt x
  mul_self : ∀ x, 0 ≤ x → sqrt x * sqrt x = x

/-- The square root of the reals. -/
noncomputable def SquareRoot.real : SquareRoot ℝ where
  sqrt := Real.sqrt
  ordered := Real.instIsStrictOrderedRing
  nonneg := Real.sqrt_nonneg
  mul_self _ := Real.mul_self_sqrt

/-- `from_ne_bytes`, for the types a request may use. -/
structure NativeBytes (F : Type) where
  f32 : UInt8 → UInt8 → UInt8 → UInt8 → F
  i32 : List UInt8 → ℤ
  i64 : List UInt8 → ℤ

/-! ## Pooling -/

/-- `require_nonzero`. -/
def requireNonzero (value : ℕ) (label : String) : Except FfiError Unit :=
  raiseIf (value = 0) (backendError s!"{label} dimension is zero")

/-- The values of a mask of one of the types `attention_mask` reads. -/
def maskValues (bytes : NativeBytes F) (mask : BorrowedTensor) : List F :=
  match mask.dtype with
  | .f32 => parseF32 bytes.f32 mask.data
  | .i64 => (chunksExact 8 mask.data).map fun chunk => (bytes.i64 chunk : F)
  | .i32 => (chunksExact 4 mask.data).map fun chunk => (bytes.i32 chunk : F)
  | _ => []

/-- `attention_mask`. -/
def attentionMask (bytes : NativeBytes F) (inputs : List BorrowedTensor) (batch sequence : ℕ) :
    List F :=
  let expected := min (batch * sequence) (usizeBound - 1)
  match (inputs.drop 1).find? fun input =>
    decide ("attention_mask".toList <:+: input.name.toList) with
  | none => List.replicate expected 1
  | some mask =>
    let values := maskValues bytes mask
    if values.length = expected then values else List.replicate expected 1

/-- The statement `pooled[output_offset + column] += weight * hidden[hidden_offset + column]`. -/
def addColumn (hidden : List F) (weight : F) (hiddenOffset outputOffset : ℕ) (pooled : List F)
    (column : ℕ) : Except Stop (List F) := do
  let value ← readAt pooled (outputOffset + column)
  let added ← readAt hidden (hiddenOffset + column)
  writeAt pooled (outputOffset + column) (value + weight * added)

/-- One turn of the loop over the tokens of a row. -/
def addToken (hidden : List F) (sequence dim : ℕ) (mask : List F) (batchIndex : ℕ)
    (done : List F × F) (sequenceIndex : ℕ) : Except Stop (List F × F) :=
  let weight := mask.getD (batchIndex * sequence + sequenceIndex) 1
  if weight = 0 then
    return done
  else do
    let pooled ← (List.range dim).foldlM (addColumn hidden weight
      ((batchIndex * sequence + sequenceIndex) * dim) (batchIndex * dim)) done.1
    return (pooled, done.2 + weight)

/-- The statement `pooled[output_offset + column] /= denominator`. -/
def divideColumn (denominator : F) (outputOffset : ℕ) (pooled : List F) (column : ℕ) :
    Except Stop (List F) := do
  let value ← readAt pooled (outputOffset + column)
  writeAt pooled (outputOffset + column) (value / denominator)

/-- One turn of the loop over the batch. -/
def poolRow (hidden : List F) (sequence dim : ℕ) (mask pooled : List F) (batchIndex : ℕ) :
    Except Stop (List F) := do
  let (pooled, denominator) ← (List.range sequence).foldlM
    (addToken hidden sequence dim mask batchIndex) (pooled, 0)
  let denominator := max denominator (oneE 9)
  (List.range dim).foldlM (divideColumn denominator (batchIndex * dim)) pooled

/-- `masked_mean_pool`. -/
def maskedMeanPool (hidden : List F) (batch sequence dim : ℕ) (mask : List F) :
    Except Stop (List F) :=
  (List.range batch).foldlM (poolRow hidden sequence dim mask)
    (List.replicate (min (batch * dim) (usizeBound - 1)) 0)

/-! ## Normalization -/

/-- The sum of the squares of a row. -/
def sumSquares (row : List F) : F := (row.map fun value => value * value).sum

/-- One turn of `l2_normalize_rows`. -/
def normalizeRow (root : SquareRoot F) (row : List F) : List F :=
  let norm := max (root.sqrt (sumSquares row)) (oneE 12)
  row.map (· / norm)

/-- `l2_normalize_rows`, for rows that are not empty. -/
def l2NormalizeRows (root : SquareRoot F) (values : List F) (rows columns : ℕ) : List F :=
  ((chunksExact columns values).take rows).flatMap (normalizeRow root) ++
    values.drop (min rows (values.length / columns) * columns)

/-! ## `embed` -/

/-- The end of `embed`, common to both shapes. -/
def finish (root : SquareRoot F) (toBytes : F → List UInt8) (normalize : Bool) (batch dim : ℕ)
    (pooled : List F) : OwnedTensor :=
  f32Tensor toBytes "embedding" [(batch : ℤ), (dim : ℤ)]
    (if normalize then l2NormalizeRows root pooled batch dim else pooled)

/-- The sizes `embed` reads from a shape `[batch, dim]`. -/
def pooledShape (values : List F) (batch dim : ℤ) : Except FfiError (ℕ × ℕ) := do
  let batch ← dimension batch "embedding batch"
  let dim ← dimension dim "embedding width"
  requireNonzero batch "embedding batch"
  requireNonzero dim "embedding width"
  requireElements values.length [batch, dim] "embedding"
  return (batch, dim)

/-- The sizes `embed` reads from a shape `[batch, sequence, dim]`. -/
def tokenShape (values : List F) (batch sequence dim : ℤ) : Except FfiError (ℕ × ℕ × ℕ) := do
  let batch ← dimension batch "embedding batch"
  let sequence ← dimension sequence "embedding sequence"
  let dim ← dimension dim "embedding width"
  requireNonzero batch "embedding batch"
  requireNonzero sequence "embedding sequence"
  requireNonzero dim "embedding width"
  requireElements values.length [batch, sequence, dim] "embedding"
  return (batch, sequence, dim)

/-- The `match` of `embed`. -/
def embedValues (root : SquareRoot F) (bytes : NativeBytes F) (toBytes : F → List UInt8)
    (inputs : List BorrowedTensor) (normalize : Bool) (values : List F) (shape : List ℤ) :
    Except Stop OwnedTensor :=
  match shape with
  | [batch, dim] => do
    let (batch, dim) ← (pooledShape values batch dim).mapError .error
    return finish root toBytes normalize batch dim values
  | [batch, sequence, dim] => do
    let (batch, sequence, dim) ← (tokenShape values batch sequence dim).mapError .error
    let mask := attentionMask bytes inputs batch sequence
    let pooled ← maskedMeanPool values batch sequence dim mask
    return finish root toBytes normalize batch dim pooled
  | shape => .error (.error (backendError
      s!"embedding expects [batch, dim] or [batch, sequence, dim], got {shape}"))

/-- `embed`. -/
def embed (root : SquareRoot F) (bytes : NativeBytes F) (toBytes : F → List UInt8)
    (output : OwnedTensor) (inputs : List BorrowedTensor) (normalize : Bool) :
    Except Stop OwnedTensor := do
  let values ← (f32Values bytes.f32 output "embedding").mapError .error
  embedValues root bytes toBytes inputs normalize values output.shape

/-! ## The reference -/

/-- **The mean of weighted tokens**, whose weights are taken to add up to at least `10⁻⁹`. -/
def mean (dim : ℕ) (tokens : List (F × List F)) : List F :=
  (List.range dim).map fun column =>
    (tokens.map fun token => token.1 * token.2.getD column 0).sum /
      max (tokens.map Prod.fst).sum (oneE 9)

/-- A token of a row, with its weight. -/
def token (hidden mask : List F) (sequence dim batchIndex sequenceIndex : ℕ) : F × List F :=
  (mask.getD (batchIndex * sequence + sequenceIndex) 1,
    (hidden.drop ((batchIndex * sequence + sequenceIndex) * dim)).take dim)

/-- **The first `n` tokens of a row, without the padding.** -/
def unmasked (hidden mask : List F) (sequence dim batchIndex n : ℕ) : List (F × List F) :=
  ((List.range n).map (token hidden mask sequence dim batchIndex)).filter (·.1 ≠ 0)

/-! ## A loop over columns -/

section

variable {step : List F → ℕ → Except Stop (List F)} {before after : List F} {dim offset : ℕ}

omit [Field F] [LinearOrder F] in
theorem readAt_row (h : ℕ → F) (hoffset : before.length = offset) {column : ℕ}
    (hcolumn : column < dim) :
    readAt (before ++ (List.range dim).map h ++ after) (offset + column) = .ok (h column) := by
  have hget : (before ++ (List.range dim).map h ++ after)[offset + column]? = some (h column) := by
    rw [List.append_assoc, ← hoffset, List.getElem?_append_right (Nat.le_add_right _ _),
      Nat.add_sub_cancel_left, List.getElem?_append_left (by simpa using hcolumn)]
    simp [hcolumn]
  rw [readAt, hget]

omit [Field F] [LinearOrder F] in
theorem writeAt_row (h : ℕ → F) (hoffset : before.length = offset) {column : ℕ}
    (hcolumn : column < dim) (x : F) :
    writeAt (before ++ (List.range dim).map h ++ after) (offset + column) x =
      .ok (before ++ (List.range dim).map (Function.update h column x) ++ after) := by
  rw [Preprocess.writeAt_eq_ok (by simp; omega)]
  refine congrArg _ ?_
  rw [List.append_assoc, ← hoffset, List.set_append_right _ _ (Nat.le_add_right _ _),
    Nat.add_sub_cancel_left, List.set_append_left _ _ (by simpa using hcolumn), ← List.append_assoc]
  refine congrArg (before ++ · ++ after) (List.ext_getElem (by simp) fun i hi hi' => ?_)
  simp only [List.getElem_set, List.getElem_map, List.getElem_range, Function.update_apply]
  exact if_congr eq_comm rfl rfl

omit [Field F] [LinearOrder F] in
/-- **A loop that rewrites one column after the other** rewrites them all, and nothing else. -/
theorem foldlM_columns {f : ℕ → F → F} (hoffset : before.length = offset)
    (hstep : ∀ column < dim, ∀ xs x, readAt xs (offset + column) = .ok x →
      step xs column = writeAt xs (offset + column) (f column x)) (g : ℕ → F) :
    (List.range dim).foldlM step (before ++ (List.range dim).map g ++ after) =
      .ok (before ++ (List.range dim).map (fun column => f column (g column)) ++ after) := by
  -- The induction is on how many columns are rewritten.
  have hrun : ∀ n ≤ dim, (List.range n).foldlM step (before ++ (List.range dim).map g ++ after) =
      .ok (before ++ (List.range dim).map
        (fun column => if column < n then f column (g column) else g column) ++ after) := by
    intro n hn
    induction n with
    | zero => simp; rfl
    | succ n ih =>
      rw [List.range_succ, List.foldlM_append, ih (by omega), Except.ok_bind, List.foldlM_cons,
        hstep n (by omega) _ _ (readAt_row _ hoffset (by omega)), writeAt_row _ hoffset (by omega),
        Except.ok_bind, List.foldlM_nil, Except.pure_eq_ok]
      refine congrArg (before ++ · ++ after) (List.map_congr_left fun column _ => ?_)
      rw [Function.update_apply, if_neg (lt_irrefl n)]
      by_cases heq : column = n
      · rw [if_pos heq, heq, if_pos (Nat.lt_succ_self n)]
      · rw [if_neg heq]
        exact if_congr (by omega) rfl rfl
  rw [hrun dim le_rfl]
  refine congrArg (fun row => Except.ok (before ++ row ++ after))
    (List.map_congr_left fun column hcolumn => if_pos (List.mem_range.mp hcolumn))

end

/-! ## The three loops -/

section

variable {hidden mask : List F} {sequence dim batchIndex : ℕ} {before after : List F}

omit [LinearOrder F] in
/-- A token is a part of the values. -/
theorem readAt_token {hiddenOffset column : ℕ} (hle : hiddenOffset + dim ≤ hidden.length)
    (hcolumn : column < dim) :
    readAt hidden (hiddenOffset + column) =
      .ok (((hidden.drop hiddenOffset).take dim).getD column 0) := by
  have hlt : hiddenOffset + column < hidden.length := by omega
  rw [readAt, List.getElem?_eq_getElem hlt, List.getD_eq_getElem?_getD,
    List.getElem?_take_of_lt hcolumn, List.getElem?_drop, List.getElem?_eq_getElem hlt]
  rfl

omit [LinearOrder F] in
/-- A token is added column by column. -/
theorem foldlM_addColumn {weight : F} {hiddenOffset outputOffset : ℕ}
    (hle : hiddenOffset + dim ≤ hidden.length) (hbefore : before.length = outputOffset)
    (g : ℕ → F) :
    (List.range dim).foldlM (addColumn hidden weight hiddenOffset outputOffset)
        (before ++ (List.range dim).map g ++ after) =
      .ok (before ++ (List.range dim).map (fun column =>
        g column + weight * ((hidden.drop hiddenOffset).take dim).getD column 0) ++ after) := by
  refine foldlM_columns (f := fun column x =>
    x + weight * ((hidden.drop hiddenOffset).take dim).getD column 0) hbefore ?_ g
  intro column hcolumn xs x hx
  rw [addColumn, hx, Except.ok_bind, readAt_token hle hcolumn, Except.ok_bind]

theorem unmasked_succ (hidden mask : List F) (sequence dim batchIndex n : ℕ) :
    unmasked hidden mask sequence dim batchIndex (n + 1) =
      unmasked hidden mask sequence dim batchIndex n ++
        [token hidden mask sequence dim batchIndex n].filter (·.1 ≠ 0) := by
  rw [unmasked, List.range_succ, List.map_append, List.filter_append, List.map_singleton, unmasked]

/-- **After some tokens of a row** its columns hold their weighted sums. -/
theorem foldlM_addToken {n : ℕ} (hle : (batchIndex * sequence + n) * dim ≤ hidden.length)
    (hbefore : before.length = batchIndex * dim) :
    (List.range n).foldlM (addToken hidden sequence dim mask batchIndex)
        (before ++ (List.range dim).map (fun _ => 0) ++ after, 0) =
      .ok (before ++ (List.range dim).map (fun column =>
          ((unmasked hidden mask sequence dim batchIndex n).map
            fun token => token.1 * token.2.getD column 0).sum) ++ after,
        ((unmasked hidden mask sequence dim batchIndex n).map Prod.fst).sum) := by
  induction n with
  | zero => rfl
  | succ n ih =>
    have hsucc : (batchIndex * sequence + n) * dim + dim ≤ hidden.length := by
      rwa [← Nat.succ_mul]
    rw [List.range_succ, List.foldlM_append, ih ((Nat.le_add_right _ _).trans hsucc),
      Except.ok_bind, List.foldlM_cons, addToken, unmasked_succ]
    by_cases hweight : mask.getD (batchIndex * sequence + n) 1 = 0
    · have hpadding : [token hidden mask sequence dim batchIndex n].filter (·.1 ≠ 0) = [] :=
        List.filter_eq_nil_iff.mpr (by simpa [token] using hweight)
      rw [if_pos hweight, hpadding, List.append_nil]
      rfl
    · have hkept : [token hidden mask sequence dim batchIndex n].filter (·.1 ≠ 0) =
          [token hidden mask sequence dim batchIndex n] :=
        List.filter_eq_self.mpr (by simpa [token] using hweight)
      rw [if_neg hweight, foldlM_addColumn hsucc hbefore, Except.ok_bind, hkept]
      simp only [List.map_append, List.map_singleton, List.sum_append, List.sum_singleton, token]
      rfl

/-- **A turn of the loop over the batch writes the mean of its tokens.** -/
theorem poolRow_eq (hle : (batchIndex + 1) * sequence * dim ≤ hidden.length)
    (hbefore : before.length = batchIndex * dim) :
    poolRow hidden sequence dim mask (before ++ (List.range dim).map (fun _ => 0) ++ after)
        batchIndex =
      .ok (before ++ mean dim (unmasked hidden mask sequence dim batchIndex sequence) ++ after) := by
  rw [Nat.succ_mul] at hle
  rw [poolRow, foldlM_addToken hle hbefore, Except.ok_bind]
  refine foldlM_columns (f := fun _ x => x / _) hbefore ?_ _
  intro column _ xs x hx
  rw [divideColumn, hx, Except.ok_bind]

theorem length_mean (tokens : List (F × List F)) : (mean dim tokens).length = dim := by
  rw [mean, List.length_map, List.length_range]

/-- **`masked_mean_pool` leaves one mean after the other.** -/
theorem maskedMeanPool_eq {batch : ℕ} (hsize : hidden.length = batch * sequence * dim)
    (hfits : batch * dim < usizeBound) :
    maskedMeanPool hidden batch sequence dim mask =
      .ok ((List.range batch).map fun batchIndex =>
        mean dim (unmasked hidden mask sequence dim batchIndex sequence)).flatten := by
  -- The rows not yet met still hold their zeros.
  have hrun : ∀ n ≤ batch, (List.range n).foldlM (poolRow hidden sequence dim mask)
      (List.replicate (batch * dim) 0) =
      .ok (((List.range n).map fun batchIndex =>
          mean dim (unmasked hidden mask sequence dim batchIndex sequence)).flatten ++
        List.replicate ((batch - n) * dim) 0) := by
    intro n hn
    induction n with
    | zero => rfl
    | succ n ih =>
      have hrows : ∀ row ∈ (List.range n).map fun batchIndex =>
          mean dim (unmasked hidden mask sequence dim batchIndex sequence), row.length = dim := by
        intro row hrow
        obtain ⟨_, -, rfl⟩ := List.mem_map.mp hrow
        exact length_mean _
      have hlength : ((List.range n).map fun batchIndex =>
          mean dim (unmasked hidden mask sequence dim batchIndex sequence)).flatten.length =
          n * dim := by
        rw [Detect.length_flatten_rows hrows, List.length_map, List.length_range]
      have hzeros : List.replicate ((batch - n) * dim) (0 : F) =
          (List.range dim).map (fun _ => 0) ++ List.replicate ((batch - (n + 1)) * dim) 0 := by
        rw [List.map_const', List.length_range, ← List.replicate_add, Nat.add_comm, ← Nat.succ_mul]
        congr 2
        omega
      have hle : (n + 1) * sequence * dim ≤ hidden.length := by
        rw [hsize]
        exact Nat.mul_le_mul_right dim (Nat.mul_le_mul_right sequence hn)
      rw [List.range_succ, List.foldlM_append, ih (by omega), Except.ok_bind, List.foldlM_cons,
        hzeros, ← List.append_assoc, poolRow_eq hle hlength, Except.ok_bind, List.map_append,
        List.flatten_append, List.map_singleton, List.flatten_singleton]
      rfl
  rw [maskedMeanPool, Nat.min_eq_left (by omega), hrun batch le_rfl, Nat.sub_self, Nat.zero_mul,
    List.replicate_zero, List.append_nil]

end

/-! ## Lengths -/

section

variable (root : SquareRoot F)

omit [LinearOrder F] in
theorem sumSquares_map_div (row : List F) (norm : F) :
    sumSquares (row.map (· / norm)) = sumSquares row / (norm * norm) := by
  rw [sumSquares, List.map_map, sumSquares, ← Softmax.sum_map_div]
  exact congrArg List.sum (List.map_congr_left fun x _ => div_mul_div_comm x norm x norm)

theorem sumSquares_nonneg [IsStrictOrderedRing F] (row : List F) : 0 ≤ sumSquares row := by
  refine List.sum_nonneg fun y hy => ?_
  obtain ⟨x, -, rfl⟩ := List.mem_map.mp hy
  exact mul_self_nonneg x

/-- **A normalized row is no longer than one**, and as long as that unless it was shorter than
`10⁻¹²`. -/
theorem sumSquares_normalizeRow (row : List F) :
    sumSquares (normalizeRow root row) ≤ 1 ∧
      (1 / 10 ^ 24 ≤ sumSquares row → sumSquares (normalizeRow root row) = 1) := by
  have := root.ordered
  have hnonneg := sumSquares_nonneg row
  have hroot := root.mul_self _ hnonneg
  have hfloor : (0 : F) < oneE 12 := Detect.oneE_pos 12
  have hnorm : sumSquares (normalizeRow root row) = sumSquares row /
      (max (root.sqrt (sumSquares row)) (oneE 12) *
        max (root.sqrt (sumSquares row)) (oneE 12)) := sumSquares_map_div row _
  rw [hnorm]
  rcases le_total (oneE 12) (root.sqrt (sumSquares row)) with hlong | hshort
  · have hpos : 0 < sumSquares row := hroot ▸ mul_pos (hfloor.trans_le hlong) (hfloor.trans_le hlong)
    rw [max_eq_left hlong, hroot, div_self hpos.ne']
    exact ⟨le_rfl, fun _ => rfl⟩
  · have hsquare : sumSquares row ≤ oneE 12 * oneE 12 := by
      rw [← hroot]
      exact mul_le_mul hshort hshort (root.nonneg _) hfloor.le
    rw [max_eq_right hshort]
    refine ⟨(div_le_one (mul_pos hfloor hfloor)).mpr hsquare, fun hlong => ?_⟩
    have heq : sumSquares row = oneE 12 * oneE 12 := by
      refine hsquare.antisymm (le_of_eq_of_le ?_ hlong)
      rw [oneE, div_mul_div_comm, ← pow_add, one_mul]
    rw [heq, div_self (mul_pos hfloor hfloor).ne']

theorem l2NormalizeRows_flatten {rows : List (List F)} {dim : ℕ} (hpos : 0 < dim)
    (hrows : ∀ row ∈ rows, row.length = dim) :
    l2NormalizeRows root rows.flatten rows.length dim = rows.flatMap (normalizeRow root) := by
  rw [l2NormalizeRows, Detect.chunksExact_flatten hpos hrows, List.take_length,
    Detect.length_flatten_rows hrows, Nat.mul_div_cancel _ hpos, Nat.min_self,
    ← Detect.length_flatten_rows hrows, List.drop_length, List.append_nil]

end

/-! ## The whole function -/

/-- **The vectors of an output**: its rows as they are, or the mean of the unmasked tokens of each of
them. -/
inductive Pooled (bytes : NativeBytes F) (inputs : List BorrowedTensor) (output : OwnedTensor) :
    List (List F) → ℕ → Prop
  | vectors {rows : List (List F)} {dim : ℕ} :
    output.shape = [(rows.length : ℤ), (dim : ℤ)] → 0 < rows.length → 0 < dim →
    parseF32 bytes.f32 output.data = rows.flatten → (∀ row ∈ rows, row.length = dim) →
    rows.length * dim < usizeBound → Pooled bytes inputs output rows dim
  | tokens {batch sequence dim : ℕ} :
    output.shape = [(batch : ℤ), (sequence : ℤ), (dim : ℤ)] → 0 < batch → 0 < sequence → 0 < dim →
    (parseF32 bytes.f32 output.data).length = batch * sequence * dim →
    batch * sequence * dim < usizeBound →
    Pooled bytes inputs output ((List.range batch).map fun batchIndex =>
      mean dim (unmasked (parseF32 bytes.f32 output.data)
        (attentionMask bytes inputs batch sequence) sequence dim batchIndex sequence)) dim

variable {root : SquareRoot F} {bytes : NativeBytes F} {toBytes : F → List UInt8}
  {inputs : List BorrowedTensor} {output : OwnedTensor}

theorem Pooled.width {rows : List (List F)} {dim : ℕ} (h : Pooled bytes inputs output rows dim) :
    ∀ row ∈ rows, row.length = dim := by
  cases h with
  | vectors _ _ _ _ hwidth _ => exact hwidth
  | tokens =>
    intro row hrow
    obtain ⟨_, -, rfl⟩ := List.mem_map.mp hrow
    exact length_mean _

theorem Pooled.pos {rows : List (List F)} {dim : ℕ} (h : Pooled bytes inputs output rows dim) :
    0 < dim := by
  cases h with
  | vectors _ _ hpos _ _ _ => exact hpos
  | tokens _ _ _ hpos _ _ => exact hpos

theorem requireNonzero_eq_ok {value : ℕ} {label : String} {u : Unit} :
    requireNonzero value label = .ok u ↔ 0 < value := by
  rw [requireNonzero, Except.raiseIf_eq_ok, Nat.pos_iff_ne_zero]

omit [Field F] [LinearOrder F] in
theorem pooledShape_eq_ok {values : List F} {rows columns : ℤ} {batch dim : ℕ} :
    pooledShape values rows columns = .ok (batch, dim) ↔ rows = batch ∧ columns = dim ∧ 0 < batch ∧
      0 < dim ∧ values.length < usizeBound ∧ values.length = batch * dim := by
  simp only [pooledShape, Except.bind_eq_ok, Detect.dimension_eq_ok, requireNonzero_eq_ok,
    Except.pure_eq_ok, Prod.mk.injEq]
  constructor
  · rintro ⟨_, rfl, _, rfl, _, hbatch, _, hdim, _, hsize, rfl, rfl⟩
    have hfits := (Detect.requireElements_eq_ok (by simpa using hdim)).mp hsize
    rw [List.prod_singleton] at hfits
    exact ⟨rfl, rfl, hbatch, hdim, hfits⟩
  · rintro ⟨rfl, rfl, hbatch, hdim, hfits⟩
    refine ⟨_, rfl, _, rfl, (), hbatch, (), hdim, (), ?_, rfl, rfl⟩
    exact (Detect.requireElements_eq_ok (by simpa using hdim)).mpr (by rwa [List.prod_singleton])

omit [Field F] [LinearOrder F] in
theorem tokenShape_eq_ok {values : List F} {rows tokens columns : ℤ} {batch sequence dim : ℕ} :
    tokenShape values rows tokens columns = .ok (batch, sequence, dim) ↔
      rows = batch ∧ tokens = sequence ∧ columns = dim ∧ 0 < batch ∧ 0 < sequence ∧ 0 < dim ∧
        values.length < usizeBound ∧ values.length = batch * sequence * dim := by
  simp only [tokenShape, Except.bind_eq_ok, Detect.dimension_eq_ok, requireNonzero_eq_ok,
    Except.pure_eq_ok, Prod.mk.injEq]
  have hprod : [sequence, dim].prod = sequence * dim := by simp
  constructor
  · rintro ⟨_, rfl, _, rfl, _, rfl, _, hbatch, _, hsequence, _, hdim, _, hsize, rfl, rfl, rfl⟩
    have hfits := (Detect.requireElements_eq_ok (by simpa using ⟨hsequence, hdim⟩)).mp hsize
    rw [hprod, ← mul_assoc] at hfits
    exact ⟨rfl, rfl, rfl, hbatch, hsequence, hdim, hfits⟩
  · rintro ⟨rfl, rfl, rfl, hbatch, hsequence, hdim, hfits⟩
    refine ⟨_, rfl, _, rfl, _, rfl, (), hbatch, (), hsequence, (), hdim, (), ?_, rfl, rfl, rfl⟩
    exact (Detect.requireElements_eq_ok (by simpa using ⟨hsequence, hdim⟩)).mpr
      (by rwa [hprod, ← mul_assoc])

theorem finish_eq {rows : List (List F)} {dim : ℕ} (normalize : Bool) (hpos : 0 < dim)
    (hrows : ∀ row ∈ rows, row.length = dim) :
    finish root toBytes normalize rows.length dim rows.flatten =
      f32Tensor toBytes "embedding" [(rows.length : ℤ), (dim : ℤ)]
        (rows.flatMap (if normalize then normalizeRow root else id)) := by
  rw [finish]
  cases normalize with
  | false => rw [if_neg nofun, if_neg nofun, List.flatMap_id]
  | true => rw [if_pos rfl, if_pos rfl, l2NormalizeRows_flatten root hpos hrows]

/-- Pooling finds every value it reads. -/
theorem maskedMeanPool_of_shape {values mask : List F} {rows tokens columns : ℤ}
    {batch sequence dim : ℕ}
    (h : tokenShape values rows tokens columns = .ok (batch, sequence, dim)) :
    maskedMeanPool values batch sequence dim mask =
      .ok ((List.range batch).map fun batchIndex =>
        mean dim (unmasked values mask sequence dim batchIndex sequence)).flatten := by
  obtain ⟨-, -, -, -, hsequence, -, hfits, hsize⟩ := tokenShape_eq_ok.mp h
  refine maskedMeanPool_eq hsize (lt_of_le_of_lt ?_ (hsize ▸ hfits))
  exact Nat.mul_le_mul_right dim (Nat.le_mul_of_pos_right batch hsequence)

/-- **The `match` of `embed` answers with the vectors of the output.** -/
theorem embedValues_eq_ok {normalize : Bool} {result : OwnedTensor} :
    embedValues root bytes toBytes inputs normalize (parseF32 bytes.f32 output.data) output.shape =
        .ok result ↔
      ∃ rows dim, Pooled bytes inputs output rows dim ∧
        result = f32Tensor toBytes "embedding" [(rows.length : ℤ), (dim : ℤ)]
          (rows.flatMap (if normalize then normalizeRow root else id)) := by
  constructor
  · intro h
    rw [embedValues.eq_def] at h
    split at h
    · next rows columns hshape =>
      simp only [Except.bind_eq_ok, Prod.exists, Except.mapError_eq_ok, Except.pure_eq_ok] at h
      obtain ⟨batch, dim, hsizes, rfl⟩ := h
      obtain ⟨rfl, rfl, hbatch, hdim, hfits, hsize⟩ := pooledShape_eq_ok.mp hsizes
      obtain ⟨rows, hrows, rfl, hwidth⟩ := Detect.exists_rows hsize
      refine ⟨rows, dim, .vectors hshape hbatch hdim hrows hwidth (hsize ▸ hfits), ?_⟩
      rw [hrows, finish_eq normalize hdim hwidth]
    · next rows tokens columns hshape =>
      simp only [Except.bind_eq_ok, Prod.exists, Except.mapError_eq_ok, Except.pure_eq_ok] at h
      obtain ⟨batch, sequence, dim, hsizes, pooled, hpooled, rfl⟩ := h
      rw [maskedMeanPool_of_shape hsizes] at hpooled
      obtain ⟨rfl, rfl, rfl, hbatch, hsequence, hdim, hfits, hsize⟩ := tokenShape_eq_ok.mp hsizes
      have hrows : Pooled bytes inputs output _ dim :=
        .tokens hshape hbatch hsequence hdim hsize (hsize ▸ hfits)
      refine ⟨_, dim, hrows, ?_⟩
      rw [← finish_eq normalize hdim hrows.width, ← Except.ok.inj hpooled, List.length_map,
        List.length_range]
    · cases h
  · rintro ⟨rows, dim, h, rfl⟩
    rw [← finish_eq normalize h.pos h.width]
    cases h with
    | vectors hshape hbatch hdim hrows hwidth hfits =>
      have hsize := Detect.length_flatten_rows hwidth
      have hsizes : pooledShape (parseF32 bytes.f32 output.data) rows.length dim =
          .ok (rows.length, dim) :=
        pooledShape_eq_ok.mpr ⟨rfl, rfl, hbatch, hdim, by rw [hrows, hsize]; exact hfits,
          by rw [hrows, hsize]⟩
      rw [embedValues.eq_def, hshape, hrows]
      dsimp only
      rw [← hrows, hsizes, hrows]
      rfl
    | @tokens batch sequence dim hshape hbatch hsequence hdim hsize hfits =>
      have hsizes : tokenShape (parseF32 bytes.f32 output.data) batch sequence dim =
          .ok (batch, sequence, dim) :=
        tokenShape_eq_ok.mpr ⟨rfl, rfl, rfl, hbatch, hsequence, hdim, hsize ▸ hfits, hsize⟩
      simp only [embedValues, hshape, hsizes, Except.mapError, Except.ok_bind,
        maskedMeanPool_of_shape hsizes, List.length_map, List.length_range]
      rfl

theorem mapError_ne_panicked {α : Type} {x : Except FfiError α} :
    x.mapError Stop.error ≠ .error .panicked := by
  cases x <;> nofun

theorem embedValues_ne_panicked {normalize : Bool} {values : List F} {shape : List ℤ} :
    embedValues root bytes toBytes inputs normalize values shape ≠ .error .panicked := by
  intro h
  rw [embedValues.eq_def] at h
  split at h
  · rcases Except.bind_eq_error.mp h with h | ⟨_, _, h⟩
    · exact mapError_ne_panicked h
    · exact nomatch h
  · rcases Except.bind_eq_error.mp h with h | ⟨⟨batch, sequence, dim⟩, hsizes, h⟩
    · exact mapError_ne_panicked h
    · rw [Except.mapError_eq_ok] at hsizes
      dsimp only at h
      rw [maskedMeanPool_of_shape hsizes] at h
      exact nomatch h
  · exact nomatch h

/-- **An output is accepted exactly when it has vectors**, and answered by them: by the means of the
unmasked tokens, whatever stands in the others.  No index is out of bounds, and a normalized vector
is no longer than one, and as long as that unless it was shorter than `10⁻¹²`. -/
theorem embed_exact (root : SquareRoot F) (bytes : NativeBytes F) (toBytes : F → List UInt8)
    (output result : OwnedTensor) (inputs : List BorrowedTensor) (normalize : Bool) :
    (embed root bytes toBytes output inputs normalize = .ok result ↔
      output.dtype = .f32 ∧ output.data.length % 4 = 0 ∧
        ∃ rows dim, Pooled bytes inputs output rows dim ∧
          result = f32Tensor toBytes "embedding" [(rows.length : ℤ), (dim : ℤ)]
            (rows.flatMap (if normalize then normalizeRow root else id))) ∧
    embed root bytes toBytes output inputs normalize ≠ .error .panicked ∧
    ∀ row, sumSquares (normalizeRow root row) ≤ 1 ∧
      (1 / 10 ^ 24 ≤ sumSquares row → sumSquares (normalizeRow root row) = 1) := by
  refine ⟨?_, fun h => ?_, sumSquares_normalizeRow root⟩
  · simp only [embed, Except.bind_eq_ok, Except.mapError_eq_ok, Detect.f32Values_eq_ok]
    constructor
    · rintro ⟨_, ⟨hdtype, hwhole, rfl⟩, h⟩
      exact ⟨hdtype, hwhole, embedValues_eq_ok.mp h⟩
    · rintro ⟨hdtype, hwhole, h⟩
      exact ⟨_, ⟨hdtype, hwhole, rfl⟩, embedValues_eq_ok.mpr h⟩
  · rcases Except.bind_eq_error.mp h with h | ⟨_, _, h⟩
    · exact mapError_ne_panicked h
    · exact embedValues_ne_panicked h

/-- The floats `0` and `1`, and no mask. -/
noncomputable def unitBytes : NativeBytes ℝ where
  f32 a b c d := if [a, b, c, d] = [0, 0, 128, 63] then 1 else 0
  i32 _ := 0
  i64 _ := 0

/-- One vector, along the diagonal. -/
def diagonal : OwnedTensor where
  name := "raw"
  dtype := .f32
  shape := [1, 2]
  data := [0, 0, 128, 63, 0, 0, 128, 63]

/-- The diagonal is scaled to length one. -/
theorem embed_exact_diagonal (toBytes : ℝ → List UInt8) :
    embed SquareRoot.real unitBytes toBytes diagonal [] true =
        .ok (f32Tensor toBytes "embedding" [1, 2] (normalizeRow SquareRoot.real [1, 1])) ∧
      sumSquares (normalizeRow SquareRoot.real [1, 1]) = 1 := by
  obtain ⟨hanswer, -, hlength⟩ := embed_exact SquareRoot.real unitBytes toBytes diagonal
    (f32Tensor toBytes "embedding" [1, 2] (normalizeRow SquareRoot.real [1, 1])) [] true
  have hvalues : parseF32 unitBytes.f32 diagonal.data = [1, 1] := by
    simp [parseF32, unitBytes, diagonal]
  refine ⟨hanswer.mpr ⟨rfl, rfl, [[1, 1]], 2, .vectors rfl Nat.one_pos Nat.two_pos hvalues ?_ ?_, ?_⟩,
    (hlength [1, 1]).2 ?_⟩
  · simp
  · decide
  · simp
  · norm_num [sumSquares]

end Kapsl.Ort.Embedding
