import Kapsl.Lib.Softmax
import Kapsl.Ort.Transcribe

/-!
# Ort/Classify — a row of probabilities for every row of scores

`classify` reads rows of scores and, if it is told to, turns each of them into probabilities with
`softmax_rows`, which overwrites a row twice: with the exponentials of the scores less the highest
of them, then with these over their sum.

`softmaxRow_eq` compares a turn with the softmax: the subtraction and the lower bound of the sum keep
floats in range and change no exact number.  `classify_exact` is the account of the whole function.

Scores are exact, as in `Ort/Detect`, and the exponential is one that keeps its laws.
-/

namespace Kapsl.Ort.Detect

open Except (raiseIf)
open Softmax (Exponential softmax Ranked)

variable {F : Type} [Field F] [LinearOrder F]

/-! ## `softmax_rows` -/

/-- The loop of `softmax_rows` that leaves the exponentials and adds them up. -/
def exponentials (E : Exponential F) (maximum : F) (row : List F) : List F × F :=
  row.foldl (fun done value =>
    (done.1 ++ [E.exp (value - maximum)], done.2 + E.exp (value - maximum))) ([], 0)

/-- The maximum of a row; `⊥` is `f32::NEG_INFINITY`. -/
def maximum (row : List F) : WithBot F :=
  row.foldl (fun (best : WithBot F) (value : F) => max best ↑value) ⊥

/-- The literals `1e-9` and `1e-12`: what a divisor is taken to be at least. -/
def oneE (digits : ℕ) : F := 1 / 10 ^ digits

theorem oneE_pos [IsStrictOrderedRing F] (digits : ℕ) : (0 : F) < oneE digits := by
  rw [oneE]
  positivity

/-- One turn of `softmax_rows`. -/
def softmaxRow (E : Exponential F) (row : List F) : List F :=
  match maximum row with
  -- The row is empty, and neither loop has a turn.
  | none => row
  | some maximum =>
    let (values, sum) := exponentials E maximum row
    let sum := max sum (oneE 12)
    values.map (· / sum)

/-- `softmax_rows`, for rows that are not empty. -/
def softmaxRows (E : Exponential F) (values : List F) (classes : ℕ) : List F :=
  (chunksExact classes values).flatMap (softmaxRow E) ++
    values.drop (values.length / classes * classes)

/-! ## `classify` -/

/-- The sizes `classify` reads from the shape, and the shape of its result. -/
def classShape (shape : List ℤ) : Except FfiError (ℕ × ℕ × List ℤ) :=
  match shape with
  | [classes] => do
    let classes ← dimension classes "classification classes"
    return (1, classes, [1, (classes : ℤ)])
  | [batch, classes] => do
    let batch ← dimension batch "classification batch"
    let classes ← dimension classes "classification classes"
    return (batch, classes, shape)
  | shape => .error (backendError
      s!"classification expects [classes] or [batch, classes], got {shape}")

/-- `classify`. -/
def classify (E : Exponential F) (ofBytes : UInt8 → UInt8 → UInt8 → UInt8 → F)
    (toBytes : F → List UInt8) (output : OwnedTensor) (applySoftmax : Bool) :
    Except FfiError OwnedTensor := do
  let values ← f32Values ofBytes output "classification"
  let (batch, classes, shape) ← classShape output.shape
  raiseIf (classes = 0) (backendError "classification output has zero classes")
  requireElements values.length [batch, classes] "classification"
  let values := if applySoftmax then softmaxRows E values classes else values
  return f32Tensor toBytes "probabilities" shape values

/-! ## What the checks let through -/

omit [Field F] [LinearOrder F] in
theorem f32Values_eq_ok {ofBytes : UInt8 → UInt8 → UInt8 → UInt8 → F} {output : OwnedTensor}
    {task : String} {values : List F} :
    f32Values ofBytes output task = .ok values ↔ output.dtype = .f32 ∧
      output.data.length % 4 = 0 ∧ values = parseF32 ofBytes output.data := by
  simp only [f32Values, Except.bind_eq_ok, Except.raiseIf_eq_ok, Except.pure_eq_ok, not_or, not_not]
  constructor
  · rintro ⟨_, ⟨hdtype, hwhole⟩, rfl⟩
    exact ⟨hdtype, hwhole, rfl⟩
  · rintro ⟨hdtype, hwhole, rfl⟩
    exact ⟨(), ⟨hdtype, hwhole⟩, rfl⟩

theorem dimension_eq_ok {value : ℤ} {label : String} {n : ℕ} :
    dimension value label = .ok n ↔ value = n := by
  simp only [dimension, Except.bind_eq_ok, Except.raiseIf_eq_ok, Except.pure_eq_ok]
  constructor
  · rintro ⟨_, hvalue, rfl⟩
    omega
  · rintro rfl
    exact ⟨(), by omega, Int.toNat_natCast n⟩

theorem checkedProduct_eq_ok {label : String} {total dimension n : ℕ} :
    checkedProduct label total dimension = .ok n ↔
      total * dimension < usizeBound ∧ n = total * dimension := by
  simp only [checkedProduct, Except.bind_eq_ok, Except.raiseIf_eq_ok, Except.pure_eq_ok, not_le]
  exact ⟨fun ⟨_, hlt, heq⟩ => ⟨hlt, heq.symm⟩, fun ⟨hlt, heq⟩ => ⟨(), hlt, heq.symm⟩⟩

/-- No partial product exceeds the product of positive dimensions. -/
theorem foldlM_checkedProduct_eq_ok {label : String} {dimensions : List ℕ} {total n : ℕ}
    (hpos : ∀ d ∈ dimensions, 0 < d) (htotal : total < usizeBound) :
    dimensions.foldlM (checkedProduct label) total = .ok n ↔
      total * dimensions.prod < usizeBound ∧ n = total * dimensions.prod := by
  induction dimensions generalizing total with
  | nil =>
    rw [List.foldlM_nil, Except.pure_eq_ok, List.prod_nil, mul_one]
    exact ⟨fun heq => ⟨htotal, heq.symm⟩, fun h => h.2.symm⟩
  | cons d dimensions ih =>
    obtain ⟨hd, hpos⟩ := List.forall_mem_cons.mp hpos
    have hprod : 0 < dimensions.prod := List.prod_pos hpos
    simp only [List.foldlM_cons, Except.bind_eq_ok, checkedProduct_eq_ok, List.prod_cons,
      ← mul_assoc]
    constructor
    · rintro ⟨_, ⟨hlt, rfl⟩, h⟩
      exact (ih hpos hlt).mp h
    · rintro ⟨hlt, heq⟩
      have hfirst : total * d < usizeBound := (Nat.le_mul_of_pos_right _ hprod).trans_lt hlt
      exact ⟨_, ⟨hfirst, rfl⟩, (ih hpos hfirst).mpr ⟨hlt, heq⟩⟩

/-- **The values are as many as the shape implies**, a number that fits a `usize`. -/
theorem requireElements_eq_ok {actual first : ℕ} {dimensions : List ℕ} {label : String} {u : Unit}
    (hpos : ∀ d ∈ dimensions, 0 < d) :
    requireElements actual (first :: dimensions) label = .ok u ↔
      actual < usizeBound ∧ actual = first * dimensions.prod := by
  have hprod : 0 < dimensions.prod := List.prod_pos hpos
  simp only [requireElements, Except.bind_eq_ok, List.foldlM_cons, checkedProduct_eq_ok, one_mul,
    Except.raiseIf_eq_ok, not_not]
  constructor
  · rintro ⟨_, ⟨_, ⟨hfirst, rfl⟩, h⟩, rfl⟩
    obtain ⟨hlt, heq⟩ := (foldlM_checkedProduct_eq_ok hpos hfirst).mp h
    exact ⟨heq ▸ hlt, heq⟩
  · rintro ⟨hlt, rfl⟩
    have hfirst : first < usizeBound := (Nat.le_mul_of_pos_right _ hprod).trans_lt hlt
    exact ⟨_, ⟨_, ⟨hfirst, rfl⟩, (foldlM_checkedProduct_eq_ok hpos hfirst).mpr ⟨hlt, rfl⟩⟩, rfl⟩

/-! ## Rows -/

/-- A list cut into rows of a size is those rows put together. -/
theorem chunksExact_flatten {α : Type} {size : ℕ} (hpos : 0 < size) {rows : List (List α)}
    (hrows : ∀ row ∈ rows, row.length = size) : chunksExact size rows.flatten = rows := by
  induction rows with
  | nil => rw [chunksExact, List.flatten_nil, List.length_nil, Nat.zero_div, List.range_zero]; rfl
  | cons row rows ih =>
    obtain ⟨hrow, hrows⟩ := List.forall_mem_cons.mp hrows
    have hcount : (row ++ rows.flatten).length / size = rows.flatten.length / size + 1 := by
      rw [List.length_append, hrow, Nat.add_comm, Nat.add_div_right _ hpos]
    rw [List.flatten_cons, chunksExact, hcount, List.range_succ_eq_map, List.map_cons,
      List.map_map, Nat.zero_mul, List.drop_zero, List.take_left' hrow]
    refine congrArg (row :: ·) (Eq.trans (List.map_congr_left fun i _ => ?_) (ih hrows))
    rw [Function.comp_apply, Nat.succ_mul, Nat.add_comm, ← List.drop_drop, List.drop_left' hrow]

theorem length_flatten_rows {α : Type} {size : ℕ} {rows : List (List α)}
    (hrows : ∀ row ∈ rows, row.length = size) : rows.flatten.length = rows.length * size := by
  rw [List.length_flatten, List.map_congr_left hrows, List.map_const', List.sum_replicate_nat]

/-- **Values as many as some rows hold are such rows.** -/
theorem exists_rows {α : Type} {batch size : ℕ} {values : List α}
    (h : values.length = batch * size) :
    ∃ rows : List (List α), values = rows.flatten ∧ rows.length = batch ∧
      ∀ row ∈ rows, row.length = size := by
  induction batch generalizing values with
  | zero =>
    rw [Nat.zero_mul] at h
    exact ⟨[], List.eq_nil_of_length_eq_zero h, rfl, nofun⟩
  | succ batch ih =>
    rw [Nat.succ_mul] at h
    have hrest : (values.drop size).length = batch * size := by
      rw [List.length_drop]
      omega
    obtain ⟨rows, heq, rfl, hrows⟩ := ih hrest
    refine ⟨values.take size :: rows, ?_, rfl, List.forall_mem_cons.mpr ⟨?_, hrows⟩⟩
    · rw [List.flatten_cons, ← heq, List.take_append_drop]
    · rw [List.length_take]
      omega

/-! ## A row of probabilities -/

theorem foldl_exponentials (E : Exponential F) (m : F) (row : List F) (values : List F) (sum : F) :
    row.foldl (fun done value =>
        (done.1 ++ [E.exp (value - m)], done.2 + E.exp (value - m))) (values, sum) =
      (values ++ row.map fun x => E.exp (x - m), sum + (row.map fun x => E.exp (x - m)).sum) := by
  induction row generalizing values sum with
  | nil => rw [List.foldl_nil, List.map_nil, List.append_nil, List.sum_nil, add_zero]
  | cons x row ih =>
    rw [List.foldl_cons, ih, List.map_cons, List.sum_cons, List.append_assoc, List.singleton_append,
      add_assoc]

theorem exponentials_eq (E : Exponential F) (m : F) (row : List F) :
    exponentials E m row =
      (row.map fun x => E.exp (x - m), (row.map fun x => E.exp (x - m)).sum) := by
  rw [exponentials, foldl_exponentials, List.nil_append, zero_add]

omit [Field F] in
theorem foldl_max_eq (row : List F) (best : F) :
    ∃ m : F, row.foldl (fun (best : WithBot F) (value : F) => max best ↑value) ↑best = some m ∧
      m ∈ best :: row := by
  induction row generalizing best with
  | nil => exact ⟨best, rfl, List.mem_cons_self⟩
  | cons x row ih =>
    rw [List.foldl_cons, ← WithBot.coe_max]
    obtain ⟨m, heq, hmem⟩ := ih (max best x)
    refine ⟨m, heq, ?_⟩
    obtain rfl | hmem := List.mem_cons.mp hmem
    · rcases max_choice best x with h | h <;> rw [h] <;> simp
    · exact List.mem_cons_of_mem _ (List.mem_cons_of_mem _ hmem)

omit [Field F] in
/-- The maximum of a row stands in it. -/
theorem maximum_eq {row : List F} (h : row ≠ []) : ∃ m ∈ row, maximum row = some m := by
  cases row with
  | nil => exact absurd rfl h
  | cons x row =>
    obtain ⟨m, heq, hmem⟩ := foldl_max_eq row x
    exact ⟨m, hmem, by rw [maximum, List.foldl_cons, max_eq_right bot_le]; exact heq⟩

/-- **A turn of the loop leaves the softmax of its row.** -/
theorem softmaxRow_eq (E : Exponential F) {row : List F} (h : row ≠ []) :
    softmaxRow E row = softmax E row := by
  have := E.ordered
  obtain ⟨m, hmem, hmax⟩ := maximum_eq h
  have hfloor : oneE 12 ≤ (row.map fun x => E.exp (x - m)).sum := by
    refine le_trans ?_ (Softmax.one_le_sum_exp_sub E hmem)
    rw [oneE, div_le_one (by positivity)]
    exact one_le_pow₀ (by norm_num)
  simp only [softmaxRow, hmax, exponentials_eq, max_eq_left hfloor, List.map_map]
  exact Softmax.softmax_shift E row m

theorem softmaxRows_flatten (E : Exponential F) {rows : List (List F)} {classes : ℕ}
    (hpos : 0 < classes) (hrows : ∀ row ∈ rows, row.length = classes) :
    softmaxRows E rows.flatten classes = rows.flatMap (softmax E) := by
  rw [softmaxRows, chunksExact_flatten hpos hrows, length_flatten_rows hrows,
    Nat.mul_div_cancel _ hpos, ← length_flatten_rows hrows, List.drop_length, List.append_nil,
    List.flatMap_def, List.flatMap_def]
  refine congrArg _ (List.map_congr_left fun row hrow => softmaxRow_eq E ?_)
  rintro rfl
  exact hpos.ne (hrows [] hrow)

/-! ## The whole function -/

/-- **The rows of scores of an output**, which has floats of `[classes]` or `[batch, classes]`. -/
structure Scores (ofBytes : UInt8 → UInt8 → UInt8 → UInt8 → F) (output : OwnedTensor)
    (rows : List (List F)) (classes : ℕ) : Prop where
  dtype : output.dtype = .f32
  whole : output.data.length % 4 = 0
  shape : output.shape = [(rows.length : ℤ), (classes : ℤ)] ∨
    rows.length = 1 ∧ output.shape = [(classes : ℤ)]
  pos : 0 < classes
  width : ∀ row ∈ rows, row.length = classes
  values : parseF32 ofBytes output.data = rows.flatten
  fits : rows.length * classes < usizeBound

theorem classShape_eq_ok {shape result : List ℤ} {batch classes : ℕ} :
    classShape shape = .ok (batch, classes, result) ↔
      (shape = [(batch : ℤ), (classes : ℤ)] ∨ batch = 1 ∧ shape = [(classes : ℤ)]) ∧
        result = [(batch : ℤ), (classes : ℤ)] := by
  match shape with
  | [] => simp [classShape]
  | [size] =>
    simp only [classShape, Except.bind_eq_ok, dimension_eq_ok, Except.pure_eq_ok]
    constructor
    · rintro ⟨_, rfl, heq⟩
      obtain ⟨rfl, rfl, rfl⟩ := heq
      exact ⟨.inr ⟨rfl, rfl⟩, rfl⟩
    · rintro ⟨h | ⟨rfl, h⟩, rfl⟩
      · simp at h
      · exact ⟨classes, by simpa using h, rfl⟩
  | [rows, size] =>
    simp only [classShape, Except.bind_eq_ok, dimension_eq_ok, Except.pure_eq_ok]
    constructor
    · rintro ⟨_, rfl, _, rfl, heq⟩
      obtain ⟨rfl, rfl, rfl⟩ := heq
      exact ⟨.inl rfl, rfl⟩
    · rintro ⟨h | ⟨-, h⟩, rfl⟩
      · obtain ⟨rfl, rfl⟩ : rows = batch ∧ size = classes := by simpa using h
        exact ⟨_, rfl, _, rfl, rfl⟩
      · simp at h
  | _ :: _ :: _ :: _ => simp [classShape]

/-- **An output is accepted exactly when it has rows of scores**, and answered by as many rows of
the same width: those rows, or their softmax, each a distribution that ranks the classes as the
scores did. -/
theorem classify_exact (E : Exponential F) (ofBytes : UInt8 → UInt8 → UInt8 → UInt8 → F)
    (toBytes : F → List UInt8) (output result : OwnedTensor) (applySoftmax : Bool) :
    (classify E ofBytes toBytes output applySoftmax = .ok result ↔
      ∃ rows classes, Scores ofBytes output rows classes ∧
        result = f32Tensor toBytes "probabilities" [(rows.length : ℤ), (classes : ℤ)]
          (rows.flatMap (if applySoftmax then softmax E else id))) ∧
    ∀ rows classes, Scores ofBytes output rows classes →
      ∀ row ∈ rows, Ranked row (softmax E row) := by
  refine ⟨?_, fun rows classes h row hrow => Softmax.ranked_softmax E ?_⟩
  · simp only [classify, Except.bind_eq_ok, f32Values_eq_ok, Prod.exists, classShape_eq_ok,
      Except.raiseIf_eq_ok, Except.pure_eq_ok]
    constructor
    · rintro ⟨_, ⟨hdtype, hwhole, rfl⟩, batch, classes, _, ⟨hshape, rfl⟩, _, hne, _, hsize, rfl⟩
      have hpos := Nat.pos_of_ne_zero hne
      obtain ⟨hfits, hlength⟩ := (requireElements_eq_ok (by simpa using hpos)).mp hsize
      rw [List.prod_singleton] at hlength
      obtain ⟨rows, hrows, rfl, hwidth⟩ := exists_rows hlength
      refine ⟨rows, classes, ⟨hdtype, hwhole, hshape, hpos, hwidth, hrows, hlength ▸ hfits⟩, ?_⟩
      rw [hrows]
      cases applySoftmax with
      | false => rw [if_neg nofun, if_neg nofun, List.flatMap_id]
      | true => rw [if_pos rfl, if_pos rfl, softmaxRows_flatten E hpos hwidth]
    · rintro ⟨rows, classes, h, rfl⟩
      have hlength := length_flatten_rows h.width
      refine ⟨_, ⟨h.dtype, h.whole, rfl⟩, rows.length, classes, _, ⟨h.shape, rfl⟩, (), h.pos.ne', (),
        (requireElements_eq_ok (by simpa using h.pos)).mpr ?_, ?_⟩
      · rw [h.values, List.prod_singleton, hlength]
        exact ⟨h.fits, rfl⟩
      · rw [h.values]
        cases applySoftmax with
        | false => rw [if_neg nofun, if_neg nofun, List.flatMap_id]
        | true => rw [if_pos rfl, if_pos rfl, softmaxRows_flatten E h.pos h.width]
  · rintro rfl
    exact h.pos.ne (h.width [] hrow)

end Kapsl.Ort.Detect
