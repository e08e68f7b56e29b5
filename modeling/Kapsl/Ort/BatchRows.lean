import Mathlib.Data.List.Forall2
import Mathlib.Data.List.Perm.Basic
import Kapsl.Ort.InferBatch

/-!
# Ort/BatchRows — what a stack that succeeds says of the single requests

* `RowWise` — the promise of a model: a stacked run that keeps its rows is the row-wise
  concatenation of the single runs.
* `split_of_concat` — splitting a concatenation by rows gives the parts back.
* `inferStacked_ok` — the outputs of a stack that succeeded are those `infer` gives its requests one
  by one.
-/

namespace Kapsl.Ort

open Attempt (Returns exec)
open List (Forall₂)

/-! ## Rows -/

/-- The rows of an ORT input. -/
def SessionInput.rows (x : SessionInput) : ℕ := x.shape.headD 0

/-- `x` is `xs` stacked by rows. -/
structure StackOf (x : SessionInput) (xs : List SessionInput) : Prop where
  same : ∀ y ∈ xs, y.shape ≠ [] ∧ y.element = x.element ∧ y.shape.tail = x.shape.tail
  rows : x.shape.head? = some (xs.map (·.rows)).sum
  data : x.data = xs.flatMap (·.data)

/-- `v` is the row-wise concatenation of `ys`. -/
structure ConcatOf (v : OrtTensor) (ys : List OrtTensor) : Prop where
  same : ∀ y ∈ ys, y.element = v.element ∧ y.shape.tail = v.shape.tail
  data : v.data = ys.flatMap (·.data)

/-- **What stacking relies on**: a run on a row-stacked input that succeeds with all its rows is the
concatenation of the single runs, each of which has the rows of its own input. -/
def RowWise (run : List (Option String × SessionInput) → Except String (List OrtValue)) : Prop :=
  ∀ x xs v vs ys, StackOf x xs → run [(none, x)] = .ok (.tensor v :: vs) →
    v.shape.head? = x.shape.head? →
    Forall₂ (fun x y => ∃ rest, run [(none, x)] = .ok (.tensor y :: rest)) xs ys →
    Forall₂ (fun x y => y.shape.head? = some x.rows) xs ys ∧ ConcatOf v ys

/-! ## Splitting a concatenation -/

theorem splitTotalFrom_eq {rows : List ℤ} {total result : ℕ}
    (h : splitTotalFrom total rows = .ok result) : result = total + (rows.map Int.toNat).sum := by
  induction rows generalizing total with
  | nil => simpa using (Except.ok.inj h).symm
  | cons r rows ih =>
    rw [splitTotalFrom] at h
    split_ifs at h
    rw [ih h, List.map_cons, List.sum_cons, Nat.add_assoc]

/-- **The loop of the split hands out the parts one after the other.** -/
theorem splitRows_eq {output : OwnedTensor} {rowBytes offset : ℕ} {rows : List ℤ}
    {parts outputs : List OwnedTensor}
    (hparts : Forall₂ (fun r part => part.data.length = r.toNat * rowBytes ∧
      part = { output with shape := output.shape.set 0 r, data := part.data }) rows parts)
    (hdata : output.data.drop offset = parts.flatMap (·.data))
    (h : splitRows output rowBytes offset rows = .ok outputs) : outputs = parts := by
  induction hparts generalizing offset outputs with
  | nil => exact (Except.ok.inj h).symm
  | @cons r part rows parts hpart hrest ih =>
    obtain ⟨hlength, heq⟩ := hpart
    rw [splitRows] at h
    split_ifs at h
    split at h
    · exact absurd h (by simp)
    · rename_i results hresults
      have hnext : output.data.drop (offset + r.toNat * rowBytes) = parts.flatMap (·.data) := by
        rw [← List.drop_drop, hdata, List.flatMap_cons, ← hlength, List.drop_left]
      have hhead : (output.data.drop offset).take (r.toNat * rowBytes) = part.data := by
        rw [hdata, List.flatMap_cons, ← hlength, List.take_left]
      obtain rfl := Except.ok.inj h
      rw [ih hnext hresults, hhead, ← heq]

/-- A part of a concatenation differs from it in its rows and its bytes only. -/
theorem owned_of_part {v y : OrtTensor} {name : String} {d : ℕ} {tail : List ℕ} {r : ℤ}
    (hv : v.shape = d :: tail) (hsame : y.element = v.element ∧ y.shape.tail = v.shape.tail)
    (hrow : y.shape.head? = some r.toNat ∧ 0 ≤ r) :
    (y.owned name).data.length = r.toNat * (tail.prod * v.element.bytes) ∧
      y.owned name = { v.owned name with
        shape := (v.owned name).shape.set 0 r, data := (y.owned name).data } := by
  obtain ⟨helement, htail⟩ := hsame
  obtain ⟨hhead, hr⟩ := hrow
  have hy : y.shape = r.toNat :: tail := by
    rw [← List.cons_head?_tail hhead, htail, hv, List.tail_cons]
  constructor
  · rw [OrtTensor.owned, y.size, hy, helement, List.prod_cons, Nat.mul_assoc]
  · simp only [OrtTensor.owned, hy, hv, helement, List.map_cons, List.set_cons_zero]
    rw [show Int.ofNat r.toNat = r from Int.toNat_of_nonneg hr]

/-- **What a split that succeeded has checked**: the tensor has the rows that were asked for, and
the loop hands them out by the bytes of one row. -/
theorem splitStackedOutput_ok {v : OrtTensor} {name : String} {rows : List ℤ}
    {outputs : List OwnedTensor} (h : splitStackedOutput (v.owned name) rows = .ok outputs) :
    ∃ tail, v.shape = (rows.map Int.toNat).sum :: tail ∧
      splitRows (v.owned name) (tail.prod * v.element.bytes) 0 rows = .ok outputs := by
  obtain hv | ⟨d, tail, hv⟩ : v.shape = [] ∨ ∃ d tail, v.shape = d :: tail := by
    cases v.shape <;> simp
  · simp [splitStackedOutput, OrtTensor.owned, hv] at h
  have howned : (v.owned name).shape = (d : ℤ) :: tail.map Int.ofNat := by
    rw [OrtTensor.owned, hv, List.map_cons, Int.ofNat_eq_natCast]
  simp only [splitStackedOutput, howned, Except.bind_eq_ok, Except.raiseIf_eq_ok, not_or,
    not_not] at h
  obtain ⟨total, htotal, -, ⟨hd, hne, -⟩, -, -, -, -, hsplit⟩ := h
  have hrows : d = total := Int.ofNat_inj.mp hd
  have hrowBytes : (v.owned name).data.length / total = tail.prod * v.element.bytes := by
    rw [OrtTensor.owned, v.size, hv, List.prod_cons, Nat.mul_assoc, ← hrows]
    exact Nat.mul_div_cancel_left _ (Nat.pos_of_ne_zero fun hzero => hne (by omega))
  refine ⟨tail, ?_, hrowBytes ▸ hsplit⟩
  rw [hv, hrows, splitTotalFrom_eq htotal, Nat.zero_add]

/-- **Splitting a concatenation gives the parts back.** -/
theorem split_of_concat {v : OrtTensor} {ys : List OrtTensor} {name : String} {rows : List ℤ}
    {outputs : List OwnedTensor} (hconcat : ConcatOf v ys)
    (hrows : Forall₂ (fun r y => y.shape.head? = some r.toNat ∧ 0 ≤ r) rows ys)
    (h : splitStackedOutput (v.owned name) rows = .ok outputs) :
    outputs = ys.map (·.owned name) := by
  obtain ⟨tail, hv, hsplit⟩ := splitStackedOutput_ok h
  refine splitRows_eq ?_ ?_ hsplit
  · rw [List.forall₂_map_right_iff]
    refine List.forall₂_iff_get.mpr ⟨hrows.length_eq, fun i hi hi' => ?_⟩
    exact owned_of_part hv (hconcat.same _ (List.get_mem _ _)) (hrows.get hi hi')
  · rw [List.drop_zero, List.flatMap_map]
    exact hconcat.data

/-- **A split that succeeded saw every row.** -/
theorem head_of_split {v : OrtTensor} {name : String} {rows : List ℤ} {outputs : List OwnedTensor}
    (h : splitStackedOutput (v.owned name) rows = .ok outputs) :
    v.shape.head? = some (rows.map Int.toNat).sum := by
  obtain ⟨tail, hv, -⟩ := splitStackedOutput_ok h
  rw [hv, List.head?_cons]

/-! ## Stacking -/

/-- What `to_session_input` made of a tensor. -/
theorem toSessionInput_ok {code : Dtype → UInt32} {x : BorrowedTensor} {value : SessionInput}
    (h : toSessionInput code x = .ok value) :
    (∀ d ∈ x.shape, 0 ≤ d) ∧ preparedElement code x.dtype = .ok value.element ∧
      value.shape = x.shape.map Int.toNat ∧ value.data = x.data := by
  simp only [toSessionInput, Except.bind_eq_ok, Except.raiseIf_eq_ok, Except.pure_eq_ok] at h
  obtain ⟨-, hneg, -, -, element, helement, rfl⟩ := h
  refine ⟨fun d hd => ?_, helement, rfl, rfl⟩
  by_contra hlt
  exact hneg (List.any_eq_true.mpr ⟨d, hd, by simpa using hlt⟩)

/-- The rows ORT sees are the rows of the request. -/
theorem rows_of_toSessionInput {code : Dtype → UInt32} {x : BorrowedTensor} {value : SessionInput}
    (h : toSessionInput code x = .ok value) : 0 ≤ x.rows ∧ value.rows = x.rows.toNat := by
  obtain ⟨hnonneg, -, hshape, -⟩ := toSessionInput_ok h
  rw [SessionInput.rows, hshape, BorrowedTensor.rows]
  rcases hx : x.shape with _ | ⟨d, tail⟩
  · exact ⟨Int.le_refl 0, rfl⟩
  · exact ⟨hnonneg d (by simp [hx]), rfl⟩

/-- **The loop of `stack_group` adds the rows up and joins the bytes.** -/
theorem stackRows_ok {first : BorrowedTensor} {inputs : List BorrowedTensor} {total total' : ℤ}
    {data data' : List UInt8} (h : stackRows first inputs total data = .ok (total', data')) :
    (∀ x ∈ inputs, x.dtype = first.dtype ∧ x.shape.tail = first.shape.tail) ∧
      total' = total + (inputs.map (·.rows)).sum ∧ data' = data ++ inputs.flatMap (·.data) := by
  induction inputs generalizing total data with
  | nil =>
    obtain ⟨rfl, rfl⟩ := Prod.mk.inj (Except.ok.inj h)
    simp
  | cons x inputs ih =>
    rw [stackRows] at h
    split_ifs at h with hsame
    rw [not_or, not_not, not_not] at hsame
    split at h
    · exact absurd h nofun
    · rename_i next hnext
      obtain ⟨hrest, htotal, hdata⟩ := ih h
      have hadd : next = total + x.rows := by
        rw [checkedAddI64] at hnext
        split_ifs at hnext
        exact (Option.some.inj hnext).symm
      refine ⟨List.forall_mem_cons.mpr ⟨hsame, hrest⟩, ?_, ?_⟩
      · rw [htotal, hadd, List.map_cons, List.sum_cons, Int.add_assoc]
      · rw [hdata, List.flatMap_cons, List.append_assoc]

/-- The rows of a stack, counted by ORT. -/
theorem sum_rows_toNat {code : Dtype → UInt32} {xs : List BorrowedTensor}
    {values : List SessionInput}
    (h : Forall₂ (fun x value => toSessionInput code x = .ok value) xs values) :
    0 ≤ (xs.map BorrowedTensor.rows).sum ∧
      (values.map SessionInput.rows).sum = (xs.map BorrowedTensor.rows).sum.toNat ∧
      (values.map SessionInput.rows).sum = ((xs.map BorrowedTensor.rows).map Int.toNat).sum := by
  induction h with
  | nil => exact ⟨Int.le_refl 0, rfl, rfl⟩
  | @cons x value xs values hx hrest ih =>
    obtain ⟨hnonneg, hrow⟩ := rows_of_toSessionInput hx
    obtain ⟨hsum, heq, heach⟩ := ih
    simp only [List.map_cons, List.sum_cons, hrow]
    omega

/-- The bytes of a stack, as ORT has them. -/
theorem flatMap_data {code : Dtype → UInt32} {xs : List BorrowedTensor} {values : List SessionInput}
    (h : Forall₂ (fun x value => toSessionInput code x = .ok value) xs values) :
    xs.flatMap BorrowedTensor.data = values.flatMap SessionInput.data := by
  induction h with
  | nil => rfl
  | cons hx _ ih =>
    obtain ⟨-, -, -, heq⟩ := toSessionInput_ok hx
    rw [List.flatMap_cons, List.flatMap_cons, ih, heq]

/-- **What `stack_group` makes is the stack of the inputs, as ORT sees them.** -/
theorem stackOf_stackGroup {code : Dtype → UInt32} {first stacked : BorrowedTensor}
    {xs : List BorrowedTensor} {values : List SessionInput} {value : SessionInput}
    (hfirst : first.shape ≠ []) (hxs : ∀ x ∈ xs, x.shape ≠ [])
    (hvalues : Forall₂ (fun x value => toSessionInput code x = .ok value) xs values)
    (hstack : stackGroup first xs = .ok stacked)
    (hvalue : toSessionInput code stacked = .ok value) : StackOf value values := by
  rw [stackGroup] at hstack
  split at hstack
  · exact absurd hstack nofun
  rename_i total data hrows
  obtain ⟨hsame, htotal, hdata⟩ := stackRows_ok hrows
  obtain rfl := Except.ok.inj hstack
  obtain ⟨-, helement, hshape, hbytes⟩ := toSessionInput_ok hvalue
  obtain ⟨d, tail, hcons⟩ := List.exists_cons_of_ne_nil hfirst
  simp only [hcons, List.set_cons_zero, List.map_cons] at hshape
  refine ⟨fun y hy => ?_, ?_, ?_⟩
  · obtain ⟨i, hi, rfl⟩ := List.getElem_of_mem hy
    have hlen : i < xs.length := by rwa [hvalues.length_eq]
    obtain ⟨-, helement', hshape', -⟩ := toSessionInput_ok (hvalues.get hlen hi)
    obtain ⟨hdtype, htail⟩ := hsame _ (List.getElem_mem hlen)
    rw [List.get_eq_getElem, hdtype, helement] at helement'
    rw [List.get_eq_getElem, List.get_eq_getElem] at hshape'
    refine ⟨fun hnil => ?_, (Except.ok.inj helement').symm, ?_⟩
    · exact hxs _ (List.getElem_mem hlen) (List.map_eq_nil_iff.mp (hshape'.symm.trans hnil))
    rw [hshape', hshape, ← List.map_tail, htail, hcons, List.tail_cons, List.tail_cons]
  · rw [hshape, List.head?_cons, htotal, Int.zero_add, (sum_rows_toNat hvalues).2.1]
  · rw [hbytes, hdata, List.nil_append, flatMap_data hvalues]

/-! ## A stack that succeeded -/

variable {ω : Type} {b : Backend ω}

/-- What a session answered on the only input of a request. -/
structure SingleRun (b : Backend ω) (x : BorrowedTensor) (value : SessionInput) (y : OrtTensor) :
    Prop where
  input : toSessionInput b.code x = .ok value
  output : ∃ rest, b.run [(none, value)] = .ok (.tensor y :: rest)

/-- The end of a run that succeeded. -/
theorem primaryOutput_ok {name : String} {answer : Except String (List OrtValue)}
    {out : OwnedTensor} {w w' : ω} (h : exec (b.primaryOutput name answer) w = (.ok out, w')) :
    ∃ y rest, answer = .ok (.tensor y :: rest) ∧ out = y.owned name := by
  match answer with
  | .error e =>
    obtain ⟨_, _, -, h⟩ := Attempt.exec_bind_eq_ok h
    obtain ⟨_, _, -, h⟩ := Attempt.exec_bind_eq_ok h
    exact absurd (congrArg Prod.fst h) nofun
  | .ok values =>
    obtain ⟨_, _, -, h⟩ := Attempt.exec_bind_eq_ok h
    obtain ⟨_, _, -, h⟩ := Attempt.exec_bind_eq_ok h
    match values with
    | [] => exact absurd (congrArg Prod.fst h) nofun
    | .unsupported :: _ => exact absurd (congrArg Prod.fst h) nofun
    | .tensor y :: rest =>
      exact ⟨y, rest, rfl, (Except.ok.inj (congrArg Prod.fst h)).symm⟩

/-- **An `infer` of one input that succeeded is a run on that input**, under the first output's
name. -/
theorem infer_single_ok {x : BorrowedTensor} {out : OwnedTensor} {w w' : ω}
    (h : exec (b.infer [x]) w = (.ok out, w')) :
    ∃ value y, SingleRun b x value y ∧ out = y.owned (b.outputNames.headD "") := by
  obtain ⟨_, _, -, h⟩ := Attempt.exec_bind_eq_ok h
  obtain ⟨_, _, -, h⟩ := Attempt.exec_bind_eq_ok h
  obtain ⟨_, _, -, h⟩ := Attempt.exec_bind_eq_ok h
  obtain ⟨_, _, -, h⟩ := Attempt.exec_bind_eq_ok h
  obtain ⟨_, _, -, h⟩ := Attempt.exec_bind_eq_ok h
  obtain ⟨name, _, hname, h⟩ := Attempt.exec_bind_eq_ok h
  obtain ⟨_, _, -, h⟩ := Attempt.exec_bind_eq_ok h
  obtain ⟨values, _, hvalues, h⟩ := Attempt.exec_bind_eq_ok h
  obtain ⟨value, _, hvalue, hvalues⟩ := Attempt.exec_bind_eq_ok hvalues
  obtain rfl := Except.ok.inj (congrArg Prod.fst hvalues)
  obtain ⟨_, _, hinput, hvalue⟩ := Attempt.exec_bind_eq_ok hvalue
  obtain ⟨_, _, -, hvalue⟩ := Attempt.exec_bind_eq_ok hvalue
  obtain rfl := Except.ok.inj (congrArg Prod.fst hvalue)
  obtain ⟨y, rest, hrun, rfl⟩ := primaryOutput_ok h
  refine ⟨_, y, ⟨congrArg Prod.fst hinput, rest, hrun⟩, ?_⟩
  rcases hnames : b.outputNames with _ | ⟨first, names⟩
  · rw [hnames] at hname
    exact absurd (congrArg Prod.fst hname) nofun
  · rw [hnames] at hname
    obtain rfl := Except.ok.inj (congrArg Prod.fst hname)
    rfl

instance : Inhabited SessionInput := ⟨⟨.u8, [], []⟩⟩

instance : Inhabited OrtTensor := ⟨⟨.u8, [0], [], rfl⟩⟩

/-- **A stacked run, split by rows, gives the outputs of the single runs.** -/
theorem split_of_stacked (hrun : RowWise b.run) {first stacked : BorrowedTensor}
    {xs : List BorrowedTensor} {values : List SessionInput} {ys : List OrtTensor}
    {total : SessionInput} {v : OrtTensor} {name : String} {outputs : List OwnedTensor}
    (hfirst : first.shape ≠ []) (hxs : ∀ x ∈ xs, x.shape ≠ [])
    (hvalues : Forall₂ (fun x value => toSessionInput b.code x = .ok value) xs values)
    (hanswers : Forall₂ (fun value y => ∃ rest, b.run [(none, value)] = .ok (.tensor y :: rest))
      values ys)
    (hstack : stackGroup first xs = .ok stacked) (hstacked : SingleRun b stacked total v)
    (hsplit : splitStackedOutput (v.owned name) (xs.map (·.rows)) = .ok outputs) :
    outputs = ys.map (·.owned name) := by
  have hstackOf := stackOf_stackGroup hfirst hxs hvalues hstack hstacked.input
  obtain ⟨rest, hanswer⟩ := hstacked.output
  have hhead : v.shape.head? = total.shape.head? := by
    rw [head_of_split hsplit, hstackOf.rows, (sum_rows_toNat hvalues).2.2]
  obtain ⟨hown, hconcat⟩ := hrun _ _ v rest _ hstackOf hanswer hhead hanswers
  refine split_of_concat hconcat ?_ hsplit
  rw [List.forall₂_map_left_iff]
  refine List.forall₂_iff_get.mpr ⟨hvalues.length_eq.trans hown.length_eq, fun i hi hi' => ?_⟩
  have hlen : i < values.length := by rwa [hown.length_eq]
  obtain ⟨hnonneg, hrows⟩ := rows_of_toSessionInput (hvalues.get hi hlen)
  exact ⟨by rw [hown.get hlen hi', hrows], hnonneg⟩

/-- **A stack that succeeded answers each of its requests as `infer` would.** -/
theorem inferStacked_ok (hrun : RowWise b.run) {requests : List (List BorrowedTensor)}
    {indices : List ℕ} {outs outputs : List OwnedTensor} {w w' : ω} (hne : indices ≠ [])
    (hgroup : ∀ i ∈ indices, 2 ≤ (primaryOf requests i).shape.length ∧
      ∃ out, outs[i]? = some out ∧ Returns (b.infer [primaryOf requests i]) (· = out))
    (h : exec (b.inferStacked requests indices) w = (.ok outputs, w')) :
    Forall₂ (fun i out => outs[i]? = some out) indices outputs := by
  have hsingles : ∀ i ∈ indices, ∃ value y, SingleRun b (primaryOf requests i) value y ∧
      outs[i]? = some (y.owned (b.outputNames.headD "")) := by
    intro i hi
    obtain ⟨-, out, hout, hreturns⟩ := hgroup i hi
    obtain ⟨_, _, hexec, rfl⟩ := hreturns w
    obtain ⟨value, y, hsingle, rfl⟩ := infer_single_ok hexec
    exact ⟨value, y, hsingle, hout⟩
  choose! value y hsingle houts using hsingles
  obtain ⟨stacked, _, hstack, h⟩ := Attempt.exec_bind_eq_ok h
  obtain ⟨output, _, houtput, h⟩ := Attempt.exec_bind_eq_ok h
  obtain ⟨total, v, hstacked, rfl⟩ := infer_single_ok houtput
  have hshapes : ∀ x ∈ indices.map (primaryOf requests), x.shape ≠ [] := by
    intro x hx
    obtain ⟨i, hi, rfl⟩ := List.mem_map.mp hx
    exact List.ne_nil_of_length_pos (Nat.lt_of_lt_of_le Nat.zero_lt_two (hgroup i hi).1)
  have hfirst : (primaryOf requests (indices.headD 0)).shape ≠ [] := by
    obtain ⟨i, rest, rfl⟩ := List.exists_cons_of_ne_nil hne
    exact hshapes _ List.mem_cons_self
  have hvalues : Forall₂ (fun x value => toSessionInput b.code x = .ok value)
      (indices.map (primaryOf requests)) (indices.map value) := by
    rw [List.forall₂_map_left_iff, List.forall₂_map_right_iff, List.forall₂_same]
    exact fun i hi => (hsingle i hi).input
  have hanswers : Forall₂ (fun x y => ∃ rest, b.run [(none, x)] = .ok (.tensor y :: rest))
      (indices.map value) (indices.map y) := by
    rw [List.forall₂_map_left_iff, List.forall₂_map_right_iff, List.forall₂_same]
    exact fun i hi => (hsingle i hi).output
  rw [split_of_stacked hrun hfirst hshapes hvalues hanswers (congrArg Prod.fst hstack) hstacked
    (congrArg Prod.fst h)]
  simp only [List.map_map, List.forall₂_map_right_iff, List.forall₂_same]
  exact houts

end Kapsl.Ort
