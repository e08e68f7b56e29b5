import Kapsl.Ort.BucketSessions

/-!
# Ort/BucketKeys — when the key of a bucket is exact

A key is the dtype, the rank and the first dimensions of a tensor, all but the very first of them
rounded up to a multiple of the configured granularity.  Rounding goes through `i64`, and
`validate_tuning` bounds the other fields of the tuning but not the granularity.

* `roundedDim_eq` — below `2 ^ 63` the rounding is exact.
* `bucketKey_eq` — the key as a list of fields that no field's text can break.
* `bucketKey_exact_iff` — a key is exact precisely when no dimension it rounds leaves `i64` with the
  granularity added.
-/

namespace Kapsl.Ort

open Except (raiseIf)

/-! ## Tunings and tensors that are let through -/

def maxSessionPoolSize : ℕ := 64

/-- `validate_tuning`. -/
def validateTuning : Option OrtTuning → Except FfiError Unit
  | none => .ok ()
  | some tuning => do
    raiseIf (tuning.sessionBuckets = some 0 ∨ tuning.bucketDimGranularity = some 0 ∨
        tuning.bucketMaxDims = some 0 ∨ tuning.peakConcurrencyHint = some 0)
      (invalidArgument "native ORT tuning values must be positive when supplied")
    raiseIf (tuning.sessionBuckets.any fun value => decide (maxSessionBuckets < value.toNat))
      (invalidArgument s!"native ORT session_buckets may not exceed {maxSessionBuckets}")
    raiseIf (tuning.peakConcurrencyHint.any fun value => decide (maxSessionPoolSize < value.toNat))
      (invalidArgument s!"native ORT peak_concurrency_hint may not exceed {maxSessionPoolSize}")

/-- What `request_tensors` promises of one tensor; its dimensions are `i64`. -/
structure Admitted (t : BorrowedTensor) : Prop where
  validated : Validated [t]
  i64 : ∀ d ∈ t.shape, d < 2 ^ 63

/-- The ABI gives the dtypes it knows numbers of their own. -/
def NumbersDtypes (code : Dtype → UInt32) : Prop :=
  ∀ d d' size size', dtypeBytes d = .ok size → dtypeBytes d' = .ok size' → code d = code d' → d = d'

theorem shapeElementsFrom_pos {shape : List ℤ} {elements total : ℕ}
    (h : shapeElementsFrom elements shape = .ok total) : ∀ d ∈ shape, 0 < d := by
  induction shape generalizing elements with
  | nil => exact fun d hd => absurd hd List.not_mem_nil
  | cons dimension shape ih =>
    rw [shapeElementsFrom] at h
    split at h
    · exact nomatch h
    · split at h
      · exact nomatch h
      · split at h
        · exact nomatch h
        · intro d hd
          rcases List.mem_cons.mp hd with rfl | hd
          exacts [by omega, ih h d hd]

theorem Admitted.pos {t : BorrowedTensor} (h : Admitted t) : ∀ d ∈ t.shape, 0 < d := by
  obtain ⟨elements, size, helements, -, -⟩ := h.validated.bytes t (List.mem_singleton_self t)
  exact shapeElementsFrom_pos helements

namespace OrtBackend

/-! ## The purpose of a key -/

/-- The granularity of the tuning. -/
def configuredGranularity (b : OrtBackend) : ℕ := (b.tuning.bucketDimGranularity.getD 64).toNat

/-- How many dimensions a key shows. -/
def configuredMaxDims (b : OrtBackend) : ℕ := (b.tuning.bucketMaxDims.getD 4).toNat

/-- The dimensions a key shows, the first one apart from those it rounds. -/
def keyedDims (b : OrtBackend) (t : BorrowedTensor) : List ℤ := t.shape.take b.configuredMaxDims

/-- The same backend in a build that panics on every overflow. -/
def checked (b : OrtBackend) : OrtBackend := { b with overflowChecks := true }

/-- **The keys of two tensors are exact** — no operation overflows, a rounded dimension is the least
multiple of the granularity not below it, and the keys agree when dtype, rank, first dimension and
rounded dimensions do. -/
structure Exact (b : OrtBackend) (t t' : BorrowedTensor) : Prop where
  no_overflow : ∀ s ∈ [t, t'], b.checked.bucketKey s ≠ none
  least : ∀ s ∈ [t, t'], ∀ d ∈ (b.keyedDims s).tail, ∃ rounded, b.roundedDim d = some rounded ∧
    IsLeast {m : ℤ | (b.configuredGranularity : ℤ) ∣ m ∧ d ≤ m} rounded
  key_eq_iff : b.bucketKey t = b.bucketKey t' ↔ t.dtype = t'.dtype ∧
    t.shape.length = t'.shape.length ∧ t.shape.head? = t'.shape.head? ∧
    (b.keyedDims t).tail.map b.roundedDim = (b.keyedDims t').tail.map b.roundedDim

/-! ## Rounding -/

variable {b : OrtBackend}

theorem bounds_of_validateTuning (h : validateTuning (some b.tuning) = .ok ()) :
    1 ≤ b.configuredGranularity ∧ 1 ≤ b.configuredMaxDims := by
  simp only [validateTuning, Except.bind_eq_ok, Except.raiseIf_eq_ok, exists_const] at h
  obtain ⟨hzero, -⟩ := h
  have hpos : ∀ (value : Option UInt64) (other : UInt64), value ≠ some 0 → other ≠ 0 →
      1 ≤ (value.getD other).toNat := by
    intro value other hvalue hother
    have hne : value.getD other ≠ 0 := by
      cases value with
      | none => exact hother
      | some value => exact fun heq => hvalue (congrArg some heq)
    exact Nat.one_le_iff_ne_zero.mpr fun heq => hne (UInt64.toNat_inj.mp heq)
  exact ⟨hpos _ 64 (fun h => hzero (.inr (.inl h))) (by decide),
    hpos _ 4 (fun h => hzero (.inr (.inr (.inl h)))) (by decide)⟩

/-- The rounding without machine integers. -/
def roundUp (granularity d : ℤ) : ℤ := (d + granularity - 1) / granularity * granularity

theorem isLeast_roundUp {granularity : ℤ} (hpos : 0 < granularity) (d : ℤ) :
    IsLeast {m | granularity ∣ m ∧ d ≤ m} (roundUp granularity d) := by
  refine ⟨⟨Int.dvd_mul_left _ _, ?_⟩, ?_⟩
  · have hlt := Int.lt_ediv_add_one_mul_self (d + granularity - 1) hpos
    rw [Int.add_mul, one_mul] at hlt
    rw [roundUp]
    omega
  · rintro m ⟨⟨k, rfl⟩, hm⟩
    have hk : (d + granularity - 1) / granularity < k + 1 := by
      refine Int.ediv_lt_of_lt_mul hpos ?_
      rw [Int.add_mul, one_mul, Int.mul_comm k]
      omega
    rw [roundUp, Int.mul_comm granularity]
    exact Int.mul_le_mul_of_nonneg_right (by omega) hpos.le

theorem i64_eq {x : ℤ} (hlow : -2 ^ 63 ≤ x) (hhigh : x < 2 ^ 63) : b.i64 x = some x :=
  if_pos ⟨hlow, hhigh⟩

theorem granularity_eq (hpos : 1 ≤ b.configuredGranularity) :
    b.granularity = (b.configuredGranularity : ℤ).bmod (2 ^ 64) := by
  rw [granularity, max_eq_left (by exact_mod_cast hpos)]
  rfl

/-- **Below `2 ^ 63` the rounding is exact**, in either build. -/
theorem roundedDim_eq (hgranularity : 1 ≤ b.configuredGranularity) {d : ℤ} (hd : 0 < d)
    (hsum : d + b.configuredGranularity < 2 ^ 63) :
    b.roundedDim d = some (roundUp b.configuredGranularity d) := by
  have hpos : (0 : ℤ) < b.configuredGranularity := by omega
  have hg : b.granularity = b.configuredGranularity :=
    (granularity_eq hgranularity).trans (Int.bmod_eq_of_le (by omega) (by omega))
  have hle := Int.ediv_mul_le (d + b.configuredGranularity - 1) hpos.ne'
  have hquotient := Int.ediv_nonneg (a := d + b.configuredGranularity - 1) (by omega) hpos.le
  have hbound := Int.ediv_le_self (b.configuredGranularity : ℤ)
    (show 0 ≤ d + b.configuredGranularity - 1 by omega)
  have hproduct := Int.mul_nonneg hquotient hpos.le
  rw [roundedDim, hg, i64_eq (by omega) hsum, Option.bind_eq_bind, Option.bind_some,
    i64_eq (by omega) (by omega), Option.bind_some, Int.tdiv_eq_ediv_of_nonneg (by omega)]
  exact (if_pos ⟨by omega, by omega⟩).trans (i64_eq (by omega) (by omega))

/-- Every rounded dimension is an `i64`. -/
theorem lt_of_roundedDim {d rounded : ℤ} (h : b.roundedDim d = some rounded) :
    rounded < 2 ^ 63 := by
  have hi64 : ∀ {x y : ℤ}, b.i64 x = some y → y < 2 ^ 63 := by
    intro x y hx
    have hbmod := Int.bmod_lt (x := x) (m := 2 ^ 64) (by decide)
    rw [i64] at hx
    split at hx
    · exact Option.some.inj hx ▸ (by assumption : _ ∧ _).2
    · split at hx
      · exact nomatch hx
      · rw [← Option.some.inj hx]
        omega
  simp only [roundedDim, Option.bind_eq_bind, Option.bind_eq_some_iff] at h
  obtain ⟨sum, -, dividend, -, h⟩ := h
  split at h
  · exact hi64 h
  · exact nomatch h

/-- **Only below `2 ^ 63`**: above it the checked build panics, or the granularity is no `i64` and
none of its multiples can be returned. -/
theorem sum_lt_of_roundedDim (hgranularity : 1 ≤ b.configuredGranularity) {d rounded : ℤ}
    (hd : 0 < d) (hchecked : b.checked.roundedDim d ≠ none)
    (hrounded : b.roundedDim d = some rounded)
    (hleast : IsLeast {m : ℤ | (b.configuredGranularity : ℤ) ∣ m ∧ d ≤ m} rounded) :
    d + b.configuredGranularity < 2 ^ 63 := by
  obtain ⟨hdvd, hle⟩ := hleast.1
  have hmultiple : (b.configuredGranularity : ℤ) ≤ rounded := Int.le_of_dvd (by omega) hdvd
  have hlt := hmultiple.trans_lt (lt_of_roundedDim hrounded)
  have hg : b.checked.granularity = b.configuredGranularity :=
    (granularity_eq hgranularity).trans (Int.bmod_eq_of_le (by omega) (by omega))
  by_contra hover
  refine hchecked ?_
  have hnone : b.checked.i64 (d + b.configuredGranularity) = none := by
    rw [i64, if_neg (fun h => hover h.2)]
    rfl
  rw [roundedDim, hg, hnone]
  rfl

/-! ## The text of a key -/

/-- The dimensions as a key shows them. -/
def shownDims (b : OrtBackend) (t : BorrowedTensor) : List ℤ :=
  (b.keyedDims t).head?.toList ++ (b.keyedDims t).tail.map (roundUp b.configuredGranularity)

/-- The fields of a key. -/
def keyFields (b : OrtBackend) (t : BorrowedTensor) : List String :=
  (toString (b.dtypeCode t.dtype) :: ("r" ++ toString t.shape.length) ::
    (b.shownDims t).map toString) ++ if b.configuredMaxDims < t.shape.length then ["*"] else []

theorem intercalate_eq_foldl (separator field : String) (fields : List String) :
    separator.intercalate (field :: fields) =
      fields.foldl (fun text field => text ++ separator ++ field) field := by
  induction fields generalizing field with
  | nil => rfl
  | cons next fields ih => exact ih _

/-- No dimension behind the first one has index zero. -/
theorem mapM_zipIdx_succ {f : ℤ → Option ℤ} {g : ℤ → ℤ} {dims : List ℤ}
    (h : ∀ d ∈ dims, f d = some (g d)) (start : ℕ) :
    ((dims.zipIdx (start + 1)).mapM fun (d, index) => if index = 0 then some d else f d) =
      some (dims.map g) := by
  induction dims generalizing start with
  | nil => rfl
  | cons d dims ih =>
    rw [List.zipIdx_cons, List.mapM_cons, ih (fun d' hd' => h d' (List.mem_cons_of_mem d hd'))]
    simp only [Nat.add_one_ne_zero, if_false, h d List.mem_cons_self]
    rfl

/-- **The key as fields**, while the rounding is exact. -/
theorem bucketKey_eq (hmaxDims : 1 ≤ b.configuredMaxDims) {t : BorrowedTensor}
    (h : ∀ d ∈ (b.keyedDims t).tail,
      b.roundedDim d = some (roundUp b.configuredGranularity d)) :
    b.bucketKey t = some (":".intercalate (b.keyFields t)) := by
  have hmax : max (b.tuning.bucketMaxDims.getD 4).toNat 1 = b.configuredMaxDims :=
    max_eq_left hmaxDims
  have hdims : ((b.keyedDims t).zipIdx.mapM fun (d, index) =>
      if index = 0 then some d else b.roundedDim d) = some (b.shownDims t) := by
    rw [shownDims]
    cases hkeyed : b.keyedDims t with
    | nil => rfl
    | cons first dims =>
      rw [hkeyed, List.tail_cons] at h
      rw [List.zipIdx_cons, List.mapM_cons, mapM_zipIdx_succ h]
      rfl
  have hstart : toString (b.dtypeCode t.dtype) ++ ":r" ++ toString t.shape.length =
      toString (b.dtypeCode t.dtype) ++ ":" ++ ("r" ++ toString t.shape.length) :=
    calc toString (b.dtypeCode t.dtype) ++ ":r" ++ toString t.shape.length
      _ = toString (b.dtypeCode t.dtype) ++ (":" ++ "r") ++ toString t.shape.length := rfl
      _ = _ := by simp only [String.append_assoc]
  have hstar : ∀ text : String, text ++ ":" ++ "*" = text ++ ":*" := fun _ => String.append_assoc
  rw [keyedDims] at hdims
  simp only [bucketKey, hmax, hdims, Option.bind_eq_bind, Option.bind_some, keyFields]
  rw [List.cons_append, intercalate_eq_foldl, List.cons_append, List.foldl_cons, List.foldl_append,
    List.foldl_map, ← hstart]
  split
  · rw [List.foldl_cons, List.foldl_nil, hstar]
    rfl
  · rfl

/-- A dimension that is not rounded leaves no dimensions. -/
theorem mapM_zipIdx_eq_none {f : ℤ → Option ℤ} {dims : List ℤ} {d : ℤ} (hd : d ∈ dims)
    (h : f d = none) (start : ℕ) :
    ((dims.zipIdx (start + 1)).mapM fun (d, index) => if index = 0 then some d else f d) =
      none := by
  induction dims generalizing start with
  | nil => exact absurd hd List.not_mem_nil
  | cons first dims ih =>
    rw [List.zipIdx_cons, List.mapM_cons]
    simp only [Nat.add_one_ne_zero, if_false]
    rcases List.mem_cons.mp hd with rfl | hd
    · rw [h]
      rfl
    · rw [ih hd]
      cases f first <;> rfl

/-- A key that is made rounds its dimensions. -/
theorem roundedDim_ne_none (hmaxDims : 1 ≤ b.configuredMaxDims) {t : BorrowedTensor}
    (h : b.bucketKey t ≠ none) : ∀ d ∈ (b.keyedDims t).tail, b.roundedDim d ≠ none := by
  have hmax : max (b.tuning.bucketMaxDims.getD 4).toNat 1 = b.configuredMaxDims :=
    max_eq_left hmaxDims
  intro d hd hnone
  refine h ?_
  have hdims : ((b.keyedDims t).zipIdx.mapM fun (d, index) =>
      if index = 0 then some d else b.roundedDim d) = none := by
    cases hkeyed : b.keyedDims t with
    | nil => exact absurd (hkeyed ▸ hd) List.not_mem_nil
    | cons first dims =>
      rw [hkeyed, List.tail_cons] at hd
      rw [List.zipIdx_cons, List.mapM_cons, mapM_zipIdx_eq_none hd hnone]
      rfl
  rw [keyedDims] at hdims
  simp only [bucketKey, hmax, hdims, Option.bind_eq_bind, Option.bind_none]

/-- The text of a number is digits. -/
theorem isDigit_of_mem_toString {n : ℕ} {c : Char} (h : c ∈ (toString n).toList) :
    c.isDigit = true :=
  Nat.isDigit_of_mem_toDigits (by omega) (by omega)
    (show c ∈ Nat.toDigits 10 n from Nat.toList_repr (n := n) ▸ h)

theorem natText_injective {m n : ℕ} (h : toString m = toString n) : m = n := by
  have hdigits : Nat.toDigits 10 m = Nat.toDigits 10 n := by
    rw [← Nat.toList_repr, ← Nat.toList_repr]
    exact congrArg String.toList h
  rw [← Nat.ofDigitChars_ten_toDigits (n := m), hdigits, Nat.ofDigitChars_ten_toDigits]

theorem toList_toString_negSucc (n : ℕ) :
    (toString (Int.negSucc n)).toList = '-' :: (toString (n + 1)).toList :=
  String.toList_append (s := "-")

theorem intText_injective {d d' : ℤ} (h : toString d = toString d') : d = d' := by
  have hsign : ∀ m n : ℕ, (toString m).toList ≠ (toString (Int.negSucc n)).toList := by
    intro m n heq
    have hdash : '-' ∈ (toString m).toList := by
      rw [heq, toList_toString_negSucc]
      exact List.mem_cons_self
    exact absurd (isDigit_of_mem_toString hdash) (by decide)
  have htexts := congrArg String.toList h
  match d, d', h with
  | .ofNat m, .ofNat n, h => exact congrArg Int.ofNat (natText_injective h)
  | .ofNat m, .negSucc n, _ => exact absurd htexts (hsign m n)
  | .negSucc m, .ofNat n, _ => exact absurd htexts.symm (hsign n m)
  | .negSucc m, .negSucc n, _ =>
    rw [toList_toString_negSucc, toList_toString_negSucc, List.cons.injEq] at htexts
    have hsucc := natText_injective (String.toList_injective htexts.2)
    rw [Nat.succ.inj hsucc]

/-- No field holds the separator. -/
theorem notMem_keyFields (t : BorrowedTensor) :
    ∀ field ∈ (b.keyFields t).map String.toList, ':' ∉ field := by
  have hnat : ∀ n : ℕ, ':' ∉ (toString n).toList := fun n hmem =>
    absurd (isDigit_of_mem_toString hmem) (by decide)
  have hint : ∀ d : ℤ, ':' ∉ (toString d).toList := by
    rintro (n | n)
    · exact hnat n
    · rw [toList_toString_negSucc, List.mem_cons]
      rintro (hdash | hmem)
      exacts [absurd hdash (by decide), hnat _ hmem]
  intro field hfield
  obtain ⟨text, htext, rfl⟩ := List.mem_map.mp hfield
  rw [keyFields, List.mem_append, List.mem_cons, List.mem_cons] at htext
  rcases htext with (rfl | rfl | hdim) | hstar
  · exact hnat _
  · rw [String.toList_append, List.mem_append]
    rintro (hr | hmem)
    exacts [absurd hr (by decide), hnat _ hmem]
  · obtain ⟨d, -, rfl⟩ := List.mem_map.mp hdim
    exact hint d
  · split at hstar
    · rw [List.mem_singleton.mp hstar]
      decide
    · exact absurd hstar List.not_mem_nil

/-- **A key is split back into its fields.** -/
theorem keyFields_inj {t t' : BorrowedTensor}
    (h : ":".intercalate (b.keyFields t) = ":".intercalate (b.keyFields t')) :
    b.keyFields t = b.keyFields t' := by
  have hsplit : ∀ s : BorrowedTensor, ((":".intercalate (b.keyFields s)).toList).splitOn ':' =
      (b.keyFields s).map String.toList := by
    intro s
    rw [String.toList_intercalate]
    exact List.splitOn_intercalate ':' (notMem_keyFields s) (by simp [keyFields])
  have hfields := hsplit t
  rw [h, hsplit t'] at hfields
  exact (List.map_injective_iff.mpr (fun _ _ => String.toList_injective) hfields).symm

/-- **What the fields tell apart.** -/
theorem keyFields_eq_iff {t t' : BorrowedTensor} : b.keyFields t = b.keyFields t' ↔
    b.dtypeCode t.dtype = b.dtypeCode t'.dtype ∧ t.shape.length = t'.shape.length ∧
      b.shownDims t = b.shownDims t' := by
  constructor
  · intro h
    simp only [keyFields, List.cons_append, List.cons.injEq] at h
    obtain ⟨hdtype, hrank, hdims⟩ := h
    have hlength : t.shape.length = t'.shape.length :=
      natText_injective ((String.append_right_inj _).mp hrank)
    refine ⟨UInt32.toNat_inj.mp (natText_injective hdtype), hlength, ?_⟩
    rw [hlength] at hdims
    exact List.map_injective_iff.mpr (fun _ _ => intText_injective) (List.append_cancel_right hdims)
  · rintro ⟨hdtype, hlength, hdims⟩
    rw [keyFields, keyFields, hdtype, hlength, hdims]

/-! ## Exactness -/

/-- What a key shows of the dimensions: the first one, and the others rounded. -/
theorem shownDims_eq_iff (hmaxDims : 1 ≤ b.configuredMaxDims) {t t' : BorrowedTensor}
    (hlength : t.shape.length = t'.shape.length) : b.shownDims t = b.shownDims t' ↔
      t.shape.head? = t'.shape.head? ∧
        (b.keyedDims t).tail.map (roundUp b.configuredGranularity) =
          (b.keyedDims t').tail.map (roundUp b.configuredGranularity) := by
  have hhead : ∀ s : BorrowedTensor, (b.keyedDims s).head? = s.shape.head? := fun s =>
    (List.head?_take ..).trans (if_neg (by omega))
  rw [shownDims, shownDims, hhead, hhead]
  match hshape : t.shape, hshape' : t'.shape with
  | [], [] => simp [keyedDims, hshape, hshape']
  | [], _ :: _ => simp [hshape, hshape'] at hlength
  | _ :: _, [] => simp [hshape, hshape'] at hlength
  | first :: _, first' :: _ =>
    simp only [List.head?_cons, Option.toList_some, List.singleton_append, List.cons.injEq,
      Option.some.injEq]

/-- **Keys are exact precisely when the granularity can be added** — to every dimension they round,
within `i64`. -/
theorem bucketKey_exact_iff (b : OrtBackend) (t t' : BorrowedTensor)
    (htuning : validateTuning (some b.tuning) = .ok ()) (hnumbers : NumbersDtypes b.dtypeCode)
    (ht : Admitted t) (ht' : Admitted t') :
    b.Exact t t' ↔
      ∀ s ∈ [t, t'], ∀ d ∈ (b.keyedDims s).tail, d + b.configuredGranularity < 2 ^ 63 := by
  obtain ⟨hgranularity, hmaxDims⟩ := bounds_of_validateTuning htuning
  have hpos : ∀ s ∈ [t, t'], ∀ d ∈ (b.keyedDims s).tail, 0 < d := by
    intro s hs d hd
    have hmem : d ∈ s.shape := List.mem_of_mem_take (List.mem_of_mem_tail hd)
    rcases List.mem_pair.mp hs with rfl | rfl
    exacts [ht.pos d hmem, ht'.pos d hmem]
  constructor
  · intro h s hs d hd
    obtain ⟨rounded, hrounded, hleast⟩ := h.least s hs d hd
    exact sum_lt_of_roundedDim hgranularity (hpos s hs d hd)
      (roundedDim_ne_none (b := b.checked) hmaxDims (h.no_overflow s hs) d hd) hrounded hleast
  · intro h
    have hround : ∀ s ∈ [t, t'], ∀ d ∈ (b.keyedDims s).tail, ∀ build : OrtBackend,
        build.tuning = b.tuning →
          build.roundedDim d = some (roundUp build.configuredGranularity d) := by
      intro s hs d hd build hbuild
      have hconfigured : build.configuredGranularity = b.configuredGranularity := by
        rw [configuredGranularity, hbuild, configuredGranularity]
      exact roundedDim_eq (hconfigured ▸ hgranularity) (hpos s hs d hd)
        (hconfigured ▸ h s hs d hd)
    have hkey : ∀ s ∈ [t, t'], b.bucketKey s = some (":".intercalate (b.keyFields s)) :=
      fun s hs => bucketKey_eq hmaxDims fun d hd => hround s hs d hd b rfl
    have hrounded : ∀ s ∈ [t, t'], (b.keyedDims s).tail.map b.roundedDim =
        ((b.keyedDims s).tail.map (roundUp b.configuredGranularity)).map some := by
      intro s hs
      rw [List.map_map]
      exact List.map_congr_left fun d hd => hround s hs d hd b rfl
    refine ⟨fun s hs => ?_, fun s hs d hd => ?_, ?_⟩
    · rw [bucketKey_eq (b := b.checked) hmaxDims fun d hd => hround s hs d hd b.checked rfl]
      exact Option.some_ne_none _
    · exact ⟨_, hround s hs d hd b rfl, isLeast_roundUp (by exact_mod_cast hgranularity) d⟩
    · rw [hkey t (by simp), hkey t' (by simp), hrounded t (by simp), hrounded t' (by simp),
        Option.some_inj]
      have hsizes : ∀ {s}, Admitted s → ∃ size, dtypeBytes s.dtype = .ok size := fun {s} hs => by
        obtain ⟨-, size, -, hsize, -⟩ := hs.validated.bytes s (List.mem_singleton_self s)
        exact ⟨size, hsize⟩
      constructor
      · intro heq
        obtain ⟨hdtype, hlength, hdims⟩ := keyFields_eq_iff.mp (keyFields_inj heq)
        obtain ⟨hfirst, hrest⟩ := (shownDims_eq_iff hmaxDims hlength).mp hdims
        obtain ⟨size, hsize⟩ := hsizes ht
        obtain ⟨size', hsize'⟩ := hsizes ht'
        exact ⟨hnumbers _ _ size size' hsize hsize' hdtype, hlength, hfirst, congrArg _ hrest⟩
      · rintro ⟨hdtype, hlength, hfirst, hrest⟩
        have hdims := (shownDims_eq_iff hmaxDims hlength).mpr
          ⟨hfirst, List.map_injective_iff.mpr (Option.some_injective ℤ) hrest⟩
        rw [keyFields_eq_iff.mpr ⟨congrArg _ hdtype, hlength, hdims⟩]

/-! ## A granularity that is let through but does not fit -/

/-- A numbering of the dtypes. -/
def numbered : Dtype → UInt32
  | .u8 => 1
  | .utf8 => 2
  | .f16 => 3
  | .i32 => 4
  | .f32 => 5
  | .i64 => 6
  | .f64 => 7
  | .other code => code

theorem numbersDtypes_numbered : NumbersDtypes numbered := by
  intro d d' size size' hd hd' hcode
  cases d <;> cases d' <;> first | rfl | exact absurd hcode (by decide) | cases hd; done | cases hd'

/-- Two floats in one row. -/
def twoFloats : BorrowedTensor where
  name := "input"
  dtype := .f32
  shape := [1, 2]
  data := [0, 0, 0, 0, 0, 0, 0, 0]

theorem admitted_twoFloats : Admitted twoFloats where
  validated := {
    nonempty := List.cons_ne_nil _ _
    bytes := fun t ht => by
      rw [List.mem_singleton.mp ht]
      exact ⟨2, 4, rfl, rfl, rfl⟩ }
  i64 := by decide

/-- A backend with a granularity. -/
def withGranularity (granularity : UInt64) : OrtBackend where
  tuning :=
    { sessionBuckets := none
      bucketDimGranularity := some granularity
      bucketMaxDims := none
      peakConcurrencyHint := none }
  dtypeCode := numbered
  overflowChecks := false

/-- **The granularity `i64::MAX` is let through** and cannot be added to a dimension of two. -/
theorem bucketKey_not_exact :
    ¬∀ (b : OrtBackend) (t t' : BorrowedTensor), validateTuning (some b.tuning) = .ok () →
      NumbersDtypes b.dtypeCode → Admitted t → Admitted t' → b.Exact t t' := by
  intro h
  have hexact := h (withGranularity 9223372036854775807) twoFloats twoFloats rfl
    numbersDtypes_numbered admitted_twoFloats admitted_twoFloats
  exact hexact.no_overflow twoFloats List.mem_cons_self (by decide)

/-- One float in one row. -/
def oneFloat : BorrowedTensor := { twoFloats with shape := [1, 1], data := [0, 0, 0, 0] }

theorem admitted_oneFloat : Admitted oneFloat where
  validated := {
    nonempty := List.cons_ne_nil _ _
    bytes := fun t ht => by
      rw [List.mem_singleton.mp ht]
      exact ⟨1, 4, rfl, rfl, rfl⟩ }
  i64 := by decide

/-- Three floats in one row. -/
def threeFloats : BorrowedTensor :=
  { twoFloats with shape := [1, 3], data := [0, 0, 0, 0, 0, 0, 0, 0, 0, 0, 0, 0] }

theorem admitted_threeFloats : Admitted threeFloats where
  validated := {
    nonempty := List.cons_ne_nil _ _
    bytes := fun t ht => by
      rw [List.mem_singleton.mp ht]
      exact ⟨3, 4, rfl, rfl, rfl⟩ }
  i64 := by decide

theorem bucketKey_exact_iff_rows :
    (withGranularity 2).Exact oneFloat twoFloats ∧ (withGranularity 2).Exact twoFloats threeFloats ∧
      (withGranularity 2).bucketKey oneFloat = (withGranularity 2).bucketKey twoFloats ∧
        (withGranularity 2).bucketKey twoFloats ≠ (withGranularity 2).bucketKey threeFloats := by
  have halike := (bucketKey_exact_iff (withGranularity 2) oneFloat twoFloats rfl
    numbersDtypes_numbered admitted_oneFloat admitted_twoFloats).mpr (by decide)
  have hapart := (bucketKey_exact_iff (withGranularity 2) twoFloats threeFloats rfl
    numbersDtypes_numbered admitted_twoFloats admitted_threeFloats).mpr (by decide)
  exact ⟨halike, hapart, halike.key_eq_iff.mpr (by decide), hapart.key_eq_iff.not.mpr (by decide)⟩

end OrtBackend

end Kapsl.Ort
