import Kapsl.Ort.ZipDirectory

/-!
# Ort/ZipReads — the parser reads inside its buffers

Every read of the parser follows a check that what it asks for is there, so that the only way the
parser fails is its own error, on any byte string (`parseCentralDirectory_raisesOnly`).
-/

namespace Kapsl.Ort.Zip

open Except

/-- A failure that is `TensorRtFetchError`. -/
def IsFetch (error : ZipError) : Prop := ∃ message, error = .fetch message

theorem isFetch (message : String) : IsFetch (.fetch message) := ⟨message, rfl⟩

variable {buffer : List UInt8} {offset start stop : ℕ}

theorem unpackFrom_eq_ok {widths : List ℕ} (h : offset + widths.sum ≤ buffer.length) :
    unpackFrom widths buffer offset = .ok (Fields.unpack widths (buffer.drop offset)) := if_pos h

theorem slice_eq_ok (hstart : start ≤ stop) (hstop : stop ≤ buffer.length) :
    slice buffer start stop = .ok ((buffer.take stop).drop start) := if_pos ⟨hstart, hstop⟩

/-- A part of a buffer that is all there. -/
theorem raisesOnly_slice (hstart : start ≤ stop) (hstop : stop ≤ buffer.length) :
    RaisesOnly IsFetch (slice buffer start stop) := by
  rw [slice_eq_ok hstart hstop]
  exact raisesOnly_ok

theorem raisesOnly_unpackEnd (h : offset + 22 ≤ buffer.length) :
    RaisesOnly IsFetch (unpackEnd buffer offset) := by
  rw [unpackEnd, unpackFrom_eq_ok h]
  exact raisesOnly_ok

theorem raisesOnly_unpackCentral (h : offset + 46 ≤ buffer.length) :
    RaisesOnly IsFetch (unpackCentral buffer offset) := by
  rw [unpackCentral, unpackFrom_eq_ok h]
  exact raisesOnly_ok

theorem raisesOnly_unpackExtra (h : offset + 4 ≤ buffer.length) :
    RaisesOnly IsFetch (unpackExtra buffer offset) := by
  rw [unpackExtra, unpackFrom_eq_ok h]
  exact raisesOnly_ok

/-- What is left once a check has passed. -/
theorem RaisesOnly.guard {α : Type} {c : Prop} [Decidable c] {message : String}
    {rest : Unit → Except ZipError α} (h : ¬c → RaisesOnly IsFetch (rest ())) :
    RaisesOnly IsFetch (raiseIf c (.fetch message) >>= rest) :=
  (raisesOnly_raiseIf (isFetch message)).bind fun _ hc => h (raiseIf_eq_ok.mp hc)

theorem raisesOnly_readExactRange (payload : List UInt8) (start stop : ℤ) :
    RaisesOnly IsFetch (readExactRange payload start stop) := by
  refine RaisesOnly.bind ?_ fun _ _ => RaisesOnly.guard fun _ => raisesOnly_pure
  exact RaisesOnly.guard fun h => raisesOnly_slice (by omega) (by omega)

theorem raisesOnly_findZip64 (name : String) (extra : List UInt8) (offset : ℕ)
    (zip64 : Option (List UInt8)) : RaisesOnly IsFetch (findZip64 name extra offset zip64) := by
  fun_induction findZip64 name extra offset zip64 with
  | case1 offset zip64 hoffset ihFound ihOther =>
    refine RaisesOnly.guard fun hheader => ?_
    refine (raisesOnly_unpackExtra (by omega)).bind fun header _ => ?_
    obtain ⟨kind, length⟩ := header
    refine RaisesOnly.guard fun hlength => ?_
    split
    · refine RaisesOnly.guard fun _ => ?_
      exact (raisesOnly_slice (by omega) (by omega)).bind fun found _ => ihFound length found
    · exact ihOther length
  | case2 => exact raisesOnly_pure

theorem raisesOnly_takeValues (name : String) (zip64 : List UInt8) (fields : List (ℕ × ℕ × ℕ))
    (cursor : ℕ) : RaisesOnly IsFetch (takeValues name zip64 fields cursor) := by
  induction fields generalizing cursor with
  | nil => exact raisesOnly_pure
  | cons field fields ih =>
    obtain ⟨value, sentinel, width⟩ := field
    rw [takeValues]
    split
    · refine RaisesOnly.guard fun h => ?_
      refine (raisesOnly_slice (by omega) (by omega)).bind fun _ _ => ?_
      exact (ih _).bind fun _ _ => raisesOnly_pure
    · exact (ih _).bind fun _ _ => raisesOnly_pure

/-- The values are as many as the fields. -/
theorem length_takeValues {name : String} {zip64 : List UInt8} {fields : List (ℕ × ℕ × ℕ)}
    {cursor cursor' : ℕ} {values : List ℕ}
    (h : takeValues name zip64 fields cursor = .ok (values, cursor')) :
    values.length = fields.length := by
  induction fields generalizing cursor cursor' values with
  | nil =>
    obtain ⟨rfl, -⟩ := Prod.mk.inj (Except.ok.inj h)
    rfl
  | cons field fields ih =>
    obtain ⟨value, sentinel, width⟩ := field
    rw [takeValues] at h
    split at h
    · obtain ⟨_, -, h⟩ := bind_eq_ok.mp h
      obtain ⟨_, -, h⟩ := bind_eq_ok.mp h
      obtain ⟨⟨rest, _⟩, hrest, h⟩ := bind_eq_ok.mp h
      obtain ⟨rfl, -⟩ := Prod.mk.inj (Except.ok.inj h)
      rw [List.length_cons, List.length_cons, ih hrest]
    · obtain ⟨⟨rest, _⟩, hrest, h⟩ := bind_eq_ok.mp h
      obtain ⟨rfl, -⟩ := Prod.mk.inj (Except.ok.inj h)
      rw [List.length_cons, List.length_cons, ih hrest]

theorem raisesOnly_resolveZip64Fields (name : String)
    (size compressedSize localHeaderOffset disk : ℕ) (extra : List UInt8) :
    RaisesOnly IsFetch
      (resolveZip64Fields name size compressedSize localHeaderOffset disk extra) := by
  unfold resolveZip64Fields
  split
  · exact raisesOnly_pure
  · refine (raisesOnly_findZip64 _ _ _ _).bind fun zip64 _ => ?_
    cases zip64 with
    | none => exact raisesOnly_error (isFetch _)
    | some zip64 =>
      refine (raisesOnly_takeValues _ _ _ _).bind fun result hresult => ?_
      obtain ⟨values, cursor⟩ := result
      refine RaisesOnly.guard fun _ => ?_
      obtain ⟨_, _, _, _, rfl⟩ := List.length_eq_four.mp (length_takeValues hresult)
      exact raisesOnly_pure

theorem raisesOnly_readMember (payload : List UInt8) (offset : ℕ) (result : Members) :
    RaisesOnly IsFetch (readMember payload offset result) := by
  refine RaisesOnly.guard fun hheader => ?_
  refine (raisesOnly_unpackCentral (by omega)).bind fun header _ => ?_
  refine RaisesOnly.guard fun _ => RaisesOnly.guard fun hstop => ?_
  refine (raisesOnly_slice (by omega) (by omega)).bind fun nameBytes _ => ?_
  refine (raisesOnly_slice (by omega) (by omega)).bind fun extra _ => ?_
  cases decodeName header.flags nameBytes with
  | none => exact raisesOnly_error (isFetch _)
  | some name =>
    refine RaisesOnly.guard fun _ => RaisesOnly.guard fun _ => ?_
    refine (raisesOnly_resolveZip64Fields _ _ _ _ _ _).bind fun _ _ => ?_
    exact RaisesOnly.guard fun _ => raisesOnly_pure

theorem raisesOnly_readMembers (payload : List UInt8) (count offset : ℕ) (result : Members) :
    RaisesOnly IsFetch (readMembers payload count offset result) := by
  induction count generalizing offset result with
  | zero => exact raisesOnly_pure
  | succ count ih =>
    exact (raisesOnly_readMember payload offset result).bind fun _ _ => ih _ _

theorem raisesOnly_checkEnd (record : EndRecord) (tailOffset endOffset tailLength : ℕ) :
    RaisesOnly IsFetch (checkEnd record tailOffset endOffset tailLength) := by
  refine RaisesOnly.guard fun _ => RaisesOnly.guard fun _ => RaisesOnly.guard fun _ => ?_
  refine RaisesOnly.guard fun _ => RaisesOnly.guard fun _ => ?_
  exact raisesOnly_raiseIf (isFetch _)

/-- **On any byte string** the parser returns or raises its own error. -/
theorem parseCentralDirectory_raisesOnly (source : List UInt8) :
    RaisesOnly IsFetch (parseCentralDirectory source) := by
  refine (raisesOnly_readExactRange _ _ _).bind fun tail _ => ?_
  cases rfind endSignature tail with
  | none => exact raisesOnly_error (isFetch _)
  | some endOffset =>
    refine RaisesOnly.guard fun hend => ?_
    refine (raisesOnly_unpackEnd (by omega)).bind fun record _ => ?_
    refine (raisesOnly_checkEnd _ _ _ _).bind fun _ _ => ?_
    refine (raisesOnly_readExactRange _ _ _).bind fun payload _ => ?_
    refine (raisesOnly_readMembers _ _ _ _).bind fun _ _ => ?_
    exact RaisesOnly.guard fun _ => raisesOnly_pure

end Kapsl.Ort.Zip
