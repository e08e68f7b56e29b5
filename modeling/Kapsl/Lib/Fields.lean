import Mathlib.Data.List.Forall2
import Mathlib.Algebra.Order.Ring.Nat
import Mathlib.Algebra.BigOperators.Group.List.Basic

/-!
# Lib/Fields — records of little-endian fields

A record is laid out as a list of widths: `pack` spells its values one behind the other, and
`unpack` reads as many bytes for each.  Values that fit their widths are read back from where they
were spelled, whatever comes behind them (`unpack_pack_append`).
-/

namespace Fields

/-! ## Numbers -/

/-- The number that some bytes spell, the lowest first. -/
def value : List UInt8 → ℕ
  | [] => 0
  | byte :: bytes => byte.toNat + 256 * value bytes

/-- A number in so many bytes. -/
def spell : ℕ → ℕ → List UInt8
  | 0, _ => []
  | width + 1, n => UInt8.ofNat n :: spell width (n / 256)

theorem length_spell (width n : ℕ) : (spell width n).length = width := by
  induction width generalizing n with
  | zero => rfl
  | succ width ih => rw [spell, List.length_cons, ih]

/-- **A number that fits** is read back. -/
theorem value_spell {width n : ℕ} (h : n < 256 ^ width) : value (spell width n) = n := by
  induction width generalizing n with
  | zero =>
    rw [pow_zero, Nat.lt_one_iff] at h
    rw [spell, value, h]
  | succ width ih =>
    have hrest : n / 256 < 256 ^ width := by
      rw [pow_succ] at h
      exact Nat.div_lt_of_lt_mul (by rwa [Nat.mul_comm] at h)
    rw [spell, value, ih hrest, UInt8.toNat_ofNat']
    exact Nat.mod_add_div n 256

/-! ## Records -/

/-- The bytes of a record. -/
def pack : List ℕ → List ℕ → List UInt8
  | width :: widths, n :: values => spell width n ++ pack widths values
  | _, _ => []

/-- The values of a record. -/
def unpack : List ℕ → List UInt8 → List ℕ
  | [], _ => []
  | width :: widths, bytes => value (bytes.take width) :: unpack widths (bytes.drop width)

/-- Each value fits its width. -/
def Fit (widths values : List ℕ) : Prop :=
  List.Forall₂ (fun width n => n < 256 ^ width) widths values

variable {widths values : List ℕ}

theorem length_pack (h : Fit widths values) : (pack widths values).length = widths.sum := by
  induction h with
  | nil => rfl
  | cons _ _ ih => rw [pack, List.length_append, length_spell, ih, List.sum_cons]

/-- **A record whose values fit** is read back. -/
theorem unpack_pack_append (h : Fit widths values) (rest : List UInt8) :
    unpack widths (pack widths values ++ rest) = values := by
  induction h with
  | nil => rfl
  | @cons width n widths values hn _ ih =>
    have htake : (spell width n ++ (pack widths values ++ rest)).take width = spell width n :=
      List.take_left' (length_spell width n)
    have hdrop : (spell width n ++ (pack widths values ++ rest)).drop width =
        pack widths values ++ rest := List.drop_left' (length_spell width n)
    rw [pack, List.append_assoc, unpack, htake, hdrop, value_spell hn, ih]

end Fields
