import Mathlib.Data.List.Pairwise
import Mathlib.Data.List.Sort
import Mathlib.Data.Set.Lattice
import Mathlib.Order.Interval.Set.Basic
import Mathlib.Tactic.Basic
import Mathlib.Order.CompletePartialOrder

/-!
# Lib/Tiling — intervals that follow each other without a gap

A span is a pair of an offset and a length.  `Tiles spans a c` says that the spans, in this order,
cover `[a, c)` one after the other.  A tiling is the sorted arrangement of its spans
(`tiles_insertionSort`), splits at every joint (`tiles_append`), and determines any tiling of a tail
that is made of some of its spans (`Tiles.exists_head`).

In sets: spans of positive length can be arranged to a tiling of `[a, c)` exactly when they are
pairwise disjoint and their union is `[a, c)` (`tiles_insertionSort_iff`).
-/

namespace Tiling

/-- The spans, in this order, follow each other from `a` to `c`. -/
def Tiles : List (ℕ × ℕ) → ℕ → ℕ → Prop
  | [], a, c => a = c
  | span :: rest, a, c => span.1 = a ∧ 0 < span.2 ∧ Tiles rest (a + span.2) c

instance decidableTiles : ∀ spans a c, Decidable (Tiles spans a c)
  | [], a, c => inferInstanceAs (Decidable (a = c))
  | span :: rest, a, c =>
    have := decidableTiles rest (a + span.2) c
    inferInstanceAs (Decidable (span.1 = a ∧ 0 < span.2 ∧ Tiles rest (a + span.2) c))

variable {xs ys spans : List (ℕ × ℕ)} {span : ℕ × ℕ} {a b c : ℕ}

@[simp] theorem tiles_nil : Tiles [] a c ↔ a = c := Iff.rfl

@[simp] theorem tiles_cons :
    Tiles (span :: xs) a c ↔ span.1 = a ∧ 0 < span.2 ∧ Tiles xs (a + span.2) c := Iff.rfl

theorem Tiles.le (h : Tiles xs a c) : a ≤ c := by
  induction xs generalizing a with
  | nil => exact h.le
  | cons span xs ih => exact (Nat.le_add_right a span.2).trans (ih h.2.2)

/-- **Two tilings join where the first ends.** -/
theorem tiles_append : Tiles (xs ++ ys) a c ↔ ∃ b, Tiles xs a b ∧ Tiles ys b c := by
  induction xs generalizing a with
  | nil => exact ⟨fun h => ⟨a, rfl, h⟩, fun ⟨b, hb, h⟩ => hb ▸ h⟩
  | cons span xs ih =>
    simp only [List.cons_append, tiles_cons, ih]
    constructor
    · rintro ⟨hoffset, hpos, b, hxs, hys⟩
      exact ⟨b, ⟨hoffset, hpos, hxs⟩, hys⟩
    · rintro ⟨b, ⟨hoffset, hpos, hxs⟩, hys⟩
      exact ⟨hoffset, hpos, b, hxs, hys⟩

/-- Each span lies within the tiled range. -/
theorem Tiles.bounds (h : Tiles xs a c) (hmem : span ∈ xs) :
    a ≤ span.1 ∧ 0 < span.2 ∧ span.1 + span.2 ≤ c := by
  induction xs generalizing a with
  | nil => exact absurd hmem List.not_mem_nil
  | cons first xs ih =>
    obtain ⟨rfl, hpos, hrest⟩ := h
    rcases List.mem_cons.mp hmem with rfl | hmem
    · exact ⟨le_rfl, hpos, hrest.le⟩
    · obtain ⟨hle, hrest⟩ := ih hrest hmem
      exact ⟨(Nat.le_add_right _ _).trans hle, hrest⟩

/-- The spans of a tiling stand in the order of their offsets. -/
theorem Tiles.pairwise (h : Tiles xs a c) : xs.Pairwise fun s t => s.1 < t.1 := by
  induction xs generalizing a with
  | nil => exact .nil
  | cons first xs ih =>
    obtain ⟨rfl, hpos, hrest⟩ := h
    refine .cons (fun span hmem => ?_) (ih hrest)
    exact (Nat.lt_add_of_pos_right hpos).trans_le (hrest.bounds hmem).1

/-- In a tiling the offset determines the span. -/
theorem Tiles.eq_of_offset (h : Tiles xs a c) {s t : ℕ × ℕ} (hs : s ∈ xs) (ht : t ∈ xs)
    (heq : s.1 = t.1) : s = t := by
  by_contra hne
  have : Std.Symm fun s t : ℕ × ℕ => s.1 ≠ t.1 := ⟨fun _ _ h => h.symm⟩
  have hpair : xs.Pairwise fun s t => s.1 ≠ t.1 := h.pairwise.imp fun hlt => hlt.ne
  exact hpair.forall hs ht hne heq

/-- The order a list of spans is sorted by. -/
def ByOffset (s t : ℕ × ℕ) : Prop := s.1 ≤ t.1

instance : DecidableRel ByOffset := fun s t => inferInstanceAs (Decidable (s.1 ≤ t.1))

instance : Std.Total ByOffset := ⟨fun s t => le_total s.1 t.1⟩

instance : IsTrans (ℕ × ℕ) ByOffset := ⟨fun _ _ _ => le_trans (α := ℕ)⟩

/-- **A tiling is the sorted arrangement of its spans.** -/
theorem tiles_insertionSort (h : Tiles xs a c) (hperm : spans.Perm xs) :
    spans.insertionSort ByOffset = xs := by
  have hsorted : (spans.insertionSort ByOffset).Pairwise ByOffset :=
    List.pairwise_insertionSort ByOffset spans
  have hperm : (spans.insertionSort ByOffset).Perm xs :=
    (List.perm_insertionSort ByOffset spans).trans hperm
  refine List.Perm.eq_of_pairwise (fun s t hs ht hst hts => ?_) hsorted
    (h.pairwise.imp fun hlt => hlt.le) hperm
  exact h.eq_of_offset (hperm.subset hs) ht (le_antisymm hst hts)

/-- Some arrangement of the spans is a tiling exactly when the sorted one is. -/
theorem exists_tiles_iff :
    (∃ xs, spans.Perm xs ∧ Tiles xs a c) ↔ Tiles (spans.insertionSort ByOffset) a c := by
  constructor
  · rintro ⟨xs, hperm, h⟩
    exact (tiles_insertionSort h hperm).symm ▸ h
  · exact fun h => ⟨_, (List.perm_insertionSort ByOffset spans).symm, h⟩

/-- **Every point of the range lies in a span.** -/
theorem Tiles.exists_mem (h : Tiles xs a c) {p : ℕ} (hap : a ≤ p) (hpc : p < c) :
    ∃ span ∈ xs, span.1 ≤ p ∧ p < span.1 + span.2 := by
  induction xs generalizing a with
  | nil => exact absurd (tiles_nil.mp h) (by omega)
  | cons first xs ih =>
    obtain ⟨rfl, -, hrest⟩ := h
    rcases Nat.lt_or_ge p (first.1 + first.2) with hlt | hge
    · exact ⟨first, List.mem_cons_self, hap, hlt⟩
    · obtain ⟨span, hmem, hspan⟩ := ih hrest hge
      exact ⟨span, List.mem_cons_of_mem first hmem, hspan⟩

/-- Lengths that are multiples leave every offset a multiple. -/
theorem Tiles.dvd_offset {g : ℕ} (h : Tiles xs a c) (ha : g ∣ a) (hlengths : ∀ s ∈ xs, g ∣ s.2) :
    ∀ s ∈ xs, g ∣ s.1 := by
  induction xs generalizing a with
  | nil => exact fun s hs => absurd hs List.not_mem_nil
  | cons first xs ih =>
    obtain ⟨rfl, -, hrest⟩ := h
    obtain ⟨hfirst, hlengths⟩ := List.forall_mem_cons.mp hlengths
    exact List.forall_mem_cons.mpr ⟨ha, ih hrest (Nat.dvd_add ha hfirst) hlengths⟩

/-- A tiling of an empty range is empty. -/
theorem Tiles.eq_nil (h : Tiles xs a a) : xs = [] := by
  cases xs with
  | nil => rfl
  | cons span xs =>
    obtain ⟨-, hpos, hrest⟩ := h
    exact absurd hrest.le (by omega)

/-- **A tiling of a tail by spans of a tiling is a tail of it** — what remains tiles the head. -/
theorem Tiles.exists_head (h : Tiles xs a c) (htail : Tiles ys b c) (hsub : ∀ s ∈ ys, s ∈ xs)
    (hab : a ≤ b) : ∃ zs, xs = zs ++ ys ∧ Tiles zs a b := by
  induction xs generalizing a b ys with
  | nil =>
    obtain rfl : ys = [] := List.eq_nil_iff_forall_not_mem.mpr fun s hs =>
      absurd (hsub s hs) List.not_mem_nil
    exact ⟨[], rfl, Eq.trans h (tiles_nil.mp htail).symm⟩
  | cons first xs ih =>
    obtain ⟨rfl, hpos, hrest⟩ := h
    rcases Nat.eq_or_lt_of_le hab with rfl | hlt
    · -- Both tilings start here, so they share their first span and so on.
      cases ys with
      | nil =>
        exact absurd hrest.le (by have := tiles_nil.mp htail; omega)
      | cons second ys =>
        obtain ⟨hoffset, hpos', htail'⟩ := htail
        have hwhole : Tiles (first :: xs) first.1 c := ⟨rfl, hpos, hrest⟩
        obtain rfl := hwhole.eq_of_offset (hsub second List.mem_cons_self) List.mem_cons_self hoffset
        have hsub' : ∀ s ∈ ys, s ∈ xs := fun s hs => by
          rcases List.mem_cons.mp (hsub s (List.mem_cons_of_mem _ hs)) with rfl | hmem
          · exact absurd (htail'.bounds hs).1 (by omega)
          · exact hmem
        obtain ⟨zs, rfl, hzs⟩ := ih hrest htail' hsub' le_rfl
        obtain rfl := hzs.eq_nil
        exact ⟨[], rfl, rfl⟩
    · have hsub' : ∀ s ∈ ys, s ∈ xs := fun s hs => by
        rcases List.mem_cons.mp (hsub s hs) with rfl | hmem
        · exact absurd (htail.bounds hs).1 (by omega)
        · exact hmem
      have hle : first.1 + first.2 ≤ b := by
        cases ys with
        | nil => exact (tiles_nil.mp htail) ▸ hrest.le
        | cons second ys =>
          have hmem := hsub' second List.mem_cons_self
          exact htail.1 ▸ (hrest.bounds hmem).1
      obtain ⟨zs, rfl, hzs⟩ := ih hrest htail hsub' hle
      exact ⟨first :: zs, rfl, rfl, hpos, hzs⟩

/-! ## Tilings as partitions -/

/-- The points of a span. -/
def points (span : ℕ × ℕ) : Set ℕ := Set.Ico span.1 (span.1 + span.2)

theorem mem_points {p : ℕ} : p ∈ points span ↔ span.1 ≤ p ∧ p < span.1 + span.2 := Iff.rfl

/-- **The spans partition `[a, c)`** — each has a point, no two share one, and together they have
those of the range. -/
structure Partition (spans : List (ℕ × ℕ)) (a c : ℕ) : Prop where
  pos : ∀ span ∈ spans, 0 < span.2
  disjoint : spans.Pairwise fun s t => Disjoint (points s) (points t)
  mem_iff : ∀ p, (∃ span ∈ spans, p ∈ points span) ↔ a ≤ p ∧ p < c

theorem Partition.perm (h : Partition xs a c) (hperm : xs.Perm ys) : Partition ys a c where
  pos span hspan := h.pos span (hperm.mem_iff.mpr hspan)
  disjoint := (hperm.pairwise_iff fun hst => hst.symm).mp h.disjoint
  mem_iff p := by
    simp only [← hperm.mem_iff]
    exact h.mem_iff p

theorem Tiles.partition (h : Tiles xs a c) : Partition xs a c where
  pos span hspan := (h.bounds hspan).2.1
  disjoint := by
    induction xs generalizing a with
    | nil => exact .nil
    | cons first xs ih =>
      obtain ⟨rfl, hpos, hrest⟩ := h
      refine .cons (fun span hspan => ?_) (ih hrest)
      rw [Set.disjoint_left]
      intro p hp hp'
      exact absurd ((hrest.bounds hspan).1.trans hp'.1) (not_le.mpr hp.2)
  mem_iff p := by
    constructor
    · rintro ⟨span, hspan, hp⟩
      obtain ⟨hle, -, hle'⟩ := h.bounds hspan
      exact ⟨hle.trans hp.1, hp.2.trans_le hle'⟩
    · exact fun hp => h.exists_mem hp.1 hp.2

/-- What is left of a partition behind its first span. -/
theorem Partition.tail (h : Partition (span :: xs) span.1 c) :
    Partition xs (span.1 + span.2) c where
  pos other hother := h.pos other (List.mem_cons_of_mem _ hother)
  disjoint := h.disjoint.of_cons
  mem_iff p := by
    constructor
    · rintro ⟨other, hother, hp⟩
      have hdisjoint := (List.pairwise_cons.mp h.disjoint).1 other hother
      have hbounds := (h.mem_iff p).mp ⟨other, List.mem_cons_of_mem _ hother, hp⟩
      refine ⟨not_lt.mp fun hlt => ?_, hbounds.2⟩
      exact Set.disjoint_left.mp hdisjoint ⟨hbounds.1, hlt⟩ hp
    · rintro ⟨hle, hlt⟩
      obtain ⟨other, hother, hp⟩ := (h.mem_iff p).mpr ⟨by omega, hlt⟩
      rcases List.mem_cons.mp hother with rfl | hother
      · exact absurd hp.2 (not_lt.mpr hle)
      · exact ⟨other, hother, hp⟩

/-- The first span of a sorted partition starts where the range does. -/
theorem Partition.head (h : Partition (span :: xs) a c) (hsorted : (span :: xs).Pairwise ByOffset) :
    span.1 = a := by
  have hpos := h.pos span List.mem_cons_self
  have hfirst := (h.mem_iff span.1).mp ⟨span, List.mem_cons_self, le_rfl, by omega⟩
  refine le_antisymm ?_ hfirst.1
  obtain ⟨other, hother, hp⟩ := (h.mem_iff a).mpr ⟨le_rfl, hfirst.1.trans_lt hfirst.2⟩
  rcases List.mem_cons.mp hother with rfl | hother
  · exact hp.1
  · exact ((List.pairwise_cons.mp hsorted).1 other hother).trans hp.1

/-- **A sorted partition is a tiling.** -/
theorem Partition.tiles (h : Partition xs a c) (hsorted : xs.Pairwise ByOffset) (hac : a ≤ c) :
    Tiles xs a c := by
  induction xs generalizing a with
  | nil =>
    refine le_antisymm hac (not_lt.mp fun hlt => ?_)
    obtain ⟨span, hspan, -⟩ := (h.mem_iff a).mpr ⟨le_rfl, hlt⟩
    exact absurd hspan List.not_mem_nil
  | cons span xs ih =>
    obtain rfl := h.head hsorted
    have hpos := h.pos span List.mem_cons_self
    -- The last point of the first span lies in the range.
    have hlast := (h.mem_iff (span.1 + span.2 - 1)).mp
      ⟨span, List.mem_cons_self, by rw [mem_points]; omega⟩
    exact ⟨rfl, hpos, ih h.tail hsorted.of_cons (by omega)⟩

/-- **Spans can be arranged to a tiling exactly when they partition the range.** -/
theorem tiles_insertionSort_iff (hac : a ≤ c) :
    Tiles (spans.insertionSort ByOffset) a c ↔ Partition spans a c := by
  have hperm := List.perm_insertionSort ByOffset spans
  constructor
  · exact fun h => h.partition.perm hperm
  · exact fun h => (h.perm hperm.symm).tiles (List.pairwise_insertionSort ByOffset spans) hac

end Tiling
