import Mathlib.Data.List.DropRight

/-!
# Lib/Trim — a list without the items at its ends that a test rejects

`trim p l` drops the longest run of items satisfying `p` at either end of `l`.  A trimmed list is
one that trimming leaves alone (`trim_trim`), and trimming empties a list exactly when every item
of it satisfies `p` (`trim_eq_nil_iff`).  What stands before an item to keep is out of reach of the
end (`rdropWhile_append_of_exists`).
-/

namespace List

variable {α : Type*} {p : α → Bool} {l : List α}

/-- `l` without the items satisfying `p` at its two ends. -/
def trim (p : α → Bool) (l : List α) : List α := (l.dropWhile p).rdropWhile p

theorem trim_eq_nil_iff : trim p l = [] ↔ ∀ x ∈ l, p x := by
  rw [trim, rdropWhile_eq_nil_iff]
  constructor
  · intro h
    have hnil : (l.dropWhile p).dropWhile p = [] := dropWhile_eq_nil_iff.mpr h
    rw [dropWhile_idempotent] at hnil
    exact dropWhile_eq_nil_iff.mp hnil
  · intro h x hx
    rw [dropWhile_eq_nil_iff.mpr h] at hx
    exact absurd hx not_mem_nil

/-- **A list that starts and ends with items to keep is trimmed.** -/
theorem trim_eq_self (hl : l ≠ []) (hhead : p (l.head hl) = false)
    (hlast : p (l.getLast hl) = false) : trim p l = l := by
  have hdrop : l.dropWhile p = l := by
    rw [dropWhile_eq_self_iff]
    intro hpos
    rw [← head_eq_getElem hl, hhead]
    exact Bool.false_ne_true
  rw [trim, hdrop, rdropWhile_eq_self_iff]
  intro _
  rw [hlast]
  exact Bool.false_ne_true

/-- **Trimming twice is trimming once.** -/
theorem trim_trim : trim p (trim p l) = trim p l := by
  by_cases hl : trim p l = []
  · rw [hl]
    rfl
  · have hne : l.dropWhile p ≠ [] := fun h => hl (by rw [trim, h]; rfl)
    -- What is left is a non-empty prefix of `dropWhile`, so it starts with the same item.
    have hstart : trim p l <+: l.dropWhile p := rdropWhile_prefix p _
    have hhead : (trim p l).head hl = (l.dropWhile p).head hne := hstart.head hl
    refine trim_eq_self hl ?_ ?_
    · rw [hhead]
      exact head_dropWhile_not p hne
    · exact Bool.eq_false_iff.mpr (rdropWhile_last_not p _ hl)

/-- Trimming keeps the items that fail `p`. -/
theorem all_trim : (trim p l).all p = l.all p := by
  rw [Bool.eq_iff_iff, all_eq_true, all_eq_true, ← trim_eq_nil_iff, ← trim_eq_nil_iff, trim_trim]

/-- Trimming the end of a list stops at an item to keep. -/
theorem rdropWhile_append_of_exists (as : List α) {bs : List α} (h : ∃ b ∈ bs, ¬p b) :
    (as ++ bs).rdropWhile p = as ++ bs.rdropWhile p := by
  have hne : (bs.reverse.dropWhile p).isEmpty = false := by
    rw [isEmpty_eq_false_iff, Ne, dropWhile_eq_nil_iff]
    intro hall
    obtain ⟨b, hb, hkeep⟩ := h
    exact hkeep (hall b (mem_reverse.mpr hb))
  rw [rdropWhile, rdropWhile, reverse_append, dropWhile_append, hne, if_neg Bool.false_ne_true,
    reverse_append, reverse_reverse]

end List
