import Mathlib.Data.List.Sort
import Mathlib.Data.List.Dedup
import Mathlib.Data.List.Induction
import Mathlib.Data.List.TakeWhile

/-!
# Lib/KeySort — sorting by a key that tells the items apart

Sorting by a key is stable, so in general the result depends on the order the items came in.  It
does not once no two items share a key (`insertionSort_eq_of_perm`).  The opposite case, a list all
of whose items are one, is `forall_eq_of_dedup`.  Where keys are shared, a stable sort keeps their
items in the order they came in (`pairwise_mergeSort_of_stable`).  What is read off the sorted list
then depends on the order only if swapping two neighbours that share a key changes it
(`apply_eq_of_sorted_perm`), and any two items that share a key can be made such neighbours
(`insertionSort_pair`).
-/

namespace List

variable {α κ : Type*} [LinearOrder κ] (key : α → κ)

instance total_key_le : Std.Total fun a b : α => key a ≤ key b := ⟨fun a b => le_total (key a) (key b)⟩

instance isTrans_key_le : IsTrans α fun a b => key a ≤ key b := ⟨fun _ _ _ => le_trans⟩

/-- **Distinct keys make sorting forget the order.** -/
theorem insertionSort_eq_of_perm {xs ys : List α} (h : xs.Perm ys) (hnodup : (xs.map key).Nodup) :
    xs.insertionSort (fun a b => key a ≤ key b) = ys.insertionSort fun a b => key a ≤ key b := by
  have hsorted := pairwise_insertionSort (fun a b : α => key a ≤ key b)
  have hperm := (perm_insertionSort (fun a b : α => key a ≤ key b) xs).trans
    (h.trans (perm_insertionSort (fun a b : α => key a ≤ key b) ys).symm)
  refine hperm.eq_of_pairwise ?_ (hsorted xs) (hsorted ys)
  intro a b ha hb hab hba
  rw [mem_insertionSort] at ha hb
  exact inj_on_of_nodup_map hnodup ha (h.mem_iff.mpr hb) (le_antisymm hab hba)

theorem insertionSort_insertionSort (xs : List α) :
    (xs.insertionSort fun a b => key a ≤ key b).insertionSort (fun a b => key a ≤ key b) =
      xs.insertionSort fun a b => key a ≤ key b :=
  (pairwise_insertionSort (fun a b : α => key a ≤ key b) xs).insertionSort_eq

/-- The one value of a list that has one. -/
theorem forall_eq_of_dedup [DecidableEq α] {xs : List α} (h : xs.dedup.length = 1) :
    ∃ a ∈ xs, ∀ x ∈ xs, x = a := by
  obtain ⟨a, ha⟩ := length_eq_one_iff.mp h
  have hmem : ∀ x, x ∈ xs ↔ x = a := fun x => by rw [← mem_dedup, ha, mem_singleton]
  exact ⟨a, (hmem a).mpr rfl, fun x => (hmem x).mp⟩

/-! ## Stability -/

/-- Two members of a list stand in it one after the other. -/
theorem pair_sublist_or {xs : List α} {a b : α} (ha : a ∈ xs) (hb : b ∈ xs) (hab : a ≠ b) :
    [a, b].Sublist xs ∨ [b, a].Sublist xs := by
  obtain ⟨before, after, rfl⟩ := append_of_mem ha
  rcases mem_append.mp hb with hb | hb
  · exact .inr ((singleton_sublist.mpr hb).append (singleton_sublist.mpr mem_cons_self))
  · have hafter : b ∈ after := (mem_cons.mp hb).resolve_left hab.symm
    exact .inl (((singleton_sublist.mpr hafter).cons_cons a).trans (sublist_append_right _ _))

/-- In a list without repetition they do so in one order only. -/
theorem Nodup.not_pair_sublist {xs : List α} {a b : α} (h : xs.Nodup) (hab : [a, b].Sublist xs) :
    ¬[b, a].Sublist xs := by
  induction xs with
  | nil => exact fun hba => nomatch hba
  | cons x xs ih =>
    obtain ⟨hx, hxs⟩ := nodup_cons.mp h
    intro hba
    have hmem : ∀ {c d : α}, [c, d].Sublist xs → c ∈ xs ∧ d ∈ xs := fun hcd =>
      ⟨hcd.subset mem_cons_self, hcd.subset (mem_cons_of_mem _ (mem_singleton_self _))⟩
    rcases sublist_cons_iff.mp hab with hab' | ⟨_, hcons, hab'⟩
    · rcases sublist_cons_iff.mp hba with hba' | ⟨_, hcons, -⟩
      · exact ih hxs hab' hba'
      · obtain ⟨rfl, -⟩ := cons.inj hcons
        exact hx (hmem hab').2
    · obtain ⟨rfl, rfl⟩ := cons.inj hcons
      rcases sublist_cons_iff.mp hba with hba' | ⟨_, hcons, -⟩
      · exact hx (hmem hba').2
      · obtain ⟨rfl, -⟩ := cons.inj hcons
        exact hx (singleton_sublist.mp hab')

/-- **A stable sort by descending key** keeps items that share a key in the order they came in. -/
theorem pairwise_mergeSort_of_stable {xs : List α} {R : α → α → Prop} (hxs : xs.Pairwise R)
    (hnodup : xs.Nodup) :
    (xs.mergeSort fun a b => decide (key b ≤ key a)).Pairwise fun a b =>
      key b < key a ∨ key a = key b ∧ R a b := by
  have htrans : ∀ a b c : α, decide (key b ≤ key a) → decide (key c ≤ key b) →
      decide (key c ≤ key a) := by
    simp only [decide_eq_true_eq]
    exact fun a b c hab hbc => hbc.trans hab
  have htotal : ∀ a b : α, decide (key b ≤ key a) || decide (key a ≤ key b) := by
    simp only [Bool.or_eq_true, decide_eq_true_eq]
    exact fun a b => le_total _ _
  have hperm := mergeSort_perm xs fun a b => decide (key b ≤ key a)
  have hsorted := pairwise_mergeSort htrans htotal xs
  have hnodup' := hperm.nodup_iff.mpr hnodup
  rw [pairwise_iff_forall_sublist] at hsorted ⊢
  intro a b hab
  rcases (decide_eq_true_eq.mp (hsorted hab)).lt_or_eq with hlt | heq
  · exact .inl hlt
  · refine .inr ⟨heq.symm, ?_⟩
    have hne : a ≠ b := by
      rintro rfl
      exact hnodup'.not_pair_sublist hab hab
    have ha : a ∈ xs := hperm.subset (hab.subset mem_cons_self)
    have hb : b ∈ xs := hperm.subset (hab.subset (mem_cons_of_mem a (mem_singleton_self b)))
    rcases pair_sublist_or ha hb hne with hsub | hsub
    · exact pairwise_iff_forall_sublist.mp hxs hsub
    · -- The sort would have kept the other order.
      have hle : decide (key a ≤ key b) := decide_eq_true heq.ge
      exact absurd (pair_sublist_mergeSort htrans htotal hle hsub) (hnodup'.not_pair_sublist hab)

/-! ## Ties -/

section

variable {β : Type*} {xs ys : List α}

/-- The head of a sorted list can be brought to the front of any sorting of the same items. -/
theorem apply_append_cons {γ : Type*} (key : α → γ) (F : List α → β) {x : α}
    (before after : List α)
    (htied : ∀ a ∈ before, key a = key x)
    (hswap : ∀ as a b bs, (as ++ a :: b :: bs).Perm (before ++ x :: after) → key a = key b →
      F (as ++ a :: b :: bs) = F (as ++ b :: a :: bs)) :
    F (before ++ x :: after) = F (x :: (before ++ after)) := by
  induction before using reverseRecOn generalizing after with
  | nil => rfl
  | append_singleton before a ih =>
    have hmove : (before ++ a :: x :: after).Perm (before ++ x :: a :: after) :=
      (Perm.swap _ _ _).append_left before
    rw [append_assoc, singleton_append, hswap before a x after (by simp) (htied a (by simp)),
      ih (a :: after) (fun b hb => htied b (mem_append_left _ hb)) fun as b c bs hperm =>
        hswap as b c bs (hperm.trans (by simpa using hmove.symm))]
    simp

/-- **Two sortings of the same items** are told apart only by what a swap of neighbours that share
a key changes. -/
theorem apply_eq_of_sorted_perm (F : List α → β) (hperm : xs.Perm ys)
    (hxs : xs.Pairwise fun a b => key a ≤ key b) (hys : ys.Pairwise fun a b => key a ≤ key b)
    (hswap : ∀ as a b bs, (as ++ a :: b :: bs).Perm xs → key a = key b →
      F (as ++ a :: b :: bs) = F (as ++ b :: a :: bs)) : F xs = F ys := by
  induction xs generalizing ys F with
  | nil => rw [hperm.nil_eq]
  | cons x xs ih =>
    obtain ⟨before, after, rfl⟩ := append_of_mem (hperm.subset mem_cons_self)
    have hrest : xs.Perm (before ++ after) := (perm_cons x).mp (hperm.trans perm_middle)
    -- What stands before `x` in the other sorting shares its key.
    have htied : ∀ a ∈ before, key a = key x := by
      intro a ha
      have hle : key a ≤ key x := (pairwise_append.mp hys).2.2 a ha x mem_cons_self
      exact hle.antisymm ((pairwise_cons.mp hxs).1 a (hrest.symm.subset (mem_append_left _ ha)))
    rw [apply_append_cons key F before after htied fun as a b bs h =>
      hswap as a b bs (h.trans hperm.symm)]
    refine ih (fun zs => F (x :: zs)) hrest (pairwise_cons.mp hxs).2
      (hys.sublist ((sublist_cons_self x after).append_left before)) fun as a b bs h => ?_
    exact hswap (x :: as) a b bs (h.cons x)

/-- An item goes before the first one that does not have a smaller key. -/
theorem orderedInsert_append {a : α} (before after : List α)
    (hbefore : ∀ c ∈ before, ¬key a ≤ key c) (hafter : ∀ c ∈ after.head?, key a ≤ key c) :
    (before ++ after).orderedInsert (fun a b => key a ≤ key b) a = before ++ a :: after := by
  induction before with
  | nil =>
    cases after with
    | nil => rfl
    | cons c after => exact if_pos (hafter c rfl)
  | cons c before ih =>
    rw [cons_append, orderedInsert_cons, if_neg (hbefore c mem_cons_self),
      ih fun d hd => hbefore d (mem_cons_of_mem c hd), cons_append]

/-- **Related lists sort alike**, when related items share a key. -/
theorem forall₂_insertionSort {key' : β → κ} {R : α → β → Prop} {ys : List β}
    (hkey : ∀ a b, R a b → key a = key' b) (h : Forall₂ R xs ys) :
    Forall₂ R (xs.insertionSort fun a b => key a ≤ key b)
      (ys.insertionSort fun a b => key' a ≤ key' b) := by
  have hinsert : ∀ {a : α} {b : β} {as : List α} {bs : List β}, R a b → Forall₂ R as bs →
      Forall₂ R (as.orderedInsert (fun a b => key a ≤ key b) a)
        (bs.orderedInsert (fun a b => key' a ≤ key' b) b) := by
    intro a b as bs hab has
    induction has with
    | nil => exact .cons hab .nil
    | cons hcd hrest ih =>
      rw [orderedInsert_cons, orderedInsert_cons, hkey _ _ hab, hkey _ _ hcd]
      split
      · exact .cons hab (.cons hcd hrest)
      · exact .cons hcd ih
  induction h with
  | nil => exact .nil
  | cons hab _ ih => exact hinsert hab ih

/-- **Two items that share a key** and come first are neighbours in the sorted list, in the order
they came in; what surrounds them does not depend on it. -/
theorem insertionSort_pair {a b : α} (hab : key a = key b) (rest : List α) :
    ∃ before after,
      ((a :: b :: rest).insertionSort fun a b => key a ≤ key b) = before ++ a :: b :: after ∧
      ((b :: a :: rest).insertionSort fun a b => key a ≤ key b) = before ++ b :: a :: after := by
  let sorted := rest.insertionSort fun a b => key a ≤ key b
  let before := sorted.takeWhile fun c => !decide (key a ≤ key c)
  let after := sorted.dropWhile fun c => !decide (key a ≤ key c)
  have hbefore : ∀ c ∈ before, ¬key a ≤ key c := fun c hc => by
    simpa using mem_takeWhile_imp hc
  have hafter : ∀ c ∈ after.head?, key a ≤ key c := fun c hc => by
    have := head?_dropWhile_not (fun c => !decide (key a ≤ key c)) sorted
    rw [Option.mem_def.mp hc] at this
    simpa using this
  have hinsert : ∀ d e, key d = key a → key e = key a →
      ((d :: e :: rest).insertionSort fun a b => key a ≤ key b) = before ++ d :: e :: after := by
    intro d e hd he
    rw [insertionSort_cons, insertionSort_cons]
    show (sorted.orderedInsert _ e).orderedInsert _ d = _
    rw [← takeWhile_append_dropWhile (p := fun c => !decide (key a ≤ key c)) (l := sorted),
      orderedInsert_append key before after (he ▸ hbefore) (he ▸ hafter),
      orderedInsert_append key before (e :: after) (hd ▸ hbefore)]
    rintro c ⟨⟩
    exact (hd.trans he.symm).le
  exact ⟨before, after, hinsert a b rfl hab.symm, hinsert b a hab.symm rfl⟩

end

end List
