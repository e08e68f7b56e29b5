import Mathlib.Data.List.Induction
import Mathlib.Data.List.Nodup

/-!
# Lib/Greedy — selections that keep an item unless a kept one blocks it

`keepOnto blocks kept items` goes through the items once and keeps each of them that no item kept
before blocks.  The outcome can be told without the run: it is the one sublist in which an item
stands exactly when no earlier member blocks it (`survivors_spec`, `Survivors.eq_survivors`).  No
member blocks a later one (`pairwise_survivors`), the selection of a first part is the first part of
the selection (`survivors_append`), and it only depends on what blocks what (`map_survivors`).
-/

namespace Greedy

variable {α β : Type*} (blocks : α → α → Prop) [DecidableRel blocks]

/-- Go through the items, and keep those that nothing kept so far blocks. -/
def keepOnto (kept : List α) : List α → List α
  | [] => kept
  | a :: items =>
    if ∃ b ∈ kept, blocks b a then keepOnto kept items else keepOnto (kept ++ [a]) items

/-- The greedy selection. -/
def survivors (items : List α) : List α := keepOnto blocks [] items

/-- **A greedy selection, told without the run** — a sublist, with an item in it exactly when no
earlier member blocks the item. -/
def Survivors (blocks : α → α → Prop) (items kept : List α) : Prop :=
  kept.Sublist items ∧ ∀ before a after, items = before ++ a :: after →
    (a ∈ kept ↔ ∀ b ∈ before, b ∈ kept → ¬blocks b a)

variable {blocks} {items kept xs ys : List α} {a : α}

theorem keepOnto_append : keepOnto blocks kept (xs ++ ys) =
    keepOnto blocks (keepOnto blocks kept xs) ys := by
  induction xs generalizing kept with
  | nil => rfl
  | cons a xs ih =>
    rw [List.cons_append, keepOnto, keepOnto]
    split <;> exact ih

/-- The run never gives up what it kept. -/
theorem exists_keepOnto (kept items : List α) :
    ∃ more, keepOnto blocks kept items = kept ++ more ∧ more.Sublist items := by
  induction items generalizing kept with
  | nil => exact ⟨[], (List.append_nil kept).symm, .slnil⟩
  | cons a items ih =>
    rw [keepOnto]
    split
    · obtain ⟨more, hmore, hsub⟩ := ih kept
      exact ⟨more, hmore, hsub.cons a⟩
    · obtain ⟨more, hmore, hsub⟩ := ih (kept ++ [a])
      exact ⟨a :: more, by rw [hmore, List.append_assoc]; rfl, hsub.cons_cons a⟩

/-- **The selection of a first part is the first part of the selection.** -/
theorem survivors_append (blocks : α → α → Prop) [DecidableRel blocks] (xs ys : List α) :
    ∃ more, survivors blocks (xs ++ ys) = survivors blocks xs ++ more ∧ more.Sublist ys := by
  rw [survivors, keepOnto_append]
  exact exists_keepOnto _ ys

theorem survivors_sublist : (survivors blocks items).Sublist items := by
  obtain ⟨more, hmore, hsub⟩ : ∃ more, survivors blocks items = [] ++ more ∧ _ :=
    exists_keepOnto [] items
  rwa [hmore]

theorem survivors_concat_of_blocked (h : ∃ b ∈ survivors blocks xs, blocks b a) :
    survivors blocks (xs ++ [a]) = survivors blocks xs := by
  rw [survivors, keepOnto_append]
  exact if_pos h

theorem survivors_concat_of_free (h : ¬∃ b ∈ survivors blocks xs, blocks b a) :
    survivors blocks (xs ++ [a]) = survivors blocks xs ++ [a] := by
  rw [survivors, keepOnto_append]
  exact if_neg h

/-- **No member of the selection blocks a later one.** -/
theorem pairwise_survivors (items : List α) :
    (survivors blocks items).Pairwise fun a b => ¬blocks a b := by
  induction items using List.reverseRecOn with
  | nil => exact .nil
  | append_singleton xs a ih =>
    by_cases h : ∃ b ∈ survivors blocks xs, blocks b a
    · rwa [survivors_concat_of_blocked h]
    · rw [survivors_concat_of_free h]
      refine List.pairwise_append.mpr ⟨ih, List.pairwise_singleton _ a, ?_⟩
      intro b hb c hc
      rw [List.mem_singleton.mp hc]
      exact fun hblocks => h ⟨b, hb, hblocks⟩

/-! ## Items that occur once -/

/-- An item before a given one is selected exactly when it is selected among those before. -/
theorem mem_survivors_append {b : α} (hnodup : (xs ++ ys).Nodup) (hb : b ∈ xs) :
    b ∈ survivors blocks (xs ++ ys) ↔ b ∈ survivors blocks xs := by
  obtain ⟨more, hmore, hsub⟩ := survivors_append blocks xs ys
  have hfresh : b ∉ more := fun hmem => (List.disjoint_of_nodup_append hnodup) hb (hsub.subset hmem)
  rw [hmore, List.mem_append, or_iff_left hfresh]

/-- **The run makes a greedy selection.** -/
theorem survivors_spec (hnodup : items.Nodup) :
    Survivors blocks items (survivors blocks items) := by
  refine ⟨survivors_sublist, ?_⟩
  rintro before a after rfl
  have hsplit : before ++ a :: after = before ++ [a] ++ after := by simp
  rw [hsplit] at hnodup ⊢
  have hnodup' : (before ++ [a]).Nodup := hnodup.of_append_left
  have hold : ∀ b ∈ before, (b ∈ survivors blocks (before ++ [a] ++ after) ↔
      b ∈ survivors blocks before) := fun b hb =>
    (mem_survivors_append hnodup (List.mem_append_left _ hb)).trans
      (mem_survivors_append hnodup' hb)
  rw [mem_survivors_append hnodup (List.mem_append_right _ (List.mem_singleton_self a))]
  constructor
  · intro ha b hb hkept hblocks
    have hblocked : ∃ b ∈ survivors blocks before, blocks b a := ⟨b, (hold b hb).mp hkept, hblocks⟩
    rw [survivors_concat_of_blocked hblocked] at ha
    exact (List.disjoint_of_nodup_append hnodup') (survivors_sublist.subset ha)
      (List.mem_singleton_self a)
  · intro hfree
    rw [survivors_concat_of_free]
    · exact List.mem_append_right _ (List.mem_singleton_self a)
    · rintro ⟨b, hb, hblocks⟩
      have hbefore : b ∈ before := survivors_sublist.subset hb
      exact hfree b hbefore ((hold b hbefore).mpr hb) hblocks

omit [DecidableRel blocks] in
/-- A greedy selection of all items selects greedily among the first ones. -/
theorem Survivors.of_append {more : List α} (h : Survivors blocks (xs ++ ys) (kept ++ more))
    (hnodup : (xs ++ ys).Nodup) (hkept : kept.Sublist xs) (hmore : more.Sublist ys) :
    Survivors blocks xs kept := by
  have hmem : ∀ b ∈ xs, (b ∈ kept ++ more ↔ b ∈ kept) := fun b hb => by
    have hfresh : b ∉ more := fun hb' =>
      (List.disjoint_of_nodup_append hnodup) hb (hmore.subset hb')
    rw [List.mem_append, or_iff_left hfresh]
  refine ⟨hkept, ?_⟩
  rintro before b after rfl
  have hall := h.2 before b (after ++ ys) (by simp)
  rw [hmem b (by simp)] at hall
  refine hall.trans (forall₂_congr fun c hc => ?_)
  rw [hmem c (List.mem_append_left _ hc)]

/-- **There is one greedy selection.** -/
theorem Survivors.eq_survivors (h : Survivors blocks items kept) (hnodup : items.Nodup) :
    kept = survivors blocks items := by
  induction items using List.reverseRecOn generalizing kept with
  | nil => exact List.sublist_nil.mp h.1
  | append_singleton xs a ih =>
    obtain ⟨first, last, rfl, hfirst, hlast⟩ := List.sublist_append_iff.mp h.1
    have hxs := h.of_append hnodup hfirst hlast
    obtain rfl := ih hxs hnodup.of_append_left
    have hfresh : a ∉ survivors blocks xs := fun ha =>
      (List.disjoint_of_nodup_append hnodup) (hfirst.subset ha) (List.mem_singleton_self a)
    have ha := h.2 xs a [] rfl
    rw [List.mem_append, or_iff_right hfresh] at ha
    have hfree : a ∈ last ↔ ¬∃ b ∈ survivors blocks xs, blocks b a := by
      rw [ha]
      push Not
      constructor
      · exact fun hall b hb => hall b (hfirst.subset hb) (List.mem_append_left _ hb)
      · intro hall b hb hkept
        refine hall b ((List.mem_append.mp hkept).resolve_right fun hmem => ?_)
        exact (List.disjoint_of_nodup_append hnodup) hb (hlast.subset hmem)
    by_cases hblocked : ∃ b ∈ survivors blocks xs, blocks b a
    · rw [survivors_concat_of_blocked hblocked]
      obtain rfl | rfl := List.sublist_singleton.mp hlast
      · exact List.append_nil _
      · exact absurd hblocked (hfree.mp (List.mem_singleton_self a))
    · rw [survivors_concat_of_free hblocked]
      obtain rfl | rfl := List.sublist_singleton.mp hlast
      · exact absurd (hfree.mpr hblocked) List.not_mem_nil
      · rfl

/-! ## Images and first parts -/

/-- **A selection only depends on what blocks what.** -/
theorem map_keepOnto (f : β → α) (kept items : List β) :
    (keepOnto (fun a b => blocks (f a) (f b)) kept items).map f =
      keepOnto blocks (kept.map f) (items.map f) := by
  induction items generalizing kept with
  | nil => rfl
  | cons a items ih =>
    have hiff : (∃ b ∈ kept.map f, blocks b (f a)) ↔ ∃ b ∈ kept, blocks (f b) (f a) := by simp
    rw [List.map_cons, keepOnto, keepOnto]
    by_cases h : ∃ b ∈ kept, blocks (f b) (f a)
    · rw [if_pos h, if_pos (hiff.mpr h), ih]
    · rw [if_neg h, if_neg (fun h' => h (hiff.mp h')), ih, List.map_append]
      rfl

theorem map_survivors (f : β → α) (items : List β) :
    (survivors (fun a b => blocks (f a) (f b)) items).map f = survivors blocks (items.map f) :=
  map_keepOnto f [] items

/-- Of the items a test holds on at the front, the members are those of the whole selection that
pass it. -/
theorem filter_survivors_append {p : α → Bool} (hxs : ∀ a ∈ xs, p a) (hys : ∀ a ∈ ys, ¬p a) :
    (survivors blocks (xs ++ ys)).filter p = survivors blocks xs := by
  obtain ⟨more, hmore, hsub⟩ := survivors_append blocks xs ys
  rw [hmore, List.filter_append,
    List.filter_eq_self.mpr fun a ha => hxs a (survivors_sublist.subset ha),
    List.filter_eq_nil_iff.mpr fun a ha => hys a (hsub.subset ha), List.append_nil]

end Greedy
