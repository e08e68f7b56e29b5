import Mathlib.Data.List.Nodup
import Mathlib.Logic.Function.Basic

/-!
# Lib/Patches — taking over bindings and giving them back

A table binds names to objects.  A patch binds one name to an object of its own and records what it
took the place of.  Undoing goes through the records, latest first, and gives back what is still
bound to the patch's object; what others have bound since is theirs to keep.

* `Patched.undo` — undone, the table is what it would have been without the patches.
* `Patched.undo_rebound` — and so is each patched name that nobody else has bound in the meantime.
-/

namespace Patches

variable {κ ω : Type*} [DecidableEq κ] [DecidableEq ω]

/-- An object of others, or the one that patches bind. -/
inductive Object (ω : Type*)
  | theirs (object : ω)
  | ours
  deriving DecidableEq

/-- A table of bindings. -/
abbrev Bindings (κ ω : Type*) := κ → Option (Object ω)

/-- A table that nobody has patched. -/
def unpatched (was : κ → Option ω) : Bindings κ ω := fun k => (was k).map .theirs

/-- Bind a name. -/
def bind (table : Bindings κ ω) (k : κ) (object : Option (Object ω)) : Bindings κ ω :=
  Function.update table k object

/-- Give back what is still ours, record by record. -/
def undo (table : Bindings κ ω) : List (κ × Object ω) → Bindings κ ω
  | [] => table
  | (k, original) :: records =>
    undo (if table k = some .ours then bind table k (some original) else table) records

theorem undo_of_notMem {records : List (κ × Object ω)} {k : κ} (hk : k ∉ records.map Prod.fst)
    (table : Bindings κ ω) : undo table records k = table k := by
  induction records generalizing table with
  | nil => rfl
  | cons record records ih =>
    obtain ⟨j, original⟩ := record
    rw [List.map_cons, List.mem_cons, not_or] at hk
    rw [undo, ih hk.2]
    split_ifs
    · exact Function.update_of_ne hk.1 ..
    · rfl

/-- **A recorded name** gets its object back if it is still ours. -/
theorem undo_of_mem {records : List (κ × Object ω)} (hnodup : (records.map Prod.fst).Nodup)
    {k : κ} {original : Object ω} (hmem : (k, original) ∈ records) (table : Bindings κ ω) :
    undo table records k = if table k = some .ours then some original else table k := by
  induction records generalizing table with
  | nil => exact absurd hmem List.not_mem_nil
  | cons record records ih =>
    obtain ⟨j, first⟩ := record
    rw [List.map_cons, List.nodup_cons] at hnodup
    rw [undo]
    rcases List.mem_cons.mp hmem with heq | htail
    · obtain ⟨rfl, rfl⟩ := Prod.mk.inj heq
      rw [undo_of_notMem hnodup.1]
      split_ifs
      · exact Function.update_self ..
      · rfl
    · have hne : k ≠ j := by
        rintro rfl
        exact hnodup.1 (List.mem_map.mpr ⟨_, htail, rfl⟩)
      have hsame : (if table j = some .ours then bind table j (some first) else table) k =
          table k := by
        split_ifs
        · exact Function.update_of_ne hne ..
        · rfl
      rw [ih hnodup.2 htail, hsame]

/-- **What patching keeps**: each record names another binding, holds what the name would be bound
to without patches, and the name is ours; any other name is bound as it would be. -/
structure Patched (was : κ → Option ω) (now : Bindings κ ω) (records : List (κ × Object ω)) :
    Prop where
  nodup : (records.map Prod.fst).Nodup
  recorded : ∀ record ∈ records, unpatched was record.1 = some record.2
  bound : ∀ record ∈ records, now record.1 = some .ours
  frame : ∀ k ∉ records.map Prod.fst, now k = unpatched was k

variable {was : κ → Option ω} {now : Bindings κ ω} {records : List (κ × Object ω)}

omit [DecidableEq κ] [DecidableEq ω] in
theorem patched_nil (was : κ → Option ω) : Patched was (unpatched was) [] where
  nodup := List.nodup_nil
  recorded := nofun
  bound := nofun
  frame _ _ := rfl

omit [DecidableEq κ] [DecidableEq ω] in
theorem Patched.exists_of_mem (h : Patched was now records) {k : κ}
    (hk : k ∈ records.map Prod.fst) :
    ∃ original, (k, original) ∈ records ∧ unpatched was k = some original ∧ now k = some .ours := by
  obtain ⟨⟨_, original⟩, hmem, rfl⟩ := List.mem_map.mp hk
  exact ⟨original, hmem, h.recorded _ hmem, h.bound _ hmem⟩

omit [DecidableEq ω] in
/-- Another name is bound, with and without patches alike. -/
theorem Patched.rebind (h : Patched was now records) {k : κ} (hk : k ∉ records.map Prod.fst)
    (object : Option ω) :
    Patched (Function.update was k object) (bind now k (object.map .theirs)) records where
  nodup := h.nodup
  recorded := by
    intro record hrecord
    have hne : record.1 ≠ k := fun heq => hk (heq ▸ List.mem_map_of_mem hrecord)
    rw [unpatched, Function.update_of_ne hne]
    exact h.recorded record hrecord
  bound := by
    intro record hrecord
    have hne : record.1 ≠ k := fun heq => hk (heq ▸ List.mem_map_of_mem hrecord)
    rw [bind, Function.update_of_ne hne]
    exact h.bound record hrecord
  frame := by
    intro j hj
    rw [bind, unpatched]
    by_cases hjk : j = k
    · subst hjk
      rw [Function.update_self, Function.update_self]
    · rw [Function.update_of_ne hjk, Function.update_of_ne hjk]
      exact h.frame j hj

omit [DecidableEq ω] in
/-- **One more patch**, of a name that without patches would be bound to what is recorded. -/
theorem Patched.patch {object : ω} {k : κ} (h : Patched was now records)
    (hk : k ∉ records.map Prod.fst) (hrecord : was k = some object) :
    Patched was (bind now k (some .ours)) (records ++ [(k, .theirs object)]) where
  nodup := by
    rw [List.map_append, List.map_singleton]
    exact List.nodup_append_comm.mp (List.nodup_cons.mpr ⟨hk, h.nodup⟩)
  recorded := by
    intro record hmem
    rcases List.mem_append.mp hmem with hmem | hmem
    · exact h.recorded record hmem
    · obtain rfl := List.mem_singleton.mp hmem
      rw [unpatched, hrecord, Option.map_some]
  bound := by
    intro record hmem
    rw [bind]
    rcases List.mem_append.mp hmem with hmem | hmem
    · have hne : record.1 ≠ k := fun heq => hk (heq ▸ List.mem_map_of_mem hmem)
      rw [Function.update_of_ne hne]
      exact h.bound record hmem
    · obtain rfl := List.mem_singleton.mp hmem
      exact Function.update_self ..
  frame := by
    intro j hj
    rw [List.map_append, List.mem_append, List.map_singleton, List.mem_singleton, not_or] at hj
    rw [bind, Function.update_of_ne hj.2]
    exact h.frame j hj.1

/-- **Undone after others have bound names**: a patched name that is still ours is bound as it would
be without patches, and any other name as it is. -/
theorem Patched.undo_rebound (h : Patched was now records) (later : Bindings κ ω) (k : κ) :
    undo later records.reverse k =
      if k ∈ records.map Prod.fst ∧ later k = some .ours then unpatched was k else later k := by
  have hnodup : (records.reverse.map Prod.fst).Nodup := by
    rw [List.map_reverse]
    exact List.nodup_reverse.mpr h.nodup
  by_cases hk : k ∈ records.map Prod.fst
  · obtain ⟨original, hmem, hwas, -⟩ := h.exists_of_mem hk
    rw [undo_of_mem hnodup (List.mem_reverse.mpr hmem), hwas]
    simp only [hk, true_and]
  · rw [undo_of_notMem (by rwa [List.map_reverse, List.mem_reverse]), if_neg fun h => hk h.1]

/-- **Undone at once**, the table is what it would have been without the patches. -/
theorem Patched.undo (h : Patched was now records) : undo now records.reverse = unpatched was := by
  funext k
  rw [h.undo_rebound]
  split_ifs with hours
  · rfl
  · refine h.frame k fun hk => hours ⟨hk, ?_⟩
    obtain ⟨-, -, -, hnow⟩ := h.exists_of_mem hk
    exact hnow

end Patches
