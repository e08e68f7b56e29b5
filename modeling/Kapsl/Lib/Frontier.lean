import Mathlib.Data.Finset.Insert
import Mathlib.Logic.Relation

/-!
# Lib/Frontier — searches that keep what they found and what they have yet to visit

A search for what `r` reaches from some roots has **found** some nodes and keeps others **pending**.
As long as every successor of a found node is found or pending (`Frontier.Search`), the search may
visit its pending nodes in any order: `Search.skip` drops one that was found before, `Search.visit`
moves one over and puts its successors on the list.  Once nothing is pending, what was found is
exactly what is reachable (`Search.exact`).  A `Walk` has its pending nodes on a stack.
-/

namespace Frontier

variable {α : Type*} {r : α → α → Prop} {roots found pending next : Set α} {a b : α}

/-- `a` can be reached from a root along `r`. -/
def Reachable (r : α → α → Prop) (roots : Set α) (a : α) : Prop :=
  ∃ root ∈ roots, Relation.ReflTransGen r root a

theorem Reachable.root (h : a ∈ roots) : Reachable r roots a := ⟨a, h, .refl⟩

theorem Reachable.tail (h : Reachable r roots a) (hab : r a b) : Reachable r roots b := by
  obtain ⟨root, hroot, hpath⟩ := h
  exact ⟨root, hroot, hpath.tail hab⟩

/-- A set that holds the roots and every successor of its members holds what is reachable. -/
theorem Reachable.mem_of_closed (h : Reachable r roots a) (hroots : roots ⊆ found)
    (hclosed : ∀ a ∈ found, ∀ b, r a b → b ∈ found) : a ∈ found := by
  obtain ⟨root, hroot, hpath⟩ := h
  induction hpath with
  | refl => exact hroots hroot
  | tail _ hstep ih => exact hclosed _ ih _ hstep

/-- **A search under way** — it keeps only reachable nodes, and has lost none. -/
structure Search (r : α → α → Prop) (roots found pending : Set α) : Prop where
  found_reachable : ∀ a ∈ found, Reachable r roots a
  pending_reachable : ∀ a ∈ pending, Reachable r roots a
  roots_kept : ∀ a ∈ roots, a ∈ found ∨ a ∈ pending
  closed : ∀ a ∈ found, ∀ b, r a b → b ∈ found ∨ b ∈ pending

/-- The search starts with its roots pending. -/
theorem Search.start : Search r roots ∅ roots where
  found_reachable := fun _ h => absurd h (Set.notMem_empty _)
  pending_reachable := fun _ h => .root h
  roots_kept := fun _ h => .inr h
  closed := fun _ h => absurd h (Set.notMem_empty _)

/-- **A pending node that was found before is dropped.** -/
theorem Search.skip (h : Search r roots found (insert a pending)) (ha : a ∈ found) :
    Search r roots found pending := by
  have hdrop : ∀ b, b ∈ found ∨ b ∈ insert a pending → b ∈ found ∨ b ∈ pending := by
    rintro b (hb | rfl | hb)
    exacts [.inl hb, .inl ha, .inr hb]
  exact ⟨h.found_reachable, fun b hb => h.pending_reachable b (.inr hb),
    fun b hb => hdrop b (h.roots_kept b hb),
    fun b hb c hbc => hdrop c (h.closed b hb c hbc)⟩

/-- **A pending node is visited** — its successors are found, pending or the node itself. -/
theorem Search.visit (h : Search r roots found (insert a pending)) (hnext : ∀ b ∈ next, r a b)
    (hsucc : ∀ b, r a b → b ∈ insert a found ∨ b ∈ next) :
    Search r roots (insert a found) (next ∪ pending) := by
  have ha : Reachable r roots a := h.pending_reachable a (.inl rfl)
  have hmove : ∀ b, b ∈ found ∨ b ∈ insert a pending → b ∈ insert a found ∨ b ∈ next ∪ pending := by
    rintro b (hb | rfl | hb)
    exacts [.inl (.inr hb), .inl (.inl rfl), .inr (.inr hb)]
  refine ⟨?_, ?_, fun b hb => hmove b (h.roots_kept b hb), ?_⟩
  · rintro b (rfl | hb)
    exacts [ha, h.found_reachable b hb]
  · rintro b (hb | hb)
    exacts [ha.tail (hnext b hb), h.pending_reachable b (.inr hb)]
  · rintro b (rfl | hb) c hbc
    · exact (hsucc c hbc).imp_right .inl
    · exact hmove c (h.closed b hb c hbc)

/-- **With nothing pending, the found nodes are the reachable ones.** -/
theorem Search.exact (h : Search r roots found ∅) : a ∈ found ↔ Reachable r roots a := by
  refine ⟨h.found_reachable a, fun ha => ha.mem_of_closed ?_ ?_⟩
  · exact fun b hb => (h.roots_kept b hb).resolve_right (Set.notMem_empty b)
  · exact fun b hb c hbc => (h.closed b hb c hbc).resolve_right (Set.notMem_empty c)

/-! ## Pending nodes on a stack -/

section

variable {visited : Finset α} {stack pushed : List α}

/-- **A walk under way** — the pending nodes of the search are on a stack. -/
def Walk (r : α → α → Prop) (roots : Set α) (visited : Finset α) (stack : List α) : Prop :=
  Search r roots visited {a | a ∈ stack}

theorem setOf_mem_cons (a : α) (stack : List α) :
    {x | x ∈ a :: stack} = insert a {x | x ∈ stack} :=
  Set.ext fun _ => List.mem_cons

/-- The walk starts with its roots on the stack. -/
theorem Walk.start (hroots : ∀ a, a ∈ stack ↔ a ∈ roots) : Walk r roots ∅ stack := by
  have hstack : {a | a ∈ stack} = roots := Set.ext hroots
  rw [Walk, Finset.coe_empty, hstack]
  exact .start

/-- What is on the stack is reachable. -/
theorem Walk.reachable_top (h : Walk r roots visited (a :: stack)) : Reachable r roots a :=
  h.pending_reachable a List.mem_cons_self

/-- **A node that was visited before is popped.** -/
theorem Walk.skip (h : Walk r roots visited (a :: stack)) (ha : a ∈ visited) :
    Walk r roots visited stack := by
  rw [Walk, setOf_mem_cons] at h
  exact Search.skip h (Finset.mem_coe.mpr ha)

/-- **A node is visited**, and those of its successors that were not visited are pushed. -/
theorem Walk.visit [DecidableEq α] (h : Walk r roots visited (a :: stack))
    (hpushed : ∀ b ∈ pushed, r a b)
    (hsucc : ∀ b, r a b → b ∈ insert a visited ∨ b ∈ pushed) :
    Walk r roots (insert a visited) (pushed ++ stack) := by
  have hstack : {x | x ∈ pushed ++ stack} = {x | x ∈ pushed} ∪ {x | x ∈ stack} :=
    Set.ext fun _ => List.mem_append
  rw [Walk, setOf_mem_cons] at h
  rw [Walk, Finset.coe_insert, hstack]
  refine Search.visit h hpushed fun b hb => ?_
  rw [← Finset.coe_insert]
  exact hsucc b hb

/-- **With nothing on the stack, the visited nodes are the reachable ones.** -/
theorem Walk.exact (h : Walk r roots visited []) : a ∈ visited ↔ Reachable r roots a := by
  have hstack : {x | x ∈ ([] : List α)} = ∅ := Set.ext fun _ => List.mem_nil_iff _
  rw [Walk, hstack] at h
  exact Search.exact h

end

end Frontier
