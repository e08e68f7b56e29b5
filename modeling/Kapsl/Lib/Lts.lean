import Mathlib.Data.Fintype.BigOperators

/-!
# Lib/Lts — labelled transition systems, their runs, and the invariant rule

A system is a set of initial states and a partial, executable step: `step s a = none` says that the
label `a` is not enabled in `s`.  `ReachBy ok` collects the states of the runs all of whose steps
meet `ok`; `Reach` is the unrestricted case.  Invariants are proved one step at a time
(`ReachBy.invariant`) and concrete traces are replayed by `exec`.
-/

/-- A labelled transition system with an executable step. -/
structure Lts (σ : Type*) (α : Type*) where
  /-- The states a run may start from. -/
  init : σ → Prop
  /-- The successor under a label, `none` when the label is not enabled. -/
  step : σ → α → Option σ

namespace Lts

variable {σ α : Type*}

/-- The states of the runs of `M` all of whose steps `s —a→ s'` satisfy `ok s a`. -/
inductive ReachBy (M : Lts σ α) (ok : σ → α → Prop) : σ → Prop
  | init {s : σ} (h : M.init s) : ReachBy M ok s
  | step {s s' : σ} {a : α} (h : ReachBy M ok s) (hok : ok s a) (hs : M.step s a = some s') :
      ReachBy M ok s'

/-- The reachable states. -/
abbrev Reach (M : Lts σ α) : σ → Prop := ReachBy M fun _ _ => True

/-- **The invariant rule** — what holds initially and is kept by every admitted step holds in every
state reached. -/
theorem ReachBy.invariant {M : Lts σ α} {ok : σ → α → Prop} {I : σ → Prop}
    (hinit : ∀ s, M.init s → I s)
    (hstep : ∀ s a s', I s → ok s a → M.step s a = some s' → I s') {s : σ}
    (h : ReachBy M ok s) : I s := by
  induction h with
  | init h => exact hinit _ h
  | step _ hok hs ih => exact hstep _ _ _ ih hok hs

/-- Replay a list of labels from a state. -/
def exec (M : Lts σ α) (s : σ) : List α → Option σ
  | [] => some s
  | a :: as => (M.step s a).bind fun s' => M.exec s' as

@[simp] theorem exec_nil (M : Lts σ α) (s : σ) : M.exec s [] = some s := rfl

theorem exec_cons (M : Lts σ α) (s : σ) (a : α) (as : List α) :
    M.exec s (a :: as) = (M.step s a).bind fun s' => M.exec s' as := rfl

/-- Every step of the replay satisfies `ok`. -/
def Admits (M : Lts σ α) (ok : σ → α → Prop) : σ → List α → Prop
  | _, [] => True
  | s, a :: as => ok s a ∧
    match M.step s a with
    | none => True
    | some s' => M.Admits ok s' as

/-- **A replayed trace of admitted steps reaches its last state.** -/
theorem reachBy_of_exec {M : Lts σ α} {ok : σ → α → Prop} {s s' : σ} (hs : M.ReachBy ok s)
    (as : List α) (hok : M.Admits ok s as) (h : M.exec s as = some s') : M.ReachBy ok s' := by
  induction as generalizing s with
  | nil => exact (Option.some.inj h) ▸ hs
  | cons a as ih =>
    rw [exec_cons, Option.bind_eq_some_iff] at h
    obtain ⟨s₁, h₁, h₂⟩ := h
    obtain ⟨ha, hrest⟩ := hok
    rw [h₁] at hrest
    exact ih (.step hs ha h₁) hrest h₂

/-- Labels that are admitted in every state make an admitted replay. -/
theorem admits_of_forall {M : Lts σ α} {ok : σ → α → Prop} (s : σ) (as : List α)
    (hok : ∀ a ∈ as, ∀ s, ok s a) : M.Admits ok s as := by
  induction as generalizing s with
  | nil => trivial
  | cons a as ih =>
    refine ⟨hok a List.mem_cons_self s, ?_⟩
    split
    · trivial
    · exact ih _ fun b hb => hok b (List.mem_cons_of_mem a hb)

/-- **A replayed trace reaches its last state.** -/
theorem reach_of_exec {M : Lts σ α} {s s' : σ} (hs : M.Reach s) (as : List α)
    (h : M.exec s as = some s') : M.Reach s' :=
  reachBy_of_exec hs as (admits_of_forall s as fun _ _ _ => trivial) h

end Lts
