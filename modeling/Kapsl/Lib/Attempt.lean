import Mathlib.Logic.Basic

/-!
# Lib/Attempt — computations that may fail and keep what they did

`ExceptT ε (StateM σ)` is a computation over a hidden state `σ` whose changes survive a failure.
`Returns m P` is total correctness: from every state `m` succeeds, with a value in `P`.
`Ends m w Q E` has a postcondition for either outcome, so that what a handler undoes can be stated.
-/

/-- A computation over `σ` that may fail with `ε`. -/
abbrev Attempt (ε σ α : Type) := ExceptT ε (StateM σ) α

namespace Attempt

variable {ε σ α β : Type}

/-- The answer and the state a computation leaves. -/
def exec (m : Attempt ε σ α) (w : σ) : Except ε α × σ := m.run.run w

theorem exec_bind (m : Attempt ε σ α) (f : α → Attempt ε σ β) (w : σ) :
    exec (m >>= f) w =
      match exec m w with
      | (.ok a, w') => exec (f a) w'
      | (.error e, w') => (.error e, w') := by
  show (ExceptT.bindCont f (exec m w).1).run (exec m w).2 = _
  rcases exec m w with ⟨_ | _, w'⟩ <;> rfl

/-- A sequence that succeeds succeeds in both parts. -/
theorem exec_bind_eq_ok {m : Attempt ε σ α} {f : α → Attempt ε σ β} {w w' : σ} {b : β}
    (h : exec (m >>= f) w = (.ok b, w')) :
    ∃ a w₁, exec m w = (.ok a, w₁) ∧ exec (f a) w₁ = (.ok b, w') := by
  rw [exec_bind] at h
  rcases hm : exec m w with ⟨e | a, w₁⟩
  · rw [hm] at h
    exact absurd (congrArg Prod.fst h) (by simp)
  · rw [hm] at h
    exact ⟨a, w₁, rfl, h⟩

/-- Run `m` and go on with its answer, whichever it is. -/
def result (m : Attempt ε σ α) : Attempt ε σ (Except ε α) :=
  ExceptT.mk (m.run >>= fun r => pure (.ok r))

theorem exec_result (m : Attempt ε σ α) (w : σ) :
    exec (result m) w = (.ok (exec m w).1, (exec m w).2) := rfl

/-- Read the hidden state. -/
def ask (f : σ → α) : Attempt ε σ α := ExceptT.mk fun w => (.ok (f w), w)

theorem exec_ask (f : σ → α) (w : σ) : exec (ask f : Attempt ε σ α) w = (.ok (f w), w) := rfl

/-- An answer already known. -/
def lift (x : Except ε α) : Attempt ε σ α := ExceptT.mk fun w => (x, w)

theorem exec_lift (x : Except ε α) (w : σ) : exec (lift x) w = (x, w) := rfl

/-- Fail when `c` holds. -/
def failIf (c : Prop) [Decidable c] (e : ε) : Attempt ε σ Unit := if c then throw e else pure ()

/-- Change the hidden state. -/
def update (g : σ → σ) : Attempt ε σ Unit := ExceptT.mk fun w => (.ok (), g w)

theorem exec_update (g : σ → σ) (w : σ) :
    exec (update g : Attempt ε σ Unit) w = (.ok (), g w) := rfl

/-! ## Total correctness -/

/-- **From every state `m` succeeds, with a value in `P`.** -/
def Returns (m : Attempt ε σ α) (P : α → Prop) : Prop :=
  ∀ w, ∃ a w', exec m w = (.ok a, w') ∧ P a

variable {P : α → Prop} {Q : β → Prop} {m : Attempt ε σ α} {f : α → Attempt ε σ β}

theorem Returns.pure {a : α} (h : P a) : Returns (pure a : Attempt ε σ α) P :=
  fun w => ⟨a, w, rfl, h⟩

theorem Returns.bind (hm : Returns m P) (hf : ∀ a, P a → Returns (f a) Q) :
    Returns (m >>= f) Q := by
  intro w
  obtain ⟨a, w₁, h₁, ha⟩ := hm w
  obtain ⟨b, w₂, h₂, hb⟩ := hf a ha w₁
  exact ⟨b, w₂, by rw [exec_bind, h₁]; exact h₂, hb⟩

theorem Returns.mono {R : α → Prop} (h : Returns m P) (hPR : ∀ a, P a → R a) : Returns m R := by
  intro w
  obtain ⟨a, w', hexec, ha⟩ := h w
  exact ⟨a, w', hexec, hPR a ha⟩

/-- Whatever the answer, it is in the postcondition. -/
theorem Returns.result {R : Except ε α → Prop} (h : ∀ w, R (exec m w).1) :
    Returns (result m) R :=
  fun w => ⟨_, _, exec_result m w, h w⟩

theorem Returns.ask {g : σ → α} (h : ∀ w, P (g w)) : Returns (ask g : Attempt ε σ α) P :=
  fun w => ⟨_, _, exec_ask g w, h w⟩

/-! ## Both outcomes -/

/-- **From `w`, `m` ends in `Q` with its answer or in `E` with its failure.** -/
def Ends (m : Attempt ε σ α) (w : σ) (Q : α → σ → Prop) (E : ε → σ → Prop) : Prop :=
  (∀ a w', exec m w = (.ok a, w') → Q a w') ∧ ∀ e w', exec m w = (.error e, w') → E e w'

section

variable {w : σ} {m : Attempt ε σ α} {f : α → Attempt ε σ β} {Q : α → σ → Prop} {E : ε → σ → Prop}
  {R : β → σ → Prop}

theorem ends_of_exec_ok {a : α} {v : σ} (h : exec m w = (.ok a, v)) (hQ : Q a v) :
    Ends m w Q E := by
  refine ⟨fun b w' hb => ?_, fun e w' he => ?_⟩
  · obtain ⟨hab, rfl⟩ := Prod.mk.inj (h.symm.trans hb)
    exact Except.ok.inj hab ▸ hQ
  · exact nomatch (Prod.mk.inj (h.symm.trans he)).1

theorem ends_of_exec_error {e : ε} {v : σ} (h : exec m w = (.error e, v)) (hE : E e v) :
    Ends m w Q E := by
  refine ⟨fun b w' hb => ?_, fun e' w' he => ?_⟩
  · exact nomatch (Prod.mk.inj (h.symm.trans hb)).1
  · obtain ⟨hee, rfl⟩ := Prod.mk.inj (h.symm.trans he)
    exact Except.error.inj hee ▸ hE

theorem Ends.pure {a : α} (h : Q a w) : Ends (pure a : Attempt ε σ α) w Q E :=
  ends_of_exec_ok (v := w) rfl h

theorem Ends.throw {e : ε} (h : E e w) : Ends (throw e : Attempt ε σ α) w Q E :=
  ends_of_exec_error (v := w) rfl h

/-- **A sequence**: the second half starts where the first one ended. -/
theorem Ends.bind (hm : Ends m w Q E) (hf : ∀ a w', Q a w' → Ends (f a) w' R E) :
    Ends (m >>= f) w R E := by
  rcases hexec : exec m w with ⟨e | a, w'⟩
  · refine ends_of_exec_error (e := e) (v := w') ?_ (hm.2 e w' hexec)
    rw [exec_bind, hexec]
  · have hbind : exec (m >>= f) w = exec (f a) w' := by rw [exec_bind, hexec]
    rw [Ends, hbind]
    exact hf a w' (hm.1 a w' hexec)

/-- A known answer is handed on, a known failure ends the sequence. -/
theorem Ends.bind_lift {x : Except ε α} (hok : ∀ a, x = .ok a → Ends (f a) w R E)
    (herr : ∀ e, x = .error e → E e w) : Ends (lift x >>= f) w R E := by
  cases x with
  | ok a =>
    have hbind : exec (lift (.ok a) >>= f) w = exec (f a) w := by rw [exec_bind, exec_lift]
    rw [Ends, hbind]
    exact hok a rfl
  | error e =>
    refine ends_of_exec_error (e := e) (v := w) ?_ (herr e rfl)
    rw [exec_bind, exec_lift]

theorem Ends.bind_ask {g : σ → α} (h : Ends (f (g w)) w R E) : Ends (ask g >>= f) w R E := by
  have hbind : exec (ask g >>= f) w = exec (f (g w)) w := by rw [exec_bind, exec_ask]
  rwa [Ends, hbind]

theorem Ends.bind_update {g : σ → σ} {f : Unit → Attempt ε σ β} (h : Ends (f ()) (g w) R E) :
    Ends (update g >>= f) w R E := by
  have hbind : exec (update g >>= f) w = exec (f ()) (g w) := by rw [exec_bind, exec_update]
  rwa [Ends, hbind]

theorem Ends.update {g : σ → σ} {Q : Unit → σ → Prop} (h : Q () (g w)) :
    Ends (Attempt.update g : Attempt ε σ Unit) w Q E :=
  ends_of_exec_ok (v := g w) rfl h

/-- A check that passed is behind, one that failed ends the sequence. -/
theorem Ends.bind_failIf {c : Prop} [Decidable c] {e : ε} {f : Unit → Attempt ε σ β}
    (hpass : ¬c → Ends (f ()) w R E) (hfail : c → E e w) : Ends (failIf c e >>= f) w R E := by
  by_cases hc : c
  · refine ends_of_exec_error (e := e) (v := w) ?_ (hfail hc)
    rw [exec_bind, failIf, if_pos hc]
    rfl
  · have hbind : exec (failIf c e >>= f) w = exec (f ()) w := by
      rw [exec_bind, failIf, if_neg hc]
      rfl
    rw [Ends, hbind]
    exact hpass hc

theorem exec_tryCatch (m : Attempt ε σ α) (g : ε → Attempt ε σ α) (w : σ) :
    exec (tryCatch m g) w =
      match exec m w with
      | (.ok a, w') => (.ok a, w')
      | (.error e, w') => exec (g e) w' := by
  show (match (exec m w).1 with
    | .ok a => (Pure.pure (.ok a) : StateM σ (Except ε α))
    | .error e => (g e).run).run (exec m w).2 = _
  rcases exec m w with ⟨_ | _, w'⟩ <;> rfl

/-- **A handler** starts where the failure left the state. -/
theorem Ends.tryCatch {F : ε → σ → Prop} {g : ε → Attempt ε σ α} (hm : Ends m w Q F)
    (hg : ∀ e w', F e w' → Ends (g e) w' Q E) : Ends (tryCatch m g) w Q E := by
  rcases hexec : exec m w with ⟨e | a, w'⟩
  · have htry : exec (MonadExcept.tryCatch m g) w = exec (g e) w' := by rw [exec_tryCatch, hexec]
    rw [Ends, htry]
    exact hg e w' (hm.2 e w' hexec)
  · refine ends_of_exec_ok (a := a) (v := w') ?_ (hm.1 a w' hexec)
    rw [exec_tryCatch, hexec]

/-- What a failure left is a result like any other. -/
theorem Ends.result {F : ε → σ → Prop} {S : Except ε α → σ → Prop} (hm : Ends m w Q F)
    (hok : ∀ a w', Q a w' → S (.ok a) w') (herr : ∀ e w', F e w' → S (.error e) w') :
    Ends (Attempt.result m) w S E := by
  rcases hexec : exec m w with ⟨e | a, w'⟩
  · refine ends_of_exec_ok (a := .error e) (v := w') ?_ (herr e w' (hm.2 e w' hexec))
    rw [exec_result, hexec]
  · refine ends_of_exec_ok (a := .ok a) (v := w') ?_ (hok a w' (hm.1 a w' hexec))
    rw [exec_result, hexec]

theorem Ends.mono {Q' : α → σ → Prop} {E' : ε → σ → Prop} (h : Ends m w Q E)
    (hQ : ∀ a w', Q a w' → Q' a w') (hE : ∀ e w', E e w' → E' e w') : Ends m w Q' E' :=
  ⟨fun a w' ha => hQ a w' (h.1 a w' ha), fun e w' he => hE e w' (h.2 e w' he)⟩

end

end Attempt
