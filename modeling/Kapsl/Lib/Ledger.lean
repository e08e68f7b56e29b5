import Mathlib.Data.Set.Basic
import Mathlib.Data.List.Basic

/-!
# Lib/Ledger — resources that are granted, kept track of, and freed

An owner asks for resources, is granted some, keeps track of those it records, and passes them to
`free`, which may be refused.  `Event` is what has passed between the owner and the givers, latest
first; a grant is named by its number.

* `Legal` — a resource is freed as it was granted, and not after it was freed; hence
  `Legal.freed_once`.
* `Account` — what an owner tracks was granted and not freed; each of its moves keeps that.
* `Kept` — what was recorded, or refused by `free`, is tracked until a `free` succeeds.
-/

namespace Ledger

variable {ρ κ : Type*}

/-- What passes between an owner and the givers: `ρ` are requests, `κ` resources. -/
inductive Event (ρ κ : Type*)
  | request (r : ρ)
  | grant (n : ℕ) (x : κ)
  /-- The owner starts to track grant `n`. -/
  | record (n : ℕ)
  | free (n : ℕ) (x : κ) (ok : Bool)
  deriving DecidableEq

/-! ## Legal histories -/

/-- **Grants are new, and only what was granted and not yet freed is passed to `free`.** -/
inductive Legal : List (Event ρ κ) → Prop
  | nil : Legal []
  | request {events : List (Event ρ κ)} (r : ρ) (h : Legal events) : Legal (.request r :: events)
  | grant {events : List (Event ρ κ)} {n : ℕ} (x : κ) (h : Legal events)
    (hnew : ∀ y, .grant n y ∉ events) : Legal (.grant n x :: events)
  | record {events : List (Event ρ κ)} (n : ℕ) (h : Legal events) : Legal (.record n :: events)
  | free {events : List (Event ρ κ)} {n : ℕ} {x : κ} (ok : Bool) (h : Legal events)
    (hgrant : .grant n x ∈ events) (hfirst : ∀ y, .free n y true ∉ events) :
    Legal (.free n x ok :: events)

variable {events : List (Event ρ κ)} {n : ℕ} {x y : κ}

/-- A grant number names one resource. -/
theorem Legal.grant_unique (h : Legal events) (hx : .grant n x ∈ events)
    (hy : .grant n y ∈ events) : x = y := by
  induction h with
  | nil => exact absurd hx (by simp)
  | request r h ih => exact ih (by simpa using hx) (by simpa using hy)
  | record m h ih => exact ih (by simpa using hx) (by simpa using hy)
  | free ok h hgrant hfirst ih => exact ih (by simpa using hx) (by simpa using hy)
  | @grant events m z h hnew ih =>
    rcases List.mem_cons.mp hx with hx' | hx'
    · obtain ⟨rfl, rfl⟩ := Event.grant.inj hx'
      rcases List.mem_cons.mp hy with hy' | hy'
      · exact (Event.grant.inj hy').2.symm
      · exact absurd hy' (hnew y)
    · rcases List.mem_cons.mp hy with hy' | hy'
      · obtain ⟨rfl, rfl⟩ := Event.grant.inj hy'
        exact absurd hx' (hnew x)
      · exact ih hx' hy'

/-- **A resource is freed exactly as it was granted.** -/
theorem Legal.granted_of_free (h : Legal events) {ok : Bool} (hfree : .free n x ok ∈ events) :
    .grant n x ∈ events := by
  induction h with
  | nil => exact absurd hfree (by simp)
  | request r h ih => exact List.mem_cons_of_mem _ (ih (by simpa using hfree))
  | record m h ih => exact List.mem_cons_of_mem _ (ih (by simpa using hfree))
  | grant z h hnew ih => exact List.mem_cons_of_mem _ (ih (by simpa using hfree))
  | free ok' h hgrant hfirst ih =>
    rcases List.mem_cons.mp hfree with hfree | hfree
    · obtain ⟨rfl, rfl, -⟩ := Event.free.inj hfree
      exact List.mem_cons_of_mem _ hgrant
    · exact List.mem_cons_of_mem _ (ih hfree)

/-- **No two `free` calls of one grant succeed.** -/
theorem Legal.freed_once (h : Legal events) :
    events.Pairwise fun e e' => ∀ n x y, e = .free n x true → e' ≠ .free n y true := by
  induction h with
  | nil => exact .nil
  | request r h ih => exact ih.cons fun e _ n x y he => absurd he (by simp)
  | record m h ih => exact ih.cons fun e _ n x y he => absurd he (by simp)
  | grant z h hnew ih => exact ih.cons fun e _ n x y he => absurd he (by simp)
  | free ok h hgrant hfirst ih =>
    refine ih.cons fun e he n x y heq hfree => ?_
    obtain ⟨rfl, rfl, rfl⟩ := Event.free.inj heq
    exact hfirst y (hfree ▸ he)

/-! ## The account of an owner -/

/-- **What the owner tracks was granted to it, as it tracks it, and not freed.** -/
structure Account (tracked : Set (ℕ × κ)) (next : ℕ) (events : List (Event ρ κ)) : Prop where
  legal : Legal events
  lt_next : ∀ n x, .grant n x ∈ events → n < next
  granted : ∀ n x, (n, x) ∈ tracked → .grant n x ∈ events
  unfreed : ∀ n x, (n, x) ∈ tracked → ∀ y, .free n y true ∉ events

namespace Account

variable {tracked tracked' : Set (ℕ × κ)} {next : ℕ}

theorem empty : Account (∅ : Set (ℕ × κ)) 0 ([] : List (Event ρ κ)) :=
  ⟨.nil, by simp, by simp, by simp⟩

/-- The owner may forget. -/
theorem mono (h : Account tracked next events) (hsub : tracked' ⊆ tracked) :
    Account tracked' next events :=
  ⟨h.legal, h.lt_next, fun n x hx => h.granted n x (hsub hx), fun n x hx => h.unfreed n x (hsub hx)⟩

theorem mono_next (h : Account tracked next events) {next' : ℕ} (hle : next ≤ next') :
    Account tracked next' events :=
  ⟨h.legal, fun n x hx => (h.lt_next n x hx).trans_le hle, h.granted, h.unfreed⟩

theorem request (h : Account tracked next events) (r : ρ) :
    Account tracked next (.request r :: events) :=
  ⟨.request r h.legal, fun n x hx => h.lt_next n x (by simpa using hx),
    fun n x hx => List.mem_cons_of_mem _ (h.granted n x hx),
    fun n x hx y => by simpa using h.unfreed n x hx y⟩

/-- A grant takes the next number. -/
theorem grant (h : Account tracked next events) (x : κ) :
    Account tracked (next + 1) (.grant next x :: events) := by
  refine ⟨.grant x h.legal fun y hy => ?_, fun n y hy => ?_, fun n y hy => ?_, fun n y hy z => ?_⟩
  · exact absurd (h.lt_next next y hy) (lt_irrefl _)
  · rcases List.mem_cons.mp hy with hy | hy
    · obtain ⟨rfl, -⟩ := Event.grant.inj hy
      exact Nat.lt_succ_self _
    · exact (h.lt_next n y hy).trans (Nat.lt_succ_self _)
  · exact List.mem_cons_of_mem _ (h.granted n y hy)
  · simpa using h.unfreed n y hy z

/-- A number not granted yet was not freed. -/
theorem not_freed_next (h : Account tracked next events) (y : κ) (ok : Bool) :
    .free next y ok ∉ events := fun hfree =>
  absurd (h.lt_next next y (h.legal.granted_of_free hfree)) (lt_irrefl _)

/-- **A granted resource is tracked.** -/
theorem track (h : Account tracked next events) (x : κ) :
    Account (insert (next, x) tracked) (next + 1) (.record next :: .grant next x :: events) := by
  have hg := h.grant x
  refine ⟨.record next hg.legal, fun n y hy => hg.lt_next n y (by simpa using hy),
    fun n y hy => ?_, fun n y hy z hz => ?_⟩
  · rcases hy with heq | hy
    · obtain ⟨rfl, rfl⟩ := Prod.mk.inj heq
      simp
    · exact List.mem_cons_of_mem _ (hg.granted n y hy)
  · have hold : .free n z true ∈ events := by simpa using hz
    rcases hy with heq | hy
    · obtain ⟨rfl, rfl⟩ := Prod.mk.inj heq
      exact h.not_freed_next z true hold
    · exact h.unfreed n y hy z hold

/-- **A granted resource is given back at once.** -/
theorem reject (h : Account tracked next events) (x : κ) (ok : Bool) :
    Account tracked (next + 1) (.free next x ok :: .grant next x :: events) := by
  have hg := h.grant x
  refine ⟨.free ok hg.legal List.mem_cons_self fun y hy => ?_,
    fun n y hy => hg.lt_next n y (by simpa using hy),
    fun n y hy => List.mem_cons_of_mem _ (hg.granted n y hy), fun n y hy z hz => ?_⟩
  · exact h.not_freed_next y true (by simpa using hy)
  · rcases List.mem_cons.mp hz with hz | hz
    · obtain ⟨rfl, -⟩ := Event.free.inj hz
      exact absurd (h.lt_next n y (h.granted n y hy)) (lt_irrefl _)
    · exact hg.unfreed n y hy z hz

/-- **A tracked resource is passed to `free` and tracked no longer.** -/
theorem release (h : Account tracked next events) (hx : (n, x) ∈ tracked) (ok : Bool) :
    Account (tracked \ {(n, x)}) next (.free n x ok :: events) := by
  refine ⟨.free ok h.legal (h.granted n x hx) (h.unfreed n x hx),
    fun m y hy => h.lt_next m y (by simpa using hy),
    fun m y hy => List.mem_cons_of_mem _ (h.granted m y hy.1), fun m y hy z hz => ?_⟩
  rcases List.mem_cons.mp hz with hz | hz
  · obtain ⟨rfl, -⟩ := Event.free.inj hz
    obtain rfl := h.legal.grant_unique (h.granted m y hy.1) (h.granted m x hx)
    exact hy.2 rfl
  · exact h.unfreed m y hy.1 z hz

/-- **A refused `free` leaves the resource tracked.** -/
theorem refuse (h : Account tracked next events) (hx : (n, x) ∈ tracked) :
    Account tracked next (.free n x false :: events) :=
  ⟨.free false h.legal (h.granted n x hx) (h.unfreed n x hx),
    fun m y hy => h.lt_next m y (by simpa using hy),
    fun m y hy => List.mem_cons_of_mem _ (h.granted m y hy),
    fun m y hy z => by simpa using h.unfreed m y hy z⟩

end Account

/-! ## Nothing is forgotten -/

/-- Grant `n` was recorded, or a `free` of it was refused. -/
def Answerable (events : List (Event ρ κ)) (n : ℕ) : Prop :=
  .record n ∈ events ∨ ∃ x, .free n x false ∈ events

/-- **What the owner must answer for is tracked until a `free` of it succeeds.** -/
def Kept (tracked : Set (ℕ × κ)) (events : List (Event ρ κ)) : Prop :=
  ∀ n, Answerable events n → (∃ x, (n, x) ∈ tracked) ∨ ∃ x, .free n x true ∈ events

namespace Kept

variable {tracked tracked' : Set (ℕ × κ)}

/-- **A move keeps the promise** when every number that is new to answer for, and every number no
longer tracked, is tracked or freed afterwards. -/
theorem step (h : Kept tracked events) {events' : List (Event ρ κ)}
    (hnew : ∀ n, Answerable events' n → Answerable events n ∨
      (∃ x, (n, x) ∈ tracked') ∨ ∃ x, .free n x true ∈ events')
    (htracked : ∀ n x, (n, x) ∈ tracked → (n, x) ∈ tracked' ∨ .free n x true ∈ events')
    (hsub : events ⊆ events') : Kept tracked' events' := by
  intro n hn
  rcases hnew n hn with hold | hdone
  · rcases h n hold with ⟨x, hx⟩ | ⟨x, hx⟩
    · exact (htracked n x hx).imp (fun hx => ⟨x, hx⟩) fun hx => ⟨x, hx⟩
    · exact .inr ⟨x, hsub hx⟩
  · exact hdone

end Kept

end Ledger
