import Mathlib.Data.List.Forall2
import Mathlib.Data.List.Perm.Basic

/-!
# Lib/Except — reading a computation back from the value it returned

A `do` block in `Except ε` that returned has taken every step: `bind_eq_ok` peels one of them off.
`RaisesOnly` says which exceptions a block can raise, and composes the same way; `Raises` says for
which inputs it raises one of a kind.
-/

namespace Except

universe u v

variable {ε : Type u} {α β : Type v}

/-- **A sequence that returned ran both halves.** -/
theorem bind_eq_ok {x : Except ε α} {f : α → Except ε β} {b : β} :
    (x >>= f) = .ok b ↔ ∃ a, x = .ok a ∧ f a = .ok b := by
  cases x with
  | error e => exact ⟨nofun, fun ⟨_, h, _⟩ => nomatch h⟩
  | ok a => exact ⟨fun h => ⟨a, rfl, h⟩, fun ⟨a', h, h'⟩ => Except.ok.inj h ▸ h'⟩

/-- A computed value is handed on. -/
theorem ok_bind {a : α} {f : α → Except ε β} : (Except.ok a >>= f) = f a := rfl

theorem pure_eq_ok {a b : α} : (pure a : Except ε α) = .ok b ↔ a = b :=
  ⟨Except.ok.inj, congrArg _⟩

/-- Raise `e` when `c` holds: the guard of a checking function. -/
def raiseIf (c : Prop) [Decidable c] (e : ε) : Except ε Unit := if c then .error e else .ok ()

@[simp] theorem raiseIf_eq_ok {c : Prop} [Decidable c] {e : ε} {u : Unit} :
    raiseIf c e = .ok u ↔ ¬c := by
  unfold raiseIf
  split
  · next h => exact ⟨nofun, fun hn => absurd h hn⟩
  · next h => exact ⟨fun _ => h, fun _ => rfl⟩

theorem raiseIf_eq_error {c : Prop} [Decidable c] {e e' : ε} :
    raiseIf c e = .error e' ↔ c ∧ e = e' := by
  unfold raiseIf
  split
  · next h => exact ⟨fun he => ⟨h, Except.error.inj he⟩, fun he => congrArg _ he.2⟩
  · next h => exact ⟨nofun, fun he => absurd he.1 h⟩

theorem raiseIf_neg {c : Prop} [Decidable c] {e : ε} (h : ¬c) : raiseIf c e = .ok () := if_neg h

/-- The value of an option, or the error for its absence. -/
def okOr (x : Option α) (e : ε) : Except ε α := x.elim (.error e) .ok

@[simp] theorem okOr_eq_ok {x : Option α} {e : ε} {a : α} : okOr x e = .ok a ↔ x = some a := by
  rcases x with _ | b
  · exact ⟨nofun, nofun⟩
  · exact ⟨fun h => congrArg _ (Except.ok.inj h), fun h => congrArg _ (Option.some.inj h)⟩

theorem okOr_eq_error {x : Option α} {e e' : ε} : okOr x e = .error e' ↔ x = none ∧ e = e' := by
  rcases x with _ | b
  · exact ⟨fun h => ⟨rfl, Except.error.inj h⟩, fun h => congrArg _ h.2⟩
  · exact ⟨nofun, nofun⟩

/-- Renaming the errors leaves what was returned. -/
@[simp] theorem mapError_eq_ok {ε' : Type*} {x : Except ε α} {f : ε → ε'} {a : α} :
    x.mapError f = .ok a ↔ x = .ok a := by
  rcases x with e | b
  · exact ⟨nofun, nofun⟩
  · exact ⟨fun h => congrArg _ (Except.ok.inj h), fun h => congrArg _ (Except.ok.inj h)⟩

/-! ## Which exceptions a computation can raise -/

/-- Whatever `x` raises satisfies `P`. -/
def RaisesOnly (P : ε → Prop) (x : Except ε α) : Prop := ∀ e, x = .error e → P e

variable {P : ε → Prop}

theorem raisesOnly_ok {a : α} : RaisesOnly P (.ok a : Except ε α) := nofun

theorem raisesOnly_pure {a : α} : RaisesOnly P (pure a : Except ε α) := nofun

theorem raisesOnly_error {e : ε} (h : P e) : RaisesOnly P (.error e : Except ε α) :=
  fun _ he => Except.error.inj he ▸ h

/-- **A sequence raises what its halves raise.** -/
theorem RaisesOnly.bind {x : Except ε α} {f : α → Except ε β} (hx : RaisesOnly P x)
    (hf : ∀ a, x = .ok a → RaisesOnly P (f a)) : RaisesOnly P (x >>= f) := by
  cases x with
  | error e => exact fun e' he' => Except.error.inj he' ▸ hx e rfl
  | ok a => exact hf a rfl

theorem raisesOnly_raiseIf {c : Prop} [Decidable c] {e : ε} (h : P e) :
    RaisesOnly P (raiseIf c e) := by
  unfold raiseIf
  split
  · exact raisesOnly_error h
  · exact raisesOnly_ok

/-- A loop over a list raises what its rounds raise. -/
theorem RaisesOnly.mapM {xs : List α} {f : α → Except ε β} (h : ∀ x ∈ xs, RaisesOnly P (f x)) :
    RaisesOnly P (xs.mapM f) := by
  induction xs with
  | nil => exact raisesOnly_pure
  | cons x xs ih =>
    rw [List.mapM_cons]
    refine (h x List.mem_cons_self).bind fun _ _ => ?_
    refine (ih fun y hy => h y (List.mem_cons_of_mem x hy)).bind fun _ _ => ?_
    exact raisesOnly_pure

theorem RaisesOnly.forM {xs : List α} {f : α → Except ε PUnit.{v + 1}}
    (h : ∀ x ∈ xs, RaisesOnly P (f x)) : RaisesOnly P (xs.forM f) := by
  induction xs with
  | nil => exact raisesOnly_pure
  | cons x xs ih =>
    rw [List.forM]
    refine (h x List.mem_cons_self).bind fun _ _ => ?_
    exact ih fun y hy => h y (List.mem_cons_of_mem x hy)

/-- A sequence raised in its first half or, that having returned, in its second. -/
theorem bind_eq_error {x : Except ε α} {f : α → Except ε β} {e : ε} :
    (x >>= f) = .error e ↔ x = .error e ∨ ∃ a, x = .ok a ∧ f a = .error e := by
  cases x with
  | error e' => exact ⟨fun h => .inl (congrArg _ (Except.error.inj h)),
      fun h => h.elim (fun h => congrArg _ (Except.error.inj h)) fun ⟨_, h, _⟩ => nomatch h⟩
  | ok a => exact ⟨fun h => .inr ⟨a, rfl, h⟩,
      fun h => h.elim (fun h => nomatch h) fun ⟨_, h, h'⟩ => Except.ok.inj h ▸ h'⟩

/-- **A loop over a list returned what its rounds returned.** -/
theorem mapM_eq_ok {xs : List α} {f : α → Except ε β} {ys : List β} :
    xs.mapM f = .ok ys ↔ List.Forall₂ (fun x y => f x = .ok y) xs ys := by
  induction xs generalizing ys with
  | nil =>
    rw [List.mapM_nil, pure_eq_ok, List.forall₂_nil_left_iff]
    exact eq_comm
  | cons x xs ih =>
    simp only [List.mapM_cons, bind_eq_ok, pure_eq_ok, ih]
    constructor
    · rintro ⟨y, hy, ys, hys, rfl⟩
      exact .cons hy hys
    · intro h
      obtain ⟨y, ys, hy, hys, rfl⟩ := List.forall₂_cons_left_iff.mp h
      exact ⟨y, hy, ys, hys, rfl⟩

/-- Steps that all return do so together. -/
theorem mapM_of_ok {xs : List α} {f : α → Except ε β} {g : α → β}
    (h : ∀ x ∈ xs, f x = .ok (g x)) : xs.mapM f = .ok (xs.map g) := by
  rw [mapM_eq_ok, List.forall₂_map_right_iff, List.forall₂_same]
  exact h

/-- A loop whose rounds only check may check first and return then. -/
theorem mapM_checked {xs : List α} {f : α → Except ε β} {check : α → Except ε PUnit.{v + 1}}
    {g : α → β} (h : ∀ x ∈ xs, f x = check x >>= fun _ => .ok (g x)) :
    xs.mapM f = xs.forM check >>= fun _ => .ok (xs.map g) := by
  induction xs with
  | nil => rfl
  | cons x xs ih =>
    obtain ⟨hx, hxs⟩ := List.forall_mem_cons.mp h
    rw [List.mapM_cons, hx, ih hxs, List.forM]
    rcases check x with e | u
    · rfl
    · rcases xs.forM check with e | u
      exacts [rfl, rfl]

/-- What a loop returned came from one of its rounds. -/
theorem exists_of_mem_mapM {xs : List α} {f : α → Except ε β} {ys : List β} {y : β}
    (h : xs.mapM f = .ok ys) (hy : y ∈ ys) : ∃ x ∈ xs, f x = .ok y := by
  rw [mapM_eq_ok] at h
  induction h with
  | nil => exact absurd hy List.not_mem_nil
  | cons hxy _ ih =>
    obtain rfl | hy := List.mem_cons.mp hy
    · exact ⟨_, List.mem_cons_self, hxy⟩
    · obtain ⟨x, hx, heq⟩ := ih hy
      exact ⟨x, List.mem_cons_of_mem _ hx, heq⟩

/-- A loop that returned has returned something for each of its items. -/
theorem exists_mem_of_mapM {xs : List α} {f : α → Except ε β} {ys : List β} {x : α}
    (h : xs.mapM f = .ok ys) (hx : x ∈ xs) : ∃ y ∈ ys, f x = .ok y := by
  rw [mapM_eq_ok] at h
  induction h with
  | nil => exact absurd hx List.not_mem_nil
  | cons hxy _ ih =>
    obtain rfl | hx := List.mem_cons.mp hx
    · exact ⟨_, List.mem_cons_self, hxy⟩
    · obtain ⟨y, hy, heq⟩ := ih hx
      exact ⟨y, List.mem_cons_of_mem _ hy, heq⟩

/-- A loop all of whose rounds return, returns. -/
theorem mapM_returns {xs : List α} {f : α → Except ε β} (h : ∀ x ∈ xs, ∃ y, f x = .ok y) :
    ∃ ys, xs.mapM f = .ok ys := by
  induction xs with
  | nil => exact ⟨[], rfl⟩
  | cons x xs ih =>
    obtain ⟨⟨y, hy⟩, hxs⟩ := List.forall_mem_cons.mp h
    obtain ⟨ys, hys⟩ := ih hxs
    exact ⟨y :: ys, mapM_eq_ok.mpr (.cons hy (mapM_eq_ok.mp hys))⟩

/-- A loop over numbered items numbers what it returned the same way. -/
theorem exists_of_mem_zipIdx_mapM {xs : List α} {f : α × ℕ → Except ε β} {ys : List β} {k : ℕ}
    {y : β} {i : ℕ} (h : List.Forall₂ (fun x y => f x = .ok y) (xs.zipIdx k) ys)
    (hy : (y, i) ∈ ys.zipIdx k) : ∃ x ∈ xs, f (x, i) = .ok y := by
  induction xs generalizing ys k with
  | nil =>
    rw [List.zipIdx_nil, List.forall₂_nil_left_iff] at h
    rw [h] at hy
    exact absurd hy List.not_mem_nil
  | cons x xs ih =>
    rw [List.zipIdx_cons, List.forall₂_cons_left_iff] at h
    obtain ⟨y', ys, hxy, hrest, rfl⟩ := h
    rw [List.zipIdx_cons, List.mem_cons, Prod.mk.injEq] at hy
    obtain ⟨rfl, rfl⟩ | hy := hy
    · exact ⟨x, List.mem_cons_self, hxy⟩
    · obtain ⟨x', hx', heq⟩ := ih hrest hy
      exact ⟨x', List.mem_cons_of_mem _ hx', heq⟩

/-- The round of the item at an index returned what stands at that index. -/
theorem mapM_zipIdx_getElem {xs : List α} {f : α × ℕ → Except ε β} {ys : List β} {i : ℕ} {x : α}
    {y : β} (h : xs.zipIdx.mapM f = .ok ys) (hx : xs[i]? = some x) (hy : ys[i]? = some y) :
    f (x, i) = .ok y := by
  rw [mapM_eq_ok, List.forall₂_iff_get] at h
  obtain ⟨hi, rfl⟩ := List.getElem?_eq_some_iff.mp hx
  obtain ⟨hi', rfl⟩ := List.getElem?_eq_some_iff.mp hy
  simpa using h.2 i (by simpa using hi) hi'

/-- **Replacing one of the numbered items** replaces what its round returned. -/
theorem mapM_zipIdx_set {xs : List α} {f : α × ℕ → Except ε β} {ys : List β} {i : ℕ} {x : α} {y : β}
    (h : xs.zipIdx.mapM f = .ok ys) (hxy : f (x, i) = .ok y) :
    (xs.set i x).zipIdx.mapM f = .ok (ys.set i y) := by
  rw [mapM_eq_ok, List.forall₂_iff_get] at h ⊢
  obtain ⟨hlength, hget⟩ := h
  simp only [List.length_zipIdx, List.get_eq_getElem, List.getElem_zipIdx] at hlength hget
  refine ⟨by simpa using hlength, fun j hj hj' => ?_⟩
  simp only [List.get_eq_getElem, List.getElem_zipIdx, List.getElem_set, Nat.zero_add]
  split
  · next heq => exact heq ▸ hxy
  · simpa using hget j (by simpa using hj) (by simpa using hj')

/-- **What a loop returned is read off its items**, if one round is: `g` of what it returned is `k`
of what it was given. -/
theorem map_eq_map_of_mapM {γ : Type*} {xs : List α} {f : α → Except ε β} {g : β → γ} {k : α → γ}
    {ys : List β} (hf : ∀ x ∈ xs, ∀ y, f x = .ok y → g y = k x) (h : xs.mapM f = .ok ys) :
    ys.map g = xs.map k := by
  rw [mapM_eq_ok] at h
  induction h with
  | nil => rfl
  | cons hxy _ ih =>
    rw [List.map_cons, List.map_cons, hf _ List.mem_cons_self _ hxy,
      ih fun x hx => hf x (List.mem_cons_of_mem _ hx)]

/-- What a loop returned, if each round returns a function of what it was given. -/
theorem eq_map_of_mapM {xs : List α} {f : α → Except ε β} {g : α → β} {ys : List β}
    (hf : ∀ x y, f x = .ok y → y = g x) (h : xs.mapM f = .ok ys) : ys = xs.map g := by
  have hmap : ys.map id = xs.map g := map_eq_map_of_mapM (fun x _ => hf x) h
  rwa [List.map_id] at hmap

/-- **A loop over the same items in another order** returns the same results in another order. -/
theorem mapM_perm {xs xs' : List α} {f : α → Except ε β} {ys : List β} (hperm : xs.Perm xs')
    (h : xs.mapM f = .ok ys) : ∃ ys', xs'.mapM f = .ok ys' ∧ ys.Perm ys' := by
  rw [mapM_eq_ok] at h
  obtain ⟨ys', hys', hperm'⟩ := List.perm_comp_forall₂ hperm.symm h
  exact ⟨ys', mapM_eq_ok.mpr hys', hperm'.symm⟩

/-- A loop over items each of which may stand for the one before it returns the same results. -/
theorem mapM_of_forall₂ {xs xs' : List α} {f : α → Except ε β} {ys : List β} {R : α → α → Prop}
    (hR : ∀ x x' y, R x x' → f x = .ok y → f x' = .ok y) (hxs : List.Forall₂ R xs xs')
    (h : xs.mapM f = .ok ys) : xs'.mapM f = .ok ys := by
  rw [mapM_eq_ok] at h ⊢
  induction hxs generalizing ys with
  | nil => exact h
  | cons hx _ ih =>
    obtain ⟨y, ys, hy, hys, rfl⟩ := List.forall₂_cons_left_iff.mp h
    exact .cons (hR _ _ _ hx hy) (ih hys)

/-- A loop that tells its items apart tells its lists apart. -/
theorem mapM_inj {xs xs' : List α} {f : α → Except ε β} {ys : List β}
    (hf : ∀ x ∈ xs, ∀ x' ∈ xs', ∀ y, f x = .ok y → f x' = .ok y → x = x')
    (h : xs.mapM f = .ok ys) (h' : xs'.mapM f = .ok ys) : xs = xs' := by
  rw [mapM_eq_ok] at h h'
  induction h generalizing xs' with
  | nil => exact (List.forall₂_nil_right_iff.mp h').symm
  | cons hx _ ih =>
    obtain ⟨x', rest, hx', hrest, rfl⟩ := List.forall₂_cons_right_iff.mp h'
    have htails := ih (fun x hx x' hx' =>
      hf x (List.mem_cons_of_mem _ hx) x' (List.mem_cons_of_mem _ hx')) hrest
    rw [hf _ List.mem_cons_self _ List.mem_cons_self _ hx hx', htails]

/-- **A loop over a list raised at the first round that did.** -/
theorem mapM_eq_error {xs : List α} {f : α → Except ε β} {e : ε} :
    xs.mapM f = .error e ↔ ∃ before x after, xs = before ++ x :: after ∧
      (∀ b ∈ before, ∃ v, f b = .ok v) ∧ f x = .error e := by
  induction xs with
  | nil => exact ⟨nofun, fun ⟨before, x, after, h, _⟩ => by simp at h⟩
  | cons x xs ih =>
    rw [List.mapM_cons, bind_eq_error]
    constructor
    · rintro (hx | ⟨v, hx, h⟩)
      · exact ⟨[], x, xs, rfl, by simp, hx⟩
      · rcases bind_eq_error.mp h with h | ⟨vs, -, h⟩
        · obtain ⟨before, y, after, rfl, hb, hy⟩ := ih.mp h
          exact ⟨x :: before, y, after, rfl, List.forall_mem_cons.mpr ⟨⟨v, hx⟩, hb⟩, hy⟩
        · exact absurd h nofun
    · rintro ⟨before, y, after, heq, hb, hy⟩
      cases before with
      | nil =>
        obtain ⟨rfl, rfl⟩ := List.cons.inj heq
        exact .inl hy
      | cons b before =>
        obtain ⟨rfl, rfl⟩ := List.cons.inj heq
        obtain ⟨⟨v, hv⟩, hb⟩ := List.forall_mem_cons.mp hb
        exact .inr ⟨v, hv, bind_eq_error.mpr (.inl (ih.mpr ⟨before, y, after, rfl, hb, hy⟩))⟩

/-- **A loop over a list returns when its rounds do.** -/
theorem forM_eq_ok {xs : List α} {f : α → Except ε PUnit.{v + 1}} {u : PUnit.{v + 1}} :
    xs.forM f = .ok u ↔ ∀ x ∈ xs, f x = .ok ⟨⟩ := by
  induction xs with
  | nil => exact ⟨fun _ => nofun, fun _ => rfl⟩
  | cons x xs ih =>
    rw [List.forM, bind_eq_ok, List.forall_mem_cons]
    exact ⟨fun ⟨_, hx, h⟩ => ⟨hx, ih.mp h⟩, fun ⟨hx, h⟩ => ⟨⟨⟩, hx, ih.mpr h⟩⟩

/-- A computation whose value was observed has returned. -/
theorem exists_of_map_toOption {γ : Type*} {x : Except ε α} {f : α → γ} {c : γ}
    (h : x.toOption.map f = some c) : ∃ a, x = .ok a ∧ f a = c := by
  cases x with
  | error e => exact nomatch h
  | ok a => exact ⟨a, rfl, Option.some.inj h⟩

/-! ## Which inputs make a computation raise -/

/-- `x` raises something that satisfies `P`. -/
def Raises (P : ε → Prop) (x : Except ε α) : Prop := ∃ e, x = .error e ∧ P e

theorem not_raises_ok {a : α} : ¬Raises P (.ok a : Except ε α) := fun ⟨_, h, _⟩ => nomatch h

theorem not_raises_pure {a : α} : ¬Raises P (pure a : Except ε α) := fun ⟨_, h, _⟩ => nomatch h

theorem RaisesOnly.not_raises {Q : ε → Prop} {x : Except ε α} (h : RaisesOnly Q x)
    (hPQ : ∀ e, P e → ¬Q e) : ¬Raises P x :=
  fun ⟨e, he, hP⟩ => hPQ e hP (h e he)

/-- **A sequence raises in one half or the other.** -/
theorem raises_bind {x : Except ε α} {f : α → Except ε β} :
    Raises P (x >>= f) ↔ Raises P x ∨ ∃ a, x = .ok a ∧ Raises P (f a) := by
  constructor
  · rintro ⟨e, he, hP⟩
    exact (bind_eq_error.mp he).imp (fun h => ⟨e, h, hP⟩) fun ⟨a, ha, h⟩ => ⟨a, ha, e, h, hP⟩
  · rintro (⟨e, he, hP⟩ | ⟨a, ha, e, he, hP⟩)
    · exact ⟨e, bind_eq_error.mpr (.inl he), hP⟩
    · exact ⟨e, bind_eq_error.mpr (.inr ⟨a, ha, he⟩), hP⟩

/-- **A loop over a list raises in the first round that does**, the rounds before it having
returned. -/
theorem raises_forM {xs : List α} {f : α → Except ε PUnit.{v + 1}} :
    Raises P (xs.forM f) ↔ ∃ before x after, xs = before ++ x :: after ∧
      (∀ b ∈ before, f b = .ok ⟨⟩) ∧ Raises P (f x) := by
  induction xs with
  | nil => exact ⟨fun h => absurd h not_raises_pure, fun ⟨_, _, _, h, _⟩ => by simp at h⟩
  | cons x xs ih =>
    rw [List.forM, raises_bind, ih]
    constructor
    · rintro (h | ⟨_, hx, before, y, after, rfl, hbefore, hy⟩)
      · exact ⟨[], x, xs, rfl, nofun, h⟩
      · exact ⟨x :: before, y, after, rfl, List.forall_mem_cons.mpr ⟨hx, hbefore⟩, hy⟩
    · rintro ⟨before, y, after, heq, hbefore, hy⟩
      rcases before with _ | ⟨b, before⟩
      · obtain ⟨rfl, rfl⟩ := List.cons.inj heq
        exact .inl hy
      · obtain ⟨rfl, rfl⟩ := List.cons.inj heq
        obtain ⟨hx, hbefore⟩ := List.forall_mem_cons.mp hbefore
        exact .inr ⟨⟨⟩, hx, before, y, after, rfl, hbefore, hy⟩

end Except
