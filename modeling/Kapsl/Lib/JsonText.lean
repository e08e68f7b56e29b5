import Mathlib.Data.List.Sort
import Mathlib.Data.List.Lex
import Mathlib.Data.String.Basic
import Mathlib.Data.Fin.Basic

/-!
# Lib/JsonText — values and the one text each of them is written as

A text is a list of code points, lone surrogates included.  `render` writes a value without white
space, escaping what must be escaped and nothing else; a `dict` is held in key order, which is the
order it is written in.

* `render_injective` — no two values have one text.
* `any_render` — what is not ASCII in the text of a value stands in one of its texts.
-/

namespace JsonText

/-- A Unicode code point; surrogates are code points too. -/
abbrev CodePoint := Fin 0x110000

abbrev Text := List CodePoint

/-- The code point of a character. -/
def ofChar (c : Char) : CodePoint :=
  ⟨c.toNat, by
    have := c.valid
    simp only [Char.toNat, UInt32.isValidChar, Nat.isValidChar] at *
    omega⟩

/-- The text of a string. -/
def ofString (s : String) : Text := s.toList.map ofChar

theorem ofChar_injective : Function.Injective ofChar := by
  intro a b h
  exact Char.ext (UInt32.toNat_inj.mp (Fin.mk.inj h))

theorem ofString_injective : Function.Injective ofString := by
  intro a b h
  exact String.toList_injective (List.map_injective_iff.mpr ofChar_injective h)

/-- What a document is built from: numbers are integers, and a `dict` is a list of items in key
order. -/
inductive Value
  | bool (b : Bool)
  | int (n : ℤ)
  | text (s : Text)
  | list (items : List Value)
  | dict (fields : List (String × Value))

/-! ## Texts in quotes -/

/-- A hexadecimal digit, in lower case. -/
def hexDigit (n : ℕ) : CodePoint := if n < 10 then Fin.ofNat _ (48 + n) else Fin.ofNat _ (87 + n)

/-- A code point inside quotes: quotes, backslashes and control characters are escaped. -/
def escape (c : CodePoint) : Text :=
  if c = 34 then [92, 34]
  else if c = 92 then [92, 92]
  else if c = 8 then [92, 98]
  else if c = 12 then [92, 102]
  else if c = 10 then [92, 110]
  else if c = 13 then [92, 114]
  else if c = 9 then [92, 116]
  else if c.val < 32 then [92, 117, 48, 48, hexDigit (c.val / 16), hexDigit (c.val % 16)]
  else [c]

/-- A text in quotes. -/
def quote (s : Text) : Text := 34 :: s.flatMap escape ++ [34]

/-- The code points that are escaped. -/
def escaped : List CodePoint := 34 :: 92 :: (List.range 32).map (Fin.ofNat _)

theorem mem_escaped {c : CodePoint} : c ∈ escaped ↔ c = 34 ∨ c = 92 ∨ c.val < 32 := by
  simp only [escaped, List.mem_cons, List.mem_map, List.mem_range]
  refine or_congr_right (or_congr_right ⟨?_, fun h => ⟨c.val, h, ?_⟩⟩)
  · rintro ⟨n, hn, rfl⟩
    rw [Fin.val_ofNat]
    omega
  · exact Fin.ofNat_val_eq_self c

theorem escape_of_not_mem {c : CodePoint} (h : c ∉ escaped) : escape c = [c] := by
  rw [mem_escaped, not_or, not_or] at h
  obtain ⟨hquote, hbackslash, hcontrol⟩ := h
  have hne : ∀ n : CodePoint, n.val < 32 → c ≠ n := fun n hn heq => hcontrol (heq ▸ hn)
  rw [escape, if_neg hquote, if_neg hbackslash, if_neg (hne 8 (by decide)),
    if_neg (hne 12 (by decide)), if_neg (hne 10 (by decide)), if_neg (hne 13 (by decide)),
    if_neg (hne 9 (by decide)), if_neg hcontrol]

/-- An escape starts with a backslash, and no escape starts another. -/
theorem escape_of_mem : ∀ a ∈ escaped, (escape a).head? = some 92 ∧
    ∀ b ∈ escaped, escape a <+: escape b → a = b := by
  -- Checked over the list of escaped code points, not over all of them.
  have htable : (escaped.all fun a => decide ((escape a).head? = some 92) &&
      escaped.all fun b => decide (escape a <+: escape b → a = b)) = true := by decide +kernel
  simpa only [List.all_eq_true, Bool.and_eq_true, decide_eq_true_eq] using htable

/-- No code point is written with a quote in front. -/
theorem head_escape_ne (c : CodePoint) : (escape c).head? ≠ some 34 := by
  by_cases h : c ∈ escaped
  · rw [(escape_of_mem c h).1]
    decide
  · rw [escape_of_not_mem h]
    intro hquote
    exact h (mem_escaped.mpr (.inl (Option.some.inj hquote)))

theorem escape_ne_nil (c : CodePoint) : escape c ≠ [] := by
  by_cases h : c ∈ escaped
  · intro hnil
    have hhead := (escape_of_mem c h).1
    rw [hnil] at hhead
    exact nomatch hhead
  · rw [escape_of_not_mem h]
    exact List.cons_ne_nil c []

/-- An escaped code point is told apart from one written as it is. -/
theorem escape_ne_of_mem {a b : CodePoint} {s t : Text} (ha : a ∈ escaped) (hb : b ∉ escaped) :
    escape a ++ s ≠ escape b ++ t := by
  intro h
  have hheads := congrArg List.head? h
  rw [List.head?_append_of_ne_nil _ (escape_ne_nil a), (escape_of_mem a ha).1,
    escape_of_not_mem hb] at hheads
  exact hb (mem_escaped.mpr (.inr (.inl (Option.some.inj hheads).symm)))

/-- **Escapes decode**: what stands first determines the code point and the rest. -/
theorem escape_append_inj {a b : CodePoint} {s t : Text} (h : escape a ++ s = escape b ++ t) :
    a = b ∧ s = t := by
  have heq : a = b := by
    by_cases ha : a ∈ escaped
    · by_cases hb : b ∈ escaped
      · have hleft : escape a <+: escape b ++ t := h ▸ List.prefix_append _ _
        obtain hab | hba := List.prefix_or_prefix_of_prefix hleft (List.prefix_append _ _)
        · exact (escape_of_mem a ha).2 b hb hab
        · exact ((escape_of_mem b hb).2 a ha hba).symm
      · exact absurd h (escape_ne_of_mem ha hb)
    · by_cases hb : b ∈ escaped
      · exact absurd h.symm (escape_ne_of_mem hb ha)
      · rw [escape_of_not_mem ha, escape_of_not_mem hb] at h
        exact (List.cons.inj h).1
  subst heq
  exact ⟨rfl, List.append_cancel_left h⟩

/-- A text ends at its closing quote. -/
theorem flatMap_escape_inj {s t : Text} {x y : Text}
    (h : s.flatMap escape ++ 34 :: x = t.flatMap escape ++ 34 :: y) : s = t ∧ x = y := by
  have hstop : ∀ (c : CodePoint) (u x y : Text), 34 :: x ≠ (c :: u).flatMap escape ++ 34 :: y := by
    intro c u x y h
    have hheads := congrArg List.head? h
    rw [List.flatMap_cons, List.append_assoc, List.head?_append_of_ne_nil _ (escape_ne_nil c)]
      at hheads
    exact head_escape_ne c hheads.symm
  induction s generalizing t with
  | nil =>
    rcases t with _ | ⟨b, t⟩
    · exact ⟨rfl, (List.cons.inj h).2⟩
    · exact absurd h (hstop b t x y)
  | cons a s ih =>
    rcases t with _ | ⟨b, t⟩
    · exact absurd h.symm (hstop a s y x)
    · rw [List.flatMap_cons, List.flatMap_cons, List.append_assoc, List.append_assoc] at h
      obtain ⟨rfl, hrest⟩ := escape_append_inj h
      obtain ⟨rfl, hxy⟩ := ih hrest
      exact ⟨rfl, hxy⟩

theorem quote_append_inj {s t x y : Text} (h : quote s ++ x = quote t ++ y) : s = t ∧ x = y := by
  rw [quote, quote, List.append_assoc, List.append_assoc] at h
  exact flatMap_escape_inj (List.cons.inj h).2

/-! ## Rendering -/

/-- An integer in decimal. -/
def renderInt : ℤ → Text
  | .ofNat n => (Nat.toDigits 10 n).map ofChar
  | .negSucc n => 45 :: (Nat.toDigits 10 (n + 1)).map ofChar

mutual

/-- The text of a value: no white space, `,` and `:` between the parts. -/
def render : Value → Text
  | .bool true => ofString "true"
  | .bool false => ofString "false"
  | .int n => renderInt n
  | .text s => quote s
  | .list items => 91 :: renderItems items ++ [93]
  | .dict fields => 123 :: renderFields fields ++ [125]

/-- The items of a list, with commas between them. -/
def renderItems : List Value → Text
  | [] => []
  | item :: items => render item ++ renderMoreItems items

/-- The items after the first. -/
def renderMoreItems : List Value → Text
  | [] => []
  | item :: items => 44 :: render item ++ renderMoreItems items

/-- The fields of a dict, with commas between them. -/
def renderFields : List (String × Value) → Text
  | [] => []
  | (key, value) :: fields => quote (ofString key) ++ 58 :: render value ++ renderMoreFields fields

/-- The fields after the first. -/
def renderMoreFields : List (String × Value) → Text
  | [] => []
  | (key, value) :: fields =>
    44 :: quote (ofString key) ++ 58 :: render value ++ renderMoreFields fields

end

/-! ## Integers end where their digits do -/

/-- Whether a code point is a decimal digit. -/
def isDigit (c : CodePoint) : Bool := 48 ≤ c.val && c.val ≤ 57

/-- What follows a value does not start with a digit. -/
def Ends (s : Text) : Prop := ∀ c ∈ s.head?, isDigit c = false

theorem isDigit_ofChar {c : Char} (h : c.isDigit = true) : isDigit (ofChar c) = true := by
  simp only [Char.isDigit, Bool.and_eq_true, decide_eq_true_eq, ge_iff_le, UInt32.le_iff_toNat_le]
    at h
  rw [isDigit, Bool.and_eq_true]
  exact ⟨decide_eq_true h.1, decide_eq_true h.2⟩

theorem takeWhile_digits {n : ℕ} {s : Text} (hs : Ends s) :
    (((Nat.toDigits 10 n).map ofChar) ++ s).takeWhile isDigit = (Nat.toDigits 10 n).map ofChar := by
  have hall : ∀ c ∈ (Nat.toDigits 10 n).map ofChar, isDigit c = true := by
    intro c hc
    obtain ⟨d, hd, rfl⟩ := List.mem_map.mp hc
    exact isDigit_ofChar (Nat.isDigit_of_mem_toDigits (by omega) (by omega) hd)
  have hnil : s.takeWhile isDigit = [] := by
    rcases s with _ | ⟨c, s⟩
    · rfl
    · exact List.takeWhile_cons_of_neg (by rw [hs c rfl]; exact Bool.false_ne_true)
  rw [List.takeWhile_append_of_pos hall, hnil, List.append_nil]

theorem digits_append_inj {m n : ℕ} {s t : Text} (hs : Ends s) (ht : Ends t)
    (h : (Nat.toDigits 10 m).map ofChar ++ s = (Nat.toDigits 10 n).map ofChar ++ t) :
    m = n ∧ s = t := by
  have hdigits : (Nat.toDigits 10 m).map ofChar = (Nat.toDigits 10 n).map ofChar := by
    rw [← takeWhile_digits hs, h, takeWhile_digits ht]
  have hchars := List.map_injective_iff.mpr ofChar_injective hdigits
  have hmn : m = n := by
    rw [← Nat.ofDigitChars_ten_toDigits (n := m), hchars, Nat.ofDigitChars_ten_toDigits]
  subst hmn
  exact ⟨rfl, List.append_cancel_left h⟩

theorem exists_digit (n : ℕ) :
    ∃ c rest, (Nat.toDigits 10 n).map ofChar = c :: rest ∧ isDigit c = true := by
  rcases hdigits : Nat.toDigits 10 n with _ | ⟨d, ds⟩
  · exact absurd hdigits Nat.toDigits_ne_nil
  · have hd : d ∈ Nat.toDigits 10 n := hdigits ▸ List.mem_cons_self
    exact ⟨ofChar d, ds.map ofChar, rfl,
      isDigit_ofChar (Nat.isDigit_of_mem_toDigits (by omega) (by omega) hd)⟩

theorem renderInt_append_inj {m n : ℤ} {s t : Text} (hs : Ends s) (ht : Ends t)
    (h : renderInt m ++ s = renderInt n ++ t) : m = n ∧ s = t := by
  have hsign : ∀ (k : ℕ) (u x : Text), (Nat.toDigits 10 k).map ofChar ++ u ≠ 45 :: x := by
    intro k u x heq
    obtain ⟨c, rest, hdigits, hc⟩ := exists_digit k
    rw [hdigits] at heq
    rw [(List.cons.inj heq).1] at hc
    exact absurd hc (by decide)
  rcases m with m | m <;> rcases n with n | n
  · obtain ⟨rfl, hst⟩ := digits_append_inj hs ht h
    exact ⟨rfl, hst⟩
  · exact absurd h (hsign m s _)
  · exact absurd h.symm (hsign n t _)
  · obtain ⟨hmn, hst⟩ := digits_append_inj hs ht (List.cons.inj h).2
    exact ⟨congrArg Int.negSucc (Nat.succ.inj hmn), hst⟩

/-! ## The first code point tells the kind -/

inductive Kind
  | bool
  | int
  | text
  | list
  | dict
  deriving DecidableEq

def Value.kind : Value → Kind
  | .bool _ => .bool
  | .int _ => .int
  | .text _ => .text
  | .list _ => .list
  | .dict _ => .dict

/-- The kind of the value that starts with a code point. -/
def kindOf (c : CodePoint) : Option Kind :=
  if c = 34 then some .text
  else if c = 91 then some .list
  else if c = 123 then some .dict
  else if c = 45 ∨ isDigit c = true then some .int
  else if c = 116 ∨ c = 102 then some .bool
  else none

theorem kindOf_digit {c : CodePoint} (h : isDigit c = true) : kindOf c = some .int := by
  have hne : ∀ n : CodePoint, isDigit n = false → c ≠ n := by
    rintro n hn rfl
    exact absurd h (by rw [hn]; exact Bool.false_ne_true)
  rw [kindOf, if_neg (hne 34 rfl), if_neg (hne 91 rfl), if_neg (hne 123 rfl), if_pos (.inr h)]

/-- **A value starts with a code point of its kind.** -/
theorem head_render (v : Value) : ∃ c rest, render v = c :: rest ∧ kindOf c = some v.kind := by
  rcases v with _ | n | s | items | fields
  case bool b =>
    rcases b with _ | _
    · exact ⟨102, _, rfl, rfl⟩
    · exact ⟨116, _, rfl, rfl⟩
  case int =>
    rcases n with n | n
    · obtain ⟨c, rest, hdigits, hc⟩ := exists_digit n
      exact ⟨c, rest, hdigits, kindOf_digit hc⟩
    · exact ⟨45, _, rfl, rfl⟩
  case text => exact ⟨34, _, rfl, rfl⟩
  case list => exact ⟨91, _, rfl, rfl⟩
  case dict => exact ⟨123, _, rfl, rfl⟩

theorem kind_eq_of_append {v w : Value} {s t : Text} (h : render v ++ s = render w ++ t) :
    v.kind = w.kind := by
  obtain ⟨c, x, hv, hc⟩ := head_render v
  obtain ⟨d, y, hw, hd⟩ := head_render w
  rw [hv, hw] at h
  rw [(List.cons.inj h).1, hd] at hc
  exact (Option.some.inj hc).symm

/-- A closing bracket or a comma is no value. -/
theorem render_append_ne {v : Value} {s t : Text} {c : CodePoint} (h : kindOf c = none) :
    render v ++ s ≠ c :: t := by
  intro heq
  obtain ⟨d, x, hv, hd⟩ := head_render v
  rw [hv] at heq
  rw [(List.cons.inj heq).1, h] at hd
  exact nomatch hd

theorem ends_moreItems (items : List Value) (s : Text) :
    Ends (renderMoreItems items ++ 93 :: s) := by
  rcases items with _ | ⟨item, items⟩
  · rintro c ⟨⟩
    rfl
  · rintro c ⟨⟩
    rfl

theorem ends_moreFields (fields : List (String × Value)) (s : Text) :
    Ends (renderMoreFields fields ++ 125 :: s) := by
  rcases fields with _ | ⟨⟨key, value⟩, fields⟩
  · rintro c ⟨⟩
    rfl
  · rintro c ⟨⟩
    rfl

/-! ## Injectivity

By recursion on the value; a comma or a bracket behind a part tells where the part ends. -/

mutual

/-- **A text that starts with a value determines the value and the rest.** -/
theorem render_append_inj (v w : Value) (s t : Text) (hs : Ends s) (ht : Ends t)
    (h : render v ++ s = render w ++ t) : v = w ∧ s = t := by
  have hkind := kind_eq_of_append h
  match v, w with
  | .bool a, .bool b =>
    rcases a with _ | _ <;> rcases b with _ | _
    · exact ⟨rfl, List.append_cancel_left h⟩
    · exact absurd (List.cons.inj h).1 (by decide)
    · exact absurd (List.cons.inj h).1 (by decide)
    · exact ⟨rfl, List.append_cancel_left h⟩
  | .int m, .int n =>
    obtain ⟨rfl, hst⟩ := renderInt_append_inj hs ht h
    exact ⟨rfl, hst⟩
  | .text x, .text y =>
    obtain ⟨rfl, hst⟩ := quote_append_inj h
    exact ⟨rfl, hst⟩
  | .list xs, .list ys =>
    rw [render, render, List.append_assoc, List.append_assoc] at h
    obtain ⟨rfl, hst⟩ := renderItems_append_inj xs ys s t (List.cons.inj h).2
    exact ⟨rfl, hst⟩
  | .dict fs, .dict gs =>
    rw [render, render, List.append_assoc, List.append_assoc] at h
    obtain ⟨rfl, hst⟩ := renderFields_append_inj fs gs s t (List.cons.inj h).2
    exact ⟨rfl, hst⟩

theorem renderItems_append_inj (vs ws : List Value) (s t : Text)
    (h : renderItems vs ++ 93 :: s = renderItems ws ++ 93 :: t) : vs = ws ∧ s = t := by
  match vs, ws with
  | [], [] => exact ⟨rfl, (List.cons.inj h).2⟩
  | [], w :: ws =>
    rw [renderItems, renderItems, List.append_assoc] at h
    exact absurd h.symm (render_append_ne rfl)
  | v :: vs, [] =>
    rw [renderItems, renderItems, List.append_assoc] at h
    exact absurd h (render_append_ne rfl)
  | v :: vs, w :: ws =>
    rw [renderItems, renderItems, List.append_assoc, List.append_assoc] at h
    obtain ⟨rfl, hrest⟩ := render_append_inj v w _ _ (ends_moreItems vs s) (ends_moreItems ws t) h
    obtain ⟨rfl, hst⟩ := renderMoreItems_append_inj vs ws s t hrest
    exact ⟨rfl, hst⟩

theorem renderMoreItems_append_inj (vs ws : List Value) (s t : Text)
    (h : renderMoreItems vs ++ 93 :: s = renderMoreItems ws ++ 93 :: t) : vs = ws ∧ s = t := by
  match vs, ws with
  | [], [] => exact ⟨rfl, (List.cons.inj h).2⟩
  | [], w :: ws => exact absurd (List.cons.inj h).1 (by decide)
  | v :: vs, [] => exact absurd (List.cons.inj h).1 (by decide)
  | v :: vs, w :: ws =>
    rw [renderMoreItems, renderMoreItems, List.append_assoc, List.append_assoc] at h
    obtain ⟨rfl, hrest⟩ := render_append_inj v w _ _ (ends_moreItems vs s) (ends_moreItems ws t)
      (List.cons.inj h).2
    obtain ⟨rfl, hst⟩ := renderMoreItems_append_inj vs ws s t hrest
    exact ⟨rfl, hst⟩

theorem renderFields_append_inj (fs gs : List (String × Value)) (s t : Text)
    (h : renderFields fs ++ 125 :: s = renderFields gs ++ 125 :: t) : fs = gs ∧ s = t := by
  match fs, gs with
  | [], [] => exact ⟨rfl, (List.cons.inj h).2⟩
  | [], (b, w) :: gs => exact absurd (List.cons.inj h).1 (by decide)
  | (a, v) :: fs, [] => exact absurd (List.cons.inj h).1 (by decide)
  | (a, v) :: fs, (b, w) :: gs =>
    rw [renderFields, renderFields, List.append_assoc, List.append_assoc, List.append_assoc,
      List.append_assoc] at h
    obtain ⟨hkey, hvalue⟩ := quote_append_inj h
    obtain ⟨rfl, hrest⟩ := render_append_inj v w _ _ (ends_moreFields fs s) (ends_moreFields gs t)
      (List.cons.inj hvalue).2
    obtain ⟨rfl, hst⟩ := renderMoreFields_append_inj fs gs s t hrest
    rw [ofString_injective hkey]
    exact ⟨rfl, hst⟩

theorem renderMoreFields_append_inj (fs gs : List (String × Value)) (s t : Text)
    (h : renderMoreFields fs ++ 125 :: s = renderMoreFields gs ++ 125 :: t) :
    fs = gs ∧ s = t := by
  match fs, gs with
  | [], [] => exact ⟨rfl, (List.cons.inj h).2⟩
  | [], (b, w) :: gs => exact absurd (List.cons.inj h).1 (by decide)
  | (a, v) :: fs, [] => exact absurd (List.cons.inj h).1 (by decide)
  | (a, v) :: fs, (b, w) :: gs =>
    rw [renderMoreFields, renderMoreFields, List.append_assoc, List.append_assoc,
      List.append_assoc, List.append_assoc] at h
    obtain ⟨hkey, hvalue⟩ := quote_append_inj (List.cons.inj h).2
    obtain ⟨rfl, hrest⟩ := render_append_inj v w _ _ (ends_moreFields fs s) (ends_moreFields gs t)
      (List.cons.inj hvalue).2
    obtain ⟨rfl, hst⟩ := renderMoreFields_append_inj fs gs s t hrest
    rw [ofString_injective hkey]
    exact ⟨rfl, hst⟩

end

/-- **No two values have one text.** -/
theorem render_injective : Function.Injective render := by
  intro v w h
  have hends : Ends [] := fun c hc => nomatch hc
  refine (render_append_inj v w [] [] hends hends ?_).1
  rw [h]

/-- Values are compared by their texts. -/
instance : DecidableEq Value := fun v w =>
  decidable_of_iff (render v = render w) render_injective.eq_iff

/-! ## Dicts -/

/-- A dict with these fields, whatever the order they are given in. -/
def Value.ofFields (fields : List (String × Value)) : Value :=
  .dict (fields.insertionSort fun a b => a.1 ≤ b.1)

/-- Lists of fields over the same distinct keys that are permutations of each other are equal. -/
theorem eq_of_perm_of_keys {α : Type*} {fs gs : List (String × α)}
    (hkeys : fs.map Prod.fst = gs.map Prod.fst) (hnodup : (fs.map Prod.fst).Nodup)
    (h : fs.Perm gs) : fs = gs := by
  induction fs generalizing gs with
  | nil => exact (List.nil_perm.mp h).symm
  | cons f fs ih =>
    rcases gs with _ | ⟨g, gs⟩
    · exact absurd hkeys nofun
    · obtain ⟨hfirst, hrest⟩ := List.cons.inj hkeys
      obtain ⟨hfresh, hnodup⟩ := List.nodup_cons.mp hnodup
      obtain rfl | hmem := List.mem_cons.mp (h.mem_iff.mp List.mem_cons_self)
      · rw [ih hrest hnodup h.cons_inv]
      · refine absurd ?_ hfresh
        rw [hrest]
        exact List.mem_map_of_mem hmem

theorem Value.perm_of_ofFields {fs gs : List (String × Value)}
    (h : Value.ofFields fs = Value.ofFields gs) : fs.Perm gs := by
  have hsorted := Value.dict.inj h
  exact (List.perm_insertionSort _ fs).symm.trans
    (hsorted ▸ List.perm_insertionSort _ gs)

/-- **A dict determines its fields**, given the keys in some order. -/
theorem Value.ofFields_inj {fs gs : List (String × Value)}
    (hkeys : fs.map Prod.fst = gs.map Prod.fst) (hnodup : (fs.map Prod.fst).Nodup)
    (h : Value.ofFields fs = Value.ofFields gs) : fs = gs :=
  eq_of_perm_of_keys hkeys hnodup (Value.perm_of_ofFields h)

/-! ## The texts in a value -/

mutual

/-- The texts of a value, keys included, one behind the other. -/
def Value.content : Value → Text
  | .bool _ => []
  | .int _ => []
  | .text s => s
  | .list items => contentItems items
  | .dict fields => contentFields fields

def contentItems : List Value → Text
  | [] => []
  | item :: items => item.content ++ contentItems items

def contentFields : List (String × Value) → Text
  | [] => []
  | (key, value) :: fields => ofString key ++ value.content ++ contentFields fields

end

theorem contentItems_eq (items : List Value) : contentItems items = items.flatMap (·.content) := by
  induction items with
  | nil => rfl
  | cons item items ih => rw [contentItems, ih, List.flatMap_cons]

theorem contentFields_eq (fields : List (String × Value)) :
    contentFields fields = fields.flatMap fun field => ofString field.1 ++ field.2.content := by
  induction fields with
  | nil => rfl
  | cons field fields ih => rw [contentFields, ih, List.flatMap_cons]

section Ascii

variable {p : CodePoint → Bool}

/-- `p` holds of no ASCII character. -/
def BeyondAscii (p : CodePoint → Bool) : Prop := ∀ c : CodePoint, c.val < 128 → p c = false

theorem any_ascii (hp : BeyondAscii p) {s : Text} (hs : ∀ c ∈ s, c.val < 128) :
    s.any p = false := by
  rw [List.any_eq_false]
  intro c hc
  rw [hp c (hs c hc)]
  exact Bool.false_ne_true

theorem any_escape (hp : BeyondAscii p) (c : CodePoint) : (escape c).any p = p c := by
  have htable : (escaped.all fun a => decide (a.val < 128) &&
      (escape a).all fun b => decide (b.val < 128)) = true := by decide +kernel
  simp only [List.all_eq_true, Bool.and_eq_true, decide_eq_true_eq] at htable
  by_cases h : c ∈ escaped
  · obtain ⟨hc, hescape⟩ := htable c h
    rw [hp c hc, any_ascii hp hescape]
  · rw [escape_of_not_mem h, List.any_cons, List.any_nil, Bool.or_false]

theorem any_quote (hp : BeyondAscii p) (s : Text) : (quote s).any p = s.any p := by
  have hescape : (s.flatMap escape).any p = s.any p := by
    rw [List.any_flatMap]
    congr 1
    exact funext (any_escape hp)
  rw [quote, List.any_append, List.any_cons, hescape, List.any_cons, List.any_nil,
    hp 34 (by decide)]
  simp only [Bool.false_or, Bool.or_false]

theorem any_renderInt (hp : BeyondAscii p) (n : ℤ) : (renderInt n).any p = false := by
  have hdigits : ∀ k : ℕ, ((Nat.toDigits 10 k).map ofChar).any p = false := by
    intro k
    refine any_ascii hp ?_
    intro c hc
    obtain ⟨d, hd, rfl⟩ := List.mem_map.mp hc
    have hdigit := isDigit_ofChar (Nat.isDigit_of_mem_toDigits (by omega) (by omega) hd)
    rw [isDigit, Bool.and_eq_true, decide_eq_true_eq, decide_eq_true_eq] at hdigit
    omega
  rcases n with n | n
  · exact hdigits n
  · rw [renderInt, List.any_cons, hp 45 (by decide), hdigits, Bool.false_or]

mutual

/-- **A value is written in ASCII, its texts apart.** -/
theorem any_render (hp : BeyondAscii p) (v : Value) : (render v).any p = v.content.any p := by
  match v with
  | .bool b =>
    have hascii : ((render (.bool b)).all fun c => decide (c.val < 128)) = true := by
      rcases b with _ | _ <;> rfl
    simp only [List.all_eq_true, decide_eq_true_eq] at hascii
    rw [any_ascii hp hascii, Value.content, List.any_nil]
  | .int n => rw [render, any_renderInt hp, Value.content, List.any_nil]
  | .text s => rw [render, any_quote hp, Value.content]
  | .list items =>
    rw [render, Value.content, List.any_append, List.any_cons, any_renderItems hp items,
      List.any_cons, List.any_nil, hp 91 (by decide), hp 93 (by decide)]
    simp only [Bool.false_or, Bool.or_false]
  | .dict fields =>
    rw [render, Value.content, List.any_append, List.any_cons, any_renderFields hp fields,
      List.any_cons, List.any_nil, hp 123 (by decide), hp 125 (by decide)]
    simp only [Bool.false_or, Bool.or_false]

theorem any_renderItems (hp : BeyondAscii p) (items : List Value) :
    (renderItems items).any p = (contentItems items).any p := by
  match items with
  | [] => rfl
  | item :: items =>
    rw [renderItems, contentItems, List.any_append, List.any_append, any_render hp item,
      any_renderMoreItems hp items]

theorem any_renderMoreItems (hp : BeyondAscii p) (items : List Value) :
    (renderMoreItems items).any p = (contentItems items).any p := by
  match items with
  | [] => rfl
  | item :: items =>
    rw [renderMoreItems, contentItems, List.any_append, List.any_append, List.any_cons,
      any_render hp item, any_renderMoreItems hp items, hp 44 (by decide), Bool.false_or]

theorem any_renderFields (hp : BeyondAscii p) (fields : List (String × Value)) :
    (renderFields fields).any p = (contentFields fields).any p := by
  match fields with
  | [] => rfl
  | (key, value) :: fields =>
    simp only [renderFields, contentFields, List.any_append, List.any_cons, any_quote hp,
      any_render hp value, any_renderMoreFields hp fields, hp 58 (by decide), Bool.false_or]

theorem any_renderMoreFields (hp : BeyondAscii p) (fields : List (String × Value)) :
    (renderMoreFields fields).any p = (contentFields fields).any p := by
  match fields with
  | [] => rfl
  | (key, value) :: fields =>
    simp only [renderMoreFields, contentFields, List.any_append, List.any_cons, any_quote hp,
      any_render hp value, any_renderMoreFields hp fields, hp 58 (by decide), hp 44 (by decide),
      Bool.false_or]

end

end Ascii

end JsonText
