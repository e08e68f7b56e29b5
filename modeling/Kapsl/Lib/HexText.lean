import Mathlib.Data.Nat.Digits.Lemmas
import Mathlib.Data.Option.Basic

/-!
# Lib/HexText — texts that a reader takes for hexadecimal numbers

`parse` is Python's `int(text, 16)`.  It reads more than digits: white space around them, a sign, a
`0x` prefix, single underscores, and decimal digits of other scripts.

* `digits_of_parse` — those are all: what is read and has none of them consists of digits.
* `parse_digits` — digits are read as the number they spell.
* `number_eq_iff` — texts of one length spell the same number if they differ in case only.
-/

namespace HexText

/-- The value of a hexadecimal digit. -/
def value? : Char → Option ℕ
  | '0' => some 0 | '1' => some 1 | '2' => some 2 | '3' => some 3 | '4' => some 4
  | '5' => some 5 | '6' => some 6 | '7' => some 7 | '8' => some 8 | '9' => some 9
  | 'a' | 'A' => some 10 | 'b' | 'B' => some 11 | 'c' | 'C' => some 12
  | 'd' | 'D' => some 13 | 'e' | 'E' => some 14 | 'f' | 'F' => some 15
  | _ => none

/-- A hexadecimal digit. -/
def IsDigit (c : Char) : Prop := (value? c).isSome = true

instance : DecidablePred IsDigit := fun c => inferInstanceAs (Decidable ((value? c).isSome = true))

/-- The digits, in both cases. -/
def alphabet : List Char := "0123456789abcdefABCDEF".toList

theorem mem_alphabet {c : Char} (h : IsDigit c) : c ∈ alphabet := by
  unfold IsDigit value? at h
  split at h
  all_goals first | exact absurd h Bool.false_ne_true | decide

/-- What holds of the digits one by one. -/
theorem of_isDigit {P : Char → Prop} [DecidablePred P]
    (hall : (alphabet.all fun c => decide (P c)) = true) {c : Char} (h : IsDigit c) : P c :=
  of_decide_eq_true (List.all_eq_true.mp hall c (mem_alphabet h))

/-- The value of a character that is known to be a digit. -/
def value (c : Char) : ℕ := (value? c).getD 0

/-- The number that digits spell, the first one the most significant. -/
def number (chars : List Char) : ℕ := chars.foldl (fun n c => 16 * n + value c) 0

/-! ## `int(text, 16)` -/

/-- White space of C. -/
def isSpace (c : Char) : Bool := c.toNat = 32 || (9 ≤ c.toNat && c.toNat ≤ 13)

/-- The end of a number: digits with single underscores between them, then white space. -/
def readDigits (n : ℕ) (underscore : Bool) : List Char → Option ℕ
  | [] => if underscore then none else some n
  | c :: rest =>
    if c = '_' then if underscore then none else readDigits n true rest
    else
      match value? c with
      | some d => readDigits (16 * n + d) false rest
      | none => if underscore = false ∧ (c :: rest).all isSpace then some n else none

/-- A number, which starts with a digit. -/
def readNumber : List Char → Option ℕ
  | [] => none
  | c :: rest => (value? c).bind fun d => readDigits d false rest

/-- The prefix of the base, with an underscore or without. -/
def stripPrefix : List Char → List Char
  | '0' :: 'x' :: '_' :: rest | '0' :: 'X' :: '_' :: rest | '0' :: 'x' :: rest
  | '0' :: 'X' :: rest => rest
  | chars => chars

/-- The sign. -/
def readSigned : List Char → Option ℤ
  | '-' :: rest => (readNumber (stripPrefix rest)).map fun n => -(n : ℤ)
  | '+' :: rest => (readNumber (stripPrefix rest)).map Nat.cast
  | chars => (readNumber (stripPrefix chars)).map Nat.cast

/-- A character beyond ASCII as the reader takes it: `space` says which are white space, `decimal`
which are decimal digits. -/
def toAscii (space : Char → Bool) (decimal : Char → Option (Fin 10)) (c : Char) : Char :=
  if c.toNat < 127 then c
  else if space c then ' '
  else
    match decimal c with
    | some d => Nat.digitChar d
    | none => '?'

/-- `int(text, 16)`, unless it raises `ValueError`. -/
def parse (space : Char → Bool) (decimal : Char → Option (Fin 10)) (text : String) : Option ℤ :=
  readSigned ((text.toList.map (toAscii space decimal)).dropWhile isSpace)

/-- **What the reader allows besides digits**: a sign, an underscore, the letter of the prefix,
white space, and whatever is not ASCII. -/
def Special (c : Char) : Prop :=
  c ∈ ['+', '-', '_', 'x', 'X'] ∨ isSpace c = true ∨ 127 ≤ c.toNat

instance : DecidablePred Special := fun c =>
  inferInstanceAs (Decidable (c ∈ ['+', '-', '_', 'x', 'X'] ∨ isSpace c = true ∨ 127 ≤ c.toNat))

theorem not_special_of_isDigit {c : Char} (h : IsDigit c) : ¬Special c :=
  of_isDigit (P := fun c => ¬Special c) (by decide) h

/-! ## Digits are read as what they spell -/

variable {space : Char → Bool} {decimal : Char → Option (Fin 10)} {chars : List Char}

theorem value?_of_isDigit {c : Char} (h : IsDigit c) : value? c = some (value c) := by
  obtain ⟨d, hd⟩ := Option.isSome_iff_exists.mp h
  rw [value, hd, Option.getD_some]

theorem value_lt {c : Char} (h : IsDigit c) : value c < 16 :=
  of_isDigit (P := fun c => value c < 16) (by decide) h

theorem ne_underscore {c : Char} (h : IsDigit c) : c ≠ '_' := by
  rintro rfl
  exact absurd h (by decide)

theorem readDigits_digits (h : ∀ c ∈ chars, IsDigit c) (n : ℕ) :
    readDigits n false chars = some (chars.foldl (fun n c => 16 * n + value c) n) := by
  induction chars generalizing n with
  | nil => rfl
  | cons c rest ih =>
    obtain ⟨hc, hrest⟩ := List.forall_mem_cons.mp h
    simp only [readDigits, if_neg (ne_underscore hc), value?_of_isDigit hc]
    exact ih hrest _

theorem readNumber_digits (hne : chars ≠ []) (h : ∀ c ∈ chars, IsDigit c) :
    readNumber chars = some (number chars) := by
  obtain ⟨c, rest, rfl⟩ := List.exists_cons_of_ne_nil hne
  obtain ⟨hc, hrest⟩ := List.forall_mem_cons.mp h
  rw [readNumber, value?_of_isDigit hc, Option.bind_some, readDigits_digits hrest]
  simp [number]

/-- The prefix of the base has a letter that is no digit. -/
theorem stripPrefix_eq (h : ∀ c ∈ chars, c ≠ 'x' ∧ c ≠ 'X') : stripPrefix chars = chars := by
  unfold stripPrefix
  split
  · exact absurd rfl (h 'x' (by simp)).1
  · exact absurd rfl (h 'X' (by simp)).2
  · exact absurd rfl (h 'x' (by simp)).1
  · exact absurd rfl (h 'X' (by simp)).2
  · rfl

/-- Without a sign there is none to read. -/
theorem readSigned_eq (h : ∀ c ∈ chars, ¬Special c) :
    readSigned chars = (readNumber chars).map Nat.cast := by
  have hstrip : stripPrefix chars = chars := stripPrefix_eq fun c hc =>
    ⟨fun heq => h c hc (.inl (by simp [heq])), fun heq => h c hc (.inl (by simp [heq]))⟩
  unfold readSigned
  split
  · exact absurd (.inl (by simp)) (h '-' List.mem_cons_self)
  · exact absurd (.inl (by simp)) (h '+' List.mem_cons_self)
  · rw [hstrip]

/-- Plain characters reach the reader as they are. -/
theorem parse_eq {text : String} (h : ∀ c ∈ text.toList, ¬Special c) :
    parse space decimal text = (readNumber text.toList).map Nat.cast := by
  have hascii : text.toList.map (toAscii space decimal) = text.toList := by
    refine (List.map_congr_left fun c hc => ?_).trans (List.map_id _)
    exact if_pos (by by_contra hge; exact h c hc (.inr (.inr (not_lt.mp hge))))
  have hspace : text.toList.dropWhile isSpace = text.toList := by
    cases htext : text.toList with
    | nil => rfl
    | cons c rest =>
      have hc : ¬isSpace c = true := fun hc => h c (by simp [htext]) (.inr (.inl hc))
      exact List.dropWhile_cons_of_neg hc
  rw [parse, hascii, hspace, readSigned_eq h]

/-- **Digits are read as the number they spell.** -/
theorem parse_digits {text : String} (hne : text.toList ≠ []) (h : ∀ c ∈ text.toList, IsDigit c) :
    parse space decimal text = some (number text.toList : ℤ) := by
  rw [parse_eq fun c hc => not_special_of_isDigit (h c hc), readNumber_digits hne h]
  rfl

theorem digits_of_readDigits {n m : ℕ} {underscore : Bool}
    (h : readDigits n underscore chars = some m) (hplain : ∀ c ∈ chars, ¬Special c) :
    ∀ c ∈ chars, IsDigit c := by
  induction chars generalizing n underscore with
  | nil => nofun
  | cons c rest ih =>
    obtain ⟨hc, hrest⟩ := List.forall_mem_cons.mp hplain
    have hne : c ≠ '_' := fun heq => hc (.inl (by simp [heq]))
    rw [readDigits, if_neg hne] at h
    split at h
    · next d hd =>
      exact List.forall_mem_cons.mpr ⟨Option.isSome_iff_exists.mpr ⟨d, hd⟩, ih h hrest⟩
    · split at h
      · next hspaces =>
        exact absurd (.inr (.inl (List.all_eq_true.mp hspaces.2 c List.mem_cons_self))) hc
      · exact nomatch h

/-- **What is read and plain consists of digits.** -/
theorem digits_of_parse {text : String} {v : ℤ} (h : parse space decimal text = some v)
    (hplain : ∀ c ∈ text.toList, ¬Special c) : ∀ c ∈ text.toList, IsDigit c := by
  rw [parse_eq hplain, Option.map_eq_some_iff] at h
  obtain ⟨n, hn, -⟩ := h
  cases htext : text.toList with
  | nil => nofun
  | cons c rest =>
    rw [htext, readNumber, Option.bind_eq_some_iff] at hn
    rw [htext] at hplain
    obtain ⟨d, hd, hread⟩ := hn
    refine List.forall_mem_cons.mpr ⟨Option.isSome_iff_exists.mpr ⟨d, hd⟩, ?_⟩
    exact digits_of_readDigits hread fun c hc => hplain c (List.mem_cons_of_mem _ hc)

/-! ## Spelling a number -/

/-- The values of digits, the least significant first, are those of their number. -/
theorem number_eq_ofDigits (chars : List Char) :
    number chars = Nat.ofDigits 16 (chars.reverse.map value) := by
  rw [Nat.ofDigits_eq_foldr, List.foldr_map, List.foldr_reverse, number]
  simp only [Nat.cast_id, Nat.add_comm]

theorem number_lt {chars : List Char} (h : ∀ c ∈ chars, IsDigit c) :
    number chars < 16 ^ chars.length := by
  have hlt : ∀ d ∈ chars.reverse.map value, d < 16 := by
    intro d hd
    obtain ⟨c, hc, rfl⟩ := List.mem_map.mp hd
    exact value_lt (h c (List.mem_reverse.mp hc))
  rw [number_eq_ofDigits]
  simpa using Nat.ofDigits_lt_base_pow_length (by decide : 1 < 16) hlt

theorem value_eq_iff {c c' : Char} (h : IsDigit c) (h' : IsDigit c') :
    value c = value c' ↔ c.toLower = c'.toLower := by
  have hall : (alphabet.all fun c => decide ((alphabet.all fun c' =>
      decide (value c = value c' ↔ c.toLower = c'.toLower)) = true)) = true := by decide +kernel
  exact of_isDigit (P := fun c' => value c = value c' ↔ c.toLower = c'.toLower)
    (of_isDigit (P := fun c => (alphabet.all fun c' =>
      decide (value c = value c' ↔ c.toLower = c'.toLower)) = true) hall h) h'

/-- **Digits of one length spell one number** if and only if they differ in case only. -/
theorem number_eq_iff {chars chars' : List Char} (hlength : chars.length = chars'.length)
    (h : ∀ c ∈ chars, IsDigit c) (h' : ∀ c ∈ chars', IsDigit c) :
    number chars = number chars' ↔ chars.map Char.toLower = chars'.map Char.toLower := by
  have hlt : ∀ {chars : List Char}, (∀ c ∈ chars, IsDigit c) →
      ∀ d ∈ chars.reverse.map value, d < 16 := by
    intro chars h d hd
    obtain ⟨c, hc, rfl⟩ := List.mem_map.mp hd
    exact value_lt (h c (List.mem_reverse.mp hc))
  have hvalues : number chars = number chars' ↔ chars.map value = chars'.map value := by
    rw [number_eq_ofDigits, number_eq_ofDigits]
    constructor
    · intro heq
      have hreverse := Nat.ofDigits_inj_of_len_eq (by decide : 1 < 16) (by simpa using hlength)
        (hlt h) (hlt h') heq
      rwa [List.map_reverse, List.map_reverse, List.reverse_inj] at hreverse
    · intro heq
      rw [List.map_reverse, List.map_reverse, heq]
  rw [hvalues]
  clear hvalues hlt
  induction chars generalizing chars' with
  | nil => simp [List.length_eq_zero_iff.mp hlength.symm]
  | cons c rest ih =>
    have hpos : 0 < chars'.length := by rw [← hlength]; exact Nat.succ_pos _
    obtain ⟨c', rest', rfl⟩ := List.exists_cons_of_length_pos hpos
    obtain ⟨hc, hrest⟩ := List.forall_mem_cons.mp h
    obtain ⟨hc', hrest'⟩ := List.forall_mem_cons.mp h'
    simp only [List.map_cons, List.cons.injEq, value_eq_iff hc hc',
      ih (Nat.succ.inj hlength) hrest hrest']

end HexText
