import Kapsl.Lib.HexText

/-!
# Lib/Sha256 — SHA-256 and the text of its digests

`hexdigest` is Python's `hashlib.sha256(message).hexdigest()`: the message is padded to blocks of
sixteen words, each block is mixed into eight words in sixty-four rounds, and the eight words are
spelled out.

* `length_hexdigest`, `isDigit_of_mem_hexdigest`, `toLower_hexdigest` — a digest is 64 hexadecimal
  digits, the letters in lower case.
-/

namespace Sha256

/-- A word of the algorithm. -/
abbrev Word := BitVec 32

/-- The eight words that the rounds work on. -/
structure State where
  (a b c d e f g h : Word)

/-- The words that the first block is mixed into. -/
def initial : State where
  a := 0x6a09e667
  b := 0xbb67ae85
  c := 0x3c6ef372
  d := 0xa54ff53a
  e := 0x510e527f
  f := 0x9b05688c
  g := 0x1f83d9ab
  h := 0x5be0cd19

/-- The constants of the rounds. -/
def constants : List Word :=
  [0x428a2f98, 0x71374491, 0xb5c0fbcf, 0xe9b5dba5, 0x3956c25b, 0x59f111f1, 0x923f82a4, 0xab1c5ed5,
    0xd807aa98, 0x12835b01, 0x243185be, 0x550c7dc3, 0x72be5d74, 0x80deb1fe, 0x9bdc06a7, 0xc19bf174,
    0xe49b69c1, 0xefbe4786, 0x0fc19dc6, 0x240ca1cc, 0x2de92c6f, 0x4a7484aa, 0x5cb0a9dc, 0x76f988da,
    0x983e5152, 0xa831c66d, 0xb00327c8, 0xbf597fc7, 0xc6e00bf3, 0xd5a79147, 0x06ca6351, 0x14292967,
    0x27b70a85, 0x2e1b2138, 0x4d2c6dfc, 0x53380d13, 0x650a7354, 0x766a0abb, 0x81c2c92e, 0x92722c85,
    0xa2bfe8a1, 0xa81a664b, 0xc24b8b70, 0xc76c51a3, 0xd192e819, 0xd6990624, 0xf40e3585, 0x106aa070,
    0x19a4c116, 0x1e376c08, 0x2748774c, 0x34b0bcb5, 0x391c0cb3, 0x4ed8aa4a, 0x5b9cca4f, 0x682e6ff3,
    0x748f82ee, 0x78a5636f, 0x84c87814, 0x8cc70208, 0x90befffa, 0xa4506ceb, 0xbef9a3f7, 0xc67178f2]

/-- The words of the schedule that come after those of the block, the newest first. -/
def extend : ℕ → List Word → List Word
  | 0, words => words
  | n + 1, words =>
    let near := words.getD 1 0
    let far := words.getD 14 0
    let small₀ := far.rotateRight 7 ^^^ far.rotateRight 18 ^^^ far >>> 3
    let small₁ := near.rotateRight 17 ^^^ near.rotateRight 19 ^^^ near >>> 10
    extend n ((words.getD 15 0 + small₀ + words.getD 6 0 + small₁) :: words)

/-- The word of each round. -/
def schedule (block : List Word) : List Word := (extend 48 block.reverse).reverse

/-- One round, with its constant and its word. -/
def State.round (s : State) (constant word : Word) : State :=
  let big₀ := s.a.rotateRight 2 ^^^ s.a.rotateRight 13 ^^^ s.a.rotateRight 22
  let big₁ := s.e.rotateRight 6 ^^^ s.e.rotateRight 11 ^^^ s.e.rotateRight 25
  let choice := (s.e &&& s.f) ^^^ (~~~s.e &&& s.g)
  let majority := (s.a &&& s.b) ^^^ (s.a &&& s.c) ^^^ (s.b &&& s.c)
  let t := s.h + big₁ + choice + constant + word
  { a := t + big₀ + majority, b := s.a, c := s.b, d := s.c, e := s.d + t, f := s.e, g := s.f,
    h := s.g }

/-- Word by word. -/
def State.add (s t : State) : State :=
  ⟨s.a + t.a, s.b + t.b, s.c + t.c, s.d + t.d, s.e + t.e, s.f + t.f, s.g + t.g, s.h + t.h⟩

/-- A block mixed in. -/
def State.compress (s : State) (block : List Word) : State :=
  s.add ((constants.zip (schedule block)).foldl (fun t kw => t.round kw.1 kw.2) s)

/-- The message, a one bit, zeros up to the last eight bytes of a block, and its length in bits. -/
def pad (message : List UInt8) : List UInt8 :=
  message ++ 0x80 :: List.replicate ((119 - message.length % 64) % 64) 0 ++
    (List.range 8).map fun i => UInt8.ofNat (8 * message.length / 256 ^ (7 - i))

/-- The word that starts at a byte, the most significant byte first. -/
def wordAt (bytes : List UInt8) (i : ℕ) : Word :=
  BitVec.ofNat 32 (((bytes.drop i).take 4).foldl (fun n b => 256 * n + b.toNat) 0)

/-- The digest. -/
def digest (message : List UInt8) : State :=
  let bytes := pad message
  (List.range (bytes.length / 64)).foldl
    (fun s i => s.compress ((List.range 16).map fun j => wordAt bytes (64 * i + 4 * j))) initial

/-- A word in eight digits. -/
def spell (word : Word) : List Char :=
  (List.range 8).map fun i => Nat.digitChar (word.toNat / 16 ^ (7 - i) % 16)

/-- `hashlib.sha256(message).hexdigest()`. -/
def hexdigest (message : List UInt8) : String :=
  let s := digest message
  .ofList ([s.a, s.b, s.c, s.d, s.e, s.f, s.g, s.h].flatMap spell)

example : hexdigest "abc".toUTF8.toList =
    "ba7816bf8f01cfea414140de5dae2223b00361a396177a9cb410ff61f20015ad" := by decide +kernel

/-! ## The text of a digest -/

variable {message : List UInt8} {c : Char}

theorem length_hexdigest : (hexdigest message).toList.length = 64 := by
  simp only [hexdigest, String.toList_ofList, List.flatMap_cons, List.flatMap_nil,
    List.length_append, spell, List.length_map, List.length_range, List.length_nil]

/-- A character of a digest is one of the sixteen. -/
theorem exists_of_mem_hexdigest (h : c ∈ (hexdigest message).toList) :
    ∃ d < 16, c = Nat.digitChar d := by
  rw [hexdigest, String.toList_ofList, List.mem_flatMap] at h
  obtain ⟨word, -, hc⟩ := h
  obtain ⟨i, -, rfl⟩ := List.mem_map.mp hc
  exact ⟨_, Nat.mod_lt _ (by decide), rfl⟩

theorem isDigit_of_mem_hexdigest (h : c ∈ (hexdigest message).toList) : HexText.IsDigit c := by
  obtain ⟨d, hd, rfl⟩ := exists_of_mem_hexdigest h
  exact (by decide : ∀ d < 16, HexText.IsDigit (Nat.digitChar d)) d hd

theorem toLower_of_mem_hexdigest (h : c ∈ (hexdigest message).toList) : c.toLower = c := by
  obtain ⟨d, hd, rfl⟩ := exists_of_mem_hexdigest h
  exact (by decide +kernel : ∀ d < 16, (Nat.digitChar d).toLower = Nat.digitChar d) d hd

/-- The letters of a digest are in lower case. -/
theorem toLower_hexdigest :
    (hexdigest message).toList.map Char.toLower = (hexdigest message).toList :=
  (List.map_congr_left fun _ => toLower_of_mem_hexdigest).trans (List.map_id _)

end Sha256
