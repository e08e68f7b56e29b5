import Mathlib.Algebra.Order.Ring.Int
import Mathlib.Data.List.Forall2
import Mathlib.Logic.Function.Basic
import Kapsl.Lib.Attempt
import Kapsl.Lib.Sha256
import Kapsl.Ort.DependencyClosure

/-!
# Ort/ReleaseParts — splitting a release archive loses nothing

`split_archive` copies an archive into parts, block by block.  Three counters drive its two loops:
what is left of the archive by its size, what was written to a part, and the size of a block, which
is bounded by what the part may still take.  A file is read to its end, so a block is empty only
there.

* `copyBlocks_eq` — the inner loop moves the first `part_bytes` bytes that are left, or all of them.
* `splitLoop_exec` — the outer loop writes the chunks of the archive (`chunks`) as its parts.
* `splitArchive_loses_nothing` — the parts put together are the archive.
-/

namespace Kapsl.Ort.ReleaseParts

open DependencyClosure (PackageError)

/-! ## The code -/

/-- `READ_BLOCK_BYTES`. -/
def readBlockBytes : ℕ := 8 * 1024 * 1024

/-- The archive: its path and name, its size when it was asked for, and what is read of it. -/
structure Archive where
  path : String
  name : String
  size : ℕ
  content : List UInt8

/-- An entry of the list that `split_archive` returns. -/
structure Record where
  name : String
  sha256 : String
  size : ℕ
  deriving DecidableEq

/-- The files of the output directory. -/
abbrev Directory := String → Option (List UInt8)

/-- What `split_archive` raises. -/
inductive SplitError
  | package (e : PackageError)
  | fileExists (name : String)
  deriving DecidableEq

/-- A computation over the output directory. -/
abbrev Run (α : Type) := Attempt SplitError Directory α

/-- `open("xb")`. -/
def create (name : String) : Run Unit := ExceptT.mk fun files =>
  match files name with
  | some _ => (.error (.fileExists name), files)
  | none => (.ok (), Function.update files name (some []))

/-- What a file holds after it was written and closed. -/
def store (name : String) (content : List UInt8) : Run Unit :=
  ExceptT.mk fun files => (.ok (), Function.update files name (some content))

/-- `unlink`. -/
def unlink (name : String) : Run Unit :=
  ExceptT.mk fun files => (.ok (), Function.update files name none)

/-- `raise PackageError`. -/
def raisePackage {α : Type} (message : String) : Run α :=
  ExceptT.mk fun files => (.error (.package ⟨message⟩), files)

/-- The variables of the inner loop. -/
structure Part where
  /-- What is left of the archive. -/
  source : List UInt8
  output : List UInt8
  /-- What `digest` was updated with. -/
  digest : List UInt8
  written : ℕ

/-- The inner loop. -/
def copyBlocks (partBytes : ℕ) (part : Part) : Part :=
  if _hroom : part.written < partBytes then
    let block := part.source.take (min readBlockBytes (partBytes - part.written))
    if _hblock : block = [] then part
    else
      copyBlocks partBytes
        { source := part.source.drop block.length
          output := part.output ++ block
          digest := part.digest ++ block
          written := part.written + block.length }
  else part
termination_by partBytes - part.written
decreasing_by
  have hpos : 0 < (part.source.take (min readBlockBytes (partBytes - part.written))).length :=
    List.length_pos_of_ne_nil _hblock
  omega

/-- `{index:03d}`. -/
def threeDigits (index : ℕ) : String := String.ofList ((Nat.toDigits 10 index).leftpad 3 '0')

/-- `f"{path.name}.part-{index:03d}"`. -/
def partName (archive : Archive) (index : ℕ) : String :=
  archive.name ++ (".part-" ++ threeDigits index)

/-- The outer loop. -/
def splitLoop (archive : Archive) (partBytes : ℕ) (index : ℕ) (remaining : ℤ)
    (source : List UInt8) (result : List Record) : Run (List Record) :=
  if _hremaining : 0 < remaining then do
    let name := partName archive index
    create name
    let part := copyBlocks partBytes ⟨source, [], [], 0⟩
    store name part.output
    if _hwritten : part.written = 0 then
      unlink name
      raisePackage s!"release archive ended early while writing {name}"
    else
      splitLoop archive partBytes (index + 1) (remaining - part.written) part.source
        (result ++ [⟨name, Sha256.hexdigest part.digest, part.written⟩])
  else return result
termination_by remaining.toNat
decreasing_by
  have hpos : 0 < (copyBlocks partBytes ⟨source, [], [], 0⟩).written :=
    Nat.pos_of_ne_zero _hwritten
  omega

/-- `split_archive`. -/
def splitArchive (archive : Archive) (partBytes : ℤ) : Run (List Record) := do
  if partBytes ≤ 0 ∨ 2 * 1024 * 1024 * 1024 ≤ partBytes then
    raisePackage "release part size must be positive and below 2 GiB"
  let result ← splitLoop archive partBytes.toNat 0 archive.size archive.content []
  if result = [] ∨ (result.map Record.size).sum ≠ archive.size then
    raisePackage s!"failed to split complete release archive {archive.path}"
  return result

/-! ## Chunks -/

/-- **The chunks of a content**: as many of the given size as there are, then the rest. -/
def chunks (size : ℕ) (content : List UInt8) : List (List UInt8) :=
  if _h : 0 < size ∧ content ≠ [] then content.take size :: chunks size (content.drop size) else []
termination_by content.length
decreasing_by
  have := List.length_pos_of_ne_nil _h.2
  rw [List.length_drop]
  omega

variable {size : ℕ} {content : List UInt8}

theorem chunks_nil : chunks size [] = [] := by
  rw [chunks, dif_neg (fun h => h.2 rfl)]

theorem chunks_of_ne_nil (hsize : 0 < size) (hcontent : content ≠ []) :
    chunks size content = content.take size :: chunks size (content.drop size) := by
  rw [chunks, dif_pos ⟨hsize, hcontent⟩]

/-- The chunks put together are the content. -/
theorem flatten_chunks (hsize : 0 < size) (content : List UInt8) :
    (chunks size content).flatten = content := by
  induction content using chunks.induct size with
  | case1 content h ih =>
    rw [chunks_of_ne_nil hsize h.2, List.flatten_cons, ih, List.take_append_drop]
  | case2 content h =>
    obtain rfl : content = [] := not_not.mp fun hne => h ⟨hsize, hne⟩
    rw [chunks_nil, List.flatten_nil]

/-- The last chunk is not empty, and no chunk exceeds the size. -/
theorem length_of_mem_chunks (hsize : 0 < size) {chunk : List UInt8}
    (hchunk : chunk ∈ chunks size content) : 0 < chunk.length ∧ chunk.length ≤ size := by
  induction content using chunks.induct size with
  | case1 content h ih =>
    rw [chunks_of_ne_nil hsize h.2] at hchunk
    rcases List.mem_cons.mp hchunk with rfl | hchunk
    · have := List.length_pos_of_ne_nil h.2
      rw [List.length_take]
      omega
    · exact ih hchunk
  | case2 content h =>
    rw [chunks, dif_neg h] at hchunk
    exact absurd hchunk List.not_mem_nil

/-- Every chunk but the last has the size. -/
theorem length_of_mem_dropLast_chunks (hsize : 0 < size) {chunk : List UInt8}
    (hchunk : chunk ∈ (chunks size content).dropLast) : chunk.length = size := by
  induction content using chunks.induct size with
  | case1 content h ih =>
    rw [chunks_of_ne_nil hsize h.2] at hchunk
    by_cases hrest : content.drop size = []
    · rw [hrest, chunks_nil] at hchunk
      exact absurd hchunk List.not_mem_nil
    · have hne : chunks size (content.drop size) ≠ [] := by
        rw [chunks_of_ne_nil hsize hrest]
        exact List.cons_ne_nil _ _
      rw [List.dropLast_cons_of_ne_nil hne] at hchunk
      rcases List.mem_cons.mp hchunk with rfl | hchunk
      · have := List.length_pos_of_ne_nil hrest
        rw [List.length_drop] at this
        rw [List.length_take]
        omega
      · exact ih hchunk
  | case2 content h =>
    rw [chunks, dif_neg h] at hchunk
    exact absurd hchunk List.not_mem_nil

/-! ## Names -/

/-- Zeros on the left do not change a number. -/
theorem threeDigits_injective : Function.Injective threeDigits := by
  have hvalue : ∀ n : ℕ,
      Nat.ofDigitChars 10 ((Nat.toDigits 10 n).leftpad 3 '0') 0 = n := by
    intro n
    rw [List.leftpad, Nat.ofDigitChars_append, Nat.ofDigitChars_replicate_zero, Nat.mul_zero,
      Nat.ofDigitChars_ten_toDigits]
  intro m n h
  have hchars : (Nat.toDigits 10 m).leftpad 3 '0' = (Nat.toDigits 10 n).leftpad 3 '0' :=
    String.ofList_injective h
  rw [← hvalue m, hchars, hvalue n]

theorem partName_injective (archive : Archive) : Function.Injective (partName archive) :=
  fun _ _ h => threeDigits_injective
    ((String.append_right_inj _).mp ((String.append_right_inj _).mp h))

/-! ## The loops -/

/-- A part after `count` more bytes of the archive. -/
def Part.advance (part : Part) (count : ℕ) : Part where
  source := part.source.drop count
  output := part.output ++ part.source.take count
  digest := part.digest ++ part.source.take count
  written := part.written + (part.source.take count).length

theorem Part.advance_of_source_eq_nil {part : Part} (h : part.source = []) (count : ℕ) :
    part.advance count = part := by
  obtain ⟨source, output, digest, written⟩ := part
  obtain rfl : source = [] := h
  simp only [Part.advance, List.drop_nil, List.take_nil, List.append_nil, List.length_nil,
    Nat.add_zero]

theorem Part.advance_zero (part : Part) : part.advance 0 = part := by
  simp only [Part.advance, List.drop_zero, List.take_zero, List.append_nil, List.length_nil,
    Nat.add_zero]

/-- Two advances are one. -/
theorem Part.advance_advance (part : Part) (m n : ℕ) :
    (part.advance m).advance n = part.advance (m + n) := by
  simp only [Part.advance, List.drop_drop, List.append_assoc, ← List.take_add, Nat.add_assoc,
    ← List.length_append]

/-- **The inner loop** moves what the part may still take, or all that is left. -/
theorem copyBlocks_eq (partBytes : ℕ) (part : Part) :
    copyBlocks partBytes part = part.advance (partBytes - part.written) := by
  induction part using copyBlocks.induct partBytes with
  | case1 part hroom block hblock =>
    -- A block is empty at the end of the archive only.
    have hsource : part.source = [] := by
      rcases List.take_eq_nil_iff.mp hblock with hzero | hnil
      · have : 0 < min readBlockBytes (partBytes - part.written) :=
          lt_min (by decide) (by omega)
        omega
      · exact hnil
    rw [copyBlocks, dif_pos hroom, Part.advance_of_source_eq_nil hsource]
    exact dif_pos hblock
  | case2 part hroom block hblock ih =>
    have htake : part.source.take block.length = block := by
      rw [List.length_take, ← List.take_eq_take_min]
    have hfits : block.length ≤ partBytes - part.written :=
      (List.length_take_le _ _).trans (min_le_right _ _)
    have hpart : part.advance block.length =
        { source := part.source.drop block.length
          output := part.output ++ block
          digest := part.digest ++ block
          written := part.written + block.length } := by
      rw [Part.advance, htake]
    rw [← hpart] at ih
    calc copyBlocks partBytes part
        = copyBlocks partBytes (part.advance block.length) := by
          rw [copyBlocks, dif_pos hroom, hpart]
          exact dif_neg hblock
      _ = part.advance (block.length + (partBytes - (part.written + block.length))) := by
          rw [ih, Part.advance_advance, hpart]
      _ = part.advance (partBytes - part.written) := by
          congr 1
          omega
  | case3 part hroom =>
    rw [copyBlocks, dif_neg hroom, Nat.sub_eq_zero_of_le (not_lt.mp hroom), Part.advance_zero]

/-- The list entries of the parts from an index on. -/
def records (archive : Archive) : ℕ → List (List UInt8) → List Record
  | _, [] => []
  | index, part :: parts =>
    ⟨partName archive index, Sha256.hexdigest part, part.length⟩ ::
      records archive (index + 1) parts

/-- The output directory with the parts from an index on. -/
def stored (archive : Archive) : ℕ → List (List UInt8) → Directory → Directory
  | _, [], files => files
  | index, part :: parts, files =>
    stored archive (index + 1) parts (Function.update files (partName archive index) (some part))

variable {archive : Archive} {partBytes : ℕ} {files : Directory}

theorem sum_size_records (archive : Archive) (index : ℕ) (parts : List (List UInt8)) :
    ((records archive index parts).map Record.size).sum = parts.flatten.length := by
  induction parts generalizing index with
  | nil => rfl
  | cons part parts ih =>
    rw [records, List.map_cons, List.sum_cons, ih, List.flatten_cons, List.length_append]

theorem create_exec {name : String} (hfree : files name = none) :
    Attempt.exec (create name) files = (.ok (), Function.update files name (some [])) := by
  show (match files name with
    | some _ => ((.error (.fileExists name), files) : Except SplitError Unit × Directory)
    | none => (.ok (), Function.update files name (some []))) = _
  rw [hfree]

/-- A part that takes the first bytes of the archive. -/
theorem copyBlocks_fresh (partBytes : ℕ) (source : List UInt8) :
    copyBlocks partBytes ⟨source, [], [], 0⟩ =
      ⟨source.drop partBytes, source.take partBytes, source.take partBytes,
        (source.take partBytes).length⟩ := by
  rw [copyBlocks_eq]
  simp only [Part.advance, Nat.sub_zero, List.nil_append, Nat.zero_add]

/-- **The outer loop** writes the chunks of what is left of the archive. -/
theorem splitLoop_exec (archive : Archive) (hpart : 0 < partBytes) (source : List UInt8) (index : ℕ)
    (result : List Record) (hfree : ∀ i, index ≤ i → files (partName archive i) = none) :
    Attempt.exec (splitLoop archive partBytes index source.length source result) files =
      (.ok (result ++ records archive index (chunks partBytes source)),
        stored archive index (chunks partBytes source) files) := by
  induction source using chunks.induct partBytes generalizing index result files with
  | case1 source h ih =>
    have hlength : 0 < source.length := List.length_pos_of_ne_nil h.2
    have hwritten : (source.take partBytes).length ≠ 0 := by
      rw [List.length_take]
      omega
    have hremaining : (source.length : ℤ) - ((source.take partBytes).length : ℤ) =
        (source.drop partBytes).length := by
      rw [List.length_take, List.length_drop]
      omega
    rw [chunks_of_ne_nil hpart h.2, records, stored, splitLoop,
      dif_pos (Int.natCast_pos.mpr hlength), Attempt.exec_bind, create_exec (hfree index le_rfl)]
    simp only [copyBlocks_fresh]
    rw [Attempt.exec_bind]
    show Attempt.exec (dite _ _ _) (Function.update (Function.update files _ _) _ _) = _
    rw [Function.update_idem, dif_neg hwritten, hremaining, ih, List.append_assoc,
      List.singleton_append]
    -- The later parts are still free.
    intro i hi
    rw [Function.update_of_ne (fun hname => by have := partName_injective archive hname; omega)]
    exact hfree i (by omega)
  | case2 source h =>
    obtain rfl : source = [] := not_not.mp fun hne => h ⟨hpart, hne⟩
    rw [splitLoop, dif_neg (by decide), chunks_nil, records, List.append_nil]
    rfl

/-! ## The output directory -/

/-- Only the parts are written. -/
theorem stored_of_ne {name : String} {index : ℕ} {parts : List (List UInt8)}
    (hname : ∀ i, index ≤ i → name ≠ partName archive i) :
    stored archive index parts files name = files name := by
  induction parts generalizing index files with
  | nil => rfl
  | cons part parts ih =>
    rw [stored, ih fun i hi => hname i (by omega), Function.update_of_ne (hname index le_rfl)]

/-- What an entry records of the part it names. -/
def Record.Describes (files : Directory) (record : Record) (part : List UInt8) : Prop :=
  files record.name = some part ∧ record.size = part.length ∧
    record.sha256 = Sha256.hexdigest part

/-- **Every entry records** the part it names. -/
theorem forall₂_records (index : ℕ) (parts : List (List UInt8)) (files : Directory) :
    List.Forall₂ (Record.Describes (stored archive index parts files))
      (records archive index parts) parts := by
  induction parts generalizing index files with
  | nil => exact .nil
  | cons part parts ih =>
    refine .cons ⟨?_, rfl, rfl⟩ (ih (index + 1) _)
    -- A later part has another name.
    rw [stored, stored_of_ne fun i hi hname => by
      have := partName_injective archive hname
      omega]
    exact Function.update_self _ _ _

/-! ## What the function leaves -/

/-- **Splitting loses nothing**: into a directory that has none of the parts, an archive that is
not empty and keeps its size is split into parts that put together are the archive. -/
theorem splitArchive_loses_nothing {archive : Archive} {partBytes : ℤ} {files : Directory}
    (hcontent : archive.content ≠ []) (hsize : archive.size = archive.content.length)
    (hpositive : 0 < partBytes) (hbound : partBytes < 2 * 1024 * 1024 * 1024)
    (hfree : ∀ index, files (partName archive index) = none) :
    ∃ result files', Attempt.exec (splitArchive archive partBytes) files = (.ok result, files') ∧
      (∃ parts, List.Forall₂ (Record.Describes files') result parts ∧
        parts.flatten = archive.content ∧
        (∀ part ∈ parts.dropLast, (part.length : ℤ) = partBytes) ∧
        (∀ part ∈ parts.getLast?, 1 ≤ part.length ∧ (part.length : ℤ) ≤ partBytes)) ∧
      ∀ name, (∀ index, name ≠ partName archive index) → files' name = files name := by
  have hpart : 0 < partBytes.toNat := by omega
  have hflatten := flatten_chunks hpart archive.content
  refine ⟨_, _, ?_, ⟨chunks partBytes.toNat archive.content, forall₂_records 0 _ files, hflatten,
    fun part hmem => ?_, fun part hmem => ?_⟩, fun name hname => stored_of_ne fun i _ => hname i⟩
  · have hloop := splitLoop_exec archive hpart archive.content 0 [] fun i _ => hfree i
    have hsum := sum_size_records archive 0 (chunks partBytes.toNat archive.content)
    have hne : records archive 0 (chunks partBytes.toNat archive.content) ≠ [] := by
      rw [chunks_of_ne_nil hpart hcontent]
      exact List.cons_ne_nil _ _
    rw [hflatten] at hsum
    rw [List.nil_append] at hloop
    rw [splitArchive, if_neg (by omega), hsize]
    show Attempt.exec (splitLoop _ _ _ _ _ _ >>= _) _ = _
    rw [Attempt.exec_bind, hloop]
    show Attempt.exec (ite _ _ _) _ = _
    rw [if_neg (not_or.mpr ⟨hne, not_not.mpr hsum⟩)]
    rfl
  · rw [length_of_mem_dropLast_chunks hpart hmem]
    omega
  · have hlength := length_of_mem_chunks hpart (List.mem_of_mem_getLast? hmem)
    omega

/-- The digits and six letters. -/
def sixteenBytes : Archive where
  path := "/root/pack.tar.gz"
  name := "pack.tar.gz"
  size := 16
  content := [48, 49, 50, 51, 52, 53, 54, 55, 56, 57, 97, 98, 99, 100, 101, 102]

/-- Sixteen bytes in parts of seven. -/
theorem splitArchive_loses_nothing_sixteenBytes :
    ∃ result files', Attempt.exec (splitArchive sixteenBytes 7) (fun _ => none) =
        (.ok result, files') ∧
      (∃ parts, List.Forall₂ (Record.Describes files') result parts ∧
        parts.flatten = sixteenBytes.content ∧
        (∀ part ∈ parts.dropLast, (part.length : ℤ) = 7) ∧
        (∀ part ∈ parts.getLast?, 1 ≤ part.length ∧ (part.length : ℤ) ≤ 7)) ∧
      ∀ name, (∀ index, name ≠ partName sixteenBytes index) → files' name = none :=
  splitArchive_loses_nothing (by decide) rfl (by decide) (by decide) fun _ => rfl

end Kapsl.Ort.ReleaseParts
