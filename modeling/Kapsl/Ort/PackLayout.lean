import Kapsl.Ort.PackStreaming

/-!
# Ort/PackLayout — what the archive of a pack is written as

`write_archive` writes the directories that the entries need, sorted, and then the entries, sorted.
Python sorts names by their code points, so a directory comes before those inside it.  The headers
have fixed fields, and what one of them has no room for ends the writing with an exception.

* `validateArchive_archiveMembers` — what was written is accepted when it is read back, exactly when
  the names of the entries are safe, their modes fit their field and the manifests agree.
* `writeArchive_layout` — the archive does not depend on the order of the entries, and has every
  directory once, and before what is in it.
-/

namespace Kapsl.Ort.PackArchive

open Vllm (Json)
open Except (okOr raiseIf)
open Notices (Path)

/-! ## The code -/

/-- `path.parents`. -/
def parents (path : Path) : List Path :=
  (List.range path.parts.length).map fun i =>
    { path with parts := path.parts.take (path.parts.length - 1 - i) }

/-- `str(parent)` for the parents of a name, but for the current directory. -/
def parentNames (name : String) : List String :=
  ((parents (Path.ofString name)).map Path.text).filter fun parent => parent ≠ "."

section

variable {E : Type} {ε : Type}

/-- The variable `directories`. -/
def directories (entries : Entries E) : List String :=
  sortedNames (entries.keys.flatMap parentNames).toFinset

/-- A member as `tarfile` reads it back: only twelve bits of a mode are written. -/
def TarInfo.stored (info : TarInfo) : TarInfo := { info with mode := info.mode % 0o10000 }

/-- The `TarInfo` of a directory. -/
def directoryInfo (epoch : ℤ) (name : String) : TarInfo where
  name
  type := .directory
  mode := 0o755
  size := 0
  uid := 0
  gid := 0
  mtime := epoch
  uname := "root"
  gname := "root"

/-- The `TarInfo` of an entry. -/
def fileInfo (epoch : ℤ) (name : String) (size : ℕ) (mode : ℤ) : TarInfo where
  name
  type := .regular
  mode
  size
  uid := 0
  gid := 0
  mtime := epoch
  uname := "root"
  gname := "root"

/-- `archive.addfile(info)`, read back. -/
def directoryMember (epoch : ℤ) (name : String) : Member ε where
  info := (directoryInfo epoch name).stored
  content := .ok none
  size_eq := nofun

/-- `archive.addfile(info, io.BytesIO(payload))`, read back. -/
def fileMember (epoch : ℤ) (name : String) (mode : ℤ) (payload : List UInt8) : Member ε where
  info := (fileInfo epoch name payload.length mode).stored
  content := .ok (some payload)
  size_eq := fun _ h => congrArg List.length (Option.some.inj (Except.ok.inj h))

/-- The members that `write_archive` adds, as they are read back. -/
def archiveMembers (entries : Entries PlainEntry) (epoch : ℤ) : List (Member ε) :=
  (directories entries).map (directoryMember epoch) ++
    (sortedItems entries).map fun item => fileMember epoch item.1 item.2.2 item.2.1

/-- The exceptions of the writers. -/
structure Refusal (ε : Type) where
  /-- `struct.error`, of `gzip`. -/
  epoch : ε
  /-- `ValueError("name is too long")`. -/
  name : ε
  /-- `ValueError("overflow in number field")`. -/
  number : ε
  /-- `OSError("unexpected end of data")`. -/
  short : ε

/-- The name that is written: that of a directory ends with a slash. -/
def TarInfo.headerName (info : TarInfo) : String :=
  if info.type = .directory ∧ ¬['/'] <:+ info.name.toList then info.name ++ "/" else info.name

/-- `_posix_split_name`: a long name is cut at a slash, into a prefix and a name. -/
def posixSplits (name : String) : Bool :=
  let components := (name.toList.splitOn '/').map String.ofList
  ((List.range components.length).drop 1).any fun i =>
    ("/".intercalate (components.take i)).utf8ByteSize ≤ 155 ∧
      ("/".intercalate (components.drop i)).utf8ByteSize ≤ 100

variable (refusal : Refusal ε)

/-- The header of `gzip`, which has four bytes for the time. -/
def gzipHeader (epoch : ℤ) : Except (Raised ε) Unit :=
  raiseIf (epoch < 0 ∨ 0xFFFFFFFF < epoch) (.library refusal.epoch)

/-- `info.tobuf(USTAR_FORMAT)`; the mode, the owner and the group always fit. -/
def ustarHeader (info : TarInfo) : Except (Raised ε) Unit := do
  raiseIf (100 < info.headerName.utf8ByteSize ∧ posixSplits info.headerName = false)
    (.library refusal.name)
  raiseIf (8 ^ 11 ≤ info.size) (.library refusal.number)
  raiseIf (info.mtime < 0 ∨ 8 ^ 11 ≤ info.mtime) (.library refusal.number)

/-- `write_archive`: what is in the archive when it returns. -/
def writeArchive (entries : Entries PlainEntry) (epoch : ℤ) :
    Except (Raised ε) (List (Member ε)) := do
  gzipHeader refusal epoch
  (directories entries).forM fun name => ustarHeader refusal (directoryInfo epoch name)
  (sortedItems entries).forM fun item =>
    ustarHeader refusal (fileInfo epoch item.1 item.2.1.length item.2.2)
  return archiveMembers entries epoch

/-- What `entry.stream()` has; `read` is what reading a file comes to. -/
def entryStream (read : Path → Except ε (List UInt8)) (entry : PackEntry) :
    Except (Raised ε) (List UInt8) :=
  match entry.path with
  | some path => (read path).mapError .library
  | none => okOr entry.payload (.package "pack entry has neither a path nor an in-memory payload")

/-- `archive.addfile(info, stream)`: it copies as many bytes as the size says. -/
def addStream (epoch : ℤ) (name : String) (entry : PackEntry) (stream : List UInt8) :
    Except (Raised ε) (Member ε) := do
  ustarHeader refusal (fileInfo epoch name entry.size entry.mode)
  raiseIf (stream.length < entry.size) (.library refusal.short)
  return fileMember epoch name entry.mode (stream.take entry.size)

/-- A round of the loop over the entries. -/
def addEntry (read : Path → Except ε (List UInt8)) (epoch : ℤ) (item : String × PackEntry) :
    Except (Raised ε) (Member ε) := do
  let stream ← entryStream read item.2
  addStream refusal epoch item.1 item.2 stream

/-- `write_streaming_archive`. -/
def writeStreamingArchive (read : Path → Except ε (List UInt8)) (entries : Entries PackEntry)
    (epoch : ℤ) : Except (Raised ε) (List (Member ε)) := do
  gzipHeader refusal epoch
  (directories entries).forM fun name => ustarHeader refusal (directoryInfo epoch name)
  let written ← (sortedItems entries).mapM (addEntry refusal read epoch)
  return (directories entries).map (directoryMember epoch) ++ written

end

/-! ## Paths and their texts -/

/-- No part of a split has the separator. -/
theorem notMem_of_mem_splitOn {α : Type*} [DecidableEq α] {a : α} {xs part : List α}
    (h : part ∈ xs.splitOn a) : a ∉ part := by
  induction xs generalizing part with
  | nil =>
    rw [List.splitOn_nil, List.mem_singleton] at h
    rw [h]
    exact List.not_mem_nil
  | cons x xs ih =>
    rw [List.splitOn_cons_eq_if_modifyHead] at h
    split at h
    · rcases List.mem_cons.mp h with rfl | h
      exacts [List.not_mem_nil, ih h]
    · next hne =>
      obtain ⟨first, rest, hsplit⟩ := List.exists_cons_of_ne_nil (List.splitOn_ne_nil a xs)
      rw [hsplit] at h ih
      rcases List.mem_cons.mp h with rfl | h
      · rw [List.mem_cons, not_or]
        exact ⟨fun heq => hne (beq_iff_eq.mpr heq.symm), ih List.mem_cons_self⟩
      · exact ih (List.mem_cons_of_mem _ h)

/-- **A part of a path**. -/
structure IsPart (part : String) : Prop where
  ne_empty : part ≠ ""
  ne_dot : part ≠ "."
  slash : '/' ∉ part.toList

theorem isPart_of_mem {name part : String} (h : part ∈ (Path.ofString name).parts) :
    IsPart part := by
  obtain ⟨hmem, hne⟩ := List.mem_filter.mp h
  obtain ⟨chars, hchars, rfl⟩ := List.mem_map.mp hmem
  simp only [decide_eq_true_eq] at hne
  refine ⟨hne.1, hne.2, ?_⟩
  rw [String.toList_ofList]
  exact notMem_of_mem_splitOn hchars

/-- The text of a relative path. -/
def relativeText (parts : List String) : String := "/".intercalate parts

section

variable {parts : List String}

theorem splitOn_relativeText (h : ∀ part ∈ parts, IsPart part) (hne : parts ≠ []) :
    (relativeText parts).toList.splitOn '/' = parts.map String.toList := by
  rw [relativeText, String.toList_intercalate]
  refine List.splitOn_intercalate '/' (fun chars hchars => ?_) (by simpa using hne)
  obtain ⟨part, hpart, rfl⟩ := List.mem_map.mp hchars
  exact (h part hpart).slash

/-- Its first character is no slash. -/
theorem root_relativeText (h : ∀ part ∈ parts, IsPart part) (hne : parts ≠ []) :
    (Path.ofString (relativeText parts)).root = "" := by
  obtain ⟨part, rest, rfl⟩ := List.exists_cons_of_ne_nil hne
  obtain ⟨hempty, -, hslash⟩ := h part List.mem_cons_self
  obtain ⟨c, chars, hchars⟩ : ∃ c chars, part.toList = c :: chars :=
    List.exists_cons_of_ne_nil fun hnil => hempty (String.toList_eq_nil_iff.mp hnil)
  have hc : c ≠ '/' := fun heq => hslash (by rw [hchars, heq]; exact List.mem_cons_self)
  have htext : ∃ tail, (relativeText (part :: rest)).toList = c :: tail := by
    rw [relativeText, String.toList_intercalate, List.map_cons, hchars]
    rcases rest with _ | ⟨second, rest⟩
    · exact ⟨chars, List.intercalate_singleton⟩
    · exact ⟨_, List.intercalate_cons_cons⟩
  obtain ⟨tail, htail⟩ := htext
  simp [Path.ofString, htail, hc.symm]

/-- **A relative path is read back from its text.** -/
theorem ofString_relativeText (h : ∀ part ∈ parts, IsPart part) (hne : parts ≠ []) :
    Path.ofString (relativeText parts) = ⟨"", parts⟩ := by
  have hparts : (Path.ofString (relativeText parts)).parts = parts := by
    show List.filter _ (List.map _ _) = _
    have hid : String.ofList ∘ String.toList = id := funext fun _ => String.ofList_toList
    rw [splitOn_relativeText h hne, List.map_map, hid, List.map_id, List.filter_eq_self]
    intro part hpart
    exact decide_eq_true ⟨(h part hpart).ne_empty, (h part hpart).ne_dot⟩
  exact congrArg₂ Notices.Path.mk (root_relativeText h hne) hparts

theorem isPart_take (h : ∀ part ∈ parts, IsPart part) (k : ℕ) :
    ∀ part ∈ parts.take k, IsPart part := fun part hpart => h part (List.mem_of_mem_take hpart)

theorem take_ne_nil {k : ℕ} (hpos : 0 < k) (hk : k < parts.length) : parts.take k ≠ [] := by
  rw [ne_eq, ← List.length_eq_zero_iff, List.length_take]
  omega

/-- **The parents of a relative name** are its proper beginnings. -/
theorem mem_parentNames {name parent : String} (hroot : (Path.ofString name).root = "") :
    parent ∈ parentNames name ↔ ∃ k, 0 < k ∧ k < (Path.ofString name).parts.length ∧
      parent = relativeText ((Path.ofString name).parts.take k) := by
  have hclean : ∀ part ∈ (Path.ofString name).parts, IsPart part := fun _ => isPart_of_mem
  have htext : ∀ k, 0 < k → k < (Path.ofString name).parts.length →
      Path.text { Path.ofString name with parts := (Path.ofString name).parts.take k } =
        relativeText ((Path.ofString name).parts.take k) := by
    intro k hpos hk
    rw [Path.text, if_neg fun h => take_ne_nil hpos hk h.2, hroot, relativeText, String.empty_append]
  rw [parentNames, List.mem_filter, parents, List.map_map, List.mem_map, decide_eq_true_eq]
  constructor
  · rintro ⟨⟨i, hi, rfl⟩, hdot⟩
    rw [List.mem_range] at hi
    rcases Nat.eq_zero_or_pos ((Path.ofString name).parts.length - 1 - i) with hzero | hpos
    · refine absurd ?_ hdot
      rw [Function.comp_apply, hzero, List.take_zero, Path.text, if_pos ⟨hroot, rfl⟩]
    · exact ⟨_, hpos, by omega, htext _ hpos (by omega)⟩
  · rintro ⟨k, hpos, hk, rfl⟩
    refine ⟨⟨(Path.ofString name).parts.length - 1 - k, List.mem_range.mpr (by omega), ?_⟩, ?_⟩
    · have hindex : (Path.ofString name).parts.length - 1 -
          ((Path.ofString name).parts.length - 1 - k) = k := by omega
      rw [Function.comp_apply, hindex, htext k hpos hk]
    · intro hdot
      have hparts := congrArg Path.parts
        (ofString_relativeText (isPart_take hclean k) (take_ne_nil hpos hk))
      rw [hdot] at hparts
      exact take_ne_nil hpos hk hparts.symm

/-- **A parent is sorted before what is inside it.** -/
theorem parent_lt {name parent : String} (hroot : (Path.ofString name).root = "")
    (h : parent ∈ parentNames name) : parent < relativeText (Path.ofString name).parts := by
  obtain ⟨k, hpos, hk, rfl⟩ := (mem_parentNames hroot).mp h
  have hdrop : (Path.ofString name).parts.drop k ≠ [] := by
    rw [ne_eq, ← List.length_eq_zero_iff, List.length_drop]
    omega
  have hsplit := String.intercalate_append_of_ne_nil (s := "/") (take_ne_nil hpos hk) hdrop
  rw [List.take_append_drop] at hsplit
  have htext : (relativeText (Path.ofString name).parts).toList =
      (relativeText ((Path.ofString name).parts.take k)).toList ++
        '/' :: (relativeText ((Path.ofString name).parts.drop k)).toList := by
    rw [relativeText, hsplit, String.toList_append, String.toList_append, List.append_assoc]
    rfl
  rw [String.lt_iff_toList_lt, htext]
  have hlt : (relativeText ((Path.ofString name).parts.take k)).toList ++ [] <
      (relativeText ((Path.ofString name).parts.take k)).toList ++
        '/' :: (relativeText ((Path.ofString name).parts.drop k)).toList :=
    List.append_left_lt (List.nil_lt_cons _ _)
  rwa [List.append_nil] at hlt

/-- A parent is the text of its own path. -/
theorem ofString_parent {name parent : String} (hroot : (Path.ofString name).root = "")
    (h : parent ∈ parentNames name) : ∃ k, k ≤ (Path.ofString name).parts.length ∧
      Path.ofString parent = ⟨"", (Path.ofString name).parts.take k⟩ ∧
      parent = relativeText ((Path.ofString name).parts.take k) := by
  obtain ⟨k, hpos, hk, rfl⟩ := (mem_parentNames hroot).mp h
  exact ⟨k, hk.le, ofString_relativeText (isPart_take (fun _ => isPart_of_mem) k)
    (take_ne_nil hpos hk), rfl⟩

/-- The parents of a parent are parents. -/
theorem parentNames_trans {name parent other : String} (hroot : (Path.ofString name).root = "")
    (h : parent ∈ parentNames name) (hother : other ∈ parentNames parent) :
    other ∈ parentNames name := by
  obtain ⟨k, hk, hpath, -⟩ := ofString_parent hroot h
  have hrootParent : (Path.ofString parent).root = "" := by rw [hpath]
  obtain ⟨j, hpos, hj, rfl⟩ := (mem_parentNames hrootParent).mp hother
  rw [hpath, List.length_take] at hj
  refine (mem_parentNames hroot).mpr ⟨j, hpos, by omega, ?_⟩
  rw [hpath, List.take_take, Nat.min_eq_left (by omega)]

/-- **The parents of a safe name are safe.** -/
theorem Safe.parent {name parent : String} (hsafe : Safe name) (h : parent ∈ parentNames name) :
    Safe parent := by
  obtain ⟨k, hpos, hk, htext⟩ := (mem_parentNames hsafe.1).mp h
  have hclean : ∀ part ∈ (Path.ofString name).parts.take k, IsPart part :=
    isPart_take (fun _ => isPart_of_mem) k
  refine ⟨?_, ?_⟩
  · rw [htext, ofString_relativeText hclean (take_ne_nil hpos hk)]
  · have hid : String.ofList ∘ String.toList = id := funext fun _ => String.ofList_toList
    rw [htext, splitOn_relativeText hclean (take_ne_nil hpos hk), List.map_map, hid, List.map_id]
    intro hup
    exact hsafe.2 (List.mem_filter.mp (List.mem_of_mem_take hup)).1

end

/-! ## What is written is accepted -/

section

variable {ε : Type} {host : Host ε} {entries : Entries PlainEntry} {epoch : ℤ}
  {archivePath : String} {template : Json}

theorem mem_directories {E : Type} {entries : Entries E} {directory : String} :
    directory ∈ directories entries ↔ ∃ name ∈ entries.keys, directory ∈ parentNames name := by
  rw [directories, mem_sortedNames, List.mem_toFinset, List.mem_flatMap]

theorem mem_sortedItems {E : Type} {entries : Entries E} {item : String × E} :
    item ∈ sortedItems entries ↔ item.2 ∈ entries.lookup item.1 := by
  rw [sortedItems, List.mem_insertionSort, ← mem_items]

theorem files_archiveMembers : files (archiveMembers (ε := ε) entries epoch) =
    (sortedItems entries).map fun item => fileMember epoch item.1 item.2.2 item.2.1 := by
  rw [archiveMembers, files, List.filter_append, List.filter_eq_nil_iff.mpr, List.nil_append,
    List.filter_eq_self]
  · intro member hmember
    obtain ⟨item, -, rfl⟩ := List.mem_map.mp hmember
    rfl
  · intro member hmember
    obtain ⟨name, -, rfl⟩ := List.mem_map.mp hmember
    exact Bool.false_ne_true

theorem names_archiveMembers : (names (archiveMembers (ε := ε) entries epoch)).Perm entries.keys := by
  rw [names, files_archiveMembers, List.map_map, ← map_items_fst]
  exact (List.perm_insertionSort _ (items entries)).map Prod.fst

/-- The members are admissible when the names are safe. -/
theorem admissible_archiveMembers : (∀ member ∈ archiveMembers (ε := ε) entries epoch,
    Admissible epoch member.info) ↔ ∀ name ∈ entries.keys, Safe name := by
  constructor
  · intro h name hname
    have hlookup : ∃ entry, entry ∈ entries.lookup name :=
      Option.isSome_iff_exists.mp (AList.lookup_isSome.mpr hname)
    obtain ⟨entry, hentry⟩ := hlookup
    have hitem : (name, entry) ∈ sortedItems entries := mem_sortedItems.mpr hentry
    exact (h _ (List.mem_append_right _ (List.mem_map_of_mem hitem))).safe
  · intro h member hmember
    rcases List.mem_append.mp hmember with hmember | hmember
    · obtain ⟨directory, hdirectory, rfl⟩ := List.mem_map.mp hmember
      obtain ⟨name, hname, hparent⟩ := mem_directories.mp hdirectory
      exact ⟨(h name hname).parent hparent, ⟨rfl, rfl⟩, rfl, .inl ⟨rfl, rfl⟩⟩
    · obtain ⟨item, hitem, rfl⟩ := List.mem_map.mp hmember
      have hname : item.1 ∈ entries :=
        AList.lookup_isSome.mp (Option.isSome_of_mem (mem_sortedItems.mp hitem))
      exact ⟨h item.1 hname, ⟨rfl, rfl⟩, rfl, .inr rfl⟩

theorem matches_archiveMembers : (∀ member ∈ files (archiveMembers (ε := ε) entries epoch),
    Matches comparePlain entries member) ↔
      ∀ item ∈ items entries, 0 ≤ item.2.2 ∧ item.2.2 < 0o10000 := by
  have hmode : ∀ mode : ℤ, mode % 0o10000 = mode ↔ 0 ≤ mode ∧ mode < 0o10000 := by
    intro mode
    omega
  rw [files_archiveMembers, List.forall_mem_map]
  constructor
  · intro h item hitem
    obtain ⟨entry, hentry, hcompare⟩ := h item ((List.mem_insertionSort _).mpr hitem)
    have hlookup : item.2 ∈ entries.lookup item.1 := mem_items.mp hitem
    have heq : item.2 = entry := Option.mem_unique hlookup hentry
    exact (hmode item.2.2).mp (heq ▸ (comparePlain_eq_ok.mp hcompare).2)
  · intro h item hitem
    have hmem := (List.mem_insertionSort _).mp hitem
    exact ⟨item.2, mem_items.mp hmem, comparePlain_eq_ok.mpr ⟨rfl, (hmode item.2.2).mpr (h item hmem)⟩⟩

/-- **What was written is accepted**, when the entries can be entries of a pack. -/
theorem validateArchive_archiveMembers :
    validateArchive host archivePath entries template epoch (.ok (archiveMembers entries epoch)) =
        .ok () ↔
      (∀ name ∈ entries.keys, Safe name) ∧
        (∀ item ∈ items entries, 0 ≤ item.2.2 ∧ item.2.2 < 0o10000) ∧
        PlainManifest host entries template := by
  rw [validateArchive, validate_eq_ok, checkManifest_plain]
  constructor
  · rintro ⟨members, hmembers, hadmissible, hmatch, -, hmanifest⟩
    rw [← Except.ok.inj hmembers] at hadmissible hmatch
    exact ⟨admissible_archiveMembers.mp hadmissible, matches_archiveMembers.mp hmatch, hmanifest⟩
  · rintro ⟨hsafe, hmode, hmanifest⟩
    exact ⟨_, rfl, admissible_archiveMembers.mpr hsafe, matches_archiveMembers.mpr hmode,
      names_archiveMembers, hmanifest⟩

/-! ## What there is room for -/

/-- **A header has room** for the name, the size and the time of a member. -/
structure Fits (info : TarInfo) : Prop where
  name : info.headerName.utf8ByteSize ≤ 100 ∨ posixSplits info.headerName = true
  size : info.size < 8 ^ 11
  mtime : 0 ≤ info.mtime ∧ info.mtime < 8 ^ 11

theorem ustarHeader_eq_ok {refusal : Refusal ε} {info : TarInfo} {u : Unit} :
    ustarHeader refusal info = .ok u ↔ Fits info := by
  simp only [ustarHeader, Except.bind_eq_ok, Except.raiseIf_eq_ok, not_and, not_or, not_lt, not_le,
    Bool.not_eq_false]
  constructor
  · rintro ⟨_, hname, _, hsize, hmtime⟩
    exact ⟨(le_or_gt _ _).imp_right hname, hsize, hmtime⟩
  · rintro ⟨hname, hsize, hmtime⟩
    exact ⟨(), fun h => hname.resolve_left h.not_ge, (), hsize, hmtime⟩

/-- The mode that is read back changes no room. -/
theorem Fits.stored {info : TarInfo} : Fits info.stored ↔ Fits info :=
  ⟨fun h => ⟨h.name, h.size, h.mtime⟩, fun h => ⟨h.name, h.size, h.mtime⟩⟩

/-- **When an archive is written** — every header has room for what it says. -/
theorem writeArchive_eq_ok {refusal : Refusal ε} {members : List (Member ε)} :
    writeArchive refusal entries epoch = .ok members ↔
      (0 ≤ epoch ∧ epoch ≤ 0xFFFFFFFF) ∧
        (∀ member ∈ archiveMembers (ε := ε) entries epoch, Fits member.info) ∧
        archiveMembers entries epoch = members := by
  simp only [writeArchive, gzipHeader, Except.bind_eq_ok, Except.forM_eq_ok, Except.raiseIf_eq_ok,
    ustarHeader_eq_ok, Except.pure_eq_ok, not_or, not_lt]
  have hfits : (∀ member ∈ archiveMembers (ε := ε) entries epoch, Fits member.info) ↔
      (∀ name ∈ directories entries, Fits (directoryInfo epoch name)) ∧
        ∀ item ∈ sortedItems entries, Fits (fileInfo epoch item.1 item.2.1.length item.2.2) := by
    rw [archiveMembers, List.forall_mem_append, List.forall_mem_map, List.forall_mem_map]
    exact and_congr (forall₂_congr fun _ _ => Fits.stored) (forall₂_congr fun _ _ => Fits.stored)
  rw [hfits]
  constructor
  · rintro ⟨_, hepoch, _, hdirectories, _, hfiles, hmembers⟩
    exact ⟨hepoch, ⟨hdirectories, hfiles⟩, hmembers⟩
  · rintro ⟨hepoch, ⟨hdirectories, hfiles⟩, hmembers⟩
    exact ⟨(), hepoch, (), hdirectories, (), hfiles, hmembers⟩

/-! ## The order of the members -/

/-- **Parents first** — a member comes after the directories it is in. -/
def ParentsFirst (members : List (Member ε)) : Prop :=
  ∀ before member after, members = before ++ member :: after →
    ∀ parent ∈ parentNames member.info.name,
      ∃ directory ∈ before, directory.info.type = .directory ∧ directory.info.name = parent

/-- What is less than an item of a sorted list comes before it. -/
theorem mem_before {xs before after : List String} {x y : String} (hsorted : xs.Pairwise (· ≤ ·))
    (hxs : xs = before ++ x :: after) (hy : y ∈ xs) (hlt : y < x) : y ∈ before := by
  subst hxs
  rcases List.mem_append.mp hy with hy | hy
  · exact hy
  · have hle := (List.pairwise_cons.mp (List.pairwise_append.mp hsorted).2.1).1
    rcases List.mem_cons.mp hy with rfl | hy
    · exact absurd hlt (lt_irrefl y)
    · exact absurd hlt (hle y hy).not_gt

theorem parentsFirst_archiveMembers (hsafe : ∀ name ∈ entries.keys, Safe name) :
    ParentsFirst (archiveMembers (ε := ε) entries epoch) := by
  intro before member after hmembers parent hparent
  rcases List.append_eq_append_iff.mp hmembers with ⟨firsts, hbefore, hrest⟩ | ⟨rest, hdirs, hafter⟩
  · -- a file: all directories come before it
    have hmember : member ∈ (sortedItems entries).map fun item =>
        fileMember (ε := ε) epoch item.1 item.2.2 item.2.1 := by
      rw [hrest]
      exact List.mem_append_right _ List.mem_cons_self
    obtain ⟨item, hitem, rfl⟩ := List.mem_map.mp hmember
    have hname : item.1 ∈ entries :=
      AList.lookup_isSome.mp (Option.isSome_of_mem (mem_sortedItems.mp hitem))
    refine ⟨directoryMember epoch parent, ?_, rfl, rfl⟩
    rw [hbefore]
    exact List.mem_append_left _
      (List.mem_map_of_mem (mem_directories.mpr ⟨item.1, hname, hparent⟩))
  · rcases rest with _ | ⟨first, rest⟩
    · -- the first file
      rw [List.append_nil] at hdirs
      rw [List.nil_append] at hafter
      have hmember : member ∈ (sortedItems entries).map fun item =>
          fileMember (ε := ε) epoch item.1 item.2.2 item.2.1 := by
        rw [← hafter]
        exact List.mem_cons_self
      obtain ⟨item, hitem, rfl⟩ := List.mem_map.mp hmember
      have hname : item.1 ∈ entries :=
        AList.lookup_isSome.mp (Option.isSome_of_mem (mem_sortedItems.mp hitem))
      refine ⟨directoryMember epoch parent, ?_, rfl, rfl⟩
      rw [← hdirs]
      exact List.mem_map_of_mem (mem_directories.mpr ⟨item.1, hname, hparent⟩)
    · -- a directory: its parents are directories too, and sorted before it
      obtain ⟨rfl, -⟩ := List.cons.inj hafter
      obtain ⟨dirsBefore, dirsRest, hdirectories, rfl, hmap⟩ := List.map_eq_append_iff.mp hdirs
      obtain ⟨directory, dirsAfter, rfl, rfl, -⟩ := List.map_eq_cons_iff.mp hmap
      have hdirectory : directory ∈ directories entries := by
        rw [hdirectories]
        exact List.mem_append_right _ List.mem_cons_self
      obtain ⟨name, hname, hinside⟩ := mem_directories.mp hdirectory
      have hroot := (hsafe name hname).1
      obtain ⟨k, -, hpath, htext⟩ := ofString_parent hroot hinside
      have hlt : parent < directory := by
        have hlt := parent_lt ((hsafe name hname).parent hinside).1 hparent
        rwa [hpath, ← htext] at hlt
      refine ⟨directoryMember epoch parent, List.mem_map_of_mem ?_, rfl, rfl⟩
      exact mem_before (pairwise_sortedNames _) hdirectories
        (mem_directories.mpr ⟨name, hname, parentNames_trans hroot hinside hparent⟩) hlt

/-- The names of the directories of an archive. -/
def directoryNames (members : List (Member ε)) : List String :=
  (members.filter fun member => member.info.type = .directory).map fun member => member.info.name

theorem directoryNames_archiveMembers :
    directoryNames (archiveMembers (ε := ε) entries epoch) = directories entries := by
  rw [directoryNames, archiveMembers, List.filter_append, List.filter_eq_self.mpr,
    List.filter_eq_nil_iff.mpr, List.append_nil, List.map_map]
  · exact List.map_id _
  · intro member hmember
    obtain ⟨item, -, rfl⟩ := List.mem_map.mp hmember
    exact Bool.false_ne_true
  · intro member hmember
    obtain ⟨name, -, rfl⟩ := List.mem_map.mp hmember
    rfl

section

variable {entries' : Entries PlainEntry}

theorem sortedItems_perm (h : entries.entries.Perm entries'.entries) :
    sortedItems entries = sortedItems entries' := by
  refine List.insertionSort_eq_of_perm Prod.fst (h.map _) ?_
  rw [map_items_fst]
  exact entries.keys_nodup

theorem directories_perm (h : entries.entries.Perm entries'.entries) :
    directories entries = directories entries' := by
  rw [directories, directories]
  refine congrArg sortedNames (List.toFinset_eq_of_perm _ _ ?_)
  exact (h.map Sigma.fst).flatMap_right _

/-- The order of the entries is forgotten. -/
theorem archiveMembers_perm (h : entries.entries.Perm entries'.entries) :
    archiveMembers (ε := ε) entries epoch = archiveMembers entries' epoch := by
  rw [archiveMembers, archiveMembers, sortedItems_perm h, directories_perm h]

end

/-- **How an archive is laid out** — the same for any order of the entries; every directory that an
entry is in is there once, no other, and before what is in it. -/
theorem writeArchive_layout :
    (∀ refusal members, writeArchive (ε := ε) refusal entries epoch = .ok members →
      members = archiveMembers entries epoch) ∧
    (∀ entries' : Entries PlainEntry, entries.entries.Perm entries'.entries →
      archiveMembers (ε := ε) entries epoch = archiveMembers entries' epoch ∧
        ∀ refusal, writeArchive (ε := ε) refusal entries epoch =
          writeArchive refusal entries' epoch) ∧
    (directoryNames (archiveMembers (ε := ε) entries epoch)).Nodup ∧
    (∀ directory, directory ∈ directoryNames (archiveMembers (ε := ε) entries epoch) ↔
      ∃ name ∈ entries.keys, directory ∈ parentNames name) ∧
    ((∀ name ∈ entries.keys, Safe name) →
      ParentsFirst (archiveMembers (ε := ε) entries epoch)) := by
  rw [directoryNames_archiveMembers]
  refine ⟨fun refusal members h => ?_, fun entries' h => ⟨archiveMembers_perm h, fun refusal => ?_⟩,
    nodup_sortedNames _, fun _ => mem_directories, parentsFirst_archiveMembers⟩
  · exact (writeArchive_eq_ok.mp h).2.2.symm
  · rw [writeArchive, writeArchive, sortedItems_perm h, directories_perm h, archiveMembers_perm h]

/-! ## The streaming writer -/

/-- **The streaming writer writes the same archive**, or stops for the same reason, when every file
has the content it was staged with. -/
theorem writeStreamingArchive_stageAll {refusal : Refusal ε} {onDisk : String → Option Path}
    {read : Path → Except ε (List UInt8)}
    (hread : ∀ item ∈ items entries, ∀ path ∈ onDisk item.1, read path = .ok item.2.1) :
    writeStreamingArchive refusal read (stageAll onDisk entries) epoch =
      writeArchive refusal entries epoch := by
  have hadd : ∀ item ∈ sortedItems entries,
      (addEntry refusal read epoch ∘ fun item => (item.1, stage onDisk item.1 item.2)) item =
      ustarHeader refusal (fileInfo epoch item.1 item.2.1.length item.2.2) >>= fun _ =>
        .ok (fileMember epoch item.1 item.2.2 item.2.1) := by
    intro item hitem
    obtain ⟨hmode, hsize, -⟩ := stage_eq onDisk item.1 item.2
    have hstream : entryStream read (stage onDisk item.1 item.2) = .ok item.2.1 := by
      rcases hdisk : onDisk item.1 with _ | path
      · rw [stage, hdisk]
        rfl
      · rw [stage, hdisk, entryStream]
        exact congrArg (Except.mapError _)
          (hread item ((List.mem_insertionSort _).mp hitem) path hdisk)
    rw [Function.comp_apply, addEntry, hstream, Except.ok_bind, addStream, hsize, hmode,
      Except.raiseIf_neg (lt_irrefl _), List.take_length]
    rfl
  have hdirectories : directories (stageAll onDisk entries) = directories entries := by
    rw [directories, keys_stageAll, directories]
  rw [writeStreamingArchive, writeArchive, sortedItems_stageAll, hdirectories, List.mapM_map,
    Except.mapM_checked hadd]
  simp only [bind_assoc]
  rfl

end

end Kapsl.Ort.PackArchive
