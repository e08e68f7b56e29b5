import Kapsl.Ort.Notices

/-!
# Ort/PackArchive — the archive of a pack is read back against its entries

`validate_archive` opens the archive of a pack and goes through its members.  The CPU packs and the
accelerator packs have entries of their own kinds, and compare them with members in their own ways;
`validate` is what the two validations have in common.

* `validate_eq_ok` — what an accepted archive is, for any kind of entry.
* `validateArchive_exact` — an archive of a CPU pack is accepted exactly when its regular members
  are the entries, each once, every member is reproducible and its name safe, and the manifests
  agree.
-/

namespace Kapsl.Ort.PackArchive

open Vllm (Json)
open Except (raiseIf okOr)
open Notices (Path)

/-! ## Members and entries -/

/-- The types of members that `tarfile` tells apart. -/
inductive MemberType
  | directory
  | regular
  | symbolicLink
  | hardLink
  | special
  deriving DecidableEq

/-- `tarfile.TarInfo`. -/
structure TarInfo where
  name : String
  type : MemberType
  mode : ℤ
  size : ℕ
  uid : ℤ
  gid : ℤ
  mtime : ℚ
  uname : String
  gname : String
  deriving DecidableEq

/-- A member as it is read; `ε` are the exceptions of the library. -/
structure Member (ε : Type) where
  info : TarInfo
  /-- What `extractfile` and reading its stream to the end come to. -/
  content : Except ε (Option (List UInt8))
  size_eq : ∀ data, content = .ok (some data) → info.size = data.length

/-- Entries by their names. -/
abbrev Entries (E : Type) := AList fun _ : String => E

/-- The payload of an entry of a CPU pack, and its mode. -/
abbrev PlainEntry := List UInt8 × ℤ

section

variable {E : Type}

/-- `entries.items()`. -/
def items (entries : Entries E) : List (String × E) :=
  entries.entries.map fun entry => (entry.1, entry.2)

/-- `sorted(entries.items())`; the names are distinct. -/
def sortedItems (entries : Entries E) : List (String × E) :=
  (items entries).insertionSort fun a b => a.1 ≤ b.1

end

/-- `sorted(names)`, of a set. -/
def sortedNames (names : Finset String) : List String :=
  (Notices.SetOrder.ascending String).list names

theorem mem_sortedNames {names : Finset String} {name : String} :
    name ∈ sortedNames names ↔ name ∈ names :=
  (Notices.SetOrder.ascending String).mem names name

theorem nodup_sortedNames (names : Finset String) : (sortedNames names).Nodup :=
  (Notices.SetOrder.ascending String).nodup names

theorem pairwise_sortedNames (names : Finset String) : (sortedNames names).Pairwise (· ≤ ·) :=
  Finset.pairwise_sort names _

/-! ## Validation -/

/-- What leaves the validation. -/
inductive Raised (ε : Type)
  /-- `PackageError`. -/
  | package (message : String)
  | keyError (key : String)
  | attributeError
  /-- An exception of the library that is not caught. -/
  | library (e : ε)

/-- The library. -/
structure Host (ε : Type) where
  /-- The text of an `OSError` or a `TarError`. -/
  caught : ε → Option String
  /-- `json.loads`. -/
  loads : List UInt8 → Except ε Json

section

variable {ε E : Type} (host : Host ε)

/-- `path.parts`, the root included. -/
def pathParts (path : Path) : List String :=
  if path.root = "" then path.parts else path.root :: path.parts

/-- The test for a name that leaves the directory it is extracted to. -/
def unsafePath (name : String) : Bool :=
  let path := Path.ofString name
  path.isAbsolute || (pathParts path).any fun part => ["", ".", ".."].contains part

/-- The rest of the loop's body for a member that is no directory. -/
def checkFile (compare : E → Member ε → Except (Raised ε) Unit) (entries : Entries E)
    (observed : Finset String) (member : Member ε) : Except (Raised ε) (Finset String) := do
  let info := member.info
  raiseIf (info.type ≠ .regular ∨ info.type = .symbolicLink ∨ info.type = .hardLink)
    (.package ("archive member is not a regular file: " ++ info.name))
  raiseIf (info.name ∉ entries ∨ info.name ∈ observed)
    (.package ("archive has unexpected or duplicate file: " ++ info.name))
  let expected ← okOr (entries.lookup info.name) (.keyError info.name)
  compare expected member
  return insert info.name observed

/-- A round of the loop over the members. -/
def checkMember (compare : E → Member ε → Except (Raised ε) Unit) (entries : Entries E) (epoch : ℤ)
    (observed : Finset String) (member : Member ε) : Except (Raised ε) (Finset String) := do
  let info := member.info
  raiseIf (unsafePath info.name) (.package ("archive contains unsafe path " ++ info.name))
  raiseIf (info.uid ≠ 0 ∨ info.gid ≠ 0 ∨ info.mtime ≠ epoch)
    (.package ("archive metadata is not reproducible: " ++ info.name))
  if info.type = .directory then do
    raiseIf (info.mode ≠ 0o755) (.package ("archive directory mode is invalid: " ++ info.name))
    return observed
  else checkFile compare entries observed member

/-- `except (OSError, tarfile.TarError)`. -/
def inspect {α : Type} (archivePath : String) (x : Except (Raised ε) α) : Except (Raised ε) α :=
  x.mapError fun
    | .library e => (host.caught e).elim (.library e) fun text =>
      .package ("inspect archive " ++ archivePath ++ ": " ++ text)
    | raised => raised

/-- `PACK_CONTRACT_FIELDS`. -/
def packContractFields : List String :=
  ["schema_version", "backend", "profile", "pack_version", "runtime_abi", "adapter_abi", "platform",
    "execution_mode", "entrypoint", "formats", "tasks", "capabilities", "accelerator_requirements",
    "memory_behavior", "artifact_authentication", "provenance"]

/-- A round of the loop over the fields. -/
def checkField (payload template : Json) (field : String) : Except (Raised ε) Unit := do
  raiseIf (¬payload.isMapping) .attributeError
  raiseIf (¬(payload.get field).pyEq (template.get field))
    (.package ("payload/template mismatch for " ++ field))

/-- The checks of the manifests, after those of the archive. -/
def checkManifest (manifest : E → Except (Raised ε) (List UInt8)) (fileHash : E → String)
    (entries : Entries E) (template : Json) : Except (Raised ε) Unit := do
  let entry ← okOr (entries.lookup "backend-pack.json") (.keyError "backend-pack.json")
  let text ← manifest entry
  let payload ← (host.loads text).mapError .library
  packContractFields.forM (checkField payload template)
  raiseIf (¬(template.get "files").pyEq
      (.obj ((sortedItems entries).map fun item => (item.1, .str (fileHash item.2)))))
    (.package "manifest installed-file hashes do not match archive inputs")

/-- What the two validations have in common; `archive` is what opening the file and listing its
members come to. -/
def validate (compare : E → Member ε → Except (Raised ε) Unit)
    (manifest : E → Except (Raised ε) (List UInt8)) (fileHash : E → String) (archivePath : String)
    (entries : Entries E) (template : Json) (epoch : ℤ) (archive : Except ε (List (Member ε))) :
    Except (Raised ε) Unit := do
  let observed ← inspect host archivePath (archive.mapError .library >>= fun members =>
    members.foldlM (checkMember compare entries epoch) ∅)
  let expected := entries.keys.toFinset
  raiseIf (observed ≠ expected) (.package ("archive is missing files: " ++
    ", ".intercalate (sortedNames (expected \ observed))))
  checkManifest host manifest fileHash entries template

/-- `archive.extractfile(member)`, and reading the stream. -/
def readMember (member : Member ε) : Except (Raised ε) (List UInt8) := do
  let stream ← member.content.mapError .library
  okOr stream (.package ("archive file cannot be read: " ++ member.info.name))

/-- The comparison of `validate_archive`. -/
def comparePlain (expected : PlainEntry) (member : Member ε) : Except (Raised ε) Unit := do
  let payload ← readMember member
  raiseIf (payload ≠ expected.1 ∨ member.info.mode ≠ expected.2)
    (.package ("archive file differs from signed input: " ++ member.info.name))

/-- `validate_archive`. -/
def validateArchive (archivePath : String) (entries : Entries PlainEntry) (template : Json)
    (epoch : ℤ) (archive : Except ε (List (Member ε))) : Except (Raised ε) Unit :=
  validate host comparePlain (fun entry => .ok entry.1) (fun entry => Sha256.hexdigest entry.1)
    archivePath entries template epoch archive

end

/-! ## What one member is checked for -/

/-- **A safe name** — it is relative, and none of its components goes up. -/
def Safe (name : String) : Prop :=
  (Path.ofString name).root = "" ∧ ".." ∉ (name.toList.splitOn '/').map String.ofList

/-- The other names of the test are no parts of a path. -/
theorem unsafePath_eq_false {name : String} : unsafePath name = false ↔ Safe name := by
  have habsolute : (Path.ofString name).isAbsolute = false ↔ (Path.ofString name).root = "" := by
    simp only [Path.isAbsolute, decide_eq_false_iff_not, not_not]
  rw [unsafePath, Bool.or_eq_false_iff, habsolute, Safe, and_congr_right_iff]
  intro hroot
  rw [pathParts, if_pos hroot, List.any_eq_false]
  constructor
  · intro h hmem
    refine h ".." ?_ (by simp)
    exact List.mem_filter.mpr ⟨hmem, by simp⟩
  · intro h part hpart hcontains
    obtain ⟨hmem, hne⟩ := List.mem_filter.mp hpart
    simp only [List.contains_eq_mem, List.mem_cons, List.not_mem_nil, or_false,
      decide_eq_true_eq] at hcontains hne
    rcases hcontains with rfl | rfl | rfl
    · exact hne.1 rfl
    · exact hne.2 rfl
    · exact h hmem

/-- **An admissible member** — safe, reproducible, and a directory or a regular file. -/
structure Admissible (epoch : ℤ) (info : TarInfo) : Prop where
  safe : Safe info.name
  owned : info.uid = 0 ∧ info.gid = 0
  dated : info.mtime = epoch
  typed : info.type = .directory ∧ info.mode = 0o755 ∨ info.type = .regular

section

variable {ε E : Type} {host : Host ε} {compare : E → Member ε → Except (Raised ε) Unit}
  {entries : Entries E} {epoch : ℤ} {observed observed' : Finset String} {member : Member ε}

/-- The entry of a member, and what it was compared with. -/
def Matches (compare : E → Member ε → Except (Raised ε) Unit) (entries : Entries E)
    (member : Member ε) : Prop :=
  ∃ entry ∈ entries.lookup member.info.name, compare entry member = .ok ()

theorem checkFile_eq_ok : checkFile compare entries observed member = .ok observed' ↔
    member.info.type = .regular ∧ member.info.name ∉ observed ∧ Matches compare entries member ∧
      observed' = insert member.info.name observed := by
  simp only [checkFile, Except.bind_eq_ok, Except.raiseIf_eq_ok, Except.okOr_eq_ok,
    Except.pure_eq_ok, Matches]
  constructor
  · rintro ⟨_, htype, _, hname, entry, hentry, _, hcompare, rfl⟩
    simp only [not_or, not_not] at htype hname
    exact ⟨htype.1, hname.2, ⟨entry, hentry, hcompare⟩, rfl⟩
  · rintro ⟨htype, hname, ⟨entry, hentry, hcompare⟩, rfl⟩
    have hmem : member.info.name ∈ entries :=
      AList.lookup_isSome.mp (Option.isSome_of_mem hentry)
    exact ⟨(), by simp [htype], (), by simp [hmem, hname], entry, hentry, (), hcompare, rfl⟩

/-- **One member.**  A directory leaves what was observed as it is, and a file adds its name. -/
theorem checkMember_eq_ok : checkMember compare entries epoch observed member = .ok observed' ↔
    Admissible epoch member.info ∧
      (member.info.type = .directory ∧ observed' = observed ∨
        member.info.type = .regular ∧ member.info.name ∉ observed ∧
          Matches compare entries member ∧ observed' = insert member.info.name observed) := by
  simp only [checkMember, Except.bind_eq_ok, Except.raiseIf_eq_ok, Bool.not_eq_true,
    unsafePath_eq_false, not_or, not_not]
  constructor
  · rintro ⟨_, hsafe, _, ⟨huid, hgid, hdate⟩, hrest⟩
    split at hrest
    · next htype =>
      simp only [Except.bind_eq_ok, Except.raiseIf_eq_ok, Except.pure_eq_ok, not_not] at hrest
      obtain ⟨_, hmode, rfl⟩ := hrest
      exact ⟨⟨hsafe, ⟨huid, hgid⟩, hdate, .inl ⟨htype, hmode⟩⟩, .inl ⟨htype, rfl⟩⟩
    · obtain ⟨htype, hrest⟩ := checkFile_eq_ok.mp hrest
      exact ⟨⟨hsafe, ⟨huid, hgid⟩, hdate, .inr htype⟩, .inr ⟨htype, hrest⟩⟩
  · rintro ⟨⟨hsafe, ⟨huid, hgid⟩, hdate, htyped⟩, hrest⟩
    refine ⟨(), hsafe, (), ⟨huid, hgid, hdate⟩, ?_⟩
    rcases hrest with ⟨htype, rfl⟩ | ⟨htype, hrest⟩
    · have hmode := htyped.resolve_right fun h => by cases htype.symm.trans h
      rw [if_pos htype]
      simp only [Except.bind_eq_ok, Except.raiseIf_eq_ok, not_not]
      exact ⟨(), hmode.2, rfl⟩
    · have hfile : member.info.type ≠ .directory := fun h => by cases htype.symm.trans h
      rw [if_neg hfile]
      exact checkFile_eq_ok.mpr ⟨htype, hrest⟩

/-! ## All members -/

/-- The regular members. -/
def files (members : List (Member ε)) : List (Member ε) :=
  members.filter fun member => member.info.type = .regular

/-- Their names. -/
def names (members : List (Member ε)) : List String :=
  (files members).map fun member => member.info.name

theorem mem_files {members : List (Member ε)} :
    member ∈ files members ↔ member ∈ members ∧ member.info.type = .regular := by
  rw [files, List.mem_filter, decide_eq_true_eq]

variable {members : List (Member ε)}

theorem files_cons_directory (h : member.info.type = .directory) :
    files (member :: members) = files members :=
  List.filter_cons_of_neg (by rw [h]; simp)

theorem files_cons_regular (h : member.info.type = .regular) :
    files (member :: members) = member :: files members :=
  List.filter_cons_of_pos (by rw [h]; simp)

theorem names_cons_directory (h : member.info.type = .directory) :
    names (member :: members) = names members := by
  rw [names, files_cons_directory h, names]

theorem names_cons_regular (h : member.info.type = .regular) :
    names (member :: members) = member.info.name :: names members := by
  rw [names, files_cons_regular h, List.map_cons, names]

/-- **The loop over the members** — it ends when each is admissible, each regular one matches its
entry, and no name comes twice or was observed before. -/
theorem foldlM_checkMember :
    members.foldlM (checkMember compare entries epoch) observed = .ok observed' ↔
      (∀ member ∈ members, Admissible epoch member.info) ∧
        (∀ member ∈ files members, Matches compare entries member) ∧ (names members).Nodup ∧
        (∀ name ∈ names members, name ∉ observed) ∧
        observed' = observed ∪ (names members).toFinset := by
  induction members generalizing observed with
  | nil =>
    rw [List.foldlM_nil, Except.pure_eq_ok]
    simp [names, files, eq_comm]
  | cons member members ih =>
    simp only [List.foldlM_cons, Except.bind_eq_ok, checkMember_eq_ok, ih, List.forall_mem_cons]
    constructor
    · rintro ⟨_, ⟨hadmissible, hcase⟩, hall, hmatch, hnodup, hfresh, rfl⟩
      rcases hcase with ⟨htype, rfl⟩ | ⟨htype, hnew, hone, rfl⟩
      · rw [files_cons_directory htype, names_cons_directory htype]
        exact ⟨⟨hadmissible, hall⟩, hmatch, hnodup, hfresh, rfl⟩
      · rw [files_cons_regular htype, names_cons_regular htype, List.forall_mem_cons,
          List.nodup_cons, List.forall_mem_cons, List.toFinset_cons, Finset.union_insert,
          ← Finset.insert_union]
        exact ⟨⟨hadmissible, hall⟩, ⟨hone, hmatch⟩,
          ⟨fun h => hfresh _ h (Finset.mem_insert_self ..), hnodup⟩,
          ⟨hnew, fun name h hname => hfresh name h (Finset.mem_insert_of_mem hname)⟩, rfl⟩
    · rintro ⟨⟨hadmissible, hall⟩, hmatch, hnodup, hfresh, rfl⟩
      rcases hadmissible.typed with ⟨htype, _⟩ | htype
      · rw [files_cons_directory htype] at hmatch
        rw [names_cons_directory htype] at hnodup hfresh ⊢
        exact ⟨observed, ⟨hadmissible, .inl ⟨htype, rfl⟩⟩, hall, hmatch, hnodup, hfresh, rfl⟩
      · rw [files_cons_regular htype, List.forall_mem_cons] at hmatch
        rw [names_cons_regular htype, List.forall_mem_cons] at hfresh
        rw [names_cons_regular htype, List.nodup_cons] at hnodup
        refine ⟨_, ⟨hadmissible, .inr ⟨htype, hfresh.1, hmatch.1, rfl⟩⟩, hall, hmatch.2, hnodup.2,
          ?_, ?_⟩
        · intro name h hname
          rcases Finset.mem_insert.mp hname with rfl | hname
          · exact hnodup.1 h
          · exact hfresh.2 name h hname
        · rw [names_cons_regular htype, List.toFinset_cons, Finset.union_insert,
            ← Finset.insert_union]

theorem inspect_eq_ok {α : Type} {archivePath : String} {x : Except (Raised ε) α} {a : α} :
    inspect host archivePath x = .ok a ↔ x = .ok a := by
  rw [inspect, Except.mapError_eq_ok]

variable {manifest : E → Except (Raised ε) (List UInt8)} {fileHash : E → String}
  {archivePath : String} {template : Json} {archive : Except ε (List (Member ε))}

/-- **An accepted archive** — its members are admissible, the regular ones match their entries, and
their names are the names of the entries, each once. -/
theorem validate_eq_ok :
    validate host compare manifest fileHash archivePath entries template epoch archive = .ok () ↔
      ∃ members, archive = .ok members ∧ (∀ member ∈ members, Admissible epoch member.info) ∧
        (∀ member ∈ files members, Matches compare entries member) ∧
        (names members).Perm entries.keys ∧
        checkManifest host manifest fileHash entries template = .ok () := by
  simp only [validate, Except.bind_eq_ok, Except.raiseIf_eq_ok, inspect_eq_ok,
    Except.mapError_eq_ok, foldlM_checkMember, not_not, Finset.empty_union]
  constructor
  · rintro ⟨_, ⟨members, hmembers, hadmissible, hmatch, hnodup, _, rfl⟩, _, hexpected, hmanifest⟩
    exact ⟨members, hmembers, hadmissible, hmatch,
      List.perm_of_nodup_nodup_toFinset_eq hnodup entries.keys_nodup hexpected, hmanifest⟩
  · rintro ⟨members, hmembers, hadmissible, hmatch, hperm, hmanifest⟩
    exact ⟨_, ⟨members, hmembers, hadmissible, hmatch, hperm.nodup_iff.mpr entries.keys_nodup,
      fun _ _ => Finset.notMem_empty _, rfl⟩, (), List.toFinset_eq_of_perm _ _ hperm, hmanifest⟩

/-- **The manifests agree** — the one in the pack has the fields of the template, and the template
has the digest of every entry. -/
structure ManifestAgrees (host : Host ε) (text : List UInt8) (files : List (String × String))
    (template : Json) : Prop where
  fields : ∃ payload, host.loads text = .ok payload ∧ payload.isMapping = true ∧
    ∀ field ∈ packContractFields, (payload.get field).pyEq (template.get field) = true
  files : (template.get "files").pyEq (.obj (files.map fun file => (file.1, .str file.2))) = true

theorem checkField_eq_ok {payload : Json} {field : String} :
    checkField (ε := ε) payload template field = .ok () ↔
      payload.isMapping = true ∧ (payload.get field).pyEq (template.get field) = true := by
  simp only [checkField, Except.bind_eq_ok, Except.raiseIf_eq_ok, not_not, exists_const]

theorem checkManifest_eq_ok :
    checkManifest host manifest fileHash entries template = .ok () ↔
      ∃ entry ∈ entries.lookup "backend-pack.json", ∃ text, manifest entry = .ok text ∧
        ManifestAgrees host text ((sortedItems entries).map fun item => (item.1, fileHash item.2))
          template := by
  simp only [checkManifest, Except.bind_eq_ok, Except.okOr_eq_ok, Except.raiseIf_eq_ok,
    Except.mapError_eq_ok, Except.forM_eq_ok, checkField_eq_ok, not_not]
  constructor
  · rintro ⟨entry, hentry, text, htext, payload, hpayload, _, hfields, hfiles⟩
    refine ⟨entry, hentry, text, htext, ⟨payload, hpayload, ?_, fun field h => (hfields field h).2⟩,
      ?_⟩
    · exact (hfields "backend" (by simp [packContractFields])).1
    · rw [List.map_map]
      exact hfiles
  · rintro ⟨entry, hentry, text, htext, ⟨payload, hpayload, hmapping, hfields⟩, hfiles⟩
    rw [List.map_map] at hfiles
    exact ⟨entry, hentry, text, htext, payload, hpayload, (),
      fun field h => ⟨hmapping, hfields field h⟩, hfiles⟩

end

/-! ## The plain validation -/

section

variable {ε E : Type} {entries : Entries E}

theorem map_items_fst : (items entries).map Prod.fst = entries.keys := by
  rw [items, List.map_map]
  rfl

theorem mem_items {name : String} {entry : E} :
    (name, entry) ∈ items entries ↔ entry ∈ entries.lookup name := by
  rw [items, List.mem_map, AList.mem_lookup_iff]
  constructor
  · rintro ⟨⟨name', entry'⟩, hmem, heq⟩
    obtain ⟨rfl, rfl⟩ := Prod.mk.inj heq
    exact hmem
  · exact fun h => ⟨⟨name, entry⟩, h, rfl⟩

/-- **A list of named items is the entries** when its names are theirs and each item is its own. -/
theorem perm_items_iff {α δ : Type} (entries : Entries E) (xs : List α) {f : α → String} {g : α → δ} {h : E → δ} :
    (xs.map fun x => (f x, g x)).Perm ((items entries).map fun item => (item.1, h item.2)) ↔
      (xs.map f).Perm entries.keys ∧ ∀ x ∈ xs, ∃ e ∈ entries.lookup (f x), g x = h e := by
  constructor
  · intro hperm
    refine ⟨?_, fun x hx => ?_⟩
    · have hnames := hperm.map Prod.fst
      rw [List.map_map, List.map_map] at hnames
      rw [← map_items_fst]
      exact hnames
    · obtain ⟨⟨name, e⟩, hmem, heq⟩ :=
        List.mem_map.mp (hperm.mem_iff.mp (List.mem_map_of_mem hx))
      obtain ⟨rfl, hvalue⟩ := Prod.mk.inj heq
      exact ⟨e, mem_items.mp hmem, hvalue.symm⟩
  · rintro ⟨hperm, hvalues⟩
    have hinj : Function.Injective fun p : String × δ => (p.1, some p.2) := by
      rintro ⟨a, b⟩ ⟨a', b'⟩ heq
      obtain ⟨rfl, hvalue⟩ := Prod.mk.inj heq
      exact congrArg (Prod.mk a) (Option.some.inj hvalue)
    rw [← List.map_perm_map_iff hinj, List.map_map, List.map_map]
    have hlookup := hperm.map fun name => (name, (entries.lookup name).map h)
    rw [List.map_map, ← map_items_fst, List.map_map] at hlookup
    refine List.Perm.trans (.of_eq ?_) (hlookup.trans (.of_eq ?_))
    · refine List.map_congr_left fun x hx => ?_
      obtain ⟨e, he, hvalue⟩ := hvalues x hx
      show (f x, some (g x)) = (f x, (entries.lookup (f x)).map h)
      rw [Option.mem_def.mp he, hvalue, Option.map_some]
    · refine List.map_congr_left fun item hitem => ?_
      show (item.1, (entries.lookup item.1).map h) = (item.1, some (h item.2))
      rw [Option.mem_def.mp (mem_items.mp hitem), Option.map_some]

end

section

variable {ε : Type} {host : Host ε} {entries : Entries PlainEntry} {epoch : ℤ}
  {member : Member ε} {archivePath : String} {template : Json}
  {archive : Except ε (List (Member ε))}

theorem readMember_eq_ok {data : List UInt8} :
    readMember member = .ok data ↔ member.content = .ok (some data) := by
  simp only [readMember, Except.bind_eq_ok, Except.mapError_eq_ok, Except.okOr_eq_ok]
  constructor
  · rintro ⟨_, hcontent, rfl⟩
    exact hcontent
  · intro hcontent
    exact ⟨_, hcontent, rfl⟩

theorem comparePlain_eq_ok {expected : PlainEntry} : comparePlain expected member = .ok () ↔
    member.content = .ok (some expected.1) ∧ member.info.mode = expected.2 := by
  simp only [comparePlain, Except.bind_eq_ok, readMember_eq_ok, Except.raiseIf_eq_ok, not_or,
    not_not]
  constructor
  · rintro ⟨_, hcontent, rfl, hmode⟩
    exact ⟨hcontent, hmode⟩
  · rintro ⟨hcontent, hmode⟩
    exact ⟨_, hcontent, rfl, hmode⟩

/-- **An exact archive** — every member is admissible, and the regular ones are the entries, with
their names, contents and modes, in any order. -/
structure Exact (entries : Entries PlainEntry) (epoch : ℤ) (members : List (Member ε)) : Prop where
  admissible : ∀ member ∈ members, Admissible epoch member.info
  files : ((files members).map fun member =>
      (member.info.name, member.content, member.info.mode)).Perm
    ((items entries).map fun item => (item.1, .ok (some item.2.1), item.2.2))

/-- The manifest of a pack, and the digests of its entries. -/
def PlainManifest (host : Host ε) (entries : Entries PlainEntry) (template : Json) : Prop :=
  ∃ entry ∈ entries.lookup "backend-pack.json", ManifestAgrees host entry.1
    ((sortedItems entries).map fun item => (item.1, Sha256.hexdigest item.2.1)) template

/-- The files are the entries when their names are, and each matches its own. -/
theorem exact_iff {members : List (Member ε)} : Exact entries epoch members ↔
    (∀ member ∈ members, Admissible epoch member.info) ∧
      (∀ member ∈ files members, Matches comparePlain entries member) ∧
      (names members).Perm entries.keys := by
  have hmatches : ∀ member : Member ε, Matches comparePlain entries member ↔
      ∃ e ∈ entries.lookup member.info.name,
        (member.content, member.info.mode) = (Except.ok (some e.1), e.2) := fun _ =>
    exists_congr fun _ => and_congr_right fun _ => comparePlain_eq_ok.trans Prod.mk_inj.symm
  have hperm := perm_items_iff entries (files members)
    (f := fun member => member.info.name) (g := fun member => (member.content, member.info.mode))
    (h := fun e => (.ok (some e.1), e.2))
  constructor
  · rintro ⟨hadmissible, hfiles⟩
    obtain ⟨hnames, hvalues⟩ := hperm.mp hfiles
    exact ⟨hadmissible, fun member h => (hmatches member).mpr (hvalues member h), hnames⟩
  · rintro ⟨hadmissible, hvalues, hnames⟩
    exact ⟨hadmissible, hperm.mpr ⟨hnames, fun member h => (hmatches member).mp (hvalues member h)⟩⟩

theorem checkManifest_plain :
    checkManifest host (fun entry : PlainEntry => .ok entry.1)
        (fun entry => Sha256.hexdigest entry.1) entries template = .ok () ↔
      PlainManifest host entries template := by
  rw [checkManifest_eq_ok]
  refine exists_congr fun _ => and_congr_right fun _ => ?_
  exact ⟨fun ⟨_, htext, h⟩ => Except.ok.inj htext ▸ h, fun h => ⟨_, rfl, h⟩⟩

/-- **`validate_archive` accepts exactly the archives of its entries.** -/
theorem validateArchive_exact :
    validateArchive host archivePath entries template epoch archive = .ok () ↔
      ∃ members, archive = .ok members ∧ Exact entries epoch members ∧
        PlainManifest host entries template := by
  rw [validateArchive, validate_eq_ok, checkManifest_plain]
  refine exists_congr fun members => and_congr_right fun _ => ?_
  rw [exact_iff, and_assoc, and_assoc]

end

end Kapsl.Ort.PackArchive
