import Kapsl.Lib.Trim
import Kapsl.Ort.LinkedPackages

/-!
# Ort/NoticeOrder — when the license notices do not depend on the order of anything

`render_notices` sorts the linked packages by name and version, and a stable sort leaves packages
that share both in the order the interpreter iterates a set in.  What it prints of a package is its
`Record`: an entry of the inventory and some license texts.  The license texts are printed by their
digests, whatever the order of the packages (`tailLines_noted`), but the entries are printed as they
stand.

* `renderNotices_eq_ok` — the text is that of the sorted records of the linked packages.
* `text_append_comm`, `print_swap` — two neighbouring entries can be swapped without a trace exactly
  when they read the same in either order.
* `renderNotices_inventory_and_order` — the inventory has one entry for each linked package, and the
  text is deterministic exactly when packages of one name and version have such entries.
* `renderNotices_not_deterministic` — a crate and its fork do not.
-/

namespace Kapsl.Ort.Notices

open Vllm (Json isPySpace isBlank)
open Except (raiseIf)

/-! ## Records -/

/-- What the notices show of a package. -/
structure Record where
  notice : Notice
  /-- The license texts and the names of their files. -/
  files : List (String × String)
  deriving DecidableEq

/-- The key its package is sorted by. -/
def Record.sortKey (record : Record) : String ×ₗ String :=
  toLex (record.notice.name, record.notice.version)

/-- The records in the order of their packages. -/
def sortRecords (records : List Record) : List Record :=
  records.insertionSort fun r s => r.sortKey ≤ s.sortKey

/-- Some license texts are noted. -/
def Collected.noteAll (collected : Collected) (files : List (String × String)) : Collected :=
  files.foldl (fun collected file => collected.note file.1 file.2) collected

/-- A record is collected. -/
def Collected.add (collected : Collected) (record : Record) : Collected :=
  { collected.noteAll record.files with inventory := collected.inventory ++ [record.notice] }

/-- What is collected of some records. -/
def collect (records : List Record) : Collected := records.foldl Collected.add ⟨∅, ∅, []⟩

theorem Collected.inventory_noteAll (collected : Collected) (files : List (String × String)) :
    (collected.noteAll files).inventory = collected.inventory := by
  induction files generalizing collected with
  | nil => rfl
  | cons file files ih => exact ih _

namespace Run

variable (run : Run)

/-- The license texts of some files. -/
def readAll (paths : List Path) : Except NoticesError (List (String × String)) :=
  paths.mapM fun path => do
    let text ← run.readLicense path
    return (text, path.name)

/-- The record of a package. -/
def record (package : Json) : Except NoticesError Record :=
  match package.get "license" with
  | .str license => do
    raiseIf (isBlank license) (.notice s!"{run.label package} has no declared license")
    let paths ← run.licensePaths package
    let files ← run.readAll paths
    return {
      notice :=
        { name := run.host.str (package.get "name")
          version := run.host.str (package.get "version")
          license := license
          source := run.fieldOr package "source" "workspace"
          repository := run.fieldOr package "repository" "unspecified"
          licenseTexts := sortedSet (files.map fun file => digestOf file.1) }
      files := files }
  | _ => throw (.notice s!"{run.label package} has no declared license")

variable {run}

/-- The loop over the license paths reads them all and notes what it read. -/
theorem foldlM_addLicense (paths : List Path) (state : Collected × List String) :
    paths.foldlM run.addLicense state = (run.readAll paths).map fun files =>
      (state.1.noteAll files, state.2 ++ files.map fun file => digestOf file.1) := by
  induction paths generalizing state with
  | nil =>
    show Except.ok state = Except.ok (state.1, state.2 ++ [])
    rw [List.append_nil]
  | cons path paths ih =>
    rw [List.foldlM_cons, readAll, List.mapM_cons]
    show (run.readLicense path >>= _) >>= _ = _
    cases run.readLicense path with
    | error e => rfl
    | ok text =>
      show paths.foldlM run.addLicense (state.1.note text path.name, state.2 ++ [digestOf text]) = _
      rw [ih]
      show (run.readAll paths).map _ = (run.readAll paths >>= _).map _
      cases run.readAll paths with
      | error e => rfl
      | ok files =>
        refine congrArg Except.ok (Prod.ext rfl ?_)
        show (state.2 ++ [digestOf text]) ++ _ = state.2 ++ digestOf text :: _
        rw [List.append_assoc]
        rfl

/-- **One turn of the loop over the packages** collects the record of one. -/
theorem addPackage_eq (collected : Collected) (package : Json) :
    run.addPackage collected package = (run.record package).map collected.add := by
  unfold addPackage record
  cases package.get "license" with
  | str license =>
    show (raiseIf _ _ >>= _) = (raiseIf _ _ >>= _ : Except _ _).map _
    cases raiseIf (isBlank license) _ with
    | error e => rfl
    | ok _ =>
      show (run.licensePaths package >>= _) = (run.licensePaths package >>= _ : Except _ _).map _
      cases run.licensePaths package with
      | error e => rfl
      | ok paths =>
        show (paths.foldlM run.addLicense (collected, []) >>= _) =
          (run.readAll paths >>= _ : Except _ _).map _
        rw [foldlM_addLicense]
        cases run.readAll paths with
        | error e => rfl
        | ok files =>
          show Except.ok _ = Except.ok _
          rw [Collected.add, ← Collected.inventory_noteAll collected files]
          rfl
  | _ => rfl

theorem foldlM_addPackage (packages : List Json) (collected : Collected) :
    packages.foldlM run.addPackage collected =
      (packages.mapM run.record).map fun records => records.foldl Collected.add collected := by
  induction packages generalizing collected with
  | nil => rfl
  | cons package packages ih =>
    rw [List.foldlM_cons, List.mapM_cons, addPackage_eq]
    cases run.record package with
    | error e => rfl
    | ok record =>
      show packages.foldlM run.addPackage (collected.add record) = _
      rw [ih]
      show (packages.mapM run.record).map _ = (packages.mapM run.record >>= _).map _
      cases packages.mapM run.record <;> rfl

/-! ## The records of the linked packages -/

variable (run) in
/-- The record of the package of an ID. -/
def recordOf (metadata : Json) (id : String) : Except NoticesError Record := do
  let package ← packageOf (run.packageById metadata) id
  run.record package

theorem sortKey_of_record {package : Json} {record : Record}
    (h : run.record package = .ok record) : run.sortKey package = record.sortKey := by
  unfold Run.record at h
  split at h
  · obtain ⟨_, -, h⟩ := Except.bind_eq_ok.mp h
    obtain ⟨_, -, h⟩ := Except.bind_eq_ok.mp h
    obtain ⟨_, -, h⟩ := Except.bind_eq_ok.mp h
    obtain rfl := Except.ok.inj h
    rfl
  · exact nomatch h

/-- **Sorting the packages sorts the records.** -/
theorem mapM_record_insertionSort {packages : List Json} {records : List Record} :
    (packages.insertionSort fun p q => run.sortKey p ≤ run.sortKey q).mapM run.record =
        .ok records ↔
      ∃ records', packages.mapM run.record = .ok records' ∧ sortRecords records' = records := by
  have hsort : ∀ records', packages.mapM run.record = .ok records' →
      (packages.insertionSort fun p q => run.sortKey p ≤ run.sortKey q).mapM run.record =
        .ok (sortRecords records') := fun records' h =>
    Except.mapM_eq_ok.mpr (List.forall₂_insertionSort run.sortKey
      (fun _ _ => sortKey_of_record) (Except.mapM_eq_ok.mp h))
  constructor
  · intro h
    obtain ⟨records', hrecords', -⟩ := Except.mapM_perm (List.perm_insertionSort _ packages) h
    exact ⟨records', hrecords', Except.ok.inj ((hsort records' hrecords').symm.trans h)⟩
  · rintro ⟨records', hrecords', rfl⟩
    exact hsort records' hrecords'

/-- Looking up packages and reading their records can be done in one loop. -/
theorem mapM_recordOf {metadata : Json} {ids : List String} {records : List Record} :
    ids.mapM (run.recordOf metadata) = .ok records ↔
      ∃ packages, ids.mapM (packageOf (run.packageById metadata)) = .ok packages ∧
        packages.mapM run.record = .ok records := by
  induction ids generalizing records with
  | nil =>
    constructor
    · exact fun h => ⟨[], rfl, h⟩
    · rintro ⟨packages, hpackages, h⟩
      obtain rfl := Except.ok.inj hpackages
      exact h
  | cons id ids ih =>
    simp only [List.mapM_cons, Except.bind_eq_ok, Except.pure_eq_ok, ih, recordOf]
    constructor
    · rintro ⟨record, ⟨package, hpackage, hrecord⟩, records, ⟨packages, hpackages, hrecords⟩, rfl⟩
      refine ⟨package :: packages, ⟨package, hpackage, packages, hpackages, rfl⟩, ?_⟩
      rw [List.mapM_cons, hrecord, hrecords]
      rfl
    · rintro ⟨_, ⟨package, hpackage, packages, hpackages, rfl⟩, h⟩
      simp only [List.mapM_cons, Except.bind_eq_ok, Except.pure_eq_ok] at h
      obtain ⟨record, hrecord, records, hrecords, rfl⟩ := h
      exact ⟨record, ⟨package, hpackage, hrecord⟩, records, ⟨packages, hpackages, hrecords⟩, rfl⟩

/-- **What `render_notices` returns.** -/
theorem renderNotices_eq_ok {order : SetOrder String} {metadata : Json} {text : String} :
    run.renderNotices order metadata = .ok text ↔
      ∃ linked records, run.linkedPackageIds metadata = .ok linked ∧
        (order.list linked).mapM (run.recordOf metadata) = .ok records ∧
        run.print (collect (sortRecords records)) = text := by
  unfold renderNotices
  constructor
  · intro h
    split at h
    · next packages hpackages =>
      obtain ⟨linked, hlinked, h⟩ := Except.bind_eq_ok.mp h
      obtain ⟨selected, hselected, h⟩ := Except.bind_eq_ok.mp h
      obtain ⟨collected, hcollected, h⟩ := Except.bind_eq_ok.mp h
      rw [foldlM_addPackage] at hcollected
      cases hsorted : (selected.insertionSort fun p q => run.sortKey p ≤ run.sortKey q).mapM
          run.record with
      | error e =>
        rw [hsorted] at hcollected
        cases hcollected
      | ok sorted =>
        rw [hsorted] at hcollected
        obtain rfl := Except.ok.inj hcollected
        obtain ⟨records, hrecords, rfl⟩ := mapM_record_insertionSort.mp hsorted
        refine ⟨linked, records, hlinked, mapM_recordOf.mpr ⟨selected, ?_, hrecords⟩,
          Except.ok.inj h⟩
        rw [packageById, hpackages]
        exact hselected
    · cases h
  · rintro ⟨linked, records, hlinked, hrecords, rfl⟩
    obtain ⟨_, ⟨packages, _, _, _, hpackages, _⟩, _⟩ := linkedPackageIds_eq_ok.mp hlinked
    obtain ⟨selected, hselected, hrecords⟩ := mapM_recordOf.mp hrecords
    rw [packageById, hpackages] at hselected
    rw [hpackages]
    show (run.linkedPackageIds metadata >>= _) = _
    rw [hlinked]
    show ((order.list linked).mapM (packageOf (run.byId packages)) >>= _) = _
    rw [Json.items] at hselected
    rw [hselected]
    show (List.foldlM run.addPackage _ _ >>= _) = _
    rw [foldlM_addPackage, mapM_record_insertionSort.mpr ⟨records, hrecords, rfl⟩]
    rfl

end Run

/-! ## License texts -/

/-- What is noted of some license texts. -/
def noted (files : List (String × String)) : Collected :=
  (⟨∅, ∅, []⟩ : Collected).noteAll files

theorem noteAll_with_inventory (collected : Collected) (inventory : List Notice)
    (files : List (String × String)) :
    ({ collected with inventory := inventory } : Collected).noteAll files =
      { collected.noteAll files with inventory := inventory } := by
  induction files generalizing collected with
  | nil => rfl
  | cons file files ih => exact ih (collected.note file.1 file.2)

/-- **What is collected of some records**: their license texts and their notices. -/
theorem collect_eq (records : List Record) :
    collect records = { noted (records.flatMap Record.files) with
      inventory := records.map Record.notice } := by
  have hfold : ∀ collected : Collected, records.foldl Collected.add collected =
      { collected.noteAll (records.flatMap Record.files) with
        inventory := collected.inventory ++ records.map Record.notice } := by
    induction records with
    | nil => exact fun collected => by rw [List.map_nil, List.append_nil]; rfl
    | cons record records ih =>
      intro collected
      rw [List.foldl_cons, ih, Collected.add, noteAll_with_inventory, List.map_cons,
        List.append_assoc, List.flatMap_cons, Collected.noteAll, Collected.noteAll,
        Collected.noteAll, List.foldl_append]
      rfl
  exact hfold _

theorem noted_append_singleton (files : List (String × String)) (file : String × String) :
    noted (files ++ [file]) = (noted files).note file.1 file.2 := by
  rw [noted, Collected.noteAll, List.foldl_append]
  rfl

variable {files files' : List (String × String)}

/-- The digests are those of the license texts. -/
theorem mem_texts_noted {digest : String} :
    digest ∈ (noted files).texts ↔ ∃ file ∈ files, digestOf file.1 = digest := by
  induction files using List.reverseRecOn with
  | nil => exact ⟨nofun, nofun⟩
  | append_singleton files file ih =>
    have hmem : digest ∈ (noted (files ++ [file])).texts ↔
        digestOf file.1 = digest ∨ digest ∈ (noted files).texts := by
      rw [noted_append_singleton, Collected.note]
      split_ifs with hnoted
      · constructor
        · exact .inr
        · rintro (rfl | hmem)
          exacts [hnoted, hmem]
      · rw [AList.mem_insert, eq_comm]
    rw [hmem, ih]
    simp [or_and_right, exists_or, or_comm]

/-- The digests tell the license texts apart. -/
def TellApart (files : List (String × String)) : Prop :=
  ∀ file ∈ files, ∀ other ∈ files, digestOf file.1 = digestOf other.1 → file.1 = other.1

/-- The text noted under a digest is the one that has it. -/
theorem lookup_texts_noted (htell : TellApart files) {file : String × String} (h : file ∈ files) :
    (noted files).texts.lookup (digestOf file.1) = some file.1 := by
  induction files using List.reverseRecOn generalizing file with
  | nil => exact absurd h List.not_mem_nil
  | append_singleton files last ih =>
    have hfiles : TellApart files := fun f hf g hg =>
      htell f (List.mem_append_left _ hf) g (List.mem_append_left _ hg)
    rw [noted_append_singleton, Collected.note]
    split_ifs with hnoted
    · obtain ⟨other, hother, hdigest⟩ := mem_texts_noted.mp hnoted
      rcases List.mem_append.mp h with hmem | hmem
      · exact ih hfiles hmem
      · -- The text was noted before.
        obtain rfl := List.mem_singleton.mp hmem
        rw [← hdigest, ih hfiles hother]
        exact congrArg some (htell other (List.mem_append_left _ hother) file h hdigest)
    · rcases List.mem_append.mp h with hmem | hmem
      · have hne : digestOf file.1 ≠ digestOf last.1 := fun heq =>
          hnoted (mem_texts_noted.mpr ⟨file, hmem, heq⟩)
        show ((noted files).texts.insert _ _).lookup _ = _
        rw [AList.lookup_insert_ne hne]
        exact ih hfiles hmem
      · obtain rfl := List.mem_singleton.mp hmem
        exact AList.lookup_insert _

/-- The labels of a digest are the names of the files that have it. -/
theorem lookup_labels_noted (digest : String) :
    ((noted files).textLabels.lookup digest).getD ∅ =
      ((files.filter fun file => digestOf file.1 = digest).map Prod.snd).toFinset := by
  induction files using List.reverseRecOn with
  | nil => rfl
  | append_singleton files file ih =>
    rw [noted_append_singleton, Collected.note, List.filter_append, List.map_append,
      List.toFinset_append, ← ih]
    by_cases hdigest : digestOf file.1 = digest
    · subst hdigest
      rw [AList.lookup_insert]
      ext name
      simp
    · rw [AList.lookup_insert_ne (Ne.symm hdigest)]
      simp [hdigest]

/-- **What stands behind the inventory** does not depend on the order of the license texts. -/
theorem tailLines_noted (hperm : files.Perm files') (htell : TellApart files) :
    (noted files).tailLines = (noted files').tailLines := by
  have hkeys : (noted files).texts.keys.Perm (noted files').texts.keys := by
    rw [List.perm_ext_iff_of_nodup (AList.keys_nodup _) (AList.keys_nodup _)]
    intro digest
    rw [← AList.mem_keys, ← AList.mem_keys, mem_texts_noted, mem_texts_noted]
    simp only [hperm.mem_iff]
  have hsorted : (noted files).texts.keys.insertionSort (· ≤ ·) =
      (noted files').texts.keys.insertionSort (· ≤ ·) :=
    List.insertionSort_eq_of_perm id hkeys (by rw [List.map_id]; exact AList.keys_nodup _)
  rw [Collected.tailLines, Collected.tailLines, hsorted]
  refine congrArg _ (List.flatMap_congr fun digest hdigest => ?_)
  rw [List.mem_insertionSort, ← AList.mem_keys, mem_texts_noted] at hdigest
  obtain ⟨file, hfile, rfl⟩ := hdigest
  have htell' : TellApart files' := fun f hf g hg =>
    htell f (hperm.mem_iff.mpr hf) g (hperm.mem_iff.mpr hg)
  rw [Collected.textLines, Collected.textLines, lookup_texts_noted htell (hperm.mem_iff.mpr hfile),
    lookup_texts_noted htell' hfile, lookup_labels_noted, lookup_labels_noted,
    List.toFinset_eq_of_perm _ _ ((hperm.filter _).map Prod.snd)]

/-! ## The printed text -/

/-- Lines, each with its line feed. -/
def terminated (lines : List String) : List Char := lines.flatMap fun line => line.toList ++ ['\n']

/-- The text of an entry. -/
def Notice.text (notice : Notice) : List Char := terminated notice.lines

/-- The text behind the inventory. -/
def Collected.tailText (collected : Collected) : List Char :=
  ("\n".intercalate collected.tailLines).toList.rdropWhile isPySpace ++ ['\n']

theorem toList_intercalate_append (front : List String) {back : List String} (hback : back ≠ []) :
    ("\n".intercalate (front ++ back)).toList =
      terminated front ++ ("\n".intercalate back).toList := by
  rw [String.toList_intercalate, String.toList_intercalate, List.map_append]
  induction front with
  | nil => rfl
  | cons line front ih =>
    rw [List.map_cons, List.cons_append, List.intercalate_cons_of_ne_nil (by simp [hback]), ih,
      terminated, terminated, List.flatMap_cons, List.append_assoc, List.append_assoc,
      List.append_assoc]
    rfl

/-- **The printed text**: what stands before the inventory, its entries, and what stands behind. -/
theorem Run.toList_print (run : Run) (collected : Collected) :
    (run.print collected).toList = terminated run.headLines ++
      (collected.inventory.flatMap Notice.text ++ collected.tailText) := by
  have htail : collected.tailLines ≠ [] := List.cons_ne_nil _ _
  have hkept : ∃ c ∈ ("\n".intercalate collected.tailLines).toList, ¬isPySpace c := by
    have hlines : collected.tailLines = ["", "LICENSE TEXTS"] ++ ("=============" :: "" ::
        (collected.texts.keys.insertionSort (· ≤ ·)).flatMap collected.textLines) := rfl
    refine ⟨'L', ?_, by decide⟩
    rw [hlines, toList_intercalate_append _ (List.cons_ne_nil _ _)]
    exact List.mem_append_left _ (by decide)
  rw [print, rstrip, String.toList_append, String.toList_ofList, toList_intercalate_append _ htail,
    List.rdropWhile_append_of_exists _ hkept, terminated, terminated, List.flatMap_append,
    List.flatMap_assoc, Collected.tailText, List.append_assoc, List.append_assoc]
  rfl

/-! ## When the order shows -/

/-- An iteration order that starts with two IDs, when it has both. -/
def SetOrder.starting (a b : String) (hab : a ≠ b) : SetOrder String where
  list s :=
    if a ∈ s ∧ b ∈ s then a :: b :: (ascending String).list ((s.erase a).erase b)
    else (ascending String).list s
  nodup s := by
    split
    · simp [hab, (ascending String).nodup, (ascending String).mem]
    · exact (ascending String).nodup s
  mem s id := by
    split
    · next h =>
      simp only [List.mem_cons, (ascending String).mem, Finset.mem_erase]
      by_cases ha : id = a
      · simp [ha, h.1]
      · by_cases hb : id = b
        · simp [hb, h.2]
        · simp [ha, hb]
    · exact (ascending String).mem s id

namespace Run

variable (run : Run) (metadata : Json)

/-- **The text does not depend on the order** of the arrays or of the linked IDs. -/
def Deterministic (text : String) : Prop :=
  ∀ metadata' order, Reordered metadata metadata' → run.renderNotices order metadata' = .ok text

/-- **The inventory has one entry for each linked package.** -/
def Inventories (root text : String) : Prop :=
  ∃ ids records, ids.Nodup ∧ (∀ id, id ∈ ids ↔ run.Links metadata root id) ∧
    List.Forall₂ (fun id record => run.recordOf metadata id = .ok record) ids records ∧
    (collect records).inventory = records.map Record.notice ∧ run.print (collect records) = text

/-- **Linked packages that share their name and version** have entries that read the same in either
order. -/
def Separated (root : String) : Prop :=
  ∀ a b, a ≠ b → run.Links metadata root a → run.Links metadata root b →
    ∀ r s, run.recordOf metadata a = .ok r → run.recordOf metadata b = .ok s →
      r.notice.name = s.notice.name → r.notice.version = s.notice.version →
      r.notice.text ++ s.notice.text = s.notice.text ++ r.notice.text

/-- License texts of linked packages that differ have different digests. -/
def TellsApart (root : String) : Prop :=
  ∀ a b, run.Links metadata root a → run.Links metadata root b →
    ∀ r s, run.recordOf metadata a = .ok r → run.recordOf metadata b = .ok s →
      ∀ file ∈ r.files, ∀ other ∈ s.files, digestOf file.1 = digestOf other.1 → file.1 = other.1

variable {run metadata}

theorem sortKey_eq_iff {r s : Record} :
    r.sortKey = s.sortKey ↔ r.notice.name = s.notice.name ∧ r.notice.version = s.notice.version :=
  Prod.mk.injEq _ _ _ _ ▸ toLex_inj.trans Iff.rfl

/-- **Two entries that a text shows in either order** commute. -/
theorem text_append_comm (before after : List Record) {r s : Record}
    (h : run.print (collect (before ++ r :: s :: after)) =
      run.print (collect (before ++ s :: r :: after))) :
    r.notice.text ++ s.notice.text = s.notice.text ++ r.notice.text := by
  have hinventory : ∀ q t : Record, (collect (before ++ q :: t :: after)).inventory.flatMap
      Notice.text = (before.map Record.notice).flatMap Notice.text ++
        (q.notice.text ++ t.notice.text ++ (after.map Record.notice).flatMap Notice.text) := by
    intro q t
    rw [collect_eq]
    simp only [List.map_append, List.map_cons, List.flatMap_append, List.flatMap_cons,
      List.append_assoc]
  have hchars := congrArg String.toList h
  rw [toList_print, toList_print, List.append_cancel_left_eq] at hchars
  have hlength : ((collect (before ++ r :: s :: after)).inventory.flatMap Notice.text).length =
      ((collect (before ++ s :: r :: after)).inventory.flatMap Notice.text).length := by
    simp only [hinventory, List.length_append]
    omega
  have hentries := (List.append_inj hchars hlength).1
  rw [hinventory, hinventory, List.append_cancel_left_eq] at hentries
  exact List.append_cancel_right hentries

/-- **Swapping neighbours whose entries commute** does not show. -/
theorem print_swap {before after : List Record} {r s : Record}
    (hcomm : r.notice.text ++ s.notice.text = s.notice.text ++ r.notice.text)
    (htell : TellApart ((before ++ r :: s :: after).flatMap Record.files)) :
    run.print (collect (before ++ r :: s :: after)) =
      run.print (collect (before ++ s :: r :: after)) := by
  have hperm : (before ++ r :: s :: after).Perm (before ++ s :: r :: after) :=
    (List.Perm.swap s r after).append_left before
  have htail : (collect (before ++ r :: s :: after)).tailText =
      (collect (before ++ s :: r :: after)).tailText := by
    rw [collect_eq, collect_eq]
    have hlines := tailLines_noted (hperm.flatMap_right Record.files) htell
    exact congrArg (fun lines : List String =>
      ("\n".intercalate lines).toList.rdropWhile isPySpace ++ ['\n']) hlines
  apply String.toList_injective
  rw [toList_print, toList_print, htail, collect_eq, collect_eq]
  simp only [List.map_append, List.map_cons, List.flatMap_append, List.flatMap_cons]
  rw [← List.append_assoc r.notice.text, hcomm, List.append_assoc s.notice.text]

variable {order : SetOrder String} {text root : String} {linked : Finset String}
  {records : List Record}

/-- The sorted records belong to the linked packages. -/
theorem exists_ids_sortRecords (hlinks : ∀ id, id ∈ linked ↔ run.Links metadata root id)
    (hrecords : (order.list linked).mapM (run.recordOf metadata) = .ok records) :
    ∃ ids, ids.Nodup ∧ (∀ id, id ∈ ids ↔ run.Links metadata root id) ∧
      List.Forall₂ (fun id record => run.recordOf metadata id = .ok record) ids
        (sortRecords records) := by
  have hperm : (sortRecords records).Perm records := List.perm_insertionSort _ _
  obtain ⟨ids, hforall, hids⟩ :=
    List.perm_comp_forall₂ hperm (Except.mapM_eq_ok.mp hrecords).flip
  refine ⟨ids, hids.nodup_iff.mpr (order.nodup linked), fun id => ?_, hforall.flip⟩
  rw [hids.mem_iff, order.mem, hlinks]

/-- **If the order never shows**, entries of one name and version commute. -/
theorem Deterministic.separated
    (hlinked : run.linkedPackageIds metadata = .ok linked)
    (hlinks : ∀ id, id ∈ linked ↔ run.Links metadata root id)
    (h : run.Deterministic metadata text) : run.Separated metadata root := by
  intro a b hab ha hb r s hr hs hname hversion
  -- Both orders of the two IDs, with the same IDs behind them.
  have hprint : ∀ c d (hcd : c ≠ d) q t, c ∈ linked → d ∈ linked →
      run.recordOf metadata c = .ok q → run.recordOf metadata d = .ok t →
      ∃ rest, (((linked.erase c).erase d).sort (· ≤ ·)).mapM (run.recordOf metadata) = .ok rest ∧
        run.print (collect (sortRecords (q :: t :: rest))) = text := by
    intro c d hcd q t hc hd hq ht
    obtain ⟨linked', records, hlinked', hrecords, hprint⟩ :=
      renderNotices_eq_ok.mp (h metadata (.starting c d hcd) (.refl metadata))
    obtain rfl := Except.ok.inj (hlinked.symm.trans hlinked')
    have hlist : (SetOrder.starting c d hcd).list linked =
        c :: d :: ((linked.erase c).erase d).sort (· ≤ ·) := if_pos ⟨hc, hd⟩
    rw [hlist] at hrecords
    simp only [List.mapM_cons, hq, ht, Except.ok_bind, Except.bind_eq_ok, Except.pure_eq_ok]
      at hrecords
    obtain ⟨_, ⟨rest, hrest, rfl⟩, rfl⟩ := hrecords
    exact ⟨rest, hrest, hprint⟩
  have ha' := (hlinks a).mpr ha
  have hb' := (hlinks b).mpr hb
  obtain ⟨rest, hrest, hab'⟩ := hprint a b hab r s ha' hb' hr hs
  obtain ⟨rest', hrest', hba'⟩ := hprint b a hab.symm s r hb' ha' hs hr
  rw [Finset.erase_right_comm] at hrest'
  obtain rfl := Except.ok.inj (hrest.symm.trans hrest')
  obtain ⟨before, after, hrs, hsr⟩ :=
    List.insertionSort_pair Record.sortKey (sortKey_eq_iff.mpr ⟨hname, hversion⟩) rest
  rw [sortRecords, hrs] at hab'
  rw [sortRecords, hsr] at hba'
  exact text_append_comm before after (hab'.trans hba'.symm)

/-- **Commuting entries suffice** where Cargo's IDs are distinct and the digests tell texts
apart. -/
theorem Separated.deterministic (hids : run.DistinctIds metadata)
    (hlinked : run.linkedPackageIds metadata = .ok linked)
    (hlinks : ∀ id, id ∈ linked ↔ run.Links metadata root id)
    (htell : run.TellsApart metadata root) (hseparated : run.Separated metadata root)
    (h : run.renderNotices order metadata = .ok text) : run.Deterministic metadata text := by
  intro metadata' order' hreordered
  obtain ⟨linked', records, hlinked', hrecords, hprint⟩ := renderNotices_eq_ok.mp h
  obtain rfl := Except.ok.inj (hlinked.symm.trans hlinked')
  have horder : (order.list linked).Perm (order'.list linked) := by
    rw [List.perm_ext_iff_of_nodup (order.nodup _) (order'.nodup _)]
    exact fun id => by rw [order.mem, order'.mem]
  obtain ⟨records', hrecords', hperm⟩ := Except.mapM_perm horder hrecords
  have hsame : run.recordOf metadata = run.recordOf metadata' := by
    funext id
    rw [recordOf, recordOf, packageOf, packageOf, lookup_packageById hreordered hids]
  rw [hsame] at hrecords'
  refine renderNotices_eq_ok.mpr ⟨linked, records',
    linkedPackageIds_reordered hreordered hids hlinked, hrecords', ?_⟩
  rw [← hprint]
  -- A record that the text shows is that of a linked package.
  have hmem : ∀ r ∈ sortRecords records, ∃ id, run.Links metadata root id ∧
      run.recordOf metadata id = .ok r := by
    intro r hr
    obtain ⟨id, hid, hrecord⟩ :=
      Except.exists_of_mem_mapM hrecords ((List.mem_insertionSort _).mp hr)
    exact ⟨id, (hlinks id).mp ((order.mem linked id).mp hid), hrecord⟩
  refine (List.apply_eq_of_sorted_perm Record.sortKey (fun rs => run.print (collect rs)) ?_
    (List.pairwise_insertionSort _ _) (List.pairwise_insertionSort _ _) ?_).symm
  · exact (List.perm_insertionSort _ _).trans (hperm.trans (List.perm_insertionSort _ _).symm)
  · intro before r s after hrs hkey
    obtain ⟨a, ha, hr⟩ := hmem r (hrs.subset (by simp))
    obtain ⟨b, hb, hs⟩ := hmem s (hrs.subset (by simp))
    refine print_swap ?_ ?_
    · by_cases hab : a = b
      · subst hab
        rw [Except.ok.inj (hr.symm.trans hs)]
      · obtain ⟨hname, hversion⟩ := sortKey_eq_iff.mp hkey
        exact hseparated a b hab ha hb r s hr hs hname hversion
    · intro file hfile other hother hdigest
      obtain ⟨r', hr', hfile⟩ := List.mem_flatMap.mp hfile
      obtain ⟨s', hs', hother⟩ := List.mem_flatMap.mp hother
      obtain ⟨a', ha', hrecord'⟩ := hmem r' (hrs.subset hr')
      obtain ⟨b', hb', hrecord''⟩ := hmem s' (hrs.subset hs')
      exact htell a' b' ha' hb' r' s' hrecord' hrecord'' file hfile other hother hdigest

/-- **The inventory is exact, and the order never shows** exactly when linked packages that share
their name and version have entries that read the same in either order.  That they have is needed in
any case; that it is enough takes IDs that are distinct, as Cargo's are, and digests that tell the
license texts apart. -/
theorem renderNotices_inventory_and_order (h : run.renderNotices order metadata = .ok text) :
    ∃ root, run.IsRoot metadata root ∧ run.Inventories metadata root text ∧
      (run.Deterministic metadata text → run.Separated metadata root) ∧
      (run.DistinctIds metadata → run.TellsApart metadata root →
        (run.Deterministic metadata text ↔ run.Separated metadata root)) := by
  obtain ⟨linked, records, hlinked, hrecords, hprint⟩ := renderNotices_eq_ok.mp h
  obtain ⟨root, hroot, hlinks, -⟩ := linkedPackageIds_eq_ok.mp hlinked
  obtain ⟨ids, hnodup, hids, hforall⟩ := exists_ids_sortRecords hlinks hrecords
  have hneeded : run.Deterministic metadata text → run.Separated metadata root :=
    Deterministic.separated hlinked hlinks
  refine ⟨root, hroot, ⟨ids, sortRecords records, hnodup, hids, hforall, ?_, hprint⟩, hneeded, ?_⟩
  · rw [collect_eq]
  · intro hdistinct htell
    refine ⟨hneeded, fun hseparated => ?_⟩
    exact Separated.deterministic hdistinct hlinked hlinks htell hseparated h

end Run

/-! ## Two packages of one name and version -/

/-- A host on which every crate has one license text. -/
def mitHost : Host where
  isFile _ := true
  iterdir _ := .ok ["Cargo.toml", "LICENSE"]
  readBytes _ := .ok [77, 73, 84, 10]
  decodeError _ := ""
  lower text := .ofList (text.toList.map Char.toLower)
  str
    | .str text => text
    | _ => "None"
  str_str _ := rfl

def mitRun : Run where
  host := mitHost
  pathOrder := .ascending Path
  packageName := "kapsl-backend-ort"
  target := "x86_64-unknown-linux-gnu"
  workspaceLicense := Path.ofString "/workspace/LICENSE"
  supplemental _ := none

def mitPackage (id name source : String) : Json :=
  .obj [("id", .str id), ("name", .str name), ("version", .str "1.0.0"),
    ("manifest_path", .str ("/vendor/" ++ id ++ "/Cargo.toml")), ("license", .str "MIT"),
    ("source", .str source)]

def mitEdge (id : String) : Json :=
  .obj [("pkg", .str id), ("dep_kinds", .list [.obj [("kind", .null)]])]

def mitNode (id : String) (ids : List String) : Json :=
  .obj [("id", .str id), ("deps", .list (ids.map mitEdge))]

/-- The root links a crate from the registry and a package of some name from a repository. -/
def linking (name : String) : Json :=
  .obj [("packages", .list [mitPackage "root" "kapsl-backend-ort" "path",
      mitPackage "crate" "example" "registry", mitPackage "fork" name "git"]),
    ("workspace_members", .list [.str "root"]),
    ("resolve", .obj [("nodes", .list [mitNode "root" ["crate", "fork"], mitNode "crate" [],
      mitNode "fork" []])])]

/-- The root links a crate and a fork of it. -/
def forked : Json := linking "example"

/-- What the notices show of a package of some name. -/
def namedRecord (name source : String) : Record where
  notice := ⟨name, "1.0.0", "MIT", source, "unspecified", [digestOf "MIT\n"]⟩
  files := [("MIT\n", "LICENSE")]

/-- What the notices show of the crate or of its fork. -/
def mitRecord (source : String) : Record := namedRecord "example" source

/-- A node that was not visited is. -/
theorem Run.linkPending_visit (run : Run) {nodes : AList fun _ : String => Json}
    {linked : Finset String} {id : String} {pending pushed : List String} (deps : List Json)
    (hid : id ∉ linked) (hdeps : nodeDeps nodes id = some deps)
    (hpushed : deps.foldlM run.pushDependency pending = .ok pushed) :
    run.linkPending nodes linked (id :: pending) =
      run.linkPending nodes (insert id linked) pushed := by
  rw [Run.linkPending, dif_neg hid]
  split
  · next h => cases h.symm.trans hdeps
  · next deps' h =>
    obtain rfl := Option.some.inj (h.symm.trans hdeps)
    rw [hpushed]
    rfl

theorem linkedPackageIds_linking (name : String) :
    mitRun.linkedPackageIds (linking name) = .ok {"crate", "fork"} := by
  let nodes := mitRun.byId [mitNode "root" ["crate", "fork"], mitNode "crate" [], mitNode "fork" []]
  let one : Finset String := insert "root" ∅
  let two : Finset String := insert "fork" one
  let three : Finset String := insert "crate" two
  have hroot : mitRun.linkPending nodes ∅ ["root"] =
      mitRun.linkPending nodes one ["fork", "crate"] :=
    mitRun.linkPending_visit (["crate", "fork"].map mitEdge) (Finset.notMem_empty "root") rfl rfl
  have hfork : mitRun.linkPending nodes one ["fork", "crate"] =
      mitRun.linkPending nodes two ["crate"] :=
    mitRun.linkPending_visit [] (show "fork" ∉ one by decide) rfl rfl
  have hcrate : mitRun.linkPending nodes two ["crate"] = mitRun.linkPending nodes three [] :=
    mitRun.linkPending_visit [] (show "crate" ∉ two by decide) rfl rfl
  have hend : mitRun.linkPending nodes three [] = .ok three := by
    rw [Run.linkPending]
    rfl
  show (mitRun.linkPending nodes ∅ ["root"] >>= fun linked => .ok (linked.erase "root")) = _
  rw [hroot, hfork, hcrate, hend]
  exact congrArg Except.ok (show three.erase "root" = {"crate", "fork"} by decide)

theorem isRoot_linking {name root : String} (h : mitRun.IsRoot (linking name) root) :
    root = "root" := by
  obtain ⟨packages, nodes, members, id, hpackages, -, hmembers, hroots, rfl⟩ := h
  obtain rfl := Json.list.inj hpackages
  obtain rfl := Json.list.inj hmembers
  exact (congrArg mitRun.host.str (List.cons.inj (Except.ok.inj hroots)).1).symm

theorem mem_of_links_linking {name root id : String} (hroot : mitRun.IsRoot (linking name) root)
    (h : mitRun.Links (linking name) root id) : id = "crate" ∨ id = "fork" := by
  obtain ⟨root', hroot', hlinks, -⟩ := Run.linkedPackageIds_eq_ok.mp (linkedPackageIds_linking name)
  rw [isRoot_linking hroot, ← isRoot_linking hroot', ← hlinks] at h
  simpa using h

theorem distinctIds_linking (name : String) : mitRun.DistinctIds (linking name) where
  packages := show ["root", "crate", "fork"].Nodup by decide
  nodes := show ["root", "crate", "fork"].Nodup by decide

section

variable {name root : String} {order : SetOrder String} {r s : Record}

/-- What the notices show of the two linked packages. -/
structure Shows (name : String) (r s : Record) : Prop where
  crate : mitRun.recordOf (linking name) "crate" = .ok r
  fork : mitRun.recordOf (linking name) "fork" = .ok s

/-- Both have the one license text. -/
theorem Shows.tellsApart (h : Shows name r s) (hroot : mitRun.IsRoot (linking name) root)
    (hr : r.files = [("MIT\n", "LICENSE")]) (hs : s.files = [("MIT\n", "LICENSE")]) :
    mitRun.TellsApart (linking name) root := by
  have hfiles : ∀ id, mitRun.Links (linking name) root id → ∀ record,
      mitRun.recordOf (linking name) id = .ok record → record.files = [("MIT\n", "LICENSE")] := by
    intro id hid record hrecord
    rcases mem_of_links_linking hroot hid with rfl | rfl
    · exact Except.ok.inj (hrecord.symm.trans h.crate) ▸ hr
    · exact Except.ok.inj (hrecord.symm.trans h.fork) ▸ hs
  intro a b ha hb r s hra hsb file hfile other hother _
  rw [hfiles a ha r hra, List.mem_singleton] at hfile
  rw [hfiles b hb s hsb, List.mem_singleton] at hother
  rw [hfile, hother]

/-- Two names are told apart by the sort. -/
theorem Shows.separated (h : Shows name r s) (hroot : mitRun.IsRoot (linking name) root)
    (hne : r.notice.name ≠ s.notice.name) : mitRun.Separated (linking name) root := by
  intro a b hab ha hb r' s' hr hs hname _
  rcases mem_of_links_linking hroot ha with rfl | rfl <;>
    rcases mem_of_links_linking hroot hb with rfl | rfl
  · exact absurd rfl hab
  · obtain rfl := Except.ok.inj (hr.symm.trans h.crate)
    obtain rfl := Except.ok.inj (hs.symm.trans h.fork)
    exact absurd hname hne
  · obtain rfl := Except.ok.inj (hr.symm.trans h.fork)
    obtain rfl := Except.ok.inj (hs.symm.trans h.crate)
    exact absurd hname.symm hne
  · exact absurd rfl hab

/-- What an iteration order that starts with the crate prints. -/
theorem Shows.renderNotices_crate (h : Shows name r s) (hkey : r.sortKey ≤ s.sortKey) :
    mitRun.renderNotices (.starting "crate" "fork" (by decide)) (linking name) =
      .ok (mitRun.print (collect [r, s])) := by
  have horder : (SetOrder.starting "crate" "fork" (by decide)).list {"crate", "fork"} =
      ["crate", "fork"] := by decide +kernel
  refine Run.renderNotices_eq_ok.mpr ⟨_, [r, s], linkedPackageIds_linking name, ?_, ?_⟩
  · rw [horder, List.mapM_cons, List.mapM_cons, h.crate, h.fork]
    rfl
  · rw [sortRecords, List.insertionSort_cons_of_forall_rel]
    · rfl
    · intro t ht
      rwa [List.mem_singleton.mp ht]

/-- …and one that starts with the other package, if the sort does not tell them apart. -/
theorem Shows.renderNotices_fork (h : Shows name r s) (hkey : s.sortKey ≤ r.sortKey) :
    mitRun.renderNotices (.starting "fork" "crate" (by decide)) (linking name) =
      .ok (mitRun.print (collect [s, r])) := by
  have horder : (SetOrder.starting "fork" "crate" (by decide)).list {"crate", "fork"} =
      ["fork", "crate"] := by decide +kernel
  refine Run.renderNotices_eq_ok.mpr ⟨_, [s, r], linkedPackageIds_linking name, ?_, ?_⟩
  · rw [horder, List.mapM_cons, List.mapM_cons, h.crate, h.fork]
    rfl
  · rw [sortRecords, List.insertionSort_cons_of_forall_rel]
    · rfl
    · intro t ht
      rwa [List.mem_singleton.mp ht]

end

theorem shows_forked : Shows "example" (mitRecord "registry") (mitRecord "git") where
  crate := by decide +kernel
  fork := by decide +kernel

theorem shows_sample : Shows "sample" (mitRecord "registry") (namedRecord "sample" "git") where
  crate := by decide +kernel
  fork := by decide +kernel

/-- **The fork is printed first** in another iteration order. -/
theorem renderNotices_not_deterministic :
    mitRun.renderNotices (.starting "crate" "fork" (by decide)) forked =
        .ok (mitRun.print (collect [mitRecord "registry", mitRecord "git"])) ∧
      mitRun.renderNotices (.starting "fork" "crate" (by decide)) forked =
        .ok (mitRun.print (collect [mitRecord "git", mitRecord "registry"])) ∧
      mitRun.print (collect [mitRecord "registry", mitRecord "git"]) ≠
        mitRun.print (collect [mitRecord "git", mitRecord "registry"]) := by
  refine ⟨shows_forked.renderNotices_crate le_rfl, shows_forked.renderNotices_fork le_rfl, ?_⟩
  intro h
  have hcomm := Run.text_append_comm [] [] h
  revert hcomm
  decide +kernel

/-- Of the crate and its fork the text is deterministic if and only if their entries read the same
in either order; of the crate and a package of another name it is. -/
theorem renderNotices_inventory_and_order_linking :
    (∃ root, mitRun.Inventories forked root
        (mitRun.print (collect [mitRecord "registry", mitRecord "git"])) ∧
      (mitRun.Deterministic forked (mitRun.print (collect [mitRecord "registry", mitRecord "git"])) ↔
        mitRun.Separated forked root)) ∧
      ∃ root, mitRun.Inventories (linking "sample") root
          (mitRun.print (collect [mitRecord "registry", namedRecord "sample" "git"])) ∧
        mitRun.Deterministic (linking "sample")
          (mitRun.print (collect [mitRecord "registry", namedRecord "sample" "git"])) := by
  have hforked := shows_forked
  have hsample := shows_sample
  obtain ⟨root, hroot, hinventory, -, hiff⟩ :=
    Run.renderNotices_inventory_and_order (hforked.renderNotices_crate le_rfl)
  obtain ⟨root', hroot', hinventory', -, hiff'⟩ :=
    Run.renderNotices_inventory_and_order (hsample.renderNotices_crate (by decide))
  refine ⟨⟨root, hinventory, hiff (distinctIds_linking _) (hforked.tellsApart hroot rfl rfl)⟩,
    root', hinventory', ?_⟩
  refine (hiff' (distinctIds_linking _) (hsample.tellsApart hroot' rfl rfl)).mpr ?_
  exact hsample.separated hroot' (by decide)

end Kapsl.Ort.Notices
