import Mathlib.Data.Finset.Sort
import Mathlib.Data.List.AList
import Mathlib.Data.List.DropRight
import Mathlib.Data.Prod.Lex
import Mathlib.Data.String.Basic
import Kapsl.Lib.Except
import Kapsl.Lib.Frontier
import Kapsl.Lib.KeySort
import Kapsl.Lib.Sha256
import Kapsl.Vllm.Python

/-!
# Ort/Notices — the license notices of the linked packages

`render_notices` walks the dependency graph that Cargo resolved, from the root package along the
edges of a normal kind, and prints an inventory of the packages it reached and the license texts
they ship.  The walk keeps what it reached in a set, whose iteration order is the interpreter's, and
sorts the packages by name and version before it prints them.

* `linkedPackageIds` — the walk; the top of the stack of pending IDs is the head of the list.
* `licensePaths`, `readLicense` — where the license texts of a package are.
* `renderNotices` — the text.
-/

namespace Kapsl.Ort.Notices

open Vllm (Json isPySpace isBlank)
open Except (raiseIf)

/-- What `render_notices` raises. -/
inductive NoticesError
  /-- `NoticeError`. -/
  | notice (message : String)
  | keyError (key : String)
  | typeError (message : String)
  deriving DecidableEq

/-! ## Paths -/

/-- A `Path` of the file system. -/
structure Path where
  /-- Empty when the path is relative. -/
  root : String
  parts : List String
  deriving DecidableEq

namespace Path

/-- Paths in the order of their roots, then of their parts. -/
instance : LinearOrder Path :=
  LinearOrder.lift' (fun path => toLex (path.root, path.parts)) fun a b h => by
    obtain ⟨hroot, hparts⟩ := Prod.mk.inj (toLex.injective h)
    cases a
    cases b
    cases hroot
    cases hparts
    rfl

/-- `Path(text)`. -/
def ofString (text : String) : Path where
  root :=
    if "///".toList.isPrefixOf text.toList then "/"
    else if "//".toList.isPrefixOf text.toList then "//"
    else if "/".toList.isPrefixOf text.toList then "/"
    else ""
  parts := ((text.toList.splitOn '/').map String.ofList).filter fun part => part ≠ "" ∧ part ≠ "."

/-- `path.parent`. -/
def parent (path : Path) : Path := { path with parts := path.parts.dropLast }

/-- `path.name`. -/
def name (path : Path) : String := path.parts.getLastD ""

/-- `path.is_absolute()`. -/
def isAbsolute (path : Path) : Bool := path.root ≠ ""

/-- `path / other`. -/
def join (path other : Path) : Path :=
  if other.isAbsolute then other else { path with parts := path.parts ++ other.parts }

/-- An entry of a directory. -/
def child (path : Path) (name : String) : Path := { path with parts := path.parts ++ [name] }

/-- `str(path)`. -/
def text (path : Path) : String :=
  if path.root = "" ∧ path.parts = [] then "." else path.root ++ "/".intercalate path.parts

end Path

/-! ## The host -/

/-- What the program finds on the machine it runs on. -/
structure Host where
  /-- `path.is_file()`. -/
  isFile : Path → Bool
  /-- The names that `path.iterdir()` finds, or the text of an `OSError`. -/
  iterdir : Path → Except String (List String)
  /-- `path.read_bytes()`, or the text of an `OSError`. -/
  readBytes : Path → Except String (List UInt8)
  /-- The text of the `UnicodeDecodeError` for bytes that are not UTF-8. -/
  decodeError : List UInt8 → String
  /-- `text.lower()`. -/
  lower : String → String
  /-- `str(value)`. -/
  str : Json → String
  str_str : ∀ text, str (.str text) = text

/-- An iteration order of sets. -/
structure SetOrder (α : Type) where
  list : Finset α → List α
  nodup : ∀ s, (list s).Nodup
  mem : ∀ s a, a ∈ list s ↔ a ∈ s

/-- An ascending iteration order. -/
def SetOrder.ascending (α : Type) [LinearOrder α] : SetOrder α where
  list s := s.sort (· ≤ ·)
  nodup s := Finset.sort_nodup s _
  mem _ _ := Finset.mem_sort _

/-- What a run of `render_notices` is given beside the metadata. -/
structure Run where
  host : Host
  /-- The iteration order of the sets of license paths. -/
  pathOrder : SetOrder Path
  packageName : String
  target : String
  workspaceLicense : Path
  /-- `(supplemental_licenses or {}).get(key)`. -/
  supplemental : String × String × String → Option Path

/-! ## Dependencies -/

/-- The dependency is an object with a kind that is null. -/
def isNormal (dependency : Json) : Bool :=
  dependency.isMapping &&
    match dependency.getD "dep_kinds" (.list []) with
    | .list kinds => kinds.any fun kind => kind.isMapping && (kind.get "kind").isNull
    | _ => false

/-- The node of a package and its dependencies. -/
def nodeDeps (nodes : AList fun _ : String => Json) (id : String) : Option (List Json) :=
  match nodes.lookup id with
  | some node =>
    match node.get "deps" with
    | .list deps => some deps
    | _ => none
  | none => none

/-- `package_by_id[package_id]`. -/
def packageOf (packages : AList fun _ : String => Json) (id : String) : Except NoticesError Json :=
  match packages.lookup id with
  | some package => .ok package
  | none => .error (.keyError id)

/-- What was not visited yet. -/
def unvisited (nodes : AList fun _ : String => Json) (linked : Finset String) : Finset String :=
  nodes.keys.toFinset \ linked

theorem card_unvisited_insert {nodes : AList fun _ : String => Json} {linked : Finset String}
    {id : String} {deps : List Json} (hid : id ∉ linked) (hdeps : nodeDeps nodes id = some deps) :
    (unvisited nodes (insert id linked)).card < (unvisited nodes linked).card := by
  have hkey : id ∈ nodes := by
    rw [← AList.lookup_isSome]
    unfold nodeDeps at hdeps
    split at hdeps
    · next hnode => rw [hnode]; rfl
    · exact nomatch hdeps
  rw [unvisited, Finset.sdiff_insert]
  exact Finset.card_erase_lt_of_mem (Finset.mem_sdiff.mpr ⟨List.mem_toFinset.mpr hkey, hid⟩)

/-! ## License files -/

/-- `LICENSE_PREFIXES`. -/
def licensePrefixes : List String := ["license", "copying", "notice", "unlicense", "patents"]

/-- `MAX_LICENSE_BYTES`. -/
def maxLicenseBytes : ℕ := 4 * 1024 * 1024

/-- The file that the package declares. -/
def declaredFile (package : Json) (packageRoot : Path) : Finset Path :=
  match package.get "license_file" with
  | .str file => if file ≠ "" then {packageRoot.join (Path.ofString file)} else ∅
  | _ => ∅

/-- `text.replace("\r\n", "\n").replace("\r", "\n")`. -/
def unixNewlines : List Char → List Char
  | '\r' :: '\n' :: text => '\n' :: unixNewlines text
  | '\r' :: text => '\n' :: unixNewlines text
  | c :: text => c :: unixNewlines text
  | [] => []

/-- `text.rstrip()`. -/
def rstrip (text : String) : String := .ofList (text.toList.rdropWhile isPySpace)

/-! ## What is collected -/

/-- An entry of the inventory. -/
structure Notice where
  name : String
  version : String
  license : String
  source : String
  repository : String
  licenseTexts : List String
  deriving DecidableEq

/-- What the loop over the packages has collected. -/
structure Collected where
  texts : AList fun _ : String => String
  textLabels : AList fun _ : String => Finset String
  inventory : List Notice

/-- `hashlib.sha256(text.encode("utf-8")).hexdigest()`. -/
def digestOf (text : String) : String := Sha256.hexdigest text.toUTF8.toList

/-- A license text is noted under its digest, unless there is one, and its file name is. -/
def Collected.note (collected : Collected) (text name : String) : Collected :=
  { collected with
    texts := if digestOf text ∈ collected.texts then collected.texts
      else collected.texts.insert (digestOf text) text
    textLabels := collected.textLabels.insert (digestOf text)
      (insert name ((collected.textLabels.lookup (digestOf text)).getD ∅)) }

/-- `sorted(set(values))`. -/
def sortedSet (values : List String) : List String := values.dedup.insertionSort (· ≤ ·)

/-- The lines of an entry. -/
def Notice.lines (notice : Notice) : List String :=
  [s!"- {notice.name} {notice.version}",
    s!"  Declared license: {notice.license}",
    s!"  Source: {notice.source}",
    s!"  Repository: {notice.repository}",
    "  License text SHA-256: " ++ ", ".intercalate notice.licenseTexts]

/-- The lines of a license text. -/
def Collected.textLines (collected : Collected) (digest : String) : List String :=
  [String.ofList (List.replicate 80 '-'), s!"SHA-256: {digest}",
    "Source filenames: " ++ ", ".intercalate
      (((collected.textLabels.lookup digest).getD ∅).sort (· ≤ ·)),
    String.ofList (List.replicate 80 '-'), rstrip ((collected.texts.lookup digest).getD ""), ""]

/-- The lines behind the inventory. -/
def Collected.tailLines (collected : Collected) : List String :=
  ["", "LICENSE TEXTS", "=============", ""] ++
    (collected.texts.keys.insertionSort (· ≤ ·)).flatMap collected.textLines

namespace Run

variable (run : Run)

/-! ## The dependency graph -/

/-- `{str(item["id"]): item for item in items if isinstance(item, dict) and "id" in item}`. -/
def byId (items : List Json) : AList fun _ : String => Json :=
  items.foldl (fun found item =>
    match item.get? "id" with
    | some id => found.insert (run.host.str id) item
    | none => found) ∅

/-- The test of a workspace member for a root. -/
def isRoot (packages : AList fun _ : String => Json) : Json → Except NoticesError Bool
  | .str id =>
    match packages.lookup id with
    | some package => .ok ((package.get "name").eqStr run.packageName)
    | none => .ok false
  | .list _ => .error (.typeError "unhashable type: 'list'")
  | .obj _ => .error (.typeError "unhashable type: 'dict'")
  | _ => .ok false

/-- One turn of the loop over the dependencies of a node. -/
def pushDependency (pending : List String) (dependency : Json) :
    Except NoticesError (List String) :=
  if isNormal dependency then
    match dependency.get? "pkg" with
    | some id => .ok (run.host.str id :: pending)
    | none => .error (.keyError "pkg")
  else .ok pending

/-- The loop of `linked_package_ids`.  A turn either visits a node or takes an ID off the stack, so
the loop ends. -/
def linkPending (nodes : AList fun _ : String => Json) (linked : Finset String) :
    List String → Except NoticesError (Finset String)
  | [] => pure linked
  | id :: pending =>
    if _hid : id ∈ linked then
      linkPending nodes linked pending
    else
      match _hdeps : nodeDeps nodes id with
      | none => throw (.notice s!"Cargo resolve graph has no node for {id}")
      | some deps => do
        let pending ← deps.foldlM run.pushDependency pending
        linkPending nodes (insert id linked) pending
termination_by pending => ((unvisited nodes linked).card, pending.length)
decreasing_by
  · exact Prod.Lex.right _ (Nat.lt_succ_self _)
  · exact Prod.Lex.left _ _ (card_unvisited_insert _hid _hdeps)

/-- `linked_package_ids`. -/
def linkedPackageIds (metadata : Json) : Except NoticesError (Finset String) :=
  match metadata.get "packages", (metadata.get "resolve").get "nodes",
      metadata.get "workspace_members" with
  | .list packages, .list nodes, .list members => do
    let roots ← members.filterM (run.isRoot (run.byId packages))
    match roots with
    | [root] => do
      let linked ← run.linkPending (run.byId nodes) ∅ [run.host.str root]
      pure (linked.erase (run.host.str root))
    | _ =>
      throw (.notice
        s!"expected one workspace package named {run.packageName}, found {roots.length}")
  | _, _, _ =>
    throw (.notice "Cargo metadata is missing packages, workspace members, or resolve nodes")

/-! ## License texts -/

/-- `str(package.get(field, ""))`. -/
def field (package : Json) (name : String) : String := run.host.str (package.getD name (.str ""))

/-- The name and version of a package, as the errors spell them. -/
def label (package : Json) : String :=
  run.host.str (package.get "name") ++ " " ++ run.host.str (package.get "version")

/-- The name of a file starts like that of a license text. -/
def isLicenseName (name : String) : Bool :=
  licensePrefixes.any fun start => start.toList.isPrefixOf (run.host.lower name).toList

/-- What stands in for the license text of a package that has none. -/
def standIn (package : Json) : Finset Path :=
  if "kapsl-".toList.isPrefixOf (run.field package "name").toList then {run.workspaceLicense}
  else
    (run.supplemental (run.field package "name", run.field package "version",
      run.field package "license")).toFinset

/-- `license_paths`. -/
def licensePaths (package : Json) : Except NoticesError (List Path) := do
  let manifestPath := Path.ofString (run.field package "manifest_path")
  raiseIf (!run.host.isFile manifestPath)
    (.notice s!"dependency manifest is unavailable: {manifestPath.text}")
  let packageRoot := manifestPath.parent
  let found ← (run.host.iterdir packageRoot).mapError fun error =>
    .notice s!"inspect dependency licenses in {packageRoot.text}: {error}"
  let candidates := declaredFile package packageRoot ∪ ((found.map packageRoot.child).filter
    fun candidate => run.host.isFile candidate && run.isLicenseName candidate.name).toFinset
  let candidates := if candidates = ∅ then run.standIn package else candidates
  let paths := (run.pathOrder.list candidates).insertionSort
    fun a b => run.host.lower a.name ≤ run.host.lower b.name
  raiseIf (paths = []) (.notice s!"{run.label package} has no packaged license text")
  paths.forM fun path => raiseIf (!run.host.isFile path)
    (.notice s!"dependency license is unavailable: {path.text}")
  return paths

/-- `read_license`. -/
def readLicense (path : Path) : Except NoticesError String := do
  let payload ← (run.host.readBytes path).mapError fun error =>
    .notice s!"read dependency license {path.text}: {error}"
  raiseIf (maxLicenseBytes < payload.length)
    (.notice s!"dependency license exceeds {maxLicenseBytes} bytes: {path.text}")
  match String.fromUTF8? ⟨payload.toArray⟩ with
  | some text => pure (rstrip (.ofList (unixNewlines text.toList)) ++ "\n")
  | none =>
    throw (.notice
      s!"dependency license is not UTF-8: {path.text}: {run.host.decodeError payload}")

/-! ## The notices -/

/-- One turn of the loop over the license paths of a package. -/
def addLicense (state : Collected × List String) (path : Path) :
    Except NoticesError (Collected × List String) := do
  let text ← run.readLicense path
  return (state.1.note text path.name, state.2 ++ [digestOf text])

/-- `str(package.get(field) or default)`. -/
def fieldOr (package : Json) (name default : String) : String :=
  if (package.get name).truthy then run.host.str (package.get name) else default

/-- One turn of the loop over the packages. -/
def addPackage (collected : Collected) (package : Json) : Except NoticesError Collected :=
  match package.get "license" with
  | .str license => do
    raiseIf (isBlank license) (.notice s!"{run.label package} has no declared license")
    let paths ← run.licensePaths package
    let (collected, digests) ← paths.foldlM run.addLicense (collected, [])
    let notice : Notice :=
      { name := run.host.str (package.get "name")
        version := run.host.str (package.get "version")
        license := license
        source := run.fieldOr package "source" "workspace"
        repository := run.fieldOr package "repository" "unspecified"
        licenseTexts := sortedSet digests }
    return { collected with inventory := collected.inventory ++ [notice] }
  | _ => throw (.notice s!"{run.label package} has no declared license")

/-- The lines before the inventory. -/
def headLines : List String :=
  ["KAPSL ORT ADAPTER RUST DEPENDENCY NOTICES", "", s!"Package: {run.packageName}",
    s!"Target: {run.target}",
    "Dependency scope: normal linked dependencies from locked Cargo metadata", "",
    "DEPENDENCY INVENTORY", "====================", ""]

/-- The text of what was collected. -/
def print (collected : Collected) : String :=
  rstrip ("\n".intercalate (run.headLines ++ collected.inventory.flatMap Notice.lines ++
    collected.tailLines)) ++ "\n"

/-- The key packages are sorted by. -/
def sortKey (package : Json) : String ×ₗ String :=
  toLex (run.host.str (package.get "name"), run.host.str (package.get "version"))

/-- `render_notices`, in an iteration order of sets of IDs. -/
def renderNotices (order : SetOrder String) (metadata : Json) : Except NoticesError String :=
  match metadata.get "packages" with
  | .list packages => do
    let linked ← run.linkedPackageIds metadata
    let selected ← (order.list linked).mapM (packageOf (run.byId packages))
    let collected ← (selected.insertionSort fun p q => run.sortKey p ≤ run.sortKey q).foldlM
      run.addPackage ⟨∅, ∅, []⟩
    return run.print collected
  | _ => throw (.notice "Cargo metadata packages must be an array")

end Run

end Kapsl.Ort.Notices
