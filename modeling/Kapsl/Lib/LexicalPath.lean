import Mathlib.Data.List.Basic
import Mathlib.Data.List.Infix
import Mathlib.Data.List.Nodup
import Mathlib.Data.List.Range
import Mathlib.Data.List.TakeDrop
import Mathlib.Algebra.Order.BigOperators.Group.List
import Mathlib.Algebra.Order.Group.Nat

/-!
# Lib/LexicalPath — where a path leads by its text alone

A directory is the list of the names that lead to it from the root of the file system, and a path is
the list of its names: an empty name and `.` stay, `..` goes up, and any other name goes down.

A path may name one directory that is not known yet, a `root`, at any of its steps, and text may
follow the name of the root directly.  Such a path leads into the root, whatever directory it is,
exactly when it does so by count (`inside_iff_staysInside`): `Depth` counts how many levels down the
path is, and how many of the names of the root are left from the top.  A name that was left is back
only where the path goes through the root of the file system, since no other name of the path is
known to be the one that was left.
-/

namespace LexicalPath

/-- A name that a directory can have. -/
def IsName (name : String) : Prop :=
  name ≠ "" ∧ name ≠ "." ∧ name ≠ ".." ∧ '/' ∉ name.toList

instance : DecidablePred IsName := fun name =>
  inferInstanceAs (Decidable (name ≠ "" ∧ name ≠ "." ∧ name ≠ ".." ∧ '/' ∉ name.toList))

/-- A directory. -/
structure Directory where
  /-- Outermost first. -/
  names : List String
  valid : ∀ name ∈ names, IsName name

/-! ## Walking -/

/-- One name of a path; above the root of the file system there is that root. -/
def visit (dir : List String) (name : String) : List String :=
  if name = "" ∨ name = "." then dir else if name = ".." then dir.dropLast else dir ++ [name]

/-- Where a path leads. -/
def walk (dir path : List String) : List String := path.foldl visit dir

/-- A path that only goes down. -/
theorem walk_eq_append {dir path : List String}
    (h : ∀ name ∈ path, name ≠ "" ∧ name ≠ "." ∧ name ≠ "..") : walk dir path = dir ++ path := by
  induction path generalizing dir with
  | nil => exact (List.append_nil dir).symm
  | cons name path ih =>
    obtain ⟨hempty, hdot, hup⟩ := h name List.mem_cons_self
    have hvisit : visit dir name = dir ++ [name] := by simp [visit, hempty, hdot, hup]
    show walk (visit dir name) path = dir ++ name :: path
    rw [hvisit, ih fun name' hname' => h name' (List.mem_cons_of_mem _ hname'), List.append_assoc]
    rfl

/-! ## Paths through an unknown directory -/

/-- A step of a path: a name, or the root with text behind it. -/
inductive Step
  | literal (name : String)
  | root (suffix : String)
  deriving DecidableEq

/-- The names of the root, the last one with text behind it. -/
def extendLast : List String → String → List String
  | [], suffix => [suffix]
  | [name], suffix => [name ++ suffix]
  | name :: names, suffix => name :: extendLast names suffix

/-- The names a step stands for. -/
def Step.expand (root : List String) : Step → List String
  | .literal name => [name]
  | .root suffix => extendLast root suffix

/-- The directory that a path from the root of the file system leads to. -/
def destination (root : List String) (path : List Step) : List String :=
  walk [] (path.flatMap (Step.expand root))

/-- How deep a path is, and how many names of the root are left from the top. -/
structure Depth where
  level : ℕ
  kept : ℕ
  deriving DecidableEq

/-- One step, for a root of so many names. -/
def Depth.visit (names : ℕ) (depth : Depth) : Step → Depth
  | .literal name =>
    if name = "" ∨ name = "." then depth
    else if name = ".." then ⟨depth.level - 1, min depth.kept (depth.level - 1)⟩
    else ⟨depth.level + 1, depth.kept⟩
  | .root suffix =>
    ⟨depth.level + names,
      if depth.level = 0 then if suffix = "" then names else names - 1 else depth.kept⟩

/-- The depth a path ends at. -/
def depthOf (names : ℕ) (path : List Step) : Depth := path.foldl (Depth.visit names) ⟨0, 0⟩

/-- **A path stays inside the root by count**, however many names the root has. -/
def StaysInside (path : List Step) : Prop :=
  ∀ names, 1 ≤ names → (depthOf names path).kept = names

/-! ## What the root stands for -/

variable {root dir : List String} {depth : Depth} {step : Step} {path : List Step}

theorem extendLast_concat (names : List String) (last suffix : String) :
    extendLast (names ++ [last]) suffix = names ++ [last ++ suffix] := by
  induction names with
  | nil => rfl
  | cons name names ih =>
    rcases hnames : names ++ [last] with - | ⟨name', names'⟩
    · simp at hnames
    · show extendLast (name :: (names ++ [last])) suffix = name :: (names ++ [last ++ suffix])
      rw [hnames, extendLast, ← hnames, ih]
      exact List.cons_ne_nil _ _

/-- A name with text behind it goes down as well. -/
theorem goesDown_append {name : String} (h : IsName name) (suffix : String) :
    name ++ suffix ≠ "" ∧ name ++ suffix ≠ "." ∧ name ++ suffix ≠ ".." := by
  obtain ⟨hempty, hdot, hup, -⟩ := h
  have hname : name.toList ∉ ["".toList, ".".toList, "..".toList] := by
    simp only [List.mem_cons, List.not_mem_nil, or_false, String.toList_inj, not_or]
    exact ⟨hempty, hdot, hup⟩
  have hne : ∀ short : String, short.toList.inits ⊆ ["".toList, ".".toList, "..".toList] →
      name ++ suffix ≠ short := by
    rintro short hsub rfl
    refine hname (hsub ((List.mem_inits _ _).mpr ?_))
    rw [String.toList_append]
    exact List.prefix_append _ _
  exact ⟨hne "" (by decide), hne "." (by decide), hne ".." (by decide)⟩

/-- The root goes down by all its names. -/
theorem walk_extendLast (hroot : root ≠ []) (hvalid : ∀ name ∈ root, IsName name)
    (suffix : String) : walk dir (extendLast root suffix) = dir ++ extendLast root suffix := by
  obtain ⟨names, last, rfl⟩ := (List.eq_nil_or_concat' root).resolve_left hroot
  refine walk_eq_append fun name hname => ?_
  rw [extendLast_concat] at hname
  rcases List.mem_append.mp hname with hname | hname
  · obtain ⟨hempty, hdot, hup, -⟩ := hvalid name (List.mem_append_left _ hname)
    exact ⟨hempty, hdot, hup⟩
  · rw [List.mem_singleton.mp hname]
    exact goesDown_append (hvalid last List.mem_concat_self) suffix

theorem length_extendLast (hroot : root ≠ []) (suffix : String) :
    (extendLast root suffix).length = root.length := by
  obtain ⟨names, last, rfl⟩ := (List.eq_nil_or_concat' root).resolve_left hroot
  rw [extendLast_concat, List.length_append, List.length_append]
  rfl

/-- Only the last name changes. -/
theorem take_extendLast (hroot : root ≠ []) (suffix : String) :
    (extendLast root suffix).take (root.length - 1) = root.take (root.length - 1) := by
  obtain ⟨names, last, rfl⟩ := (List.eq_nil_or_concat' root).resolve_left hroot
  rw [extendLast_concat, List.length_append, List.length_singleton, Nat.add_sub_cancel,
    List.take_left, List.take_left]

theorem extendLast_empty (hroot : root ≠ []) : extendLast root "" = root := by
  obtain ⟨names, last, rfl⟩ := (List.eq_nil_or_concat' root).resolve_left hroot
  rw [extendLast_concat, String.append_empty]

/-- The first name does not change, unless it is the last. -/
theorem head_extendLast (hroot : 1 < root.length) (suffix : String) :
    (extendLast root suffix)[0]? = root[0]? := by
  rcases root with - | ⟨name, - | ⟨name', names⟩⟩
  · exact absurd hroot (by simp)
  · exact absurd hroot (by simp)
  · rfl

/-! ## The count is right -/

/-- **The count of a directory** — its level is right, and the names that are kept are names of the
root. -/
structure Counts (root dir : List String) (depth : Depth) : Prop where
  level : dir.length = depth.level
  kept_le_level : depth.kept ≤ depth.level
  kept_le : depth.kept ≤ root.length
  take : dir.take depth.kept = root.take depth.kept

/-- The directory and the root part where the count says. -/
def Parts (root dir : List String) (depth : Depth) : Prop :=
  depth.kept < root.length → dir[depth.kept]? ≠ root[depth.kept]?

/-- **A name keeps the count.** -/
theorem counts_literal (h : Counts root dir depth) (name : String) :
    Counts root (visit dir name) (depth.visit root.length (.literal name)) := by
  obtain ⟨hlevel, hle, hroot, htake⟩ := h
  simp only [visit, Depth.visit]
  split_ifs with hstay hup
  · exact ⟨hlevel, hle, hroot, htake⟩
  · refine ⟨by rw [List.length_dropLast, hlevel], min_le_right _ _,
      (min_le_left _ _).trans hroot, ?_⟩
    rw [List.dropLast_eq_take, List.take_take, hlevel, min_assoc, min_self, min_comm,
      ← List.take_take, htake, List.take_take]
  · refine ⟨by rw [List.length_append, hlevel]; rfl, hle.trans (Nat.le_succ _), hroot, ?_⟩
    rw [List.take_append_of_le_length (hle.trans hlevel.ge), htake]

/-- **The root keeps the count**: from the root of the file system it leads to itself, up to the
text behind it. -/
theorem counts_root (h : Counts root dir depth) (hroot : root ≠ []) (suffix : String) :
    Counts root (dir ++ extendLast root suffix) (depth.visit root.length (.root suffix)) := by
  obtain ⟨hlevel, hle, hkept, htake⟩ := h
  have hlength : (dir ++ extendLast root suffix).length = depth.level + root.length := by
    rw [List.length_append, hlevel, length_extendLast hroot]
  simp only [Depth.visit]
  split_ifs with hzero hsuffix
  · subst hsuffix
    obtain rfl := List.length_eq_zero_iff.mp (hlevel.trans hzero)
    refine ⟨hlength, Nat.le_add_left _ _, le_rfl, ?_⟩
    rw [extendLast_empty hroot, List.nil_append]
  · obtain rfl := List.length_eq_zero_iff.mp (hlevel.trans hzero)
    refine ⟨hlength, (Nat.sub_le _ _).trans (Nat.le_add_left _ _), Nat.sub_le _ _, ?_⟩
    rw [List.nil_append, take_extendLast hroot]
  · refine ⟨hlength, hle.trans (Nat.le_add_right _ _), hkept, ?_⟩
    rw [List.take_append_of_le_length (hle.trans hlevel.ge), htake]

/-- A new name that the root does not have is where they part. -/
theorem parts_literal {name : String} (h : Counts root dir depth) (hparts : Parts root dir depth)
    (hfresh : name ∉ root) :
    Parts root (visit dir name) (depth.visit root.length (.literal name)) := by
  obtain ⟨hlevel, hle, -, -⟩ := h
  simp only [visit, Depth.visit]
  split_ifs with hstay hup
  · exact hparts
  · intro hlt
    simp only at hlt ⊢
    rw [List.getElem?_dropLast]
    split_ifs with hinside
    · have hmin : min depth.kept (depth.level - 1) = depth.kept := by omega
      rw [hmin] at hlt ⊢
      exact hparts hlt
    · rw [List.getElem?_eq_getElem hlt]
      exact Option.some_ne_none _ |>.symm
  · intro hlt
    rcases hle.lt_or_eq with hinside | houtside
    · rw [List.getElem?_append_left (hlevel ▸ hinside)]
      exact hparts hlt
    · intro heq
      rw [houtside, ← hlevel, List.getElem?_concat_length] at heq
      exact hfresh (List.mem_of_getElem? heq.symm)

/-- The root again is where they part, when its names are distinct. -/
theorem parts_root (h : Counts root dir depth) (hparts : Parts root dir depth) (hroot : root ≠ [])
    (hnodup : root.Nodup) (suffix : String) :
    Parts root (dir ++ extendLast root suffix) (depth.visit root.length (.root suffix)) := by
  obtain ⟨hlevel, hle, -, -⟩ := h
  intro hlt
  simp only [Depth.visit] at hlt ⊢
  split_ifs at hlt ⊢ with hzero hsuffix
  · exact absurd hlt (lt_irrefl _)
  · -- The last name is longer than that of the root.
    obtain rfl := List.length_eq_zero_iff.mp (hlevel.trans hzero)
    obtain ⟨names, last, rfl⟩ := (List.eq_nil_or_concat' root).resolve_left hroot
    rw [List.nil_append, extendLast_concat, List.length_append, List.length_singleton,
      Nat.add_sub_cancel, List.getElem?_concat_length, List.getElem?_concat_length]
    intro heq
    have hlength := congrArg String.length (Option.some.inj heq)
    rw [String.length_append, Nat.add_eq_left] at hlength
    exact hsuffix (String.length_eq_zero_iff.mp hlength)
  · rcases hle.lt_or_eq with hinside | houtside
    · rw [List.getElem?_append_left (hlevel ▸ hinside)]
      exact hparts hlt
    · -- The first name of the root stands where a later one is missing.
      intro heq
      rw [List.getElem?_append_right (hlevel.trans houtside.symm).le, hlevel, houtside,
        Nat.sub_self, head_extendLast (by omega)] at heq
      rw [houtside] at hlt
      exact hzero ((List.getElem?_inj hlt hnodup).mp heq.symm)

/-! ## Whole paths -/

theorem destination_concat (path : List Step) (step : Step) :
    destination root (path ++ [step]) = walk (destination root path) (step.expand root) := by
  rw [destination, List.flatMap_append, walk, List.foldl_append, List.flatMap_singleton]
  rfl

theorem depthOf_concat (names : ℕ) (path : List Step) (step : Step) :
    depthOf names (path ++ [step]) = (depthOf names path).visit names step :=
  List.foldl_concat _ _ _ _

/-- **The count of a path is right.** -/
theorem counts_destination (hroot : root ≠ []) (hvalid : ∀ name ∈ root, IsName name) :
    Counts root (destination root path) (depthOf root.length path) := by
  induction path using List.reverseRecOn with
  | nil => exact ⟨rfl, le_rfl, Nat.zero_le _, rfl⟩
  | append_singleton path step ih =>
    rw [destination_concat, depthOf_concat]
    cases step with
    | literal name => exact counts_literal ih name
    | root suffix =>
      rw [Step.expand, walk_extendLast hroot hvalid]
      exact counts_root ih hroot suffix

/-- **A path leads away from a root it does not know**, where it leaves one of its names. -/
theorem parts_destination (hroot : root ≠ []) (hvalid : ∀ name ∈ root, IsName name)
    (hnodup : root.Nodup) (hfresh : ∀ name, .literal name ∈ path → name ∉ root) :
    Parts root (destination root path) (depthOf root.length path) := by
  induction path using List.reverseRecOn with
  | nil =>
    intro hlt
    exact (List.getElem?_eq_getElem hlt ▸ Option.some_ne_none _).symm
  | append_singleton path step ih =>
    have hcounts : Counts root (destination root path) (depthOf root.length path) :=
      counts_destination hroot hvalid
    have hparts := ih fun name hname => hfresh name (List.mem_append_left _ hname)
    rw [destination_concat, depthOf_concat]
    cases step with
    | literal name => exact parts_literal hcounts hparts (hfresh name List.mem_concat_self)
    | root suffix =>
      rw [Step.expand, walk_extendLast hroot hvalid]
      exact parts_root hcounts hparts hroot hnodup suffix

/-! ## Unknown directories -/

/-- A name of so many letters. -/
def longName (length : ℕ) : String := String.ofList (List.replicate (length + 1) 'd')

theorem length_longName (length : ℕ) : (longName length).length = length + 1 := by
  rw [longName, ← String.length_toList, String.toList_ofList, List.length_replicate]

theorem isName_longName (length : ℕ) : IsName (longName length) := by
  have hne : ∀ name : String, name.toList.head? ≠ some 'd' → longName length ≠ name := by
    rintro name hhead rfl
    rw [longName, String.toList_ofList] at hhead
    exact hhead rfl
  refine ⟨hne _ (by decide), hne _ (by decide), hne _ (by decide), fun hslash => ?_⟩
  rw [longName, String.toList_ofList] at hslash
  exact absurd (List.eq_of_mem_replicate hslash) (by decide)

/-- **There are directories of any depth** whose names are distinct and none of the given ones. -/
theorem exists_directory_disjoint (names : List String) (depth : ℕ) :
    ∃ root : Directory, root.names.length = depth ∧ root.names.Nodup ∧
      ∀ name ∈ names, name ∉ root.names := by
  let total := (names.map String.length).sum
  refine ⟨⟨(List.range depth).map fun i => longName (total + i), fun name hname => ?_⟩, ?_, ?_, ?_⟩
  · obtain ⟨i, -, rfl⟩ := List.mem_map.mp hname
    exact isName_longName _
  · rw [List.length_map, List.length_range]
  · refine List.nodup_range.map fun i j hij => ?_
    have hlength := congrArg String.length hij
    rw [length_longName, length_longName] at hlength
    omega
  · intro name hname hmem
    obtain ⟨i, -, rfl⟩ := List.mem_map.mp hmem
    have hle : (longName (total + i)).length ≤ total :=
      List.le_sum_of_mem (List.mem_map_of_mem hname)
    rw [length_longName] at hle
    omega

/-- The names of a path that are no part of the root. -/
def literals (path : List Step) : List String :=
  path.filterMap fun
    | .literal name => some name
    | .root _ => none

/-- **A path stays inside every directory it may go through** exactly when it does by count. -/
theorem inside_iff_staysInside :
    (∀ root : Directory, root.names <+: destination root.names path) ↔ StaysInside path := by
  constructor
  · intro h names hnames
    obtain ⟨root, hlength, hnodup, hfresh⟩ := exists_directory_disjoint (literals path) names
    have hroot : root.names ≠ [] := List.ne_nil_of_length_pos (by omega)
    have hcounts : Counts root.names (destination root.names path) _ :=
      counts_destination hroot root.valid
    have hparts := parts_destination hroot root.valid hnodup fun name hname =>
      hfresh name (List.mem_filterMap.mpr ⟨_, hname, rfl⟩)
    rw [← hlength]
    by_contra hne
    have hlt := lt_of_le_of_ne hcounts.kept_le hne
    refine hparts hlt ?_
    rw [List.getElem?_eq_getElem hlt, List.getElem?_eq_getElem (hlt.trans_le (h root).length_le),
      (h root).getElem]
  · intro h root
    rcases eq_or_ne root.names [] with hroot | hroot
    · rw [hroot]
      exact List.nil_prefix
    · have hcounts : Counts root.names (destination root.names path) _ :=
        counts_destination hroot root.valid
      have htake := hcounts.take
      rw [h _ (List.length_pos_of_ne_nil hroot), List.take_length] at htake
      exact List.prefix_iff_eq_take.mpr htake.symm

end LexicalPath
