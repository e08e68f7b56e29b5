import Mathlib.Data.Finset.Sort
import Mathlib.Data.String.Basic
import Kapsl.Lib.Except
import Kapsl.Lib.LexicalPath
import Kapsl.Ort.DependencyClosure

/-!
# Ort/RuntimePaths — the runtime paths a packaging check accepts

`parse_dynamic_contract` reads the dynamic section of a library and rejects a non-pack-local runtime
path.  The test behind it is a prefix: a component is rejected when it is neither `$ORIGIN` nor
starts with `$ORIGIN/`, and an empty component is passed over.  What a component denotes is another
matter: the names after `$ORIGIN` may climb, `$ORIGIN` may be there again, and the loader reads an
empty component as the current directory.  So what is accepted is local to the pack, wherever the
pack is installed, exactly when no component is empty and each of them stays inside by count
(`accepted_packLocal_iff`).
-/

namespace Kapsl.Ort.RuntimePaths

open DependencyClosure (PackageError)
open LexicalPath

/-! ## The expressions

An expression of `parse_dynamic_contract` is a tag, then as much of the line as is possible, then a
value in brackets. -/

/-- `\[([^]]…)]`: the value and the text behind it, for a value of at least so many characters. -/
def bracketed (least : ℕ) : List Char → Option (List Char × List Char)
  | '[' :: text =>
    match text.dropWhile (· ≠ ']') with
    | _ :: rest =>
      if least ≤ (text.takeWhile (· ≠ ']')).length then some (text.takeWhile (· ≠ ']'), rest)
      else none
    | [] => none
  | _ => none

/-- `.*` before it, which takes what it can and gives back what it must. -/
def lastBracketed (least : ℕ) : List Char → Option (List Char × List Char)
  | [] => none
  | c :: text =>
    (if c = '\n' then none else lastBracketed least text).orElse fun _ => bracketed least (c :: text)

/-- The whole expression, for one of the tags. -/
def entryAt (tags : List String) (least : ℕ) (text : List Char) :
    Option (List Char × List Char) :=
  tags.findSome? fun tag =>
    if tag.toList.isPrefixOf text then lastBracketed least (text.drop tag.length) else none

/-- `re.findall`, when so many characters belong to the last match still. -/
def findAllFrom (tags : List String) (least : ℕ) : ℕ → List Char → List String
  | _, [] => []
  | matched + 1, _ :: text => findAllFrom tags least matched text
  | 0, c :: text =>
    match entryAt tags least (c :: text) with
    | some (value, rest) =>
      String.ofList value :: findAllFrom tags least (text.length - rest.length) text
    | none => findAllFrom tags least 0 text

/-- `re.findall`. -/
def findAll (tags : List String) (least : ℕ) (text : String) : List String :=
  findAllFrom tags least 0 text.toList

/-! ## The check -/

/-- `sorted(set(values))`. -/
def sortedSet (values : List String) : List String := values.dedup.insertionSort (· ≤ ·)

/-- `value.split(":")`. -/
def splitColons (value : String) : List String := (value.toList.splitOn ':').map String.ofList

/-- The components of every RPATH and RUNPATH entry. -/
def components (dynamic : String) : List String :=
  (findAll ["(RPATH)", "(RUNPATH)"] 0 dynamic).flatMap splitColons

/-- `component == "$ORIGIN"` or `component.startswith("$ORIGIN/")`. -/
def IsOrigin (component : String) : Prop :=
  component = "$ORIGIN" ∨ "$ORIGIN/".toList <+: component.toList

instance : DecidablePred IsOrigin := fun component =>
  inferInstanceAs (Decidable (component = "$ORIGIN" ∨ "$ORIGIN/".toList <+: component.toList))

/-- One turn of the loop over the components of a value. -/
def admitComponent (label : String) (runpaths : List String) (component : String) :
    Except PackageError (List String) :=
  if component ≠ "" ∧ ¬IsOrigin component then
    throw ⟨s!"{label} contains a non-pack-local runtime path: {component}"⟩
  else if component ≠ "" then
    pure (runpaths ++ [component])
  else
    pure runpaths

/-- `parse_dynamic_contract`, from what `readelf -d` printed. -/
def parseDynamicContract (dynamic label : String) :
    Except PackageError (List String × Option String × List String) := do
  let needed := sortedSet (findAll ["(NEEDED)"] 1 dynamic)
  let sonames := sortedSet (findAll ["(SONAME)"] 1 dynamic)
  if 1 < sonames.length then
    throw ⟨s!"{label} declares multiple ELF SONAME values"⟩
  let runpaths ← (findAll ["(RPATH)", "(RUNPATH)"] 0 dynamic).foldlM
    (fun runpaths value => (splitColons value).foldlM (admitComponent label) runpaths) []
  return (needed, sonames.head?, runpaths)

example : parseDynamicContract (" 0x1 (NEEDED) Shared library: [libc.so.6]\n" ++
    " 0x1d (RUNPATH) Library runpath: [$ORIGIN:$ORIGIN/lib]\n") "adapter" =
      .ok (["libc.so.6"], none, ["$ORIGIN", "$ORIGIN/lib"]) := by decide

/-! ## What a component denotes -/

/-- The texts between the places of `$ORIGIN`, when so many characters belong to the last place
still. -/
def splitOriginFrom : ℕ → List Char → List (List Char)
  | _, [] => [[]]
  | matched + 1, _ :: text => splitOriginFrom matched text
  | 0, c :: text =>
    if "$ORIGIN".toList <+: c :: text then [] :: splitOriginFrom 6 text
    else (splitOriginFrom 0 text).modifyHead (c :: ·)

/-- The texts between the places of `$ORIGIN`. -/
def splitOrigin (component : String) : List (List Char) := splitOriginFrom 0 component.toList

/-- How a directory is written. -/
def directoryText (root : Directory) : List Char :=
  '/' :: ['/'].intercalate (root.names.map String.toList)

/-- The component with every `$ORIGIN` replaced by the directory. -/
def replaceOrigin (root : Directory) (component : String) : List Char :=
  (directoryText root).intercalate (splitOrigin component)

/-- The names of a path. -/
def pathNames (path : List Char) : List String := (path.splitOn '/').map String.ofList

/-- The directory a component of a library in `root` denotes: `$ORIGIN` is replaced by `root`, and
the path is normalised.  An empty component and a relative path start in the current directory. -/
def denoted (root : Directory) (component : String) : Option (List String) :=
  let path := replaceOrigin root component
  if path.head? = some '/' then some (walk [] (pathNames path)) else none

/-- **The component denotes the directory of the library** or one below it. -/
def PackLocal (root : Directory) (component : String) : Prop :=
  ∃ dir, denoted root component = some dir ∧ root.names <+: dir

/-- What follows a place of `$ORIGIN`, with it. -/
def originSteps (text : List Char) : List Step :=
  match pathNames text with
  | suffix :: names => .root suffix :: names.map .literal
  | [] => []

/-- The component as a path through an unknown directory. -/
def stepsOf (component : String) : List Step :=
  match splitOrigin component with
  | text :: texts => (pathNames text).map .literal ++ texts.flatMap originSteps
  | [] => []

example : stepsOf "$ORIGIN/../x$ORIGIN" =
    [.literal "", .root "", .literal "..", .literal "x", .root ""] := by decide

example : denoted ⟨["opt", "pack"], by decide⟩ "$ORIGIN/..$ORIGIN" =
    some ["opt", "opt", "pack"] := by decide

/-! ## What is accepted -/

variable {dynamic label component : String}

/-- The loops over the values and their components are one loop. -/
theorem foldlM_splitColons (label : String) (values runpaths : List String) :
    values.foldlM (fun runpaths value => (splitColons value).foldlM (admitComponent label) runpaths)
        runpaths =
      (values.flatMap splitColons).foldlM (admitComponent label) runpaths := by
  induction values generalizing runpaths with
  | nil => rfl
  | cons value values ih =>
    rw [List.foldlM_cons, List.flatMap_cons, List.foldlM_append]
    exact bind_congr fun _ => ih _

theorem admitComponent_eq_ok {runpaths runpaths' : List String}
    (h : admitComponent label runpaths component = .ok runpaths') :
    component = "" ∨ IsOrigin component := by
  by_contra hneither
  obtain ⟨hne, horigin⟩ := not_or.mp hneither
  rw [admitComponent, if_pos ⟨hne, horigin⟩] at h
  exact nomatch h

/-- A loop that returned admitted every component. -/
theorem foldlM_admitComponent {names runpaths runpaths' : List String}
    (h : names.foldlM (admitComponent label) runpaths = .ok runpaths') :
    ∀ component ∈ names, component = "" ∨ IsOrigin component := by
  induction names generalizing runpaths with
  | nil => exact fun _ hmem => absurd hmem List.not_mem_nil
  | cons name names ih =>
    rw [List.foldlM_cons, Except.bind_eq_ok] at h
    obtain ⟨_, hname, hnames⟩ := h
    intro component hmem
    rcases List.mem_cons.mp hmem with rfl | hmem
    · exact admitComponent_eq_ok hname
    · exact ih hnames component hmem

/-- **Every component that is accepted** is empty or starts at `$ORIGIN`. -/
theorem isOrigin_of_parse {contract : List String × Option String × List String}
    (h : parseDynamicContract dynamic label = .ok contract) :
    ∀ component ∈ components dynamic, component = "" ∨ IsOrigin component := by
  rw [parseDynamicContract] at h
  split_ifs at h with hsonames
  · exact nomatch h
  · obtain ⟨_, hloop, _⟩ := Except.bind_eq_ok.mp h
    rw [foldlM_splitColons] at hloop
    exact foldlM_admitComponent hloop


/-! ## The steps of a component -/

theorem splitOn_append_of_notMem {text : List Char} (h : '/' ∉ text) (rest : List Char) :
    (text ++ rest).splitOn '/' = (rest.splitOn '/').modifyHead (text ++ ·) := by
  induction text with
  | nil => exact (congrFun List.modifyHead_id _).symm
  | cons c text ih =>
    obtain ⟨hc, htext⟩ := not_or.mp (List.mem_cons.not.mp h)
    rw [List.cons_append, List.splitOn_cons_eq_if_modifyHead, if_neg (by simpa using Ne.symm hc),
      ih htext, List.modifyHead_modifyHead]
    rfl

theorem exists_pathNames (path : List Char) : ∃ name names, pathNames path = name :: names :=
  List.exists_cons_of_ne_nil (List.map_eq_nil_iff.not.mpr (List.splitOn_ne_nil '/' path))

theorem pathNames_append (front rest : List Char) :
    pathNames (front ++ '/' :: rest) = pathNames front ++ pathNames rest := by
  rw [pathNames, List.splitOn_append_cons_self, List.map_append]
  rfl

/-- A name before a path joins its first name. -/
theorem pathNames_name_append {name : String} (hname : IsName name) {path : List Char}
    {suffix : String} {rest : List String} (hpath : pathNames path = suffix :: rest) :
    pathNames (name.toList ++ path) = (name ++ suffix) :: rest := by
  rw [pathNames, List.map_eq_cons_iff] at hpath
  obtain ⟨first, others, hsplit, rfl, rfl⟩ := hpath
  rw [pathNames, splitOn_append_of_notMem hname.2.2.2, hsplit, List.modifyHead_cons, List.map_cons,
    String.ofList_append, String.ofList_toList]

/-- **The directory with a path behind it**: the first name of the path joins the last name. -/
theorem pathNames_directory_append {names : List String} (hvalid : ∀ name ∈ names, IsName name)
    {path : List Char} {suffix : String} {rest : List String}
    (hpath : pathNames path = suffix :: rest) :
    pathNames (['/'].intercalate (names.map String.toList) ++ path) =
      extendLast names suffix ++ rest := by
  induction names with
  | nil => exact hpath
  | cons name names ih =>
    have hname := hvalid name List.mem_cons_self
    rcases names with - | ⟨name', names⟩
    · simpa [List.intercalate, extendLast] using pathNames_name_append hname hpath
    · have hrest := ih fun name' hname' => hvalid name' (List.mem_cons_of_mem _ hname')
      have hsplit : ['/'].intercalate ((name :: name' :: names).map String.toList) ++ path =
          name.toList ++ '/' :: (['/'].intercalate ((name' :: names).map String.toList) ++ path) := by
        simp [List.intercalate]
      rw [hsplit, pathNames_append, hrest, pathNames, List.splitOn_eq_singleton hname.2.2.2]
      simp [extendLast]

theorem flatMap_literal (root names : List String) :
    (names.map Step.literal).flatMap (Step.expand root) = names := by
  rw [List.flatMap_map]
  exact List.flatMap_singleton' names

/-- **The names of a component** with its directory in place are those its steps stand for. -/
theorem pathNames_intercalate (root : Directory) (text : List Char) (texts : List (List Char)) :
    pathNames ((directoryText root).intercalate (text :: texts)) =
      pathNames text ++ (texts.flatMap originSteps).flatMap (Step.expand root.names) := by
  induction texts generalizing text with
  | nil => simp [List.intercalate]
  | cons text' texts ih =>
    obtain ⟨suffix, rest, hnames⟩ := exists_pathNames text'
    have hsplit : (directoryText root).intercalate (text :: text' :: texts) =
        text ++ '/' :: (['/'].intercalate (root.names.map String.toList) ++
          (directoryText root).intercalate (text' :: texts)) := by
      simp [List.intercalate, directoryText]
    have hpath := ih text'
    rw [hnames, List.cons_append] at hpath
    rw [hsplit, pathNames_append, pathNames_directory_append root.valid hpath]
    have hsteps : originSteps text' = .root suffix :: rest.map .literal := by
      rw [originSteps, hnames]
    rw [List.flatMap_cons, hsteps, List.flatMap_append, List.flatMap_cons, flatMap_literal,
      List.append_assoc]
    rfl

theorem splitOriginFrom_ne_nil (matched : ℕ) (text : List Char) :
    splitOriginFrom matched text ≠ [] := by
  fun_induction splitOriginFrom matched text with
  | case1 => exact List.cons_ne_nil _ _
  | case2 matched c text ih => exact ih
  | case3 c text hprefix ih => exact List.cons_ne_nil _ _
  | case4 c text hprefix ih => simpa using ih

/-- The first place of `$ORIGIN` is at the start. -/
theorem splitOrigin_of_isOrigin (h : IsOrigin component) :
    ∃ text texts, splitOrigin component = [] :: text :: texts := by
  obtain ⟨path, hpath⟩ : "$ORIGIN".toList <+: component.toList := by
    rcases h with rfl | h
    · exact List.prefix_rfl
    · exact List.IsPrefix.trans (by decide) h
  have hsplit : splitOrigin component = [] :: splitOriginFrom 0 path := by
    rw [splitOrigin, ← hpath]
    exact if_pos (List.prefix_append "$ORIGIN".toList path)
  obtain ⟨text, texts, htexts⟩ := List.exists_cons_of_ne_nil (splitOriginFrom_ne_nil 0 path)
  exact ⟨text, texts, by rw [hsplit, htexts]⟩

/-- Where a component that starts at `$ORIGIN` leads. -/
theorem denoted_of_isOrigin (root : Directory) (h : IsOrigin component) :
    denoted root component = some (destination root.names (stepsOf component)) := by
  obtain ⟨text, texts, hsplit⟩ := splitOrigin_of_isOrigin h
  have hhead : (replaceOrigin root component).head? = some '/' := by
    rw [replaceOrigin, hsplit]
    rfl
  rw [denoted, if_pos hhead, replaceOrigin, hsplit, pathNames_intercalate, destination, stepsOf,
    hsplit]
  simp only [List.flatMap_append, flatMap_literal]

/-- **A component that starts at `$ORIGIN` is local** to every pack exactly when it is by count. -/
theorem packLocal_iff_staysInside (h : IsOrigin component) :
    (∀ root, PackLocal root component) ↔ StaysInside (stepsOf component) := by
  rw [← inside_iff_staysInside]
  refine forall_congr' fun root => ?_
  rw [PackLocal, denoted_of_isOrigin root h]
  exact ⟨fun ⟨dir, hdir, hroot⟩ => Option.some.inj hdir ▸ hroot, fun hroot => ⟨_, rfl, hroot⟩⟩

/-- The current directory is no directory of the pack. -/
theorem not_packLocal_empty (root : Directory) : ¬PackLocal root "" :=
  fun ⟨_, hdir, _⟩ => nomatch hdir

/-- **What is accepted is local to the pack** exactly when no component is empty and each of them
stays inside its directory by count. -/
theorem accepted_packLocal_iff {contract : List String × Option String × List String}
    (h : parseDynamicContract dynamic label = .ok contract) :
    (∀ root, ∀ component ∈ components dynamic, PackLocal root component) ↔
      ∀ component ∈ components dynamic,
        component ≠ "" ∧ StaysInside (stepsOf component) := by
  have hadmitted := isOrigin_of_parse h
  constructor
  · intro hlocal component hmem
    have hne : component ≠ "" := by
      rintro rfl
      exact not_packLocal_empty ⟨[], fun _ hname => absurd hname List.not_mem_nil⟩
        (hlocal _ "" hmem)
    refine ⟨hne, (packLocal_iff_staysInside ((hadmitted component hmem).resolve_left hne)).mp ?_⟩
    exact fun root => hlocal root component hmem
  · intro hstays root component hmem
    obtain ⟨hne, hbelow⟩ := hstays component hmem
    exact (packLocal_iff_staysInside ((hadmitted component hmem).resolve_left hne)).mpr hbelow root

/-- A component that stays below, and one that leaves by as many names as it has come back to. -/
theorem accepted_packLocal_iff_lib :
    (components "(RUNPATH) Library runpath: [$ORIGIN/lib:$ORIGIN/$ORIGIN/../..$ORIGIN]").length = 2 ∧
      ∀ root, ∀ component ∈ components
        "(RUNPATH) Library runpath: [$ORIGIN/lib:$ORIGIN/$ORIGIN/../..$ORIGIN]",
          PackLocal root component := by
  refine ⟨by decide, (accepted_packLocal_iff (show parseDynamicContract
    "(RUNPATH) Library runpath: [$ORIGIN/lib:$ORIGIN/$ORIGIN/../..$ORIGIN]" "adapter" =
      .ok ([], none, ["$ORIGIN/lib", "$ORIGIN/$ORIGIN/../..$ORIGIN"]) by decide)).mpr ?_⟩
  have hcomponents : components
      "(RUNPATH) Library runpath: [$ORIGIN/lib:$ORIGIN/$ORIGIN/../..$ORIGIN]" =
        ["$ORIGIN/lib", "$ORIGIN/$ORIGIN/../..$ORIGIN"] := by decide
  rw [hcomponents, List.forall_mem_cons, List.forall_mem_singleton]
  refine ⟨⟨by decide, fun names _ => ?_⟩, by decide, fun names hnames => ?_⟩
  · have hsteps : stepsOf "$ORIGIN/lib" = [.literal "", .root "", .literal "lib"] := by decide
    simp [hsteps, depthOf, Depth.visit]
  · have hsteps : stepsOf "$ORIGIN/$ORIGIN/../..$ORIGIN" =
        [.literal "", .root "", .literal "", .root "", .literal "..", .literal "..", .root ""] := by
      decide
    simp [hsteps, depthOf, Depth.visit]
    omega

/-- **A component that climbs is accepted**, and so is an empty one. -/
theorem accepted_not_packLocal :
    parseDynamicContract "(RUNPATH) Library runpath: [$ORIGIN:$ORIGIN/../outside:]" "adapter" =
        .ok ([], none, ["$ORIGIN", "$ORIGIN/../outside"]) ∧
      components "(RUNPATH) Library runpath: [$ORIGIN:$ORIGIN/../outside:]" =
        ["$ORIGIN", "$ORIGIN/../outside", ""] ∧
      ¬PackLocal ⟨["opt", "pack"], by decide⟩ "$ORIGIN/../outside" ∧
      ¬PackLocal ⟨["opt", "pack"], by decide⟩ "" := by
  refine ⟨by decide, by decide, ?_, not_packLocal_empty _⟩
  rintro ⟨dir, hdir, hroot⟩
  have hdenoted : denoted ⟨["opt", "pack"], by decide⟩ "$ORIGIN/../outside" =
      some ["opt", "outside"] := by decide
  obtain rfl := Option.some.inj (hdenoted.symm.trans hdir)
  exact absurd hroot (by decide)

end Kapsl.Ort.RuntimePaths
