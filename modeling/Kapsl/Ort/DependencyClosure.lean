import Mathlib.Data.Finset.Sort
import Mathlib.Data.List.AList
import Mathlib.Data.String.Basic
import Kapsl.Lib.Except
import Kapsl.Lib.Frontier

/-!
# Ort/DependencyClosure — the libraries an accelerator pack has to ship

`resolve_dependency_closure` follows the dependencies of the root libraries through the candidates
that were collected for a pack, leaving out the libraries the host provides.  The relation it
follows may have cycles.  Each turn of its loop is a step of a walk (`Frontier.Walk`), so what it
returns is what the roots reach, and it raises exactly when something they reach is no candidate
(`resolveDependencyClosure_exact`).
-/

namespace Kapsl.Ort.DependencyClosure

/-- `PackageError`. -/
structure PackageError where
  message : String
  deriving DecidableEq

/-- A shared object that may go into the pack. -/
structure CandidateLibrary where
  path : String
  origin : String
  sha256 : String
  deriving DecidableEq

/-- The candidates by basename. -/
abbrev Candidates := AList fun _ : String => CandidateLibrary

/-! ## Libraries of the host -/

/-- `ALLOWED_SYSTEM_LIBRARIES`. -/
def allowedSystemLibraries : List String :=
  ["ld-linux-x86-64.so.2", "libatomic.so.1", "libc.so.6", "libdl.so.2", "libgcc_s.so.1",
    "libgomp.so.1", "libm.so.6", "libpthread.so.0", "libresolv.so.2", "librt.so.1",
    "libstdc++.so.6", "libutil.so.1"]

/-- `(?:\..*)?` up to the end of the name; a dot of the pattern matches no line feed. -/
def matchesSuffix : List Char → Bool
  | [] => true
  | c :: rest => c == '.' && !rest.contains '\n'

/-- `\.so(?:\..*)?` up to the end of the name. -/
def matchesVersion : List Char → Bool
  | '.' :: 's' :: 'o' :: rest => matchesSuffix rest
  | _ => false

/-- `[^/]+\.so(?:\..*)?` up to the end of the name. -/
def matchesModule : List Char → Bool
  | [] => false
  | c :: rest => c != '/' && (matchesVersion rest || matchesModule rest)

/-- The name starts with the literal, and what follows it passes the test. -/
def matchesAfter (literal : String) (test : List Char → Bool) (name : List Char) : Bool :=
  literal.toList.isPrefixOf name && test (name.drop literal.length)

/-- `is_driver_library`: `DRIVER_LIBRARY` matches the whole name. -/
def isDriverLibrary (name : String) : Bool :=
  matchesAfter "libcuda" matchesVersion name.toList ||
    matchesAfter "libnvidia-" matchesModule name.toList

/-- `is_host_library`. -/
def isHostLibrary (name : String) : Bool :=
  allowedSystemLibraries.contains name || isDriverLibrary name

example : isHostLibrary "libcuda.so.1" ∧ isHostLibrary "libnvidia-ml.so.1" ∧
    isHostLibrary "libc.so.6" ∧ ¬isHostLibrary "libcudart.so.12" ∧
    ¬isHostLibrary "libnvidia-.so" := by decide

/-! ## The closure -/

section

variable (candidates : Candidates) (neededLibraries : CandidateLibrary → List String)

/-- The dependency is followed: the host does not provide it, and it was not selected before. -/
def Followed (selected : Finset String) (dependency : String) : Prop :=
  ¬isHostLibrary dependency ∧ dependency ∉ selected

instance (selected : Finset String) : DecidablePred (Followed selected) :=
  fun dependency => inferInstanceAs
    (Decidable (¬isHostLibrary dependency ∧ dependency ∉ selected))

/-- One turn of the loop over the dependencies of `name`; the top of the stack of pending names is
the head of the list. -/
def pushDependency (selected : Finset String) (name : String) (pending : List String)
    (dependency : String) : Except PackageError (List String) :=
  if ¬Followed selected dependency then
    pure pending
  else if dependency ∉ candidates then
    throw ⟨s!"{name} requires unpackaged user-space library {dependency}"⟩
  else
    pure (dependency :: pending)

/-- `sorted(set(names), reverse=True)`. -/
def sortedDescending (names : Finset String) : List String := names.sort (· ≥ ·)

/-- The candidates that were not selected yet. -/
def unselected (selected : Finset String) : Finset String := candidates.keys.toFinset \ selected

theorem card_unselected_insert {selected : Finset String} {name : String} {c : CandidateLibrary}
    (hname : name ∉ selected) (hc : candidates.lookup name = some c) :
    (unselected candidates (insert name selected)).card <
      (unselected candidates selected).card := by
  have hkey : name ∈ candidates := AList.lookup_isSome.mp (by rw [hc]; rfl)
  refine Finset.card_lt_card ⟨?_, fun hsub => ?_⟩
  · exact Finset.sdiff_subset_sdiff le_rfl (Finset.subset_insert name selected)
  · have hmem : name ∈ unselected candidates selected :=
      Finset.mem_sdiff.mpr ⟨List.mem_toFinset.mpr hkey, hname⟩
    exact (Finset.mem_sdiff.mp (hsub hmem)).2 (Finset.mem_insert_self name selected)

/-- The loop of `resolve_dependency_closure`.  A turn either selects a candidate or takes a name off
the stack, so the loop ends. -/
def resolvePending (selected : Finset String) : List String → Except PackageError (Finset String)
  | [] => pure selected
  | name :: pending =>
    if _hname : name ∈ selected then
      resolvePending selected pending
    else
      match _hcandidate : candidates.lookup name with
      | none => throw ⟨s!"runtime dependency closure is missing {name}"⟩
      | some candidate => do
        let pending ← (sortedDescending (neededLibraries candidate).toFinset).foldlM
          (pushDependency candidates (insert name selected) name) pending
        resolvePending (insert name selected) pending
termination_by pending => ((unselected candidates selected).card, pending.length)
decreasing_by
  · exact Prod.Lex.right _ (Nat.lt_succ_self _)
  · exact Prod.Lex.left _ _ (card_unselected_insert candidates _hname _hcandidate)

/-- `resolve_dependency_closure`. -/
def resolveDependencyClosure (roots : Finset String) : Except PackageError (Finset String) :=
  resolvePending candidates neededLibraries ∅ (sortedDescending roots).reverse

end

/-! ## What the loop over the dependencies pushes -/

section

variable {candidates : Candidates} {selected : Finset String} {name : String}

theorem pushDependency_of_not_followed {pending : List String} {d : String}
    (hd : ¬Followed selected d) :
    pushDependency candidates selected name pending d = .ok pending := if_pos hd

theorem pushDependency_of_candidate {pending : List String} {d : String}
    (hd : Followed selected d) (hc : d ∈ candidates) :
    pushDependency candidates selected name pending d = .ok (d :: pending) := by
  rw [pushDependency, if_neg (not_not_intro hd), if_neg (not_not_intro hc)]
  rfl

theorem pushDependency_of_missing {pending : List String} {d : String}
    (hd : Followed selected d) (hc : d ∉ candidates) :
    ∃ e, pushDependency candidates selected name pending d = .error e := by
  rw [pushDependency, if_neg (not_not_intro hd), if_pos hc]
  exact ⟨_, rfl⟩

/-- **The loop over the dependencies** pushes those that are followed, once each of them is known
to be a candidate. -/
theorem foldlM_pushDependency_eq_ok {dependencies pending pushed : List String} :
    dependencies.foldlM (pushDependency candidates selected name) pending = .ok pushed ↔
      (∀ d ∈ dependencies, Followed selected d → d ∈ candidates) ∧
        pushed = (dependencies.filter (Followed selected ·)).reverse ++ pending := by
  induction dependencies generalizing pending with
  | nil =>
    rw [List.foldlM_nil, Except.pure_eq_ok]
    exact ⟨fun h => ⟨fun d hd => absurd hd List.not_mem_nil, h.symm⟩, fun h => h.2.symm⟩
  | cons d dependencies ih =>
    rw [List.foldlM_cons, List.forall_mem_cons]
    by_cases hd : Followed selected d
    · by_cases hc : d ∈ candidates
      · rw [pushDependency_of_candidate hd hc]
        change List.foldlM _ (d :: pending) dependencies = _ ↔ _
        simp [ih, hd, hc]
      · obtain ⟨e, he⟩ := pushDependency_of_missing hd hc
        rw [he]
        exact ⟨nofun, fun h => absurd (h.1.1 hd) hc⟩
    · rw [pushDependency_of_not_followed hd]
      change List.foldlM _ pending dependencies = _ ↔ _
      simp [ih, hd]

/-- What makes it raise. -/
theorem foldlM_pushDependency_eq_error {dependencies pending : List String} {e : PackageError}
    (h : dependencies.foldlM (pushDependency candidates selected name) pending = .error e) :
    ∃ d ∈ dependencies, Followed selected d ∧ d ∉ candidates := by
  by_contra! hnone
  exact nomatch h.symm.trans (foldlM_pushDependency_eq_ok.mpr ⟨hnone, rfl⟩)

theorem mem_sortedDescending {names : Finset String} {d : String} :
    d ∈ sortedDescending names ↔ d ∈ names := Finset.mem_sort _

end

/-! ## The closure is what the roots reach -/

section

variable (candidates : Candidates) (neededLibraries : CandidateLibrary → List String)

/-- `name` is a candidate that needs `dependency`, which the host does not provide. -/
def Requires (name dependency : String) : Prop :=
  ∃ candidate, candidates.lookup name = some candidate ∧
    dependency ∈ neededLibraries candidate ∧ ¬isHostLibrary dependency

/-- A library is missing: a root, or a library that something reachable requires. -/
def Missing (roots : Finset String) : Prop :=
  (∃ root ∈ roots, root ∉ candidates) ∨
    ∃ name dependency, Frontier.Reachable (Requires candidates neededLibraries) roots name ∧
      Requires candidates neededLibraries name dependency ∧ dependency ∉ candidates

variable {candidates : Candidates} {neededLibraries : CandidateLibrary → List String}
variable {roots selected : Finset String} {name : String} {candidate : CandidateLibrary}

theorem requires_iff (hlookup : candidates.lookup name = some candidate) {dependency : String} :
    Requires candidates neededLibraries name dependency ↔
      dependency ∈ neededLibraries candidate ∧ ¬isHostLibrary dependency := by
  constructor
  · rintro ⟨other, hother, hrequires⟩
    obtain rfl := Option.some.inj (hother.symm.trans hlookup)
    exact hrequires
  · exact fun h => ⟨candidate, hlookup, h⟩

/-- A reachable library that is no candidate is missing. -/
theorem Missing.of_reachable
    (hname : Frontier.Reachable (Requires candidates neededLibraries) roots name)
    (hcandidate : name ∉ candidates) : Missing candidates neededLibraries roots := by
  obtain ⟨root, hroot, hpath⟩ := hname
  rcases Relation.ReflTransGen.cases_tail hpath with rfl | ⟨parent, hparent, hrequires⟩
  · exact .inl ⟨name, hroot, hcandidate⟩
  · exact .inr ⟨parent, name, ⟨root, hroot, hparent⟩, hrequires, hcandidate⟩

/-- The walk from the roots, with these names on its stack. -/
abbrev UnderWay (candidates : Candidates) (neededLibraries : CandidateLibrary → List String)
    (roots selected : Finset String) (pending : List String) : Prop :=
  Frontier.Walk (Requires candidates neededLibraries) roots selected pending

/-- Selecting a candidate pushes the libraries it needs that are followed. -/
theorem UnderWay.select {pending : List String}
    (h : UnderWay candidates neededLibraries roots selected (name :: pending))
    (hlookup : candidates.lookup name = some candidate) :
    UnderWay candidates neededLibraries roots (insert name selected)
      (((sortedDescending (neededLibraries candidate).toFinset).filter
        (Followed (insert name selected) ·)).reverse ++ pending) := by
  have hpushed : ∀ d, d ∈ ((sortedDescending (neededLibraries candidate).toFinset).filter
      (Followed (insert name selected) ·)).reverse ↔
        d ∈ neededLibraries candidate ∧ Followed (insert name selected) d := by
    simp [mem_sortedDescending]
  refine h.visit (fun d hd => ?_) fun d hd => ?_
  · obtain ⟨hneeded, hfollowed⟩ := (hpushed d).mp hd
    exact (requires_iff hlookup).mpr ⟨hneeded, hfollowed.1⟩
  · obtain ⟨hneeded, hhost⟩ := (requires_iff hlookup).mp hd
    by_cases hsel : d ∈ insert name selected
    · exact .inl hsel
    · exact .inr ((hpushed d).mpr ⟨hneeded, hhost, hsel⟩)

/-- What the loop guarantees of the way it ends. -/
def Ends (candidates : Candidates) (neededLibraries : CandidateLibrary → List String)
    (roots : Finset String) : Except PackageError (Finset String) → Prop
  | .ok selected => (∀ name, name ∈ selected ↔
      Frontier.Reachable (Requires candidates neededLibraries) roots name) ∧
        ∀ name ∈ selected, name ∈ candidates
  | .error _ => Missing candidates neededLibraries roots

/-- **Every run of the loop ends as the search does.** -/
theorem resolvePending_ends {pending : List String}
    (h : UnderWay candidates neededLibraries roots selected pending)
    (hcandidates : ∀ name ∈ selected, name ∈ candidates) :
    Ends candidates neededLibraries roots
      (resolvePending candidates neededLibraries selected pending) := by
  fun_induction resolvePending candidates neededLibraries selected pending with
  | case1 selected => exact ⟨fun name => h.exact, hcandidates⟩
  | case2 selected name pending hname ih => exact ih (h.skip hname) hcandidates
  | case3 selected name pending hname hlookup =>
    exact Missing.of_reachable h.reachable_top (AList.lookup_eq_none.mp hlookup)
  | case4 selected name pending hname candidate hlookup ih =>
    have hkey : name ∈ candidates := AList.lookup_isSome.mp (by rw [hlookup]; rfl)
    have hsub : ∀ d ∈ insert name selected, d ∈ candidates :=
      Finset.forall_mem_insert _ _ _ |>.mpr ⟨hkey, hcandidates⟩
    cases hloop : (sortedDescending (neededLibraries candidate).toFinset).foldlM
        (pushDependency candidates (insert name selected) name) pending with
    | error e =>
      obtain ⟨d, hd, hfollowed, hmissing⟩ := foldlM_pushDependency_eq_error hloop
      rw [mem_sortedDescending, List.mem_toFinset] at hd
      refine Missing.of_reachable (h.reachable_top.tail ?_) hmissing
      exact (requires_iff hlookup).mpr ⟨hd, hfollowed.1⟩
    | ok pushed =>
      obtain rfl := (foldlM_pushDependency_eq_ok.mp hloop).2
      exact ih _ (h.select hlookup) hsub

/-- The first turn starts the search. -/
theorem resolveDependencyClosure_ends :
    Ends candidates neededLibraries roots
      (resolveDependencyClosure candidates neededLibraries roots) := by
  refine resolvePending_ends (.start fun d => ?_) fun name hname =>
    absurd hname (Finset.notMem_empty name)
  rw [List.mem_reverse, mem_sortedDescending, Finset.mem_coe]

/-- What is reachable is a candidate, if nothing is missing. -/
theorem not_missing (hselected : ∀ name, Frontier.Reachable
    (Requires candidates neededLibraries) roots name → name ∈ candidates) :
    ¬Missing candidates neededLibraries roots := by
  rintro (⟨root, hroot, hmissing⟩ | ⟨name, dependency, hname, hrequires, hmissing⟩)
  · exact hmissing (hselected root (.root hroot))
  · exact hmissing (hselected dependency (hname.tail hrequires))

/-- **The order in which dependencies are listed does not matter**, nor how often one is listed. -/
theorem resolvePending_congr {neededLibraries' : CandidateLibrary → List String}
    (hneeded : ∀ candidate, (neededLibraries candidate).toFinset =
      (neededLibraries' candidate).toFinset) (pending : List String) :
    resolvePending candidates neededLibraries selected pending =
      resolvePending candidates neededLibraries' selected pending := by
  fun_induction resolvePending candidates neededLibraries selected pending with
  | case1 selected => rw [resolvePending]
  | case2 selected name pending hname ih => rw [resolvePending, dif_pos hname, ih]
  | case3 selected name pending hname hlookup =>
    rw [resolvePending, dif_neg hname]
    split
    · rfl
    · next candidate hcandidate => exact nomatch hlookup.symm.trans hcandidate
  | case4 selected name pending hname candidate hlookup ih =>
    rw [resolvePending, dif_neg hname]
    split
    · next hnone => exact nomatch hlookup.symm.trans hnone
    · next candidate' hcandidate =>
      obtain rfl := Option.some.inj (hlookup.symm.trans hcandidate)
      rw [hneeded]
      exact bind_congr fun pushed => ih pushed

end

/-- **The closure is exact** — the search raises when a root, or a library that something reachable
requires, is no candidate, and otherwise returns what the roots reach; it always ends, and the order
in which dependencies are listed does not change what it does. -/
theorem resolveDependencyClosure_exact (candidates : Candidates)
    (neededLibraries : CandidateLibrary → List String) (roots : Finset String) :
    ((∃ e, resolveDependencyClosure candidates neededLibraries roots = .error e) ↔
        Missing candidates neededLibraries roots) ∧
      (∀ selected, resolveDependencyClosure candidates neededLibraries roots = .ok selected →
        ∀ name, name ∈ selected ↔
          Frontier.Reachable (Requires candidates neededLibraries) roots name) ∧
      ∀ neededLibraries' : CandidateLibrary → List String,
        (∀ candidate name, name ∈ neededLibraries' candidate ↔ name ∈ neededLibraries candidate) →
          resolveDependencyClosure candidates neededLibraries' roots =
            resolveDependencyClosure candidates neededLibraries roots := by
  have hends : Ends candidates neededLibraries roots _ := resolveDependencyClosure_ends
  refine ⟨⟨?_, ?_⟩, ?_, ?_⟩
  · rintro ⟨e, he⟩
    rwa [he] at hends
  · intro hmissing
    cases hresult : resolveDependencyClosure candidates neededLibraries roots with
    | error e => exact ⟨e, rfl⟩
    | ok selected =>
      rw [hresult] at hends
      exact absurd hmissing (not_missing fun name hname =>
        hends.2 name ((hends.1 name).mpr hname))
  · intro selected hresult
    rw [hresult] at hends
    exact hends.1
  · intro neededLibraries' hneeded
    exact resolvePending_congr (fun candidate => by ext name; simp [hneeded]) _

end Kapsl.Ort.DependencyClosure
