import Kapsl.Lib.Attempt
import Kapsl.Lib.Patches
import Kapsl.Vllm.Python

/-!
# Vllm/HookPatches — the hook takes over vLLM's functions and gives them back

`VllmSharedPoolHook` binds `allocate_kv_cache` in up to three modules, and `warmup_kernels` in two,
to functions of its own; `shutdown` gives back what is still bound to them, and a constructor that
fails half-way does the same.  A module may define the name, import it from the module that defines
it, lack it, or fail to import; importing it binds the name in no other module.  One that was loaded
before the hook counts as defining what it is bound to.  A module that imports the name after the
hook has replaced it gets the hook's function, and the record then keeps the canonical one.

* `hook_lifecycle` — a constructor that raises leaves every name as plain imports would; one that
  returns has taken over exactly the supported functions, and `shutdown` gives each back that
  nobody else has bound since.
-/

namespace Kapsl.Vllm.HookPatches

open Attempt Patches

abbrev ModuleName := String

/-- `_MODULES`. -/
def modules : List ModuleName :=
  ["vllm.v1.worker.utils", "vllm.v1.worker.gpu_model_runner", "vllm.v1.worker.gpu.attn_utils"]

/-- `_WARMUP_MODULES`. -/
def warmupModules : List ModuleName := ["vllm.v1.worker.gpu.warmup", "vllm.v1.worker.gpu_worker"]

/-- The module that defines `allocate_kv_cache`. -/
def workerUtils : ModuleName := "vllm.v1.worker.utils"

/-- The module that defines `warmup_kernels`. -/
def gpuWarmup : ModuleName := "vllm.v1.worker.gpu.warmup"

/-- What importing a module does to the name that the hook looks for. -/
inductive Import (ω : Type)
  /-- `ImportError`. -/
  | unavailable
  /-- Another exception. -/
  | raises (error : PyError)
  | absent
  | own (function : ω)
  /-- The name is imported from the module that defines it. -/
  | reexports

/-- An installed vLLM: its modules, and the functions in them. -/
structure Build (ω : Type) where
  allocators : ModuleName → Import ω
  warmups : ModuleName → Import ω
  callable : ω → Bool
  /-- The names of `inspect.signature(function).parameters`. -/
  parameters : ω → Except PyError (List String)

variable {ω : Type}

/-- The table after an import that the module survives; `inject` reads a function as an entry. -/
def load {α : Type} (inject : ω → α) (definer : ModuleName) (table : ModuleName → Option α)
    (name : ModuleName) : Import ω → ModuleName → Option α
  | .unavailable | .raises _ => table
  | .absent => Function.update table name none
  | .own function => Function.update table name (some (inject function))
  | .reexports => Function.update table name (table definer)

/-- What plain imports leave. -/
def importAll (definer : ModuleName) (imports : ModuleName → Import ω)
    (table : ModuleName → Option ω) (names : List ModuleName) : ModuleName → Option ω :=
  names.foldl (fun table name => load id definer table name (imports name)) table

/-- The hook, with the names it may take over. -/
structure Hook (ω : Type) where
  allocators : Bindings ModuleName ω
  warmups : Bindings ModuleName ω
  patches : List (ModuleName × Object ω)
  warmupPatches : List (ModuleName × Object ω)
  /-- `_worker_utils` is set. -/
  workerUtils : Bool
  /-- `_buffer.release()` was called. -/
  released : Bool

section Code

variable [DecidableEq ω]

/-- `shutdown`. -/
def shutdown (hook : Hook ω) : Hook ω :=
  { hook with
    warmups := undo hook.warmups hook.warmupPatches.reverse
    warmupPatches := []
    allocators := undo hook.allocators hook.patches.reverse
    patches := []
    released := true }

abbrev Installing (ω α : Type) := Attempt PyError (Hook ω) α

/-- `repr` of a list of identifiers. -/
def reprNames (names : List String) : String :=
  "[" ++ ", ".intercalate (names.map fun name => s!"'{name}'") ++ "]"

variable (build : Build ω)

/-- `callable`; the hook's own functions are. -/
def isCallable : Object ω → Bool
  | .theirs function => build.callable function
  | .ours => true

/-- The parameters of an allocator; those of `_allocate_kv_cache` are known. -/
def allocatorParameters : Object ω → Except PyError (List String)
  | .theirs function => build.parameters function
  | .ours => .ok ["kv_cache_config", "device", "layout", "kernel_block_sizes"]

/-- The check of an allocator's signature. -/
def Supported (parameters : List String) : Prop :=
  parameters.take 3 = ["kv_cache_config", "device", "layout"] ∧
    ∀ parameter ∈ parameters,
      parameter ∈ ["kv_cache_config", "device", "layout", "kernel_block_sizes"]

instance (parameters : List String) : Decidable (Supported parameters) :=
  inferInstanceAs (Decidable (_ ∧ _))

/-- The record of a patch, and the setting of the attribute. -/
def patchAllocator (name : ModuleName) (original : Object ω) (hook : Hook ω) : Hook ω :=
  { hook with
    workerUtils := hook.workerUtils || name = workerUtils
    patches := hook.patches ++ [(name, original)]
    allocators := bind hook.allocators name (some .ours) }

/-- The turn of `_install` on a module that was imported; it answers with `canonical_allocator`. -/
def patchModule (canonical : Option (Object ω)) (name : ModuleName) :
    Option (Object ω) → Installing ω (Option (Object ω))
  | none => pure canonical
  | some allocator =>
    if isCallable build allocator then do
      let parameters ← lift (allocatorParameters build allocator)
      failIf (¬Supported parameters) (.sharedPoolImportError
        s!"unsupported vLLM allocate_kv_cache signature in {name}: {reprNames parameters}")
      let canonical := if name = workerUtils then some allocator else canonical
      let original := if allocator = .ours then canonical.getD allocator else allocator
      update (patchAllocator name original)
      return canonical
    else pure canonical

/-- The loop of `_install` over the modules. -/
def installModules (canonical : Option (Object ω)) : List ModuleName → Installing ω Unit
  | [] => pure ()
  | name :: names =>
    match build.allocators name with
    | .unavailable => installModules canonical names
    | .raises error => throw error
    | found => do
      update fun hook =>
        { hook with allocators := load .theirs workerUtils hook.allocators name found }
      let allocator ← ask (·.allocators name)
      let canonical ← patchModule build canonical name allocator
      installModules canonical names

/-! ## The startup warmup -/

/-- `expected_parameters`. -/
def expectedParameters : List String :=
  ["model_runner", "worker_execute_model", "worker_sample_tokens"]

/-- The parameters of a warmup; `functools.wraps` keeps those of what it wraps. -/
def warmupParameters : Object ω → Except PyError (List String)
  | .theirs function => build.parameters function
  | .ours => .ok expectedParameters

/-- The turn of the first loop of `_install_startup_warmup_cap` on a module that was imported; it
answers with `original`. -/
def checkWarmup (original : Option (Object ω)) (name : ModuleName) :
    Option (Object ω) → Installing ω (Object ω)
  | none => throw (.sharedPoolImportError
      s!"this vLLM build has no callable {name}.warmup_kernels")
  | some candidate => do
    failIf (¬isCallable build candidate) (.sharedPoolImportError
      s!"this vLLM build has no callable {name}.warmup_kernels")
    let parameters ← lift (warmupParameters build candidate)
    failIf (parameters ≠ expectedParameters) (.sharedPoolImportError
      s!"unsupported vLLM warmup_kernels signature in {name}: {reprNames parameters}")
    failIf (original.any (· ≠ candidate)) (.sharedPoolImportError
      "vLLM startup warmup references do not share one pinned function")
    return original.getD candidate

/-- The first loop of `_install_startup_warmup_cap`. -/
def checkWarmups (original : Option (Object ω)) :
    List ModuleName → Installing ω (Option (Object ω))
  | [] => pure original
  | name :: names =>
    match build.warmups name with
    | .unavailable => throw (.sharedPoolImportError
        s!"this vLLM build has no certified startup warmup module {name}")
    | .raises error => throw error
    | found => do
      update fun hook => { hook with warmups := load .theirs gpuWarmup hook.warmups name found }
      let candidate ← ask (·.warmups name)
      let original ← checkWarmup build original name candidate
      checkWarmups (some original) names

/-- A turn of the second loop. -/
def patchWarmup (original : Object ω) (hook : Hook ω) (name : ModuleName) : Hook ω :=
  { hook with
    warmupPatches := hook.warmupPatches ++ [(name, original)]
    warmups := bind hook.warmups name (some .ours) }

/-- `_install_startup_warmup_cap`. -/
def installWarmupCap : Installing ω Unit := do
  let original ← checkWarmups build none warmupModules
  match original with
  | none => throw (.sharedPoolImportError "vLLM startup warmup function is unavailable")
  | some original => update fun hook => warmupModules.foldl (patchWarmup original) hook

/-! ## The constructor -/

/-- The check after the loop of `_install`. -/
def requireHook (hook : Hook ω) : Installing ω Unit :=
  if !hook.workerUtils ∨ hook.patches = [] then do
    update shutdown
    throw (.sharedPoolImportError "this vLLM build has no supported packed KV allocation hook")
  else pure ()

/-- `_install`; `startupMapped` is set for an elastic pool. -/
def install (startupMapped : Option ℕ) (maximum : ℕ) : Installing ω Unit := do
  installModules build none modules
  let hook ← ask id
  requireHook hook
  if startupMapped.any (· < maximum) then installWarmupCap build else pure ()

/-- The end of the constructor. -/
def construct (startupMapped : Option ℕ) (maximum : ℕ) : Installing ω Unit :=
  tryCatch (install build startupMapped maximum) fun error => do
    update shutdown
    throw error

end Code

variable (build : Build ω)

/-- A hook before `_install`. -/
def Hook.initial (allocators warmups : ModuleName → Option ω) : Hook ω where
  allocators := unpatched allocators
  warmups := unpatched warmups
  patches := []
  warmupPatches := []
  workerUtils := false
  released := false

/-! ## The allocators -/

theorem importAll_of_notMem {definer : ModuleName} {imports : ModuleName → Import ω}
    {names : List ModuleName} {name : ModuleName} (h : name ∉ names)
    (table : ModuleName → Option ω) : importAll definer imports table names name = table name := by
  induction names generalizing table with
  | nil => rfl
  | cons first names ih =>
    rw [List.mem_cons, not_or] at h
    rw [importAll, List.foldl_cons]
    refine (ih h.2 _).trans ?_
    rcases imports first with _ | _ | _ | _ | _
    · rfl
    · rfl
    all_goals exact Function.update_of_ne h.1 ..

/-- What `canonical_allocator` is: the function that the defining module has without the hook, once
it was taken over. -/
inductive Canonical (was : ModuleName → Option ω) (hook : Hook ω) : Option (Object ω) → Prop
  | unset (h : workerUtils ∉ hook.patches.map Prod.fst) : Canonical was hook none
  | set {function : ω} (hwas : was workerUtils = some function)
    (hcallable : build.callable function = true) (h : workerUtils ∈ hook.patches.map Prod.fst) :
    Canonical was hook (some (.theirs function))

/-- **The loop so far**: the allocators are those of plain imports but for the patches, the defining
module is known when it was taken over, and nothing else of the hook has changed. -/
structure Progress (hook₀ : Hook ω) (was : ModuleName → Option ω) (hook : Hook ω) : Prop where
  patched : Patched was hook.allocators hook.patches
  utils : hook.workerUtils = true ↔ workerUtils ∈ hook.patches.map Prod.fst
  warmups : hook.warmups = hook₀.warmups
  warmupPatches : hook.warmupPatches = hook₀.warmupPatches

variable {build} {hook₀ hook : Hook ω} {was : ModuleName → Option ω}
  {canonical : Option (Object ω)} {name : ModuleName}

/-- **What an import does**, with and without the hook: the same, or the name was imported from the
defining module after that had been taken over. -/
theorem load_cases (hpatched : Patched was hook.allocators hook.patches)
    (hcanonical : Canonical build was hook canonical) (hname : name ∉ hook.patches.map Prod.fst)
    {found : Import ω} (hfound : found ≠ .unavailable ∧ ∀ error, found ≠ .raises error) :
    ∃ object, load id workerUtils was name found = Function.update was name object ∧
      (load .theirs workerUtils hook.allocators name found =
          bind hook.allocators name (object.map .theirs) ∨
        load .theirs workerUtils hook.allocators name found =
            bind hook.allocators name (some .ours) ∧
          ∃ function, object = some function ∧ build.callable function = true ∧
            canonical = some (.theirs function) ∧ name ≠ workerUtils) := by
  rcases found with _ | error | _ | function | _
  · exact absurd rfl hfound.1
  · exact absurd rfl (hfound.2 error)
  · exact ⟨none, rfl, .inl rfl⟩
  · exact ⟨some function, rfl, .inl rfl⟩
  · refine ⟨was workerUtils, rfl, ?_⟩
    rcases hcanonical with hfree | ⟨hwas, hcallable, htaken⟩
    · left
      rw [load, hpatched.frame _ hfree]
      rfl
    · right
      obtain ⟨-, -, -, hours⟩ := hpatched.exists_of_mem htaken
      refine ⟨by rw [load, hours]; rfl, _, hwas, hcallable, rfl, ?_⟩
      rintro rfl
      exact hname htaken

/-- A patch over an import. -/
theorem Progress.patch (h : Progress hook₀ was hook)
    (hname : name ∉ hook.patches.map Prod.fst) (function : ω)
    {allocators : Bindings ModuleName ω} {entry : Option (Object ω)}
    (hallocators : allocators = bind hook.allocators name entry) :
    Progress hook₀ (Function.update was name (some function))
      (patchAllocator name (.theirs function) { hook with allocators }) where
  patched := by
    have hpatched := (h.patched.rebind hname (some function)).patch hname
      (Function.update_self name (some function) was)
    subst hallocators
    show Patched _ (bind (bind hook.allocators name entry) name (some .ours)) _
    rw [Patches.bind, Patches.bind, Function.update_idem] at hpatched ⊢
    exact hpatched
  utils := by
    rw [patchAllocator, List.map_append, List.mem_append, List.map_singleton, List.mem_singleton,
      Bool.or_eq_true, h.utils, decide_eq_true_iff, eq_comm (a := name)]
  warmups := h.warmups
  warmupPatches := h.warmupPatches

/-- An import that brought no function to take over. -/
theorem Progress.load (h : Progress hook₀ was hook) (hname : name ∉ hook.patches.map Prod.fst)
    (object : Option ω) :
    Progress hook₀ (Function.update was name object)
      { hook with allocators := bind hook.allocators name (object.map .theirs) } where
  patched := h.patched.rebind hname object
  utils := h.utils
  warmups := h.warmups
  warmupPatches := h.warmupPatches

variable (build) in
/-- The function a module is left with, if it may be taken over. -/
def Takeable (was : ModuleName → Option ω) (name : ModuleName) : Prop :=
  ∃ function, was name = some function ∧ build.callable function = true

variable (build) in
/-- What one turn keeps: the names taken over are those before, and this one if it may be. -/
structure Turned (hook₀ hook : Hook ω) (was : ModuleName → Option ω) (name : ModuleName)
    (canonical : Option (Object ω)) (s : Hook ω) : Prop where
  progress : Progress hook₀ was s
  canonical : Canonical build was s canonical
  taken : ∀ k, k ∈ s.patches.map Prod.fst ↔
    k ∈ hook.patches.map Prod.fst ∨ k = name ∧ Takeable build was name

/-- An import of another name leaves the canonical function what it was. -/
theorem Canonical.update (h : Canonical build was hook canonical)
    (hname : name ∉ hook.patches.map Prod.fst) (object : Option ω) :
    Canonical build (Function.update was name object) hook canonical := by
  rcases h with hfree | ⟨hwas, hcallable, htaken⟩
  · exact .unset hfree
  · refine .set ?_ hcallable htaken
    rwa [Function.update_of_ne]
    rintro rfl
    exact hname htaken

/-- Nothing was taken over in this turn. -/
theorem turned_of_load (h : Progress hook₀ was hook)
    (hcanonical : Canonical build was hook canonical) (hname : name ∉ hook.patches.map Prod.fst)
    {object : Option ω}
    (hobject : ∀ function, object = some function → build.callable function = false) :
    Turned build hook₀ hook (Function.update was name object) name canonical
      { hook with allocators := bind hook.allocators name (object.map .theirs) } where
  progress := h.load hname object
  canonical := by
    rcases hcanonical.update hname object with hfree | ⟨hwas, hcallable, htaken⟩
    exacts [.unset hfree, .set hwas hcallable htaken]
  taken := by
    refine fun k => (or_iff_left ?_).symm
    rintro ⟨-, function, hfunction, hcallable⟩
    rw [Function.update_self] at hfunction
    exact Bool.false_ne_true ((hobject function hfunction).symm.trans hcallable)

theorem supported_ours : Supported
    ["kv_cache_config", "device", "layout", "kernel_block_sizes"] :=
  ⟨rfl, fun _ h => h⟩

/-- A function was taken over in this turn. -/
theorem turned_of_patch (h : Progress hook₀ was hook)
    (hcanonical : Canonical build was hook canonical) (hname : name ∉ hook.patches.map Prod.fst)
    {function : ω}
    (hcallable : build.callable function = true) {allocators : Bindings ModuleName ω}
    {entry : Option (Object ω)} (hallocators : allocators = bind hook.allocators name entry) :
    Turned build hook₀ hook (Function.update was name (some function)) name
      (if name = workerUtils then some (.theirs function) else canonical)
      (patchAllocator name (.theirs function) { hook with allocators }) where
  progress := h.patch hname function hallocators
  canonical := by
    have hkeys : ∀ k, k ∈ (patchAllocator name (.theirs function)
        { hook with allocators }).patches.map Prod.fst ↔
          k ∈ hook.patches.map Prod.fst ∨ k = name := by
      intro k
      rw [patchAllocator, List.map_append, List.mem_append, List.map_singleton, List.mem_singleton]
    split_ifs with hutils
    · subst hutils
      exact .set (Function.update_self ..) hcallable ((hkeys _).mpr (.inr rfl))
    · rcases hcanonical.update hname (some function) with hfree | ⟨hwas, hcall, htaken⟩
      · exact .unset fun hmem => ((hkeys _).mp hmem).elim hfree fun heq => hutils heq.symm
      · exact .set hwas hcall ((hkeys _).mpr (.inl htaken))
  taken := by
    intro k
    rw [patchAllocator, List.map_append, List.mem_append, List.map_singleton, List.mem_singleton]
    exact or_congr_right (and_iff_left ⟨function, Function.update_self .., hcallable⟩).symm

/-- **One turn of `_install`**, on a module that was imported: it raises with the import done and
nothing taken over, or it goes on with what it kept. -/
theorem patchModule_ends [DecidableEq ω] (h : Progress hook₀ was hook)
    (hcanonical : Canonical build was hook canonical) (hname : name ∉ hook.patches.map Prod.fst)
    {found : Import ω} (hfound : found ≠ .unavailable ∧ ∀ error, found ≠ .raises error) :
    Ends (patchModule build canonical name
        (load .theirs workerUtils hook.allocators name found name))
      { hook with allocators := load .theirs workerUtils hook.allocators name found }
      (fun canonical' s => Turned build hook₀ hook
        (load id workerUtils was name found) name canonical' s)
      (fun _ s => Progress hook₀ (load id workerUtils was name found) s) := by
  obtain ⟨object, hwas, hload | ⟨hload, function, rfl, hcallable, rfl, hutils⟩⟩ :=
    load_cases h.patched hcanonical hname hfound
  · rw [hwas, hload, Patches.bind, Function.update_self]
    rcases object with _ | function
    · exact Ends.pure (turned_of_load h hcanonical hname (by rintro _ ⟨⟩))
    · rw [Option.map_some, patchModule, isCallable]
      by_cases hcallable : build.callable function = true
      · rw [if_pos hcallable]
        refine Ends.bind_lift (fun parameters _ => ?_) fun _ _ => h.load hname (some function)
        refine Ends.bind_failIf (fun _ => ?_) fun _ => h.load hname (some function)
        exact Ends.bind_update (Ends.pure (turned_of_patch h hcanonical hname hcallable rfl))
      · rw [if_neg hcallable]
        refine Ends.pure (turned_of_load h hcanonical hname ?_)
        rintro _ ⟨⟩
        exact Bool.not_eq_true _ ▸ hcallable
  · rw [hwas, hload, Patches.bind, Function.update_self, patchModule, isCallable, if_pos rfl]
    refine Ends.bind_lift (fun parameters hparameters => ?_) (by rintro _ ⟨⟩)
    obtain rfl := Except.ok.inj hparameters
    refine Ends.bind_failIf (fun _ => ?_) fun hunsupported => absurd supported_ours hunsupported
    have hturned := turned_of_patch h hcanonical hname hcallable
      (rfl : bind hook.allocators name (some .ours) = _)
    rw [if_neg hutils] at hturned
    refine Ends.bind_update (Ends.pure ?_)
    rw [if_pos rfl, if_neg hutils]
    exact hturned

/-- A failed loop: the imports it got to, and what it had taken over by then. -/
def StoppedAt (hook₀ : Hook ω) (imports : ModuleName → Import ω) (was : ModuleName → Option ω)
    (names : List ModuleName) (s : Hook ω) : Prop :=
  ∃ visited, visited <+: names ∧ Progress hook₀ (importAll workerUtils imports was visited) s

variable (build) in
/-- Later imports leave a name alone. -/
theorem takeable_importAll {names : List ModuleName} (hname : name ∉ names)
    (table : ModuleName → Option ω) :
    Takeable build (importAll workerUtils build.allocators table names) name ↔
      Takeable build table name := by
  rw [Takeable, importAll_of_notMem hname, Takeable]

theorem StoppedAt.cons {imports : ModuleName → Import ω} {names : List ModuleName} {s : Hook ω}
    (h : StoppedAt hook₀ imports (load id workerUtils was name (imports name)) names s) :
    StoppedAt hook₀ imports was (name :: names) s := by
  obtain ⟨visited, hvisited, hprogress⟩ := h
  exact ⟨name :: visited, List.cons_prefix_cons.mpr ⟨rfl, hvisited⟩, hprogress⟩

variable (build) in
/-- What a completed loop leaves: every import is done, and the names taken over are those before
and those that may be. -/
structure Finished (hook₀ hook : Hook ω) (was : ModuleName → Option ω) (names : List ModuleName)
    (s : Hook ω) : Prop where
  progress : Progress hook₀ (importAll workerUtils build.allocators was names) s
  taken : ∀ k, k ∈ s.patches.map Prod.fst ↔ k ∈ hook.patches.map Prod.fst ∨
    k ∈ names ∧ build.allocators k ≠ .unavailable ∧
      Takeable build (importAll workerUtils build.allocators was names) k

/-- **The loop of `_install`**, by induction on the modules: the turn lemma carries it, and a module
that is unavailable is passed over. -/
theorem installModules_ends [DecidableEq ω] {names : List ModuleName} (hnodup : names.Nodup)
    (h : Progress hook₀ was hook) (hcanonical : Canonical build was hook canonical)
    (hnames : ∀ name ∈ names, name ∉ hook.patches.map Prod.fst) :
    Ends (installModules build canonical names) hook
      (fun _ s => Finished build hook₀ hook was names s)
      (fun _ s => StoppedAt hook₀ build.allocators was names s) := by
  induction names generalizing was hook canonical with
  | nil => exact Ends.pure ⟨h, fun k => by simp⟩
  | cons name names ih =>
    obtain ⟨hfresh, hnodup⟩ := List.nodup_cons.mp hnodup
    obtain ⟨hname, hrest⟩ := List.forall_mem_cons.mp hnames
    rw [installModules]
    split
    · next hunavailable =>
      have hload : load id workerUtils was name (build.allocators name) = was := by
        rw [hunavailable]
        rfl
      refine (ih hnodup h hcanonical hrest).mono (fun _ s hs => ⟨?_, fun k => ?_⟩)
        fun _ s hs => StoppedAt.cons (hload.symm ▸ hs)
      · rw [importAll, List.foldl_cons, hload]
        exact hs.progress
      · rw [hs.taken, importAll, importAll, List.foldl_cons, hload, List.mem_cons]
        refine or_congr_right ⟨fun hk => ⟨.inr hk.1, hk.2⟩, fun hk => ⟨hk.1.resolve_left ?_, hk.2⟩⟩
        rintro rfl
        exact hk.2.1 hunavailable
    · exact Ends.throw ⟨[], List.nil_prefix, h⟩
    · next hfound hraises =>
      refine Ends.bind_update (Ends.bind_ask (Ends.bind
        ((patchModule_ends h hcanonical hname ⟨hfound, hraises⟩).mono (fun _ _ hs => hs) ?_) ?_))
      · intro _ s hs
        exact ⟨[name], List.cons_prefix_cons.mpr ⟨rfl, List.nil_prefix⟩, hs⟩
      · intro canonical' s hs
        refine (ih hnodup hs.progress hs.canonical fun other hother hmem => ?_).mono
          (fun _ t ht => ⟨ht.progress, fun k => ?_⟩) fun _ t ht => StoppedAt.cons ht
        · rcases (hs.taken other).mp hmem with hmem | ⟨rfl, -⟩
          exacts [hrest other hother hmem, hfresh hother]
        · rw [ht.taken, hs.taken, or_assoc, List.mem_cons]
          have hsame := takeable_importAll build hfresh
            (load id workerUtils was name (build.allocators name))
          refine or_congr_right ⟨?_, ?_⟩
          · rintro (⟨rfl, htake⟩ | ⟨hmem, hleft⟩)
            exacts [⟨.inl rfl, hfound, hsame.mpr htake⟩, ⟨.inr hmem, hleft⟩]
          · rintro ⟨rfl | hmem, havailable, htake⟩
            exacts [.inl ⟨rfl, hsame.mp htake⟩, .inr ⟨hmem, havailable, htake⟩]

/-! ## The warmups -/

/-- An import among names that nobody has patched. -/
theorem load_unpatched {definer : ModuleName} (table : ModuleName → Option ω) (found : Import ω) :
    load .theirs definer (unpatched table) name found =
      unpatched (load id definer table name found) := by
  have hupdate : ∀ object : Option ω, Function.update (unpatched table) name
      (object.map .theirs) = unpatched (Function.update table name object) := by
    intro object
    funext k
    rw [unpatched]
    by_cases hk : k = name
    · subst hk
      rw [Function.update_self, Function.update_self]
    · rw [Function.update_of_ne hk, Function.update_of_ne hk, unpatched]
  rcases found with _ | error | _ | function | _
  · rfl
  · rfl
  · exact hupdate none
  · exact hupdate (some function)
  · exact hupdate (table definer)

/-- The check of one module changes nothing; the function it answers with is the candidate, and the
one it was given, if any. -/
theorem checkWarmup_ends [DecidableEq ω] (s : Hook ω) (original candidate : Option (Object ω)) :
    Ends (checkWarmup build original name candidate) s
      (fun found s' => s' = s ∧ candidate = some found ∧ (original ≠ none → original = some found))
      (fun _ s' => s' = s) := by
  rcases candidate with _ | candidate
  · exact Ends.throw rfl
  · rw [checkWarmup]
    refine Ends.bind_failIf (fun _ => ?_) fun _ => rfl
    refine Ends.bind_lift (fun _ _ => ?_) fun _ _ => rfl
    refine Ends.bind_failIf (fun _ => ?_) fun _ => rfl
    refine Ends.bind_failIf (fun hsame => Ends.pure ⟨rfl, ?_, ?_⟩) fun _ => rfl
    all_goals
      rcases original with _ | original
      · simp
      · have heq : original = candidate := by simpa using hsame
        simp [heq]

/-- The hook while the warmups are imported. -/
def Hook.importing (hook : Hook ω) (table : ModuleName → Option ω) : Hook ω :=
  { hook with warmups := unpatched table }

/-- **The first loop over the warmups**: nothing is taken over, and when it returns every module has
the function it answers with. -/
theorem checkWarmups_ends [DecidableEq ω] {names : List ModuleName} (hnodup : names.Nodup)
    (hook : Hook ω) (table : ModuleName → Option ω) (original : Option (Object ω)) :
    Ends (checkWarmups build original names) (hook.importing table)
      (fun original' s => s = hook.importing (importAll gpuWarmup build.warmups table names) ∧
        (original ≠ none → original' = original) ∧ ∀ name ∈ names, ∃ function,
          importAll gpuWarmup build.warmups table names name = some function ∧
          original' = some (.theirs function))
      (fun _ s => ∃ visited, visited <+: names ∧
        s = hook.importing (importAll gpuWarmup build.warmups table visited)) := by
  induction names generalizing table original with
  | nil => exact Ends.pure ⟨rfl, fun _ => rfl, nofun⟩
  | cons name names ih =>
    obtain ⟨hfresh, hnodup⟩ := List.nodup_cons.mp hnodup
    rw [checkWarmups]
    split
    · exact Ends.throw ⟨[], List.nil_prefix, rfl⟩
    · exact Ends.throw ⟨[], List.nil_prefix, rfl⟩
    · refine Ends.bind_update (Ends.bind_ask ?_)
      rw [Hook.importing, load_unpatched]
      refine ((checkWarmup_ends _ _ _).mono (fun _ _ h => h) ?_).bind fun found s hs => ?_
      · rintro _ _ rfl
        exact ⟨[name], List.cons_prefix_cons.mpr ⟨rfl, List.nil_prefix⟩, rfl⟩
      · obtain ⟨rfl, hfound, horiginal⟩ := hs
        refine (ih hnodup _ (some found)).mono (fun original' s hs => ?_) fun _ s hs => ?_
        · obtain ⟨rfl, hkept, hall⟩ := hs
          have hfound' := hkept (Option.some_ne_none _)
          refine ⟨rfl, fun hne => hfound'.trans (horiginal hne).symm, ?_⟩
          refine List.forall_mem_cons.mpr ⟨?_, hall⟩
          obtain ⟨function, hfunction, rfl⟩ := Option.map_eq_some_iff.mp hfound
          exact ⟨function, (importAll_of_notMem hfresh _).trans hfunction, hfound'⟩
        · obtain ⟨visited, hvisited, rfl⟩ := hs
          exact ⟨name :: visited, List.cons_prefix_cons.mpr ⟨rfl, hvisited⟩, rfl⟩

/-- **The second loop over the warmups** takes all of them over. -/
theorem patchWarmups {names : List ModuleName} (hnodup : names.Nodup) {function : ω}
    {table : ModuleName → Option ω} (h : Patched table hook.warmups hook.warmupPatches)
    (hnames : ∀ name ∈ names, name ∉ hook.warmupPatches.map Prod.fst)
    (hfunction : ∀ name ∈ names, table name = some function) :
    ∃ warmups records, names.foldl (patchWarmup (.theirs function)) hook =
        { hook with warmups, warmupPatches := records } ∧ Patched table warmups records ∧
      records.map Prod.fst = hook.warmupPatches.map Prod.fst ++ names := by
  induction names generalizing hook with
  | nil => exact ⟨hook.warmups, hook.warmupPatches, rfl, h, (List.append_nil _).symm⟩
  | cons name names ih =>
    obtain ⟨hfresh, hnodup⟩ := List.nodup_cons.mp hnodup
    obtain ⟨hname, hrest⟩ := List.forall_mem_cons.mp hnames
    obtain ⟨hwas, hfunction⟩ := List.forall_mem_cons.mp hfunction
    have hothers : ∀ other ∈ names,
        other ∉ (patchWarmup (.theirs function) hook name).warmupPatches.map Prod.fst := by
      intro other hother
      rw [patchWarmup, List.map_append, List.mem_append, List.map_singleton, List.mem_singleton,
        not_or]
      exact ⟨hrest other hother, fun (heq : other = name) => hfresh (heq ▸ hother)⟩
    obtain ⟨warmups, records, heq, hpatched, hkeys⟩ :=
      ih hnodup (h.patch hname hwas) hothers hfunction
    refine ⟨warmups, records, heq, hpatched, ?_⟩
    rw [hkeys, patchWarmup, List.map_append, List.map_singleton, List.append_assoc,
      List.singleton_append]

/-! ## The whole life of a hook -/

theorem nodup_modules : modules.Nodup := by decide

theorem nodup_warmupModules : warmupModules.Nodup := by decide

variable (build) in
/-- The tables are patched over those of plain imports of these modules. -/
structure Over (allocators warmups : ModuleName → Option ω)
    (visited visitedWarmups : List ModuleName) (s : Hook ω) : Prop where
  allocators : Patched (importAll workerUtils build.allocators allocators visited)
    s.allocators s.patches
  warmups : Patched (importAll gpuWarmup build.warmups warmups visitedWarmups)
    s.warmups s.warmupPatches

/-- **`shutdown`** leaves the tables of the plain imports. -/
theorem Over.shutdown [DecidableEq ω] {allocators warmups : ModuleName → Option ω}
    {visited visitedWarmups : List ModuleName} {s : Hook ω}
    (h : Over build allocators warmups visited visitedWarmups s) :
    (shutdown s).allocators =
        unpatched (importAll workerUtils build.allocators allocators visited) ∧
      (shutdown s).warmups = unpatched (importAll gpuWarmup build.warmups warmups visitedWarmups) ∧
      (shutdown s).patches = [] ∧ (shutdown s).warmupPatches = [] ∧ (shutdown s).released = true :=
  ⟨h.allocators.undo, h.warmups.undo, rfl, rfl, rfl⟩

theorem Over.of_shutdown [DecidableEq ω] {allocators warmups : ModuleName → Option ω}
    {visited visitedWarmups : List ModuleName} {s : Hook ω}
    (h : Over build allocators warmups visited visitedWarmups s) :
    Over build allocators warmups visited visitedWarmups (HookPatches.shutdown s) := by
  obtain ⟨ha, hw, hp, hwp, -⟩ := h.shutdown
  exact ⟨by rw [ha, hp]; exact patched_nil _, by rw [hw, hwp]; exact patched_nil _⟩

variable (build) in
/-- What a failed `_install` leaves to its caller. -/
def Failed (allocators warmups : ModuleName → Option ω) (s : Hook ω) : Prop :=
  ∃ visited visitedWarmups, visited <+: modules ∧ visitedWarmups <+: warmupModules ∧
    Over build allocators warmups visited visitedWarmups s

variable (build) in
/-- What a completed `_install` leaves: the functions of the supported modules are taken over, the
defining module's among them, and the warmups of an elastic pool that starts below its maximum. -/
structure TakenOver (allocators warmups : ModuleName → Option ω) (capped : Prop)
    (visitedWarmups : List ModuleName) (s : Hook ω) : Prop where
  patched : Over build allocators warmups modules visitedWarmups s
  visited : (capped → visitedWarmups = warmupModules) ∧ (¬capped → visitedWarmups = [])
  taken : ∀ k, k ∈ s.patches.map Prod.fst ↔ k ∈ modules ∧ build.allocators k ≠ .unavailable ∧
    Takeable build (importAll workerUtils build.allocators allocators modules) k
  utils : workerUtils ∈ s.patches.map Prod.fst
  warmups : s.warmupPatches.map Prod.fst = visitedWarmups

section Install

variable [DecidableEq ω] {allocators warmups : ModuleName → Option ω} {s : Hook ω}

/-- **`_install_startup_warmup_cap`** takes both references over, or none. -/
theorem installWarmupCap_ends (hs : TakenOver build allocators warmups False [] s) :
    Ends (installWarmupCap build) s
      (fun _ s' => TakenOver build allocators warmups True warmupModules s')
      (fun _ s' => Failed build allocators warmups s') := by
  have hrecords : s.warmupPatches = [] := List.map_eq_nil_iff.mp hs.warmups
  have hpatched : Patched warmups s.warmups s.warmupPatches := hs.patched.warmups
  have hwarmups : s.warmups = unpatched warmups := by
    funext k
    exact hpatched.frame k (by simp [hrecords])
  have himporting : s = s.importing warmups := by rw [Hook.importing, ← hwarmups]
  have hover : ∀ visited, Over build allocators warmups modules visited
      (s.importing (importAll gpuWarmup build.warmups warmups visited)) := by
    intro visited
    refine ⟨hs.patched.allocators, ?_⟩
    rw [Hook.importing, hrecords]
    exact patched_nil _
  rw [himporting, installWarmupCap]
  refine ((checkWarmups_ends nodup_warmupModules s warmups none).mono (fun _ _ h => h) ?_).bind ?_
  · rintro _ _ ⟨visited, hvisited, rfl⟩
    exact ⟨modules, visited, List.prefix_rfl, hvisited, hover visited⟩
  · rintro original _ ⟨rfl, -, hall⟩
    obtain ⟨function, -, rfl⟩ := hall gpuWarmup List.mem_cons_self
    have hfunction : ∀ name ∈ warmupModules,
        importAll gpuWarmup build.warmups warmups warmupModules name = some function := by
      intro name hname
      obtain ⟨other, hother, heq⟩ := hall name hname
      obtain rfl := Object.theirs.inj (Option.some.inj heq)
      exact hother
    obtain ⟨table, records, heq, htable, hkeys⟩ := patchWarmups nodup_warmupModules
      (hover warmupModules).warmups (by simp [Hook.importing, hrecords]) hfunction
    refine Ends.update ?_
    rw [heq]
    exact {
      patched := ⟨hs.patched.allocators, htable⟩
      visited := ⟨fun _ => rfl, fun h => absurd trivial h⟩
      taken := hs.taken
      utils := hs.utils
      warmups := by simpa [Hook.importing, hrecords] using hkeys }

/-- **`_install`** ends with everything taken over that it should take, or can be undone. -/
theorem install_ends (allocators warmups : ModuleName → Option ω) (startupMapped : Option ℕ)
    (maximum : ℕ) :
    Ends (install build startupMapped maximum) (Hook.initial allocators warmups)
      (fun _ s => ∃ visitedWarmups, TakenOver build allocators warmups
        (startupMapped.any (· < maximum) = true) visitedWarmups s)
      (fun _ s => Failed build allocators warmups s) := by
  have hstart : Progress (Hook.initial allocators warmups) allocators
      (Hook.initial allocators warmups) :=
    ⟨patched_nil _, by simp [Hook.initial], rfl, rfl⟩
  rw [install]
  refine ((installModules_ends nodup_modules hstart (.unset List.not_mem_nil)
    fun _ _ => List.not_mem_nil).mono (fun _ _ h => h) ?_).bind ?_
  · rintro _ s ⟨visited, hvisited, hprogress⟩
    refine ⟨visited, [], hvisited, List.nil_prefix, hprogress.patched, ?_⟩
    rw [hprogress.warmups, hprogress.warmupPatches]
    exact patched_nil _
  · intro _ s hs
    have hprogress := hs.progress
    have hover : Over build allocators warmups modules [] s := by
      refine ⟨hprogress.patched, ?_⟩
      rw [hprogress.warmups, hprogress.warmupPatches]
      exact patched_nil _
    refine Ends.bind_ask ?_
    rw [id, requireHook]
    by_cases hmissing : (!s.workerUtils) = true ∨ s.patches = []
    · rw [if_pos hmissing]
      exact Ends.bind (Q := fun _ _ => False) (Ends.bind_update (Ends.throw
        ⟨modules, [], List.prefix_rfl, List.nil_prefix, hover.of_shutdown⟩)) nofun
    · rw [if_neg hmissing, pure_bind]
      rw [not_or, Bool.not_eq_true, Bool.not_eq_false'] at hmissing
      have htaken : TakenOver build allocators warmups False [] s := {
        patched := hover
        visited := ⟨False.elim, fun _ => rfl⟩
        taken := fun k => (hs.taken k).trans (or_iff_right (by simp [Hook.initial]))
        utils := hprogress.utils.mp hmissing.1
        warmups := by rw [hprogress.warmupPatches]; rfl }
      by_cases hcapped : startupMapped.any (· < maximum) = true
      · rw [if_pos hcapped]
        refine (installWarmupCap_ends htaken).mono (fun _ s' hs' => ⟨warmupModules, ?_⟩)
          fun _ _ h => h
        rwa [← eq_true hcapped] at hs'
      · rw [if_neg hcapped]
        refine Ends.pure ⟨[], ?_⟩
        rwa [← eq_false hcapped] at htaken

end Install

/-- **The whole life of a hook**, over any build of vLLM and whatever imports raise.

A constructor that raises leaves every name as plain imports of the modules it got to would, with
its buffer released.  One that returns has taken over the allocators of the modules that are
available with a function, that of the defining module among them, and both warmups of an elastic
pool that starts below its maximum; every other name is as plain imports leave it.  Whatever others
bind after that, `shutdown` gives back each name it took over that is still bound to the hook, and
leaves all others alone. -/
theorem hook_lifecycle [DecidableEq ω] (build : Build ω)
    (allocators warmups : ModuleName → Option ω) (startupMapped : Option ℕ) (maximum : ℕ) :
    Ends (construct build startupMapped maximum) (Hook.initial allocators warmups)
      (fun _ s => ∃ visitedWarmups,
        TakenOver build allocators warmups (startupMapped.any (· < maximum) = true)
          visitedWarmups s ∧
        ∀ later laterWarmups : Bindings ModuleName ω,
          (∀ k, (shutdown { s with allocators := later, warmups := laterWarmups }).allocators k =
            if k ∈ s.patches.map Prod.fst ∧ later k = some .ours then
              unpatched (importAll workerUtils build.allocators allocators modules) k
            else later k) ∧
          ∀ k, (shutdown { s with allocators := later, warmups := laterWarmups }).warmups k =
            if k ∈ s.warmupPatches.map Prod.fst ∧ laterWarmups k = some .ours then
              unpatched (importAll gpuWarmup build.warmups warmups visitedWarmups) k
            else laterWarmups k)
      (fun _ s => s.released = true ∧ ∃ visited visitedWarmups,
        visited <+: modules ∧ visitedWarmups <+: warmupModules ∧
        s.allocators = unpatched (importAll workerUtils build.allocators allocators visited) ∧
        s.warmups = unpatched (importAll gpuWarmup build.warmups warmups visitedWarmups)) := by
  rw [construct]
  refine Ends.tryCatch ((install_ends allocators warmups startupMapped maximum).mono ?_
    fun _ _ h => h) ?_
  · rintro _ s ⟨visitedWarmups, hs⟩
    exact ⟨visitedWarmups, hs, fun later laterWarmups =>
      ⟨hs.patched.allocators.undo_rebound later, hs.patched.warmups.undo_rebound laterWarmups⟩⟩
  · rintro _ s ⟨visited, visitedWarmups, hvisited, hvisitedWarmups, hover⟩
    obtain ⟨ha, hw, -, -, hreleased⟩ := hover.shutdown
    exact Ends.bind_update (Ends.throw
      ⟨hreleased, visited, visitedWarmups, hvisited, hvisitedWarmups, ha, hw⟩)

/-- A build whose runner imports the allocator, and whose last module cannot be imported. -/
def runnerBuild : Build String where
  allocators name :=
    if name = workerUtils then .own "allocate"
    else if name = "vllm.v1.worker.gpu_model_runner" then .reexports
    else .unavailable
  warmups name := if name = gpuWarmup then .own "warmup" else .reexports
  callable _ := true
  parameters function :=
    .ok (if function = "allocate" then ["kv_cache_config", "device", "layout"]
      else expectedParameters)

/-- The hook of an elastic pool takes over two allocators and two warmups; after the runner has bound
an allocator of its own, `shutdown` gives back the other three. -/
example :
    let (ended, hook) := exec (construct runnerBuild (some 2) 4)
      (Hook.initial (fun _ => none) fun _ => none)
    let later := bind hook.allocators "vllm.v1.worker.gpu_model_runner" (some (.theirs "another"))
    let left := shutdown { hook with allocators := later }
    ended = .ok () ∧ modules.map hook.allocators = [some .ours, some .ours, none] ∧
      warmupModules.map hook.warmups = [some .ours, some .ours] ∧
      modules.map left.allocators = [some (.theirs "allocate"), some (.theirs "another"), none] ∧
        warmupModules.map left.warmups = [some (.theirs "warmup"), some (.theirs "warmup")] := by
  decide +kernel

end Kapsl.Vllm.HookPatches
