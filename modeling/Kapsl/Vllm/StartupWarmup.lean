import Mathlib.Data.Int.Order.Basic
import Mathlib.Logic.Function.Basic
import Kapsl.Lib.Lts

/-!
# Vllm/StartupWarmup — the warmup sees the mapped blocks, and nothing else does

vLLM sizes its startup warmup from `num_blocks` of its cache configuration, which for an elastic
pool is more than what is mapped.  `_run_startup_warmup` caps it for the one call of the original
function, under a lock, and puts it back.  Any thread may call it, any number of times and with any
model runner; assigning the attribute may fail, and the original may assign it too, or raise.

Only the thread that holds the lock moves, and a thread that waits for it has done nothing yet.  The
model keeps the calls of the original, with what it found, and the configurations that could not be
put back.

* `startupWarmup_contained` — in every reachable state the original was called at most once, on a
  configuration with the mapped count; and a configuration differs from what it was only while the
  call is under way, or when putting it back failed, which that call has then said.
-/

namespace Kapsl.Vllm.StartupWarmup

/-! ## The code -/

/-- What `getattr(kv_cache_config, "num_blocks", None)` finds. -/
inductive Blocks
  | absent
  | bool (b : Bool)
  | int (n : ℤ)
  | other
  deriving DecidableEq

/-- The fields of the hook that the warmup reads. -/
structure Hook where
  /-- `_startup_mapped_blocks`. -/
  startupMappedBlocks : Option ℤ
  maximumBlocks : ℤ

/-- What leaves a call; `ε` are the exceptions of the original. -/
inductive Raised (ε : Type)
  /-- `SharedPoolImportError`. -/
  | pool (message : String)
  | original (e : ε)
  deriving DecidableEq

/-- What a call comes to. -/
abbrev Answer (ε : Type) := Except (Raised ε) Unit

/-- Where the thread that holds the lock is; `κ` are the cache configurations. -/
inductive Phase (κ ε : Type)
  | entered (mapped : ℤ) (config : Option κ)
  /-- The attribute is capped, and the original not yet called. -/
  | capped (config : κ) (advertised : ℤ)
  | warming (config : κ) (advertised : ℤ)
  /-- In the `finally`. -/
  | restoring (config : κ) (advertised : ℤ) (answer : Answer ε)

/-- The shared state, and what has happened so far. -/
structure State (ι κ ε : Type) where
  /-- The thread that holds `_startup_warmup_lock`. -/
  held : Option (ι × Phase κ ε)
  /-- `_startup_warmup_attempted`. -/
  attempted : Bool
  blocks : κ → Blocks
  /-- The calls of the original, and what the configuration had when it started. -/
  started : List (κ × Blocks)
  /-- The configurations that could not be put back. -/
  spoiled : List κ
  answers : List (ι × Answer ε)

/-- The checks of the advertised count. -/
def checkBlocks (hook : Hook) (mapped : ℤ) (value : Blocks) : Except String ℤ :=
  match value with
  | .int advertised =>
    if advertised ≠ hook.maximumBlocks then
      .error "vLLM changed the virtual KV block count before startup warmup"
    else if mapped ≤ 1 ∨ advertised < mapped then
      .error "elastic startup mapped block count is outside virtual capacity"
    else .ok advertised
  | _ => .error "vLLM changed the virtual KV block count before startup warmup"

section

variable {ι κ ε : Type} [DecidableEq ι] [DecidableEq κ]

/-- The call of a thread ends, and the lock is free. -/
def State.answer (s : State ι κ ε) (t : ι) (answer : Answer ε) : State ι κ ε :=
  { s with held := none, answers := (t, answer) :: s.answers }

/-- From the flag to the capped attribute; `fails` is an assignment that raises. -/
def State.cap (hook : Hook) (s : State ι κ ε) (t : ι) (mapped : ℤ) (config : Option κ)
    (fails : Bool) : State ι κ ε :=
  if s.attempted then
    s.answer t (.error (.pool "elastic vLLM startup warmup was invoked more than once"))
  else
    let marked := { s with attempted := true }
    match config with
    | none => marked.answer t
        (.error (.pool "vLLM changed the virtual KV block count before startup warmup"))
    | some config =>
      match checkBlocks hook mapped (s.blocks config) with
      | .error message => marked.answer t (.error (.pool message))
      | .ok advertised =>
        if fails then marked.answer t (.error (.pool
          "vLLM KVCacheConfig cannot be capped for elastic startup warmup"))
        else { marked with
          held := some (t, .capped config advertised)
          blocks := Function.update s.blocks config (.int mapped) }

/-- The text of a failed restoration. -/
def notRestored : String := "vLLM KVCacheConfig could not restore virtual capacity after warmup"

/-- The `finally`. -/
def State.restore (s : State ι κ ε) (t : ι) (config : κ) (advertised : ℤ) (answer : Answer ε)
    (fails : Bool) : State ι κ ε :=
  if fails then { s.answer t (.error (.pool notRestored)) with spoiled := config :: s.spoiled }
  else { s.answer t answer with blocks := Function.update s.blocks config (.int advertised) }

/-- One step. -/
inductive Act (ι κ ε : Type)
  /-- A call, which takes the lock. -/
  | call (t : ι) (config : Option κ)
  | cap (t : ι) (fails : Bool)
  /-- The original is called. -/
  | start (t : ι)
  /-- The original assigns the attribute. -/
  | assign (t : ι) (value : Blocks)
  /-- The original returns or raises. -/
  | finish (t : ι) (result : Except ε Unit)
  | restore (t : ι) (fails : Bool)

/-- The successor under a step: a thread moves in the section when it holds the lock. -/
def step (hook : Hook) (s : State ι κ ε) : Act ι κ ε → Option (State ι κ ε)
  | .call t config =>
    match hook.startupMappedBlocks, s.held with
    | none, _ => some { s with
        answers := (t, .error (.pool "fixed shared pool entered elastic warmup")) :: s.answers }
    | some mapped, none => some { s with held := some (t, .entered mapped config) }
    | some _, some _ => none
  | .cap t fails =>
    match s.held with
    | some (u, .entered mapped config) =>
      if t = u then some (s.cap hook t mapped config fails) else none
    | _ => none
  | .start t =>
    match s.held with
    | some (u, .capped config advertised) =>
      if t = u then some { s with
        held := some (t, .warming config advertised)
        started := (config, s.blocks config) :: s.started } else none
    | _ => none
  | .assign t value =>
    match s.held with
    | some (u, .warming config _) =>
      if t = u then some { s with blocks := Function.update s.blocks config value } else none
    | _ => none
  | .finish t result =>
    match s.held with
    | some (u, .warming config advertised) =>
      if t = u then some { s with
        held := some (t, .restoring config advertised (result.mapError .original)) } else none
    | _ => none
  | .restore t fails =>
    match s.held with
    | some (u, .restoring config advertised answer) =>
      if t = u then some (s.restore t config advertised answer fails) else none
    | _ => none

/-- The hook, from configurations with these counts. -/
def system (hook : Hook) (initial : κ → Blocks) : Lts (State ι κ ε) (Act ι κ ε) where
  init s := s = ⟨none, false, initial, [], [], []⟩
  step := step hook

/-! ## The invariant -/

/-- **A configuration that can be capped** — it has the virtual maximum, and what is mapped is in
it and more than the null block. -/
structure Cappable (hook : Hook) (initial : κ → Blocks) (config : κ) (mapped : ℤ) : Prop where
  elastic : hook.startupMappedBlocks = some mapped
  more : 1 < mapped
  within : mapped ≤ hook.maximumBlocks
  virtual : initial config = .int hook.maximumBlocks

/-- The thread that holds the lock, if any, has not capped anything. -/
def Calm (hook : Hook) (s : State ι κ ε) : Prop :=
  ∀ t phase, s.held = some (t, phase) → ∃ mapped config, phase = .entered mapped config ∧
    hook.startupMappedBlocks = some mapped

/-- No call has returned. -/
def NoReturn (s : State ι κ ε) : Prop := ∀ t, (t, .ok ()) ∉ s.answers

/-- **The states of a hook**: nothing is capped, a configuration could not be put back, or one
thread is between the cap and the end of the `finally`. -/
inductive Inv (hook : Hook) (initial : κ → Blocks) (s : State ι κ ε) : Prop
  | calm (hcalm : Calm hook s) (hblocks : s.blocks = initial) (hspoiled : s.spoiled = [])
      (hstarted : s.started = [] ∨ ∃ config mapped, Cappable hook initial config mapped ∧
        s.started = [(config, .int mapped)])
      (hfresh : s.attempted = false → s.started = [] ∧ NoReturn s)
  | spoiled (config : κ) (mapped : ℤ) (value : Blocks)
      (hcappable : Cappable hook initial config mapped) (hcalm : Calm hook s)
      (hblocks : s.blocks = Function.update initial config value) (hspoiled : s.spoiled = [config])
      (hstarted : s.started = [(config, .int mapped)]) (hattempted : s.attempted = true)
      (hsaid : ∃ t, (t, .error (.pool notRestored)) ∈ s.answers) (hreturn : NoReturn s)
  | capped (t : ι) (config : κ) (mapped : ℤ) (hcappable : Cappable hook initial config mapped)
      (hheld : s.held = some (t, .capped config hook.maximumBlocks))
      (hblocks : s.blocks = Function.update initial config (.int mapped)) (hspoiled : s.spoiled = [])
      (hstarted : s.started = []) (hattempted : s.attempted = true) (hreturn : NoReturn s)
  | running (t : ι) (config : κ) (mapped : ℤ) (value : Blocks)
      (hcappable : Cappable hook initial config mapped)
      (hheld : s.held = some (t, .warming config hook.maximumBlocks) ∨
        ∃ answer, s.held = some (t, .restoring config hook.maximumBlocks answer))
      (hblocks : s.blocks = Function.update initial config value) (hspoiled : s.spoiled = [])
      (hstarted : s.started = [(config, .int mapped)]) (hattempted : s.attempted = true)
      (hreturn : NoReturn s)

variable {hook : Hook} {initial : κ → Blocks} {s s' : State ι κ ε} {t : ι}

omit [DecidableEq ι] [DecidableEq κ] in
theorem calm_of_free (h : s.held = none) : Calm hook s :=
  fun _ _ hphase => nomatch h.symm.trans hphase

omit [DecidableEq ι] [DecidableEq κ] in
theorem NoReturn.error {raised : Raised ε} (h : NoReturn s) :
    NoReturn (s.answer t (.error raised)) := by
  intro u hu
  rcases List.mem_cons.mp hu with heq | hu
  · exact nomatch (Prod.mk.inj heq).2
  · exact h u hu

omit [DecidableEq κ] in
/-- What the checks have passed. -/
theorem cappable_of_check {config : κ} {mapped advertised : ℤ}
    (helastic : hook.startupMappedBlocks = some mapped)
    (h : checkBlocks hook mapped (initial config) = .ok advertised) :
    Cappable hook initial config mapped ∧ advertised = hook.maximumBlocks := by
  rcases hvalue : initial config with _ | b | n | _
  · rw [hvalue] at h
    exact nomatch h
  · rw [hvalue] at h
    exact nomatch h
  · rw [hvalue, checkBlocks] at h
    split_ifs at h with hmaximum hrange
    obtain rfl := Except.ok.inj h
    obtain rfl := not_not.mp hmaximum
    push Not at hrange
    exact ⟨⟨helastic, hrange.1, hrange.2, hvalue⟩, rfl⟩
  · rw [hvalue] at h
    exact nomatch h

/-- **A call takes the lock**, or finds that the pool is fixed. -/
theorem Inv.call {config : Option κ} (h : Inv hook initial s)
    (hs : step hook s (.call t config) = some s') : Inv hook initial s' := by
  rw [step] at hs
  split at hs
  · next hfixed =>
    obtain rfl := Option.some.inj hs
    have hnone : ∀ {config mapped}, ¬Cappable hook initial config mapped :=
      fun h => nomatch hfixed.symm.trans h.elastic
    cases h with
    | calm hcalm hblocks hspoiled hstarted hfresh =>
      exact .calm hcalm hblocks hspoiled hstarted fun ha =>
        ⟨(hfresh ha).1, NoReturn.error (s := s) (t := t) (hfresh ha).2⟩
    | spoiled config mapped value hcappable => exact absurd hcappable hnone
    | capped t config mapped hcappable => exact absurd hcappable hnone
    | running t config mapped value hcappable => exact absurd hcappable hnone
  · next mapped helastic hheld =>
    obtain rfl := Option.some.inj hs
    have hcalm : Calm hook { s with held := some (t, .entered mapped config) } := by
      intro u phase hphase
      obtain ⟨rfl, rfl⟩ := Prod.mk.inj (Option.some.inj hphase)
      exact ⟨mapped, config, rfl, helastic⟩
    cases h with
    | calm _ hblocks hspoiled hstarted hfresh => exact .calm hcalm hblocks hspoiled hstarted hfresh
    | spoiled c m v hcappable _ hblocks hspoiled hstarted hattempted hsaid hreturn =>
      exact .spoiled c m v hcappable hcalm hblocks hspoiled hstarted hattempted hsaid hreturn
    | capped u c m _ hheld' => exact nomatch hheld.symm.trans hheld'
    | running u c m v _ hheld' =>
      rcases hheld' with hheld' | ⟨_, hheld'⟩
      exacts [(nomatch hheld.symm.trans hheld'), (nomatch hheld.symm.trans hheld')]
  · exact nomatch hs

/-- **A thread caps the attribute**, or its call ends here. -/
theorem Inv.cap {fails : Bool} (h : Inv hook initial s)
    (hs : step hook s (.cap t fails) = some s') : Inv hook initial s' := by
  rw [step] at hs
  split at hs
  · next u mapped config hheld =>
    split_ifs at hs with htu
    obtain rfl := htu
    obtain rfl := Option.some.inj hs
    cases h with
    | calm hcalm hblocks hspoiled hstarted hfresh =>
      obtain ⟨_, _, hphase, helastic⟩ := hcalm _ _ hheld
      obtain ⟨rfl, rfl⟩ := Phase.entered.inj hphase
      rw [State.cap]
      split
      · next hattempted =>
        exact .calm (calm_of_free rfl) hblocks hspoiled hstarted fun ha =>
          (nomatch hattempted.symm.trans ha)
      · next hattempted =>
        obtain ⟨hnone, hreturn⟩ := hfresh (Bool.not_eq_true _ ▸ hattempted)
        have hended : ∀ raised, Inv hook initial
            ({ s with attempted := true }.answer t (.error raised)) := fun raised =>
          .calm (calm_of_free rfl) hblocks hspoiled hstarted fun ha => nomatch ha
        split
        · exact hended _
        · next config =>
          split
          · exact hended _
          · next advertised hcheck =>
            rw [hblocks] at hcheck
            obtain ⟨hcappable, rfl⟩ := cappable_of_check helastic hcheck
            split
            · exact hended _
            · refine .capped t config mapped hcappable rfl ?_ hspoiled hnone rfl hreturn
              exact congrArg (Function.update · config (.int mapped)) hblocks
    | spoiled c m v hcappable _ hblocks hspoiled hstarted hattempted hsaid hreturn =>
      rw [State.cap, if_pos hattempted]
      obtain ⟨u, hu⟩ := hsaid
      exact .spoiled c m v hcappable (calm_of_free rfl) hblocks hspoiled hstarted hattempted
        ⟨u, List.mem_cons_of_mem _ hu⟩ hreturn.error
    | capped u c m _ hheld' => exact nomatch hheld.symm.trans hheld'
    | running u c m v _ hheld' =>
      rcases hheld' with hheld' | ⟨_, hheld'⟩
      exacts [(nomatch hheld.symm.trans hheld'), (nomatch hheld.symm.trans hheld')]
  · exact nomatch hs

/-- **The original is called**, on the capped configuration. -/
theorem Inv.start (h : Inv hook initial s) (hs : step hook s (.start t) = some s') :
    Inv hook initial s' := by
  rw [step] at hs
  split at hs
  · next u config advertised hheld =>
    split_ifs at hs with htu
    obtain rfl := htu
    obtain rfl := Option.some.inj hs
    cases h with
    | calm hcalm => obtain ⟨_, _, hphase, -⟩ := hcalm _ _ hheld; exact nomatch hphase
    | spoiled _ _ _ _ hcalm => obtain ⟨_, _, hphase, -⟩ := hcalm _ _ hheld; exact nomatch hphase
    | capped u c mapped hcappable hheld' hblocks hspoiled hstarted hattempted hreturn =>
      obtain ⟨rfl, hphase⟩ := Prod.mk.inj (Option.some.inj (hheld.symm.trans hheld'))
      obtain ⟨rfl, rfl⟩ := Phase.capped.inj hphase
      refine .running t config mapped (.int mapped) hcappable (.inl rfl) hblocks hspoiled ?_
        hattempted hreturn
      show (config, s.blocks config) :: s.started = _
      rw [hstarted, hblocks, Function.update_self]
    | running u c m v _ hheld' =>
      rcases hheld' with hheld' | ⟨_, hheld'⟩
      exacts [(nomatch hheld.symm.trans hheld'), (nomatch hheld.symm.trans hheld')]
  · exact nomatch hs

omit [DecidableEq ι] in
/-- A thread in the original holds the lock of a run that is under way. -/
theorem Inv.of_warming {config : κ} {advertised : ℤ} (h : Inv hook initial s)
    (hheld : s.held = some (t, .warming config advertised)) :
    advertised = hook.maximumBlocks ∧ ∃ mapped value, Cappable hook initial config mapped ∧
      s.blocks = Function.update initial config value ∧ s.spoiled = [] ∧
      s.started = [(config, .int mapped)] ∧ s.attempted = true ∧ NoReturn s := by
  cases h with
  | calm hcalm => obtain ⟨_, _, hphase, -⟩ := hcalm _ _ hheld; exact nomatch hphase
  | spoiled _ _ _ _ hcalm => obtain ⟨_, _, hphase, -⟩ := hcalm _ _ hheld; exact nomatch hphase
  | capped u c m _ hheld' => exact nomatch hheld.symm.trans hheld'
  | running u c mapped value hcappable hheld' hblocks hspoiled hstarted hattempted hreturn =>
    rcases hheld' with hheld' | ⟨_, hheld'⟩
    · obtain ⟨-, hphase⟩ := Prod.mk.inj (Option.some.inj (hheld.symm.trans hheld'))
      obtain ⟨rfl, rfl⟩ := Phase.warming.inj hphase
      exact ⟨rfl, mapped, value, hcappable, hblocks, hspoiled, hstarted, hattempted, hreturn⟩
    · exact nomatch hheld.symm.trans hheld'

theorem Inv.assign {value : Blocks} (h : Inv hook initial s)
    (hs : step hook s (.assign t value) = some s') : Inv hook initial s' := by
  rw [step] at hs
  split at hs
  · next u config advertised hheld =>
    split_ifs at hs with htu
    obtain rfl := htu
    obtain rfl := Option.some.inj hs
    obtain ⟨rfl, mapped, _, hcappable, hblocks, hspoiled, hstarted, hattempted, hreturn⟩ :=
      h.of_warming hheld
    refine .running t config mapped value hcappable (.inl hheld) ?_ hspoiled hstarted hattempted
      hreturn
    show Function.update s.blocks config value = _
    rw [hblocks, Function.update_idem]
  · exact nomatch hs

theorem Inv.finish {result : Except ε Unit} (h : Inv hook initial s)
    (hs : step hook s (.finish t result) = some s') : Inv hook initial s' := by
  rw [step] at hs
  split at hs
  · next u config advertised hheld =>
    split_ifs at hs with htu
    obtain rfl := htu
    obtain rfl := Option.some.inj hs
    obtain ⟨rfl, mapped, value, hcappable, hblocks, hspoiled, hstarted, hattempted, hreturn⟩ :=
      h.of_warming hheld
    exact .running t config mapped value hcappable (.inr ⟨_, rfl⟩) hblocks hspoiled hstarted
      hattempted hreturn
  · exact nomatch hs

/-- **The attribute is put back**, or the call says that it could not be. -/
theorem Inv.restore {fails : Bool} (h : Inv hook initial s)
    (hs : step hook s (.restore t fails) = some s') : Inv hook initial s' := by
  rw [step] at hs
  split at hs
  · next u config advertised answer hheld =>
    split_ifs at hs with htu
    obtain rfl := htu
    obtain rfl := Option.some.inj hs
    cases h with
    | calm hcalm => obtain ⟨_, _, hphase, -⟩ := hcalm _ _ hheld; exact nomatch hphase
    | spoiled _ _ _ _ hcalm => obtain ⟨_, _, hphase, -⟩ := hcalm _ _ hheld; exact nomatch hphase
    | capped u c m _ hheld' => exact nomatch hheld.symm.trans hheld'
    | running u c mapped value hcappable hheld' hblocks hspoiled hstarted hattempted hreturn =>
      rcases hheld' with hheld' | ⟨_, hheld'⟩
      · exact nomatch hheld.symm.trans hheld'
      obtain ⟨rfl, hphase⟩ := Prod.mk.inj (Option.some.inj (hheld.symm.trans hheld'))
      obtain ⟨rfl, rfl, rfl⟩ := Phase.restoring.inj hphase
      rw [State.restore]
      split
      · exact .spoiled config mapped value hcappable (calm_of_free rfl) hblocks
          (congrArg (config :: ·) hspoiled) hstarted hattempted ⟨t, List.mem_cons_self⟩ hreturn.error
      · refine .calm (calm_of_free rfl) ?_ hspoiled (.inr ⟨config, mapped, hcappable, hstarted⟩)
          fun ha => nomatch hattempted.symm.trans ha
        show Function.update s.blocks config (.int hook.maximumBlocks) = initial
        rw [hblocks, Function.update_idem, ← hcappable.virtual, Function.update_eq_self]
  · exact nomatch hs

theorem Inv.step {a : Act ι κ ε} (h : Inv hook initial s) (hs : step hook s a = some s') :
    Inv hook initial s' := by
  cases a with
  | call t config => exact h.call hs
  | cap t fails => exact h.cap hs
  | start t => exact h.start hs
  | assign t value => exact h.assign hs
  | finish t result => exact h.finish hs
  | restore t fails => exact h.restore hs

theorem inv_of_reach (h : (system hook initial).Reach s) : Inv hook initial s := by
  refine h.invariant ?_ fun _ _ _ hinv _ hs => hinv.step hs
  rintro _ rfl
  exact .calm (calm_of_free rfl) rfl rfl (.inl rfl) fun _ => ⟨rfl, fun _ h => nomatch h⟩

/-! ## What the invariant says -/

/-- The thread that holds the lock is between the cap and the end of the `finally`. -/
def UnderWay (s : State ι κ ε) (config : κ) : Prop :=
  ∃ t advertised, s.held = some (t, .capped config advertised) ∨
    s.held = some (t, .warming config advertised) ∨
    ∃ answer, s.held = some (t, .restoring config advertised answer)

/-- **The cap is contained in one call**, whatever the threads do.

The original is called at most once, when its configuration has the mapped count and had the virtual
maximum; a configuration that differs from what it was is the one of a call that is under way, or of
one that said it could not put it back; and once a call has returned, all are what they were. -/
theorem startupWarmup_contained (h : (system hook initial).Reach s) :
    (s.started.length ≤ 1 ∧ ∀ start ∈ s.started, ∃ mapped,
      Cappable hook initial start.1 mapped ∧ start.2 = .int mapped) ∧
    (∀ config, s.blocks config ≠ initial config → UnderWay s config ∨
      config ∈ s.spoiled ∧ ∃ t, (t, .error (.pool notRestored)) ∈ s.answers) ∧
    ∀ t, (t, .ok ()) ∈ s.answers → s.blocks = initial := by
  have hone : ∀ {config mapped}, Cappable hook initial config mapped →
      s.started = [(config, .int mapped)] → s.started.length ≤ 1 ∧ ∀ start ∈ s.started, ∃ mapped,
        Cappable hook initial start.1 mapped ∧ start.2 = .int mapped := by
    intro config mapped hcappable hstarted
    rw [hstarted]
    refine ⟨le_rfl, fun start hstart => ⟨mapped, ?_⟩⟩
    obtain rfl := List.mem_singleton.mp hstart
    exact ⟨hcappable, rfl⟩
  have hnone : s.started = [] → s.started.length ≤ 1 ∧ ∀ start ∈ s.started, ∃ mapped,
      Cappable hook initial start.1 mapped ∧ start.2 = .int mapped := by
    intro hstarted
    rw [hstarted]
    exact ⟨Nat.zero_le 1, fun _ h => nomatch h⟩
  have honly : ∀ {config value}, s.blocks = Function.update initial config value →
      ∀ other, s.blocks other ≠ initial other → other = config := by
    intro config value hblocks other hother
    by_contra hne
    rw [hblocks, Function.update_of_ne hne] at hother
    exact hother rfl
  cases inv_of_reach h with
  | calm hcalm hblocks hspoiled hstarted hfresh =>
    refine ⟨?_, fun config hne => absurd (congrFun hblocks config) hne, fun _ _ => hblocks⟩
    rcases hstarted with hstarted | ⟨config, mapped, hcappable, hstarted⟩
    exacts [hnone hstarted, hone hcappable hstarted]
  | spoiled config mapped value hcappable hcalm hblocks hspoiled hstarted hattempted hsaid hreturn =>
    refine ⟨hone hcappable hstarted, fun other hother => .inr ⟨?_, hsaid⟩,
      fun t ht => absurd ht (hreturn t)⟩
    rw [honly hblocks other hother, hspoiled]
    exact List.mem_singleton_self config
  | capped t config mapped hcappable hheld hblocks hspoiled hstarted hattempted hreturn =>
    refine ⟨hnone hstarted, fun other hother => .inl ?_, fun t ht => absurd ht (hreturn t)⟩
    rw [honly hblocks other hother]
    exact ⟨t, _, .inl hheld⟩
  | running t config mapped value hcappable hheld hblocks hspoiled hstarted hattempted hreturn =>
    refine ⟨hone hcappable hstarted, fun other hother => .inl ?_, fun t ht => absurd ht (hreturn t)⟩
    rw [honly hblocks other hother]
    exact ⟨t, _, .inr hheld⟩

/-- Two threads call it for a pool with 3 of 8 blocks mapped: the first runs the warmup, which
assigns the count too, and puts it back; the second is refused. -/
theorem startupWarmup_contained_twoCalls :
    let initial : Unit → Blocks := fun _ => .int 8
    let s : State Bool Unit Unit := ⟨none, true,
      Function.update (Function.update (Function.update initial () (.int 3)) () .other) () (.int 8),
      [((), .int 3)], [],
      [(true, .error (.pool "elastic vLLM startup warmup was invoked more than once")),
        (false, .ok ())]⟩
    (s.started.length ≤ 1 ∧ ∀ start ∈ s.started, ∃ mapped,
      Cappable ⟨some 3, 8⟩ initial start.1 mapped ∧ start.2 = .int mapped) ∧
    (∀ config, s.blocks config ≠ initial config → UnderWay s config ∨
      config ∈ s.spoiled ∧ ∃ t, (t, .error (.pool notRestored)) ∈ s.answers) ∧
    ∀ t, (t, .ok ()) ∈ s.answers → s.blocks = initial :=
  startupWarmup_contained (Lts.reach_of_exec (.init rfl)
    [.call false (some ()), .cap false false, .start false, .assign false .other,
      .finish false (.ok ()), .restore false false, .call true (some ()), .cap true true] rfl)

end

end Kapsl.Vllm.StartupWarmup
