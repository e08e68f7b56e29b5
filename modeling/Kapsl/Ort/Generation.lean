import Mathlib.Tactic.FinCases
import Kapsl.Lib.Lts
import Kapsl.Lib.Threads

/-!
# Ort/Generation — the engine slot and the loaded-model record of the generation backend

`GenerationBackend` keeps its engine in one mutex and the path of the loaded model in another.
`load` checks the record, takes the engine out of its slot, loads it on another thread, puts it back
and only then writes the record; `unload` empties the engine and, still inside the engine's lock,
clears the record.  Each locked section is one step; the engine is the model it holds, if any.  No
lock is poisoned, `engine.load` does not panic, and the load runtime exists since the constructor
checked it.

* `generation_agreement` — record and engine agree, and only an empty engine is loaded, in every run
  in which no `load` takes the engine of a recorded model and none takes or unloads it between
  another load's put-back and its record.
* `load_disagrees` — inside that gap a loaded engine is loaded again, or a record outlives its
  model.
* `loading_of_take`, `record_of_unload` — each step the condition excludes does break the agreement.
-/

namespace Kapsl.Ort.Generation

/-- A canonical model path. -/
abbrev ModelPath := String

/-- An engine: the path its model was loaded from. -/
abbrev Engine := Option ModelPath

/-- Where a thread stands. -/
inductive Pc
  /-- Not in a call. -/
  | idle
  /-- `load` found no record; about to take the engine. -/
  | checked (path : ModelPath)
  /-- `load` took the engine; `engine.load` is invoked on it. -/
  | loading (path : ModelPath) (engine : Engine)
  /-- The load task has returned the engine and its result. -/
  | returned (path : ModelPath) (engine : Engine) (ok : Bool)
  /-- `load` put the engine back; about to write the record. -/
  | recording (path : ModelPath)
  /-- `unload` emptied the engine, holds its lock, and is about to clear the record. -/
  | unloading
  deriving DecidableEq

/-- The two mutexes and the threads. -/
structure State (ι : Type*) where
  engine : Option Engine
  loadedModel : Option ModelPath
  /-- The thread inside `unload` that keeps the engine's lock. -/
  locked : Option ι
  threads : ι → Pc

/-- One step of a thread. -/
inductive Act (ι : Type*)
  | checkRecord (t : ι) (path : ModelPath)
  | takeEngine (t : ι)
  | engineLoad (t : ι) (ok : Bool)
  | putBack (t : ι)
  | record (t : ι)
  | unloadEngine (t : ι)
  | clearRecord (t : ι)

variable {ι : Type*} [DecidableEq ι]

/-- Move a thread. -/
def State.goto (s : State ι) (t : ι) (pc : Pc) : State ι :=
  { s with threads := Function.update s.threads t pc }

/-- The successor under a step, if the thread stands where the step starts and the lock is free. -/
def step (s : State ι) : Act ι → Option (State ι)
  | .checkRecord t path =>
    match s.threads t with
    | .idle => some (if s.loadedModel.isSome then s else s.goto t (.checked path))
    | _ => none
  | .takeEngine t =>
    match s.threads t, s.locked with
    | .checked path, none =>
      match s.engine with
      -- "ORT generation engine is busy"
      | none => some (s.goto t .idle)
      | some engine => some ({ s with engine := none }.goto t (.loading path engine))
    | _, _ => none
  | .engineLoad t ok =>
    match s.threads t with
    -- After a failed load the task unloads the engine.
    | .loading path _ => some (s.goto t (.returned path (if ok then some path else none) ok))
    | _ => none
  | .putBack t =>
    match s.threads t, s.locked with
    | .returned path engine ok, none =>
      some ({ s with engine := some engine }.goto t (if ok then .recording path else .idle))
    | _, _ => none
  | .record t =>
    match s.threads t with
    | .recording path => some ({ s with loadedModel := some path }.goto t .idle)
    | _ => none
  | .unloadEngine t =>
    match s.threads t, s.locked with
    | .idle, none =>
      match s.engine with
      | none => some s
      | some _ => some ({ s with engine := some none, locked := some t }.goto t .unloading)
    | _, _ => none
  | .clearRecord t =>
    match s.threads t with
    | .unloading => some ({ s with loadedModel := none, locked := none }.goto t .idle)
    | _ => none

/-- A constructed backend. -/
def State.initial : State ι where
  engine := some none
  loadedModel := none
  locked := none
  threads _ := .idle

/-- The runs of the threads `ι`. -/
def runs (ι : Type*) [DecidableEq ι] : Lts (State ι) (Act ι) where
  init s := s = .initial
  step := step

/-- **What a step can do**: one case for each label and each answer of the lock it takes. -/
inductive Step (s : State ι) : Act ι → State ι → Prop
  | refused {t : ι} (path : ModelPath) (ht : s.threads t = .idle) :
    Step s (.checkRecord t path) s
  | checkRecord {t : ι} (path : ModelPath) (ht : s.threads t = .idle) :
    Step s (.checkRecord t path) (s.goto t (.checked path))
  | busy {t : ι} {path : ModelPath} (ht : s.threads t = .checked path) :
    Step s (.takeEngine t) (s.goto t .idle)
  | takeEngine {t : ι} {path : ModelPath} {engine : Engine} (ht : s.threads t = .checked path)
    (hlocked : s.locked = none) (hengine : s.engine = some engine) :
    Step s (.takeEngine t) ({ s with engine := none }.goto t (.loading path engine))
  | engineLoad {t : ι} {path : ModelPath} {engine : Engine} (ok : Bool)
    (ht : s.threads t = .loading path engine) : Step s (.engineLoad t ok)
      (s.goto t (.returned path (if ok then some path else none) ok))
  | putBack {t : ι} {path : ModelPath} {engine : Engine} {ok : Bool}
    (ht : s.threads t = .returned path engine ok) : Step s (.putBack t)
      ({ s with engine := some engine }.goto t (if ok then .recording path else .idle))
  | record {t : ι} {path : ModelPath} (ht : s.threads t = .recording path) :
    Step s (.record t) ({ s with loadedModel := some path }.goto t .idle)
  | unloadBusy {t : ι} (ht : s.threads t = .idle) : Step s (.unloadEngine t) s
  | unloadEngine {t : ι} {engine : Engine} (ht : s.threads t = .idle) (hlocked : s.locked = none)
    (hengine : s.engine = some engine) : Step s (.unloadEngine t)
      ({ s with engine := some none, locked := some t }.goto t .unloading)
  | clearRecord {t : ι} (ht : s.threads t = .unloading) : Step s (.clearRecord t)
      ({ s with loadedModel := none, locked := none }.goto t .idle)

/-- **A step does what its label says**, from the place where it starts. -/
theorem Step.of_step {s s' : State ι} {a : Act ι} (h : step s a = some s') : Step s a s' := by
  cases a with (dsimp only [step] at h; split at h <;> try contradiction)
  | checkRecord t path =>
    obtain rfl := Option.some.inj h
    split
    · exact .refused path ‹_›
    · exact .checkRecord path ‹_›
  | takeEngine t =>
    split at h
    · exact Option.some.inj h ▸ .busy ‹_›
    · exact Option.some.inj h ▸ .takeEngine ‹_› ‹_› ‹_›
  | engineLoad t ok => exact Option.some.inj h ▸ .engineLoad ok ‹_›
  | putBack t => exact Option.some.inj h ▸ .putBack ‹_›
  | record t => exact Option.some.inj h ▸ .record ‹_›
  | unloadEngine t =>
    split at h
    · exact Option.some.inj h ▸ .unloadBusy ‹_›
    · exact Option.some.inj h ▸ .unloadEngine ‹_› ‹_› ‹_›
  | clearRecord t => exact Option.some.inj h ▸ .clearRecord ‹_›

/-! ## Agreement -/

/-- **What callers rely on**: `engine.load` is invoked on an empty engine only, and while no call is
in progress the slot holds the engine and the record names the model in it. -/
structure Agreement (s : State ι) : Prop where
  load_empty : ∀ t path engine, s.threads t = .loading path engine → engine = none
  at_rest : (∀ t, s.threads t = .idle) → ∃ engine, s.engine = some engine ∧
    ∀ path, s.loadedModel = some path ↔ engine = some path

/-- The record a thread is about to write. -/
def Pc.recording? : Pc → Option ModelPath
  | recording path => some path
  | _ => none

/-- No load stands between putting its engine back and writing its record. -/
def State.NoGap (s : State ι) : Prop := ∀ t, (s.threads t).recording? = none

/-- **The condition**: `load` takes the engine only while no model is recorded, and neither `load`
nor `unload` enters the engine's section while another load stands in the gap. -/
def Guarded (s : State ι) : Act ι → Prop
  | .takeEngine _ => s.loadedModel = none ∧ s.NoGap
  | .unloadEngine _ => s.NoGap
  | _ => True

/-- The thread has the engine, its lock, or a record to write. -/
def Pc.Busy : Pc → Prop
  | idle | checked _ => False
  | loading _ _ | returned _ _ _ | recording _ | unloading => True

/-- What holds of the backend while thread `t` stands at a busy place. -/
def State.Holds (s : State ι) (t : ι) : Pc → Prop
  | .idle | .checked _ => False
  | .loading _ engine => engine = none ∧ s.engine = none ∧ s.loadedModel = none ∧ s.locked = none
  | .returned path engine ok => (engine = if ok then some path else none) ∧ s.engine = none ∧
      s.loadedModel = none ∧ s.locked = none
  | .recording path => s.engine = some (some path) ∧ s.loadedModel = none ∧ s.locked = none
  | .unloading => s.engine = some none ∧ s.locked = some t

/-- **At most one thread is busy**, and what it holds decides the rest; with none, slot and record
agree. -/
def Agree (s : State ι) : Prop :=
  ((∀ u, ¬(s.threads u).Busy) ∧ s.engine = some s.loadedModel ∧ s.locked = none) ∨
  ∃ t, (∀ u ≠ t, ¬(s.threads u).Busy) ∧ s.Holds t (s.threads t)

section Invariant

variable {s : State ι} {t : ι}

omit [DecidableEq ι] in
theorem busy_of_holds {pc : Pc} (h : s.Holds t pc) : pc.Busy := by
  cases pc with
  | idle => exact h
  | checked path => exact h
  | loading | returned | recording | unloading => trivial

omit [DecidableEq ι] in
/-- A busy thread is the only one, and holds what its place says. -/
theorem Agree.of_busy (h : Agree s) (ht : (s.threads t).Busy) :
    (∀ u ≠ t, ¬(s.threads u).Busy) ∧ s.Holds t (s.threads t) := by
  rcases h with ⟨hnone, -⟩ | ⟨v, hrest, hv⟩
  · exact absurd ht (hnone t)
  · obtain rfl : v = t := by
      by_contra hne
      exact hrest t (Ne.symm hne) ht
    exact ⟨hrest, hv⟩

@[simp] theorem threads_goto_self (s : State ι) (t : ι) (pc : Pc) : (s.goto t pc).threads t = pc :=
  Function.update_self ..

theorem threads_goto_of_ne {pc : Pc} {u : ι} (hu : u ≠ t) :
    (s.goto t pc).threads u = s.threads u :=
  Function.update_of_ne hu ..

theorem holds_goto {pc pc' : Pc} {u : ι} : (s.goto t pc).Holds u pc' ↔ s.Holds u pc' := by
  cases pc' <;> rfl

/-- A move between places that are not busy changes nothing. -/
theorem Agree.goto (h : Agree s) {pc : Pc} (ht : ¬(s.threads t).Busy) (hpc : ¬pc.Busy) :
    Agree (s.goto t pc) := by
  have hquiet : ∀ u, ((s.goto t pc).threads u).Busy ↔ (s.threads u).Busy := by
    intro u
    by_cases hu : u = t
    · subst hu
      simp [ht, hpc]
    · rw [threads_goto_of_ne hu]
  rcases h with ⟨hnone, hrest⟩ | ⟨v, hothers, hv⟩
  · exact .inl ⟨fun u => (hquiet u).not.mpr (hnone u), hrest⟩
  · have hvt : v ≠ t := by
      rintro rfl
      exact ht (busy_of_holds hv)
    refine .inr ⟨v, fun u hu => (hquiet u).not.mpr (hothers u hu), ?_⟩
    rwa [threads_goto_of_ne hvt, holds_goto]

/-- The only busy thread moves on to a place whose condition holds. -/
theorem agree_of_holds {pc : Pc} (hothers : ∀ u ≠ t, ¬(s.threads u).Busy) (hpc : s.Holds t pc) :
    Agree (s.goto t pc) := by
  refine .inr ⟨t, fun u hu => ?_, ?_⟩
  · rw [threads_goto_of_ne hu]
    exact hothers u hu
  · rwa [threads_goto_self, holds_goto]

/-- The only busy thread ends its call with slot and record in agreement. -/
theorem agree_of_rest (hothers : ∀ u ≠ t, ¬(s.threads u).Busy)
    (hengine : s.engine = some s.loadedModel) (hlocked : s.locked = none) :
    Agree (s.goto t .idle) := by
  refine .inl ⟨fun u => ?_, hengine, hlocked⟩
  by_cases hu : u = t
  · subst hu
    simp [Pc.Busy]
  · rw [threads_goto_of_ne hu]
    exact hothers u hu

omit [DecidableEq ι] in
/-- **An engine in its slot, with its lock free**: nobody is busy and the record is right, or a load
stands in the gap. -/
theorem Agree.engine_cases (h : Agree s) {engine : Engine} (hengine : s.engine = some engine)
    (hlocked : s.locked = none) :
    ((∀ u, ¬(s.threads u).Busy) ∧ engine = s.loadedModel) ∨
      ∃ u path, s.threads u = .recording path ∧ engine = some path := by
  rcases h with ⟨hnone, heq, -⟩ | ⟨v, -, hv⟩
  · exact .inl ⟨hnone, Option.some.inj (hengine.symm.trans heq)⟩
  · right
    rcases hpc : s.threads v with _ | path | ⟨path, e⟩ | ⟨path, e, ok⟩ | path | _
    · exact (hpc ▸ hv : s.Holds v .idle).elim
    · exact (hpc ▸ hv : s.Holds v (.checked path)).elim
    · obtain ⟨-, hslot, -⟩ : s.Holds v (.loading path e) := hpc ▸ hv
      exact absurd (hslot.symm.trans hengine) (by simp)
    · obtain ⟨-, hslot, -⟩ : s.Holds v (.returned path e ok) := hpc ▸ hv
      exact absurd (hslot.symm.trans hengine) (by simp)
    · obtain ⟨hslot, -⟩ : s.Holds v (.recording path) := hpc ▸ hv
      exact ⟨v, path, hpc, Option.some.inj (hengine.symm.trans hslot)⟩
    · obtain ⟨-, hlock⟩ : s.Holds v .unloading := hpc ▸ hv
      exact absurd (hlock.symm.trans hlocked) (by simp)

omit [DecidableEq ι] in
/-- Outside the gap only the first case is left. -/
theorem Agree.rest_of_engine (h : Agree s) {engine : Engine} (hengine : s.engine = some engine)
    (hlocked : s.locked = none) (hgap : s.NoGap) :
    (∀ u, ¬(s.threads u).Busy) ∧ engine = s.loadedModel := by
  rcases h.engine_cases hengine hlocked with hrest | ⟨u, path, hu, -⟩
  · exact hrest
  · exact absurd (hgap u) (by simp [hu, Pc.recording?])

/-- **Every guarded step keeps the agreement.** -/
theorem Agree.step {s' : State ι} {a : Act ι} (h : Agree s) (hok : Guarded s a)
    (hs : step s a = some s') : Agree s' := by
  cases Step.of_step hs with
  | refused => exact h
  | checkRecord path ht => exact h.goto (by simp [ht, Pc.Busy]) (by simp [Pc.Busy])
  | busy ht => exact h.goto (by simp [ht, Pc.Busy]) (by simp [Pc.Busy])
  | takeEngine ht hlocked hengine =>
    obtain ⟨hrecord, hgap⟩ := hok
    obtain ⟨hnone, rfl⟩ := h.rest_of_engine hengine hlocked hgap
    exact agree_of_holds (fun u _ => hnone u) ⟨hrecord, rfl, hrecord, hlocked⟩
  | engineLoad ok ht =>
    obtain ⟨hothers, hholds⟩ := h.of_busy (by rw [ht]; trivial)
    rw [ht] at hholds
    exact agree_of_holds hothers ⟨rfl, hholds.2⟩
  | @putBack t path engine ok ht =>
    obtain ⟨hothers, hholds⟩ := h.of_busy (by rw [ht]; trivial)
    rw [ht] at hholds
    obtain ⟨rfl, -, hrecord, hlocked⟩ := hholds
    cases ok with
    | true => exact agree_of_holds hothers ⟨rfl, hrecord, hlocked⟩
    | false => exact agree_of_rest hothers (by simp [hrecord]) hlocked
  | record ht =>
    obtain ⟨hothers, hholds⟩ := h.of_busy (by rw [ht]; trivial)
    rw [ht] at hholds
    exact agree_of_rest hothers hholds.1 hholds.2.2
  | unloadBusy => exact h
  | unloadEngine ht hlocked hengine =>
    obtain ⟨hnone, -⟩ := h.rest_of_engine hengine hlocked hok
    exact agree_of_holds (fun u _ => hnone u) ⟨rfl, rfl⟩
  | clearRecord ht =>
    obtain ⟨hothers, hholds⟩ := h.of_busy (by rw [ht]; trivial)
    rw [ht] at hholds
    exact agree_of_rest hothers hholds.1 rfl

end Invariant

/-! ## Whole runs -/

omit [DecidableEq ι] in
theorem agree_initial : Agree (State.initial : State ι) :=
  .inl ⟨fun _ h => h, rfl, rfl⟩

theorem agree_of_reach {s : State ι} (h : (runs ι).ReachBy Guarded s) : Agree s := by
  refine h.invariant (I := Agree) ?_ ?_
  · rintro s rfl
    exact agree_initial
  · intro s a s' hs hok hstep
    exact hs.step hok hstep

/-- **Engine and record agree outside the gap** — in every run in which `load` takes the engine only
while no model is recorded, and no call enters the engine's section while another load stands
between its put-back and its record. -/
theorem generation_agreement {s : State ι} (h : (runs ι).ReachBy Guarded s) : Agreement s := by
  have hagree := agree_of_reach h
  constructor
  · intro t path engine ht
    obtain ⟨-, hholds⟩ := hagree.of_busy (t := t) (by rw [ht]; trivial)
    rw [ht] at hholds
    exact hholds.1
  · intro hidle
    rcases hagree with ⟨-, hengine, -⟩ | ⟨t, -, hholds⟩
    · exact ⟨_, hengine, fun path => Iff.rfl⟩
    · rw [hidle t] at hholds
      exact hholds.elim

/-- A load that succeeds, an unload, and a load that fails, one after the other. -/
def oneAfterTheOther : List (Act ℕ) :=
  [.checkRecord 0 "a", .takeEngine 0, .engineLoad 0 true, .putBack 0, .record 0, .unloadEngine 1,
   .clearRecord 1, .checkRecord 1 "b", .takeEngine 1, .engineLoad 1 false, .putBack 1]

theorem generation_agreement_oneAfterTheOther :
    ∃ s, (runs ℕ).ReachBy Guarded s ∧ s.threads 1 = .idle ∧ Agreement s := by
  obtain ⟨s, hs, hidle⟩ : ∃ s, (runs ℕ).exec .initial oneAfterTheOther = some s ∧
      s.threads 1 = .idle := ⟨_, rfl, rfl⟩
  have hmeets : (runs ℕ).Admits Guarded .initial oneAfterTheOther := by
    refine ⟨trivial, ⟨rfl, fun t => ?_⟩, trivial, trivial, trivial, fun t => ?_, trivial, trivial,
      ⟨rfl, fun t => ?_⟩, trivial, trivial, trivial⟩
    · rcases t with _ | _ | t <;> rfl
    · rcases t with _ | _ | t <;> rfl
    · rcases t with _ | _ | t <;> rfl
  have hreach := Lts.reachBy_of_exec (.init rfl) oneAfterTheOther hmeets hs
  exact ⟨s, hreach, hidle, generation_agreement hreach⟩

/-- Two loads pass the check; the second takes the engine when the first has put it back. -/
def loadInGap : List (Act ℕ) :=
  [.checkRecord 0 "a", .checkRecord 1 "b", .takeEngine 0, .engineLoad 0 true, .putBack 0,
   .takeEngine 1]

/-- An unload runs between a load's put-back and its record. -/
def unloadInGap : List (Act ℕ) :=
  [.checkRecord 0 "a", .takeEngine 0, .engineLoad 0 true, .putBack 0, .unloadEngine 1,
   .clearRecord 1, .record 0]

/-- **A loaded engine can be loaded again, and a record can outlive its model.** -/
theorem load_disagrees :
    (∃ s, (runs ℕ).Reach s ∧ s.threads 1 = .loading "b" (some "a") ∧ ¬Agreement s) ∧
    ∃ s, (runs ℕ).Reach s ∧ (∀ t, s.threads t = .idle) ∧ s.engine = some none ∧
      s.loadedModel = some "a" ∧ ¬Agreement s := by
  constructor
  · obtain ⟨s, hs, hone⟩ : ∃ s, (runs ℕ).exec .initial loadInGap = some s ∧
        s.threads 1 = .loading "b" (some "a") := ⟨_, rfl, rfl⟩
    refine ⟨s, Lts.reach_of_exec (.init rfl) loadInGap hs, hone, fun h => ?_⟩
    exact absurd (h.load_empty 1 "b" _ hone) (by simp)
  · obtain ⟨s, hs, hidle, hengine, hrecord⟩ : ∃ s, (runs ℕ).exec .initial unloadInGap =
        some s ∧ (∀ t, s.threads t = .idle) ∧ s.engine = some none ∧ s.loadedModel = some "a" := by
      refine ⟨_, rfl, fun t => ?_, rfl, rfl⟩
      rcases t with _ | _ | t <;> rfl
    refine ⟨s, Lts.reach_of_exec (.init rfl) unloadInGap hs, hidle, hengine, hrecord, fun h => ?_⟩
    obtain ⟨engine, hslot, hiff⟩ := h.at_rest hidle
    obtain rfl := Option.some.inj (hengine.symm.trans hslot)
    exact absurd ((hiff "a").mp hrecord) (by simp)

/-! ## The condition is exact for each step -/

/-- **A `load` that takes the engine against the condition loads a loaded engine.** -/
theorem loading_of_take {s : State ι} (h : Agree s) {t : ι} {path : ModelPath}
    (ht : s.threads t = .checked path) (hlocked : s.locked = none) {engine : Engine}
    (hengine : s.engine = some engine) (hbad : ¬Guarded s (.takeEngine t)) :
    ∃ s', step s (.takeEngine t) = some s' ∧ ¬Agreement s' := by
  have hloaded : engine ≠ none := by
    rintro rfl
    rcases h.engine_cases hengine hlocked with ⟨hnone, hrecord⟩ | ⟨u, path, -, hsome⟩
    · refine hbad ⟨hrecord.symm, fun u => ?_⟩
      rcases hpc : s.threads u with _ | _ | _ | _ | path | _
      case recording => exact absurd (by rw [hpc]; trivial) (hnone u)
      all_goals rfl
    · exact absurd hsome (by simp)
  refine ⟨{ s with engine := none }.goto t (.loading path engine), ?_, fun hagree => ?_⟩
  · simp only [step, ht, hlocked, hengine]
  · exact hloaded (hagree.load_empty t path engine (threads_goto_self ..))

/-- **An `unload` inside the gap leaves a record without a model** once both calls have returned. -/
theorem record_of_unload {s : State ι} (h : Agree s) {t u : ι} {path : ModelPath}
    (hu : s.threads u = .recording path) (hidle : ∀ v ≠ u, s.threads v = .idle) (hne : t ≠ u) :
    ∃ s', (runs ι).exec s [.unloadEngine t, .clearRecord t, .record u] = some s' ∧
      ¬Agreement s' := by
  obtain ⟨-, hholds⟩ := h.of_busy (t := u) (by rw [hu]; trivial)
  rw [hu] at hholds
  obtain ⟨hengine, -, hlocked⟩ := hholds
  let s₁ : State ι := { s with engine := some none, locked := some t }.goto t .unloading
  let s₂ : State ι := { s₁ with loadedModel := none, locked := none }.goto t .idle
  have hu₂ : s₂.threads u = .recording path :=
    (threads_goto_of_ne hne.symm).trans ((threads_goto_of_ne hne.symm).trans hu)
  have h₁ : step s (.unloadEngine t) = some s₁ := by
    simp only [step, hidle t hne, hlocked, hengine, s₁]
  have h₂ : step s₁ (.clearRecord t) = some s₂ := by
    simp only [step, s₁, threads_goto_self]
    rfl
  have h₃ : step s₂ (.record u) = some ({ s₂ with loadedModel := some path }.goto u .idle) := by
    simp only [step, hu₂]
  refine ⟨{ s₂ with loadedModel := some path }.goto u .idle, ?_, fun hagree => ?_⟩
  · simp only [runs, Lts.exec_cons, Lts.exec_nil, h₁, h₂, h₃, Option.bind_some]
  · obtain ⟨engine, hslot, hiff⟩ := hagree.at_rest fun v => by
      by_cases hvu : v = u
      · rw [hvu, threads_goto_self]
      · rw [threads_goto_of_ne hvu]
        by_cases hvt : v = t
        · rw [hvt]
          exact threads_goto_self ..
        · exact (threads_goto_of_ne hvt).trans ((threads_goto_of_ne hvt).trans (hidle v hvu))
    obtain rfl := Option.some.inj hslot
    exact absurd ((hiff path).mp rfl) (by simp)

end Kapsl.Ort.Generation
