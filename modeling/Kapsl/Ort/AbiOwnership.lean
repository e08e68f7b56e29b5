import Kapsl.Ort.AbiCalls

/-!
# Ort/AbiOwnership — every box at the boundary has one owner, in every run

The host calls the adapter and gives back what it was handed: a pack to `shutdown`, a result, a batch
or a buffer to the function for it, each of them once, and it uses no handle that it gave back.

`Quiet` computations leave the boxes as they are, up to the counters, and `Gives` those that may
allocate one, as the last thing they do: `recorded` and the loops of `infer_batch` are of the first
kind, the inside of every call of the second.  `Owned.step` draws the conclusion for a call or a
return, `abi_owned` for a run.
-/

namespace Kapsl.Ort.AbiCalls

open Attempt
open GenerationStream (CallbackStatus)
open Wire (InferenceRequest publishedView)

/-! ## Runs -/

/-- A call of the function table. -/
inductive Call
  | describe (descriptorOut errorOut : Bool) (descriptor : Except Stop (List UInt8))
  | initializePack (handleOut errorOut : Bool) (backend : Except Stop Backend)
  | infer (call : InferCall)
  | inferStream (stream : StreamCall)
  | inferBatch (call : BatchCall)
  | report (handle : Option ℕ) (reportOut errorOut : Bool)
    (encode : Backend → Except Stop (List UInt8))
  | metrics (handle : Option ℕ) (reportOut errorOut : Bool) (measured : Measured)
    (encode : Option Metrics → Except Stop (List UInt8))
  | command (handle : Option ℕ) (errorOut : Bool) (answer : Backend → Except Stop Unit)
  | cancel (handle : Option ℕ) (answer : Backend → Except Stop Unit)

/-- The handle of a call. -/
def Call.handle : Call → Option ℕ
  | describe _ _ _ | initializePack _ _ _ => none
  | infer call => call.handle
  | inferStream stream => stream.call.handle
  | inferBatch call => call.handle
  | report handle _ _ _ | metrics handle _ _ _ _ | command handle _ _ | cancel handle _ => handle

variable (platform : Platform)

/-- What a call does. -/
def Call.op : Call → Op Called
  | describe descriptorOut errorOut descriptor =>
    AbiCalls.describe platform descriptorOut errorOut descriptor
  | initializePack handleOut errorOut backend =>
    AbiCalls.initializePack platform handleOut errorOut backend
  | infer call => AbiCalls.infer platform call
  | inferStream stream => AbiCalls.inferStream platform stream
  | inferBatch call => AbiCalls.inferBatch platform call
  | report handle reportOut errorOut encode =>
    AbiCalls.report platform handle reportOut errorOut encode
  | metrics handle reportOut errorOut measured encode =>
    AbiCalls.metrics platform handle reportOut errorOut measured encode
  | command handle errorOut answer => AbiCalls.command platform handle errorOut answer
  | cancel handle answer => AbiCalls.cancel platform handle answer

/-- The function a box is given back to. -/
def returnOp : Kind → Option ℕ → Op Unit
  | .pack => shutdown
  | .result => releaseResult
  | .batch => releaseBatchResult
  | .buffer => freeBuffer

/-- The boxes, what the host holds of them, and the answers so far. -/
structure State where
  memory : Memory
  held : List (ℕ × Box)
  answers : List Called

/-- No box is live. -/
def State.initial : State where
  memory := ⟨[], false⟩
  held := []
  answers := []

/-- The host calls, or gives back what is in a slot. -/
inductive Act
  | call (c : Call)
  | giveBack (kind : Kind) (slot : Option ℕ)

/-- The host holds a box of a kind, or it has a null pointer. -/
def State.Holds (s : State) (kind : Kind) (slot : Option ℕ) : Prop :=
  ∀ address ∈ slot, ∃ box ∈ s.held, box.1 = address ∧ box.2.kind = kind

instance (s : State) (kind : Kind) (slot : Option ℕ) : Decidable (s.Holds kind slot) :=
  match slot with
  | none => .isTrue nofun
  | some address => decidable_of_iff
      (∃ box ∈ s.held, box.1 = address ∧ box.2.kind = kind) (by simp [State.Holds])

/-- What the host finds in its slots. -/
def handed (m : Memory) (called : Called) : List (ℕ × Box) :=
  (called.answer.toList ++ called.error.toList).filterMap fun address =>
    (m.find address).map fun box => (address, box.fixed)

/-- The end of a call; one that unwinds into the host is a fault. -/
def State.receive (s : State) : Except Stop Called × Memory → State
  | (.ok called, m) =>
    { memory := m, held := handed m called ++ s.held, answers := called :: s.answers }
  | (.error _, m) => { s with memory := m.fault }

/-- One step: the host uses and gives back what it holds. -/
def step (s : State) : Act → Option State
  | .call c =>
    if s.Holds .pack c.handle then some (s.receive (exec (c.op platform) s.memory)) else none
  | .giveBack kind slot =>
    if s.Holds kind slot then
      some { s with
        memory := (exec (returnOp kind slot) s.memory).2
        held := s.held.filter fun box => decide (some box.1 ≠ slot) }
    else none

/-- The calls of a host. -/
def runs : Lts State Act where
  init s := s = State.initial
  step := step platform

/-! ## What stays -/

/-- **The counters of a pack** are those of requests, some of which failed. -/
structure Metrics.Consistent (metrics : Metrics) : Prop where
  failures_le : metrics.failures ≤ metrics.requests
  requests_lt : metrics.requests < 2 ^ 64
  errorRate_eq : metrics.errorRate =
    if metrics.requests = 0 then (0 : ℚ) else metrics.failures / metrics.requests

def Box.Consistent : Box → Prop
  | pack _ metrics => metrics.Consistent
  | _ => True

theorem consistent_default : Metrics.default.Consistent where
  failures_le := le_rfl
  requests_lt := by decide
  errorRate_eq := rfl

theorem Metrics.Consistent.record {metrics : Metrics} (h : metrics.Consistent)
    (measured : Measured) (requestCount : ℕ) (success : Bool) :
    (metrics.record measured requestCount success).Consistent := by
  have hle := h.failures_le
  have hlt := h.requests_lt
  refine ⟨?_, ?_, rfl⟩
  · simp only [Metrics.record, saturatingAdd]
    split <;> omega
  · simp only [Metrics.record, saturatingAdd]
    omega

/-- The boxes as their owners see them. -/
def Memory.fixed (m : Memory) : List (ℕ × Box) := m.boxes.map fun box => (box.1, box.2.fixed)

def Memory.Consistent (m : Memory) : Prop := ∀ box ∈ m.boxes, box.2.Consistent

/-- **What a computation keeps**: the boxes up to their counters. -/
structure Kept (m m' : Memory) : Prop where
  faulted : m'.faulted = m.faulted
  fixed : m'.fixed = m.fixed
  consistent : m.Consistent → m'.Consistent

theorem Kept.refl (m : Memory) : Kept m m := ⟨rfl, rfl, id⟩

theorem Kept.trans {m m₁ m₂ : Memory} (h : Kept m m₁) (h' : Kept m₁ m₂) : Kept m m₂ where
  faulted := h'.faulted.trans h.faulted
  fixed := h'.fixed.trans h.fixed
  consistent hm := h'.consistent (h.consistent hm)

theorem Box.fixed_mapMetrics (box : Box) (f : Metrics → Metrics) :
    (box.mapMetrics f).fixed = box.fixed := by
  cases box <;> rfl

theorem Box.kind_fixed (box : Box) : box.fixed.kind = box.kind := by
  cases box <;> rfl

theorem kept_mapMetrics (m : Memory) (handle : ℕ) {f : Metrics → Metrics}
    (hf : ∀ metrics : Metrics, metrics.Consistent → (f metrics).Consistent) :
    Kept m (m.mapMetrics handle f) := by
  refine ⟨rfl, ?_, fun hm box hbox => ?_⟩
  · rw [Memory.fixed, Memory.mapMetrics, List.map_map, Memory.fixed]
    refine List.map_congr_left fun box _ => ?_
    rw [Function.comp_apply]
    split
    · rw [Box.fixed_mapMetrics]
    · rfl
  · obtain ⟨box, hmem, rfl⟩ := List.mem_map.mp hbox
    have hbox := hm box hmem
    split
    · revert hbox
      rcases box with ⟨_, _ | _ | _ | _⟩
      exacts [hf _, id, id, id]
    · exact hbox

theorem find_fixed (m : Memory) (address : ℕ) :
    (m.find address).map Box.fixed = (m.fixed.find? fun box => decide (box.1 = address)).map
      Prod.snd := by
  rw [Memory.find, Memory.fixed, List.find?_map, Option.map_map, Option.map_map]
  rfl

/-- The pack behind a handle, if there is one. -/
def Memory.HasPack (m : Memory) (handle : Option ℕ) : Prop :=
  ∀ address ∈ handle, ∃ backend metrics, m.find address = some (.pack backend metrics)

/-- A box that looks like a pack is one. -/
theorem exists_pack_of_fixed {box : Option Box} {backend : Backend} {metrics : Metrics}
    (h : box.map Box.fixed = some (.pack backend metrics)) :
    ∃ metrics, box = some (.pack backend metrics) := by
  rcases box with _ | ⟨_ | _ | _ | _⟩
  · exact nomatch h
  · obtain ⟨rfl, -⟩ := Box.pack.inj (Option.some.inj h)
    exact ⟨_, rfl⟩
  all_goals exact nomatch Option.some.inj h

theorem Kept.hasPack {m m' : Memory} {handle : Option ℕ} (h : Kept m m') (hm : m.HasPack handle) :
    m'.HasPack handle := by
  intro address haddress
  obtain ⟨backend, metrics, hfind⟩ := hm address haddress
  have hfixed : (m'.find address).map Box.fixed = (m.find address).map Box.fixed := by
    rw [find_fixed, find_fixed, h.fixed]
  rw [hfind] at hfixed
  obtain ⟨metrics, hpack⟩ := exists_pack_of_fixed hfixed
  exact ⟨backend, metrics, hpack⟩

/-! ## Computations that allocate nothing -/

/-- **Nothing is allocated or freed**, whatever the outcome. -/
def Quiet {α : Type} (handle : Option ℕ) (op : Op α) : Prop :=
  ∀ m, m.HasPack handle → Ends op m (fun _ m' => Kept m m') fun _ m' => Kept m m'

section

variable {α β : Type} {handle : Option ℕ} {op : Op α} {f : α → Op β}

theorem quiet_lift (x : Except Stop α) : Quiet handle (lift x) := by
  intro m _
  cases x with
  | ok a => exact ends_of_exec_ok (exec_lift _ m) (Kept.refl m)
  | error e => exact ends_of_exec_error (exec_lift _ m) (Kept.refl m)

theorem quiet_pure (a : α) : Quiet handle (pure a : Op α) := fun m _ => Ends.pure (Kept.refl m)

theorem quiet_throw (e : Stop) : Quiet handle (throw e : Op α) :=
  fun m _ => Ends.throw (Kept.refl m)

theorem Quiet.bind (h : Quiet handle op) (hf : ∀ a, Quiet handle (f a)) :
    Quiet handle (op >>= f) := by
  intro m hm
  -- A failure of the first half comes before anything the second half keeps.
  refine (Ends.bind (h m hm) fun a m' hkept => ?_)
  exact (hf a m' (hkept.hasPack hm)).mono (fun _ _ => hkept.trans) fun _ _ => hkept.trans

theorem Quiet.result (h : Quiet handle op) : Quiet handle (result op) :=
  fun m hm => (h m hm).result (fun _ _ => id) fun _ _ => id

theorem quiet_failIf {c : Prop} [Decidable c] {e : Stop} : Quiet handle (failIf c e : Op Unit) := by
  unfold failIf
  split
  exacts [quiet_throw e, quiet_pure ()]

theorem quiet_checkCancelled {cancelled : Except Stop Bool} {message : String} :
    Quiet handle (checkCancelled cancelled message) :=
  (quiet_lift _).bind fun _ => quiet_failIf

theorem Quiet.mapM {xs : List α} {g : α → Op β} (h : ∀ x, Quiet handle (g x)) :
    Quiet handle (xs.mapM g) := by
  induction xs with
  | nil => exact quiet_pure []
  | cons x xs ih =>
    rw [List.mapM_cons]
    exact (h x).bind fun _ => ih.bind fun _ => quiet_pure _

theorem Quiet.forM {xs : List α} {g : α → Op PUnit} (h : ∀ x, Quiet handle (g x)) :
    Quiet handle (xs.forM g) := by
  induction xs with
  | nil => exact quiet_pure _
  | cons x xs ih => exact (h x).bind fun _ => ih

/-- **An execution is recorded in the counters only.** -/
theorem Quiet.recorded (h : Quiet handle op) (address : ℕ) (measured : Measured)
    (requestCount : ℕ) : Quiet handle (recorded address measured requestCount op) := by
  refine h.result.bind fun outcome => ?_
  have hrecord : Quiet handle (update (fun m => m.mapMetrics address fun metrics =>
      metrics.record measured requestCount outcome.isOk) : Op Unit) :=
    fun m _ => Ends.update (kept_mapMetrics m address fun _ hmetrics => hmetrics.record _ _ _)
  split
  · exact quiet_throw _
  · exact hrecord.bind fun _ => quiet_lift _

theorem exec_state {m : Memory} {address : ℕ} {backend : Backend} {metrics : Metrics}
    (h : m.find address = some (.pack backend metrics)) :
    exec (state (some address)) m = (.ok (address, backend), m) := by
  simp only [exec, state, ExceptT.run_mk, StateT.run, h]

/-- The pack behind a handle is found. -/
theorem ends_state {m : Memory} (hm : m.HasPack handle) :
    Ends (state handle) m (fun pack m' => m' = m ∧ handle = some pack.1) fun _ m' => m' = m := by
  rcases handle with _ | address
  · exact ends_of_exec_error (v := m) rfl rfl
  · obtain ⟨backend, metrics, hfind⟩ := hm address rfl
    exact ends_of_exec_ok (exec_state hfind) ⟨rfl, rfl⟩

theorem quiet_state : Quiet handle (state handle) :=
  fun _ hm => (ends_state hm).mono (fun _ _ h => h.1 ▸ Kept.refl _) fun _ _ h => h ▸ Kept.refl _

end

/-! ## Computations that may allocate a box -/

/-- **What a computation hands over**: nothing, or a box that is put where none is. -/
inductive Handed (G : Option Box → Prop) (m : Memory) : Option ℕ → Memory → Prop
  | nothing {m' : Memory} : G none → Kept m m' → Handed G m none m'
  | box {m₁ : Memory} (box : Box) : G (some box) → box.Consistent → Kept m m₁ →
    Handed G m (some (platform.address m₁.boxes))
      ⟨(platform.address m₁.boxes, box) :: m₁.boxes, m₁.faulted⟩

/-- **A box is allocated as the last thing**, or none is; nothing is on the way to a failure. -/
def Gives (G : Option Box → Prop) (handle : Option ℕ) (op : Op (Option ℕ)) : Prop :=
  ∀ m, m.HasPack handle → Ends op m (Handed platform G m) fun _ m' => Kept m m'

/-- A buffer, or nothing. -/
def IsBuffer (box : Option Box) : Prop := ∀ b ∈ box, b.kind = .buffer

/-- A result. -/
def IsResult (box : Option Box) : Prop := ∃ tensor, box = some (.result tensor)

section

variable {platform} {G : Option Box → Prop} {m m₁ m' : Memory} {slot handle : Option ℕ} {α : Type}
  {op : Op α} {f : α → Op (Option ℕ)}

theorem Handed.of_kept (hkept : Kept m m₁) (h : Handed platform G m₁ slot m') :
    Handed platform G m slot m' := by
  cases h with
  | nothing hG h => exact .nothing hG (hkept.trans h)
  | box box hG hbox h => exact .box box hG hbox (hkept.trans h)

theorem Handed.mono {G' : Option Box → Prop} (hG : ∀ box, G box → G' box)
    (h : Handed platform G m slot m') : Handed platform G' m slot m' := by
  cases h with
  | nothing hnone h => exact .nothing (hG _ hnone) h
  | box box hsome hbox h => exact .box box (hG _ hsome) hbox h

theorem gives_allocate {box : Box} (hG : G (some box)) (hbox : box.Consistent) :
    Gives platform G handle (allocate platform box) :=
  fun m _ => ends_of_exec_ok (v := ⟨(platform.address m.boxes, box) :: m.boxes, m.faulted⟩) rfl
    (.box box hG hbox (Kept.refl m))

theorem gives_none (hG : G none) : Gives platform G handle (pure none) :=
  fun m _ => Ends.pure (.nothing hG (Kept.refl m))

theorem gives_throw (e : Stop) : Gives platform G handle (throw e) :=
  fun m _ => Ends.throw (Kept.refl m)

theorem Quiet.bind_gives (h : Quiet handle op) (hf : ∀ a, Gives platform G handle (f a)) :
    Gives platform G handle (op >>= f) := by
  intro m hm
  refine Ends.bind (h m hm) fun a m' hkept => ?_
  exact (hf a m' (hkept.hasPack hm)).mono (fun _ _ => Handed.of_kept hkept) fun _ _ => hkept.trans

/-- What follows `state` knows the handle. -/
theorem gives_bind_state {f : ℕ × Backend → Op (Option ℕ)}
    (hf : ∀ pack, handle = some pack.1 → Gives platform G handle (f pack)) :
    Gives platform G handle (state handle >>= f) := by
  intro m hm
  have hstate : Ends (state handle) m (fun pack m' => m' = m ∧ handle = some pack.1)
      fun _ m' => Kept m m' := (ends_state hm).mono (fun _ _ => id) fun _ _ h => h ▸ Kept.refl _
  refine Ends.bind hstate fun pack m' ⟨hm', hpack⟩ => ?_
  rw [hm']
  exact hf pack hpack m hm

theorem gives_intoOwnedBuffer (bytes : List UInt8) (hG : ∀ box, IsBuffer box → G box) :
    Gives platform G handle (intoOwnedBuffer platform bytes) := by
  unfold intoOwnedBuffer
  split
  · exact gives_none (hG none nofun)
  · exact gives_allocate (hG _ fun b hb => Option.some.inj hb ▸ rfl) trivial

theorem gives_writeResult (tensor : OwnedTensor) :
    Gives platform IsResult handle (writeResult platform tensor) :=
  (quiet_lift _).bind_gives fun _ => gives_allocate ⟨tensor, rfl⟩ trivial

theorem gives_writeBatchResult (tensors : List OwnedTensor) :
    Gives platform (fun _ => True) handle (writeBatchResult platform tensors) :=
  (quiet_lift _).bind_gives fun _ => quiet_failIf.bind_gives fun _ => gives_allocate trivial trivial

theorem gives_writeBuffer (reportOut : Bool) (bytes : List UInt8) :
    Gives platform (fun _ => True) handle (writeBuffer platform reportOut bytes) :=
  quiet_failIf.bind_gives fun _ => gives_intoOwnedBuffer bytes fun _ _ => trivial

/-! ## Calls -/

variable (platform) in
/-- **What a call leaves**: its answer with the status of success, or else a text at most. -/
inductive Answered (G : Option Box → Prop) (m : Memory) : Called → Memory → Prop
  | ok {slot : Option ℕ} {m' : Memory} : Handed platform G m slot m' →
    Answered G m ⟨.ok, slot, none⟩ m'
  | failed {status : CallStatus} {slot : Option ℕ} {m' : Memory} : status ≠ .ok →
    Handed platform IsBuffer m slot m' → Answered G m ⟨status, none, slot⟩ m'

variable (platform) in
/-- A call ends, and leaves its answer. -/
def Answers (G : Option Box → Prop) (handle : Option ℕ) (op : Op Called) : Prop :=
  ∀ m, m.HasPack handle → Ends op m (Answered platform G m) fun _ _ => False

theorem Answered.of_kept {called : Called} (hkept : Kept m m₁)
    (h : Answered platform G m₁ called m') : Answered platform G m called m' := by
  cases h with
  | ok h => exact .ok (h.of_kept hkept)
  | failed hne h => exact .failed hne (h.of_kept hkept)

/-- The text of an error is allocated, if anything is. -/
theorem ends_reportError (m : Memory) (errorOut : Bool) (message : String) :
    Ends (reportError platform errorOut message) m (Handed platform IsBuffer m)
      fun _ _ => False := by
  unfold reportError intoOwnedBuffer
  split
  · split
    · exact Ends.pure (.nothing nofun (Kept.refl m))
    · exact ends_of_exec_ok rfl
        (.box (.buffer _) (fun b hb => Option.some.inj hb ▸ rfl) trivial (Kept.refl m))
  · exact Ends.pure (.nothing nofun (Kept.refl m))

variable (platform) in
/-- What an operation leaves, whichever way it ended. -/
def Left (G : Option Box → Prop) (m : Memory) : Except Stop (Option ℕ) → Memory → Prop
  | .ok slot, m' => Handed platform G m slot m'
  | .error _, m' => Kept m m'

/-- **`with_ffi_error` turns every outcome into an answer**: an operation that failed has nothing to
hand over but its text. -/
theorem Gives.withFfiError {op : Op (Option ℕ)} (h : Gives platform G handle op) (errorOut : Bool) :
    Answers platform G handle (withFfiError platform errorOut op) := by
  intro m hm
  refine Ends.bind (Q := Left platform G m) ((h m hm).result (fun _ _ => id) fun _ _ => id) ?_
  rintro (stop | slot) m' hend
  · refine Ends.bind (ends_reportError m' errorOut _) fun slot m'' hslot => ?_
    exact Ends.pure (.failed stop.callError.status_ne (hslot.of_kept hend))
  · exact Ends.pure (.ok hend)

theorem quiet_execute (call : InferCall) (tensors : List BorrowedTensor) :
    Quiet handle (call.execute tensors) :=
  (quiet_lift _).bind fun _ => quiet_checkCancelled.bind fun _ => quiet_lift _

/-- **`infer` answers with a result.** -/
theorem answers_infer (call : InferCall) :
    Answers platform IsResult call.handle (infer platform call) := by
  refine Gives.withFfiError (quiet_failIf.bind_gives fun _ => ?_) call.errorOut
  refine gives_bind_state fun ⟨address, backend⟩ _ => ?_
  cases backend with
  | generation => exact (quiet_lift _).bind_gives fun _ => gives_writeResult _
  | stateless =>
    refine (quiet_lift _).bind_gives fun ⟨requestId, tensors⟩ => ?_
    refine (quiet_lift _).bind_gives fun _ => quiet_checkCancelled.bind_gives fun _ => ?_
    refine ((quiet_execute call tensors).recorded address call.measured 1).bind_gives fun _ => ?_
    exact quiet_checkCancelled.bind_gives fun _ => gives_writeResult _

theorem quiet_executeBatch (call : BatchCall) (requests : List (ℕ × List BorrowedTensor)) :
    Quiet handle (call.execute requests) :=
  (Quiet.mapM fun _ => quiet_lift _).bind fun _ =>
    (Quiet.forM fun _ => quiet_checkCancelled).bind fun _ => quiet_lift _

/-- **`infer_batch` answers with a batch.** -/
theorem answers_inferBatch (call : BatchCall) :
    Answers platform (fun _ => True) call.handle (inferBatch platform call) := by
  refine Gives.withFfiError (quiet_failIf.bind_gives fun _ => ?_) call.errorOut
  refine (quiet_lift _).bind_gives fun batch => quiet_failIf.bind_gives fun _ => ?_
  refine quiet_failIf.bind_gives fun _ => (quiet_lift _).bind_gives fun memory => ?_
  have hread : ∀ index, Quiet call.handle (call.readRequest platform memory index) :=
    fun _ => (quiet_lift _).bind fun _ => quiet_failIf.bind fun _ => quiet_pure _
  refine (Quiet.mapM hread).bind_gives fun requests => gives_bind_state fun pack _ => ?_
  refine quiet_failIf.bind_gives fun _ => (quiet_lift _).bind_gives fun _ => ?_
  refine ((quiet_executeBatch call requests).recorded _ _ _).bind_gives fun tensors => ?_
  exact (Quiet.forM fun _ => quiet_checkCancelled).bind_gives fun _ =>
    gives_writeBatchResult tensors

/-! ## A stream gives its result back -/

theorem find_allocated (m : Memory) (address : ℕ) (box : Box) :
    Memory.find ⟨(address, box) :: m.boxes, m.faulted⟩ address = some box := by
  rw [Memory.find, List.find?_cons_of_pos (by simp)]
  rfl

/-- **A box that was put where none is leaves no trace** when it is freed. -/
theorem free_allocated (m : Memory) (box : Box) :
    Memory.free ⟨(platform.address m.boxes, box) :: m.boxes, m.faulted⟩ box.kind
      (platform.address m.boxes) = m := by
  rw [Memory.free, find_allocated m, Option.map_some, if_pos rfl,
    List.filter_cons_of_neg (by simp)]
  have hrest : (m.boxes.filter fun other => decide (other.1 ≠ platform.address m.boxes)) =
      m.boxes := by
    refine List.filter_eq_self.mpr fun other hother => decide_eq_true fun heq => ?_
    exact platform.fresh m.boxes (heq ▸ List.mem_map_of_mem hother)
  rw [hrest]

theorem ends_acknowledge (stream : StreamCall) (status : CallbackStatus) (hkept : Kept m m₁) :
    Ends (stream.acknowledge platform status) m₁ (Answered platform (fun _ => True) m)
      fun _ _ => False := by
  have hfailed : ∀ status, streamStatus status ≠ .ok → Ends (do
      let text ← reportError platform stream.call.errorOut
        s!"native ORT stream consumer returned status {stream.statusCode status}"
      return ⟨streamStatus status, none, text⟩ : Op Called) m₁
      (Answered platform (fun _ => True) m) fun _ _ => False := by
    intro status hne
    refine Ends.bind (ends_reportError m₁ _ _) fun text m' htext => ?_
    exact Ends.pure (.failed hne (htext.of_kept hkept))
  cases status with
  | ok => exact Ends.pure (.ok (.nothing trivial hkept))
  | cancelled => exact hfailed .cancelled nofun
  | invalidArgument => exact hfailed .invalidArgument nofun
  | panic => exact hfailed .panic nofun
  | other code => exact hfailed (.other code) nofun

/-- The consumer reads a live result. -/
theorem exec_deliver {m : Memory} {address : ℕ} {tensor : OwnedTensor}
    (onChunk : Wire.NamedTensorView → Option CallbackStatus)
    (h : m.find address = some (.result tensor)) :
    exec (deliver platform onChunk (some address)) m =
      (.ok ((onChunk (Wire.publishedView platform.abi tensor)).getD .panic), m) := by
  simp only [exec, deliver, ExceptT.run_mk, StateT.run, Option.bind_some, h]

/-- **The consumer sees a live result, and it is gone afterwards.** -/
theorem ends_forward (stream : StreamCall)
    (onChunk : Wire.NamedTensorView → Option CallbackStatus) {called : Called}
    (h : Answered platform IsResult m called m₁) :
    Ends (stream.forward platform onChunk called) m₁ (Answered platform (fun _ => True) m)
      fun _ _ => False := by
  cases h with
  | failed hne h =>
    rw [StreamCall.forward, if_pos hne]
    exact Ends.pure (.failed hne h)
  | ok h =>
    rw [StreamCall.forward, if_neg (not_not.mpr rfl)]
    cases h with
    | nothing hG _ =>
      obtain ⟨_, hnone⟩ := hG
      cases hnone
    | @box m₂ box hG _ hkept =>
      obtain ⟨tensor, htensor⟩ := hG
      obtain rfl := Option.some.inj htensor
      refine Ends.bind (Q := fun _ m' => m' =
        ⟨(platform.address m₂.boxes, .result tensor) :: m₂.boxes, m₂.faulted⟩) ?_ ?_
      · exact ends_of_exec_ok (exec_deliver onChunk (find_allocated m₂ _ _)) rfl
      · rintro status _ rfl
        refine Ends.bind_update ?_
        rw [Option.elim_some]
        have hfree : Memory.free ⟨(platform.address m₂.boxes, .result tensor) :: m₂.boxes,
            m₂.faulted⟩ .result (platform.address m₂.boxes) = m₂ :=
          free_allocated m₂ (.result tensor)
        rw [hfree]
        exact ends_acknowledge stream status hkept

theorem answers_inferStream (stream : StreamCall) :
    Answers platform (fun _ => True) stream.call.handle (inferStream platform stream) := by
  unfold inferStream
  split
  · exact (gives_throw _).withFfiError _
  · next onChunk _ =>
    intro m hm
    have hinfer : ∀ m₁, Kept m m₁ → Ends (do
        let called ← infer platform { stream.call with resultOut := true }
        stream.forward platform onChunk called : Op Called) m₁
        (Answered platform (fun _ => True) m) fun _ _ => False := fun m₁ hkept =>
      (Ends.bind (answers_infer { stream.call with resultOut := true } m₁ (hkept.hasPack hm))
        fun _ _ h => ends_forward stream onChunk (h.of_kept hkept))
    refine Ends.bind (Q := fun _ m' => Kept m m') (((quiet_state m hm)).result (fun _ _ => id)
      fun _ _ => id) ?_
    rintro (stop | ⟨address, _ | _⟩) m₁ hkept
    · exact hinfer m₁ hkept
    · exact hinfer m₁ hkept
    · have hstream : Gives platform (fun _ => True) stream.call.handle (do
          lift stream.generateStream
          return none) := (quiet_lift _).bind_gives fun _ => gives_none trivial
      exact (hstream.withFfiError _ m₁ (hkept.hasPack hm)).mono
        (fun _ _ h => h.of_kept hkept) fun _ _ => id

/-! ## The other calls -/

theorem exec_snapshot {m : Memory} {address : ℕ} {measured : Measured} {backend : Backend}
    {metrics : Metrics}
    (h : (m.mapMetrics address fun metrics => metrics.snapshot measured).find address =
      some (.pack backend metrics)) :
    exec (snapshot address measured) m =
      (.ok (some metrics), m.mapMetrics address fun metrics => metrics.snapshot measured) := by
  simp only [exec, snapshot, ExceptT.run_mk, StateT.run, h]

theorem quiet_snapshot (address : ℕ) (measured : Measured) :
    Quiet (some address) (snapshot address measured) := by
  intro m hm
  have hkept : Kept m (m.mapMetrics address fun metrics => metrics.snapshot measured) :=
    kept_mapMetrics m address fun _ h => ⟨h.failures_le, h.requests_lt, h.errorRate_eq⟩
  obtain ⟨backend, metrics, hfind⟩ := hkept.hasPack hm address rfl
  exact ends_of_exec_ok (exec_snapshot hfind) hkept

theorem quiet_observed (measured : Measured) {pack : ℕ × Backend} :
    Quiet (some pack.1) (observed measured pack) := by
  unfold observed
  split
  · exact quiet_pure none
  · exact quiet_snapshot pack.1 measured

/-- **Every call of the table ends with an answer.** -/
theorem answers_op (c : Call) : Answers platform (fun _ => True) c.handle (c.op platform) := by
  cases c with
  | describe descriptorOut errorOut descriptor =>
    exact ((quiet_lift _).bind_gives fun _ => gives_writeBuffer _ _).withFfiError _
  | initializePack handleOut errorOut backend =>
    refine (quiet_failIf.bind_gives fun _ => (quiet_lift _).bind_gives fun backend => ?_).withFfiError _
    exact gives_allocate trivial (show (Box.pack backend .default).Consistent from
      consistent_default)
  | infer call =>
    intro m hm
    refine (answers_infer call m hm).mono (fun called m' h => ?_) fun _ _ => id
    cases h with
    | ok h => exact .ok (h.mono fun _ _ => trivial)
    | failed hne h => exact .failed hne h
  | inferStream stream => exact answers_inferStream stream
  | inferBatch call => exact answers_inferBatch call
  | report handle reportOut errorOut encode =>
    exact (quiet_state.bind_gives fun _ => (quiet_lift _).bind_gives fun _ =>
      gives_writeBuffer _ _).withFfiError _
  | metrics handle reportOut errorOut measured encode =>
    refine (gives_bind_state fun pack hpack => ?_).withFfiError _
    have hhandle : handle = some pack.1 := hpack
    have hobserved : Quiet handle (observed measured pack) := hhandle ▸ quiet_observed measured
    exact hobserved.bind_gives fun _ => (quiet_lift _).bind_gives fun _ => gives_writeBuffer _ _
  | command handle errorOut answer =>
    exact (quiet_state.bind_gives fun _ => (quiet_lift _).bind_gives fun _ =>
      gives_none trivial).withFfiError _
  | cancel handle answer =>
    exact (quiet_state.bind_gives fun _ => (quiet_lift _).bind_gives fun _ =>
      gives_none trivial).withFfiError _

/-! ## Every reachable state -/

/-- **Every live box has one owner**: the boxes are those the host holds, as they were handed to it. -/
structure Owned (s : State) : Prop where
  alive : s.memory.faulted = false
  owned : s.memory.fixed = s.held
  distinct : (s.held.map Prod.fst).Nodup
  counted : s.memory.Consistent
  /-- A call either succeeded or has nothing to give but a text. -/
  answered : ∀ called ∈ s.answers,
    (called.status = .ok → called.error = none) ∧ (called.status ≠ .ok → called.answer = none)

theorem map_fst_fixed (m : Memory) : m.fixed.map Prod.fst = m.boxes.map Prod.fst := by
  rw [Memory.fixed, List.map_map]
  rfl

/-- A box that its owner knows is found. -/
theorem find_of_mem (m : Memory) {box : ℕ × Box} (hnodup : (m.fixed.map Prod.fst).Nodup)
    (hbox : box ∈ m.fixed) : (m.find box.1).map Box.fixed = some box.2 := by
  have hfind : (m.fixed.find? fun other => decide (other.1 = box.1)) = some box := by
    rcases hfound : m.fixed.find? fun other => decide (other.1 = box.1) with _ | other
    · exact absurd (decide_eq_true rfl) (List.find?_eq_none.mp hfound box hbox)
    · have hsame : other.1 = box.1 := by simpa using List.find?_some hfound
      rw [hfound, List.inj_on_of_nodup_map hnodup (List.mem_of_find?_eq_some hfound) hbox hsame]
  rw [find_fixed, hfind]
  rfl

/-- **What is handed over is what is new.** -/
theorem Handed.fixed (h : Handed platform G m slot m') :
    (slot.toList.filterMap fun address => (m'.find address).map fun box => (address, box.fixed)) ++
        m.fixed = m'.fixed ∧
      m'.faulted = m.faulted ∧ (m.Consistent → m'.Consistent) ∧
      ((m.fixed.map Prod.fst).Nodup → (m'.fixed.map Prod.fst).Nodup) := by
  cases h with
  | nothing _ hkept =>
    exact ⟨hkept.fixed.symm, hkept.faulted, hkept.consistent, fun hnodup => hkept.fixed ▸ hnodup⟩
  | @box m₁ box _ hbox hkept =>
    refine ⟨?_, hkept.faulted, fun hm => List.forall_mem_cons.mpr ⟨hbox, hkept.consistent hm⟩, ?_⟩
    · rw [Option.toList_some, List.filterMap_cons, find_allocated m₁, ← hkept.fixed]
      rfl
    · rw [← hkept.fixed, map_fst_fixed, map_fst_fixed, List.map_cons]
      exact List.nodup_cons.mpr ∘ And.intro (platform.fresh m₁.boxes)

/-- The slots of a call hold what is new. -/
theorem Answered.handed {called : Called} (h : Answered platform G m called m') :
    handed m' called ++ m.fixed = m'.fixed ∧ m'.faulted = m.faulted ∧
      (m.Consistent → m'.Consistent) ∧
      ((m.fixed.map Prod.fst).Nodup → (m'.fixed.map Prod.fst).Nodup) := by
  cases h with
  | ok h =>
    rw [AbiCalls.handed, Option.toList_none, List.append_nil]
    exact h.fixed
  | failed _ h => exact h.fixed

theorem Answered.exclusive {called : Called} (h : Answered platform G m called m') :
    (called.status = .ok → called.error = none) ∧ (called.status ≠ .ok → called.answer = none) := by
  cases h with
  | ok _ => exact ⟨fun _ => rfl, fun hne => absurd rfl hne⟩
  | failed hne _ => exact ⟨fun heq => absurd heq hne, fun _ => rfl⟩

variable {s s' : State}

/-- What the host holds is there. -/
theorem Owned.find (h : Owned s) {box : ℕ × Box} (hbox : box ∈ s.held) :
    (s.memory.find box.1).map Box.fixed = some box.2 :=
  find_of_mem s.memory (h.owned ▸ h.distinct) (h.owned ▸ hbox)

theorem Owned.hasPack (h : Owned s) {handle : Option ℕ} (hholds : s.Holds .pack handle) :
    s.memory.HasPack handle := by
  intro address haddress
  obtain ⟨⟨_, box⟩, hbox, rfl, hkind⟩ := hholds address haddress
  rcases box with ⟨backend, metrics⟩ | _ | _ | _
  · obtain ⟨metrics, hfind⟩ := exists_pack_of_fixed (h.find hbox)
    exact ⟨backend, metrics, hfind⟩
  all_goals exact nomatch hkind

/-- **A call.** -/
theorem Owned.call (h : Owned s) {c : Call} (hholds : s.Holds .pack c.handle) :
    Owned (s.receive (exec (c.op platform) s.memory)) := by
  obtain ⟨hok, herror⟩ := answers_op c s.memory (h.hasPack hholds)
  rcases hexec : exec (c.op platform) s.memory with ⟨e | called, m'⟩
  · exact (herror e m' hexec).elim
  · have hanswered := hok called m' hexec
    obtain ⟨hfixed, hfaulted, hconsistent, hnodup⟩ := hanswered.handed
    rw [h.owned] at hfixed hnodup
    exact {
      alive := hfaulted.trans h.alive
      owned := hfixed.symm
      distinct := by
        rw [State.receive, hfixed]
        exact hnodup h.distinct
      counted := hconsistent h.counted
      answered := List.forall_mem_cons.mpr ⟨hanswered.exclusive, h.answered⟩ }

theorem exec_returnOp (kind : Kind) (slot : Option ℕ) (m : Memory) :
    (exec (returnOp kind slot) m).2 = slot.elim m (m.free kind) := by
  cases kind <;> rfl

/-- **A box is given back.** -/
theorem Owned.giveBack (h : Owned s) {kind : Kind} {slot : Option ℕ} (hholds : s.Holds kind slot) :
    Owned { s with
      memory := slot.elim s.memory (s.memory.free kind)
      held := s.held.filter fun box => decide (some box.1 ≠ slot) } := by
  rcases slot with _ | address
  · have hall : (s.held.filter fun box => decide (some box.1 ≠ none)) = s.held :=
      List.filter_eq_self.mpr fun _ _ => rfl
    rw [hall]
    exact h
  · obtain ⟨box, hbox, rfl, hkind⟩ := hholds address rfl
    have hfind : (s.memory.find box.1).map Box.kind = some kind := by
      have hfixed := congrArg (Option.map Box.kind) (h.find hbox)
      rw [Option.map_map, Option.map_some, hkind] at hfixed
      rw [← hfixed]
      exact congrArg (Option.map · _) (funext fun box => (Box.kind_fixed box).symm)
    have hfree : s.memory.free kind box.1 = { s.memory with
        boxes := s.memory.boxes.filter fun other => decide (other.1 ≠ box.1) } := if_pos hfind
    have hfilter : (fun other : ℕ × Box => decide (some other.1 ≠ some box.1)) =
        fun other => decide (other.1 ≠ box.1) := by
      funext other
      exact decide_eq_decide.mpr (by rw [ne_eq, Option.some.injEq])
    rw [Option.elim_some, hfree, hfilter]
    exact {
      alive := h.alive
      owned := by
        rw [Memory.fixed, ← h.owned, Memory.fixed, List.filter_map]
        rfl
      distinct := h.distinct.sublist (List.filter_sublist.map Prod.fst)
      counted := fun other hother => h.counted other (List.mem_of_mem_filter hother)
      answered := h.answered }

theorem Owned.step {a : Act} (h : Owned s) (hs : step platform s a = some s') : Owned s' := by
  cases a with
  | call c =>
    rw [AbiCalls.step] at hs
    split at hs
    · next hholds => exact Option.some.inj hs ▸ h.call hholds
    · exact nomatch hs
  | giveBack kind slot =>
    rw [AbiCalls.step] at hs
    split at hs
    · next hholds =>
      rw [exec_returnOp] at hs
      exact Option.some.inj hs ▸ h.giveBack hholds
    · exact nomatch hs

theorem owned_initial : Owned State.initial where
  alive := rfl
  owned := rfl
  distinct := List.nodup_nil
  counted := nofun
  answered := nofun

end

/-- **Every box at the boundary has one owner, in every run**: no call and no return touches a box
that is not live or is of another kind, and none unwinds into the host; what is live is what the host
holds, as it was handed over; a call that did not succeed has nothing to give but a text; and of the
requests of an adapter no more failed than were made. -/
theorem abi_owned (platform : Platform) {s : State} (h : (runs platform).Reach s) : Owned s :=
  h.invariant (fun _ hs => hs ▸ owned_initial) fun _ _ _ hs _ hstep => hs.step hstep

/-- A platform that puts a box behind all the others. -/
def lastAddress : Platform where
  abi := GenerationStream.bareCrates.abi
  batchSize := 0
  address boxes := (boxes.map Prod.fst).sum + 1
  fresh boxes h := by
    have hle := List.single_le_sum (fun _ _ => Nat.zero_le _) _ h
    omega

/-- A prompt of two characters. -/
def promptRequest : InferenceRequest :=
  Wire.requestOf lastAddress.abi 7 [publishedView lastAddress.abi
    { name := "input", dtype := .utf8, shape := [1, 2], data := [104, 105] }]

/-- The answer to it is one character. -/
def oneToken : OwnedTensor where
  name := "token"
  dtype := .utf8
  shape := [1, 1]
  data := [104]

/-- A call about the prompt, of a backend that answers. -/
def promptCall (handle : ℕ) : InferCall where
  handle := some handle
  request := some promptRequest
  resultOut := true
  errorOut := true
  generate _ := .ok oneToken
  register _ := .ok ()
  cancelledBefore := .ok false
  prepare _ := .ok none
  cancelledInPreprocessing := .ok false
  run _ := .ok oneToken
  measured := ⟨1, 0, ⟨0, 0, 0, 0, 0⟩⟩
  cancelledAfter := .ok false

/-- The prompt twice; the second one may be cancelled while it is preprocessed. -/
def batchCall (handle : ℕ) (cancelled : Bool) : BatchCall where
  handle := some handle
  batch := some ⟨0, 2, some fun _ => promptRequest⟩
  resultOut := true
  errorOut := true
  cancelledBefore _ := false
  register _ := .ok ()
  prepare _ := .ok none
  cancelledInPreprocessing index := .ok (cancelled && index == 1)
  run requests := .ok (requests.map fun _ => oneToken)
  measured := ⟨1, 0, ⟨0, 0, 0, 0, 0⟩⟩
  cancelledAfter _ := .ok false

/-- A generation adapter answers the prompt and panics while it streams it again; the result is given
back, and the text of the error is not. -/
def generationRun : List Act :=
  [.call (.initializePack true true (.ok .generation)), .call (.infer (promptCall 1)),
    .call (.inferStream ⟨promptCall 1, some fun _ => none, .error .panicked, fun _ => 0⟩),
    .giveBack .result (some 2)]

/-- After it, a stateless adapter answers the prompt, streams it to a consumer that unwinds, answers a
batch and has another one cancelled; the batch is given back and the adapter shut down. -/
def statelessRun : List Act :=
  [.call (.initializePack true true (.ok .stateless)), .call (.infer (promptCall 6)),
    .call (.inferStream ⟨promptCall 6, some fun _ => none, .ok (), fun _ => 5⟩),
    .call (.inferBatch (batchCall 6 false)), .call (.inferBatch (batchCall 6 true)),
    .giveBack .batch (some 48), .giveBack .pack (some 6)]

/-- The host is left with the first adapter, the second result and the three texts. -/
theorem abi_owned_twoAdapters :
    ∃ s, (runs lastAddress).exec State.initial (generationRun ++ statelessRun) = some s ∧
      s.held.map (fun box => (box.1, box.2.kind)) =
        [(96, .buffer), (24, .buffer), (12, .result), (4, .buffer), (1, .pack)] ∧
      Owned s :=
  ⟨_, rfl, rfl, abi_owned lastAddress
    (Lts.reach_of_exec (.init rfl) (generationRun ++ statelessRun) rfl)⟩

end Kapsl.Ort.AbiCalls
