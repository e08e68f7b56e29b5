import Mathlib.Data.Nat.Notation
import Mathlib.Data.List.Perm.Basic
import Mathlib.Logic.Function.Basic
import Kapsl.Lib.Ledger
import Kapsl.Lib.Lts

/-!
# Ort/Allocator — the governed device allocator and its hosts

One allocator per CUDA device serves the model replicas registered on it, each with the callbacks of
its own host.  A thread allocates for the scope it is in: a thread-local context that every
`AllocationScope` replaces when it is entered and restores when it is dropped.  A section of an
allocator's lock, the host callbacks inside it included, is one step; `unregister_client` keeps the
registry's lock until ORT has let the emptied allocator go.

`Host` stands for a `HostDeviceCallbacks`; the constants and the well-formedness test of the backend
ABI are parameters (`Abi`).  Every answer of a host or of ORT is part of the label.  History:
`scopes` lists the scopes a thread is in, which `step` keeps from what was called and whether a scope
was returned; `serial` numbers the grants, and `events` is what has passed between the allocator and
its hosts.
-/

namespace Kapsl.Ort.Allocator

/-- `ClientKey`. -/
structure ClientKey where
  modelId : UInt32
  replicaId : UInt32
  deriving DecidableEq

/-- `KapslDeviceAllocationScopeV1`. -/
structure Scope where
  kind : UInt32
  id : UInt64
  modelId : UInt32
  replicaId : UInt32
  requestIds : List UInt64
  deriving DecidableEq

/-- `KapslScopedDeviceAllocationRequestV1`. -/
structure Request where
  deviceId : UInt32
  memoryKind : UInt32
  allocationClass : UInt32
  scope : Scope
  bytes : UInt64
  alignment : UInt64
  deriving DecidableEq

/-- `KapslDeviceAllocationV1`. -/
structure Allocation where
  structSize : UInt32
  reserved : UInt32
  allocationId : UInt64
  devicePtr : UInt64
  grantedBytes : UInt64
  deriving DecidableEq

/-- `DeviceAllocationScopeKind`. -/
inductive ScopeKind
  | model
  | replica
  | request
  | requestBatch

/-- `DeviceAllocationClass`. -/
inductive AllocationClass
  | persistentWeights
  | kvCache
  | transientWorkspace
  | blockTable
  | requestTransient
  | other

/-- `DeviceAllocationScope`, as the generation engine passes it to the bridge. -/
structure DeviceScope where
  kind : ScopeKind
  allocationClass : AllocationClass
  deviceId : ℤ
  modelId : UInt32
  replicaId : UInt32
  scopeId : UInt64
  requestIds : List UInt64

/-- What the allocator uses of the backend ABI and of the engine's scope type. -/
structure Abi where
  scopeModel : UInt32
  scopeReplica : UInt32
  scopeRequest : UInt32
  scopeRequestBatch : UInt32
  classWeights : UInt32
  classKv : UInt32
  classWorkspace : UInt32
  classRequest : UInt32
  classOther : UInt32
  memoryCuda : UInt32
  statusOk : Int32
  /-- `size_of::<KapslDeviceAllocationV1>()`. -/
  allocationSize : UInt32
  /-- `KapslDeviceAllocationScopeV1::is_well_formed`. -/
  wellFormed : Scope → Bool
  /-- `DeviceAllocationScope::is_well_formed`. -/
  deviceScopeWellFormed : DeviceScope → Bool

/-- `CUDA_ALLOCATION_ALIGNMENT`. -/
def cudaAllocationAlignment : UInt64 := 256

/-- `AllocationContext`. -/
structure Context where
  deviceId : Int32
  client : ClientKey
  allocationClass : UInt32
  scopeKind : UInt32
  scopeId : UInt64
  requestIds : List UInt64
  deriving DecidableEq

/-- The ABI scope of a context. -/
def Context.scope (c : Context) : Scope where
  kind := c.scopeKind
  id := c.scopeId
  modelId := c.client.modelId
  replicaId := c.client.replicaId
  requestIds := c.requestIds

/-- The request `allocate_scoped` builds. -/
def Context.request (abi : Abi) (c : Context) (deviceId : Int32) (bytes : UInt64) : Request where
  deviceId := deviceId.toUInt32
  memoryKind := abi.memoryCuda
  allocationClass := c.allocationClass
  scope := c.scope
  bytes := bytes
  alignment := cudaAllocationAlignment

/-! ## The state of one allocator -/

variable {Host : Type*}

/-- `LiveAllocation`, with the key it is stored under. -/
structure LiveAllocation (Host : Type*) where
  pointer : UInt64
  allocation : Allocation
  callbacks : Host
  client : ClientKey
  /-- The number of the grant. -/
  serial : ℕ

/-- What was granted, and by whom. -/
def LiveAllocation.granted (e : LiveAllocation Host) : Host × Allocation :=
  (e.callbacks, e.allocation)

/-- `AllocatorInner`. -/
structure AllocatorInner (Host : Type*) where
  clients : List (ClientKey × Host)
  live : List (LiveAllocation Host)

/-- What passes between the allocator and the hosts. -/
abbrev Event (Host : Type*) := Ledger.Event (Host × Request) (Host × Allocation)

namespace AllocatorInner

/-- `clients.get`. -/
def client? (inner : AllocatorInner Host) (client : ClientKey) : Option Host :=
  inner.clients.lookup client

/-- `live.get`. -/
def live? (inner : AllocatorInner Host) (pointer : UInt64) : Option (LiveAllocation Host) :=
  inner.live.find? (·.pointer == pointer)

/-- `live.remove`. -/
def removeLive (inner : AllocatorInner Host) (pointer : UInt64) : AllocatorInner Host :=
  { inner with live := inner.live.filter (·.pointer != pointer) }

/-- `clients.insert`, for a client that is not there. -/
def insertClient (inner : AllocatorInner Host) (client : ClientKey) (callbacks : Host) :
    AllocatorInner Host :=
  { inner with clients := (client, callbacks) :: inner.clients }

/-- `clients.remove`. -/
def removeClient (inner : AllocatorInner Host) (client : ClientKey) : AllocatorInner Host :=
  { inner with clients := inner.clients.filter (·.1 != client) }

/-- The keys of the live allocations of a client. -/
def livePointers (inner : AllocatorInner Host) (client : ClientKey) : List UInt64 :=
  (inner.live.filter (·.client == client)).map (·.pointer)

end AllocatorInner

/-- The checks `allocate_scoped` makes on a host's allocation. -/
def Allocation.valid (abi : Abi) (a : Allocation) (bytes : UInt64) : Bool :=
  abi.allocationSize ≤ a.structSize && a.reserved == 0 && a.allocationId != 0 &&
    a.devicePtr != 0 && bytes ≤ a.grantedBytes && a.devicePtr % cudaAllocationAlignment == 0

/-- What a section leaves: the pointer it returns, the maps, and what it exchanged, latest first. -/
structure Outcome (Host : Type*) where
  pointer : Option UInt64
  inner : AllocatorInner Host
  events : List (Event Host)

/-- `allocate_scoped`: `answer` is the host's, `freeStatus` its status if the grant is given
back. -/
def allocateScoped (abi : Abi) (context : Option Context) (deviceId : Int32)
    (inner : AllocatorInner Host) (size : UInt64) (answer : Except Int32 Allocation)
    (freeStatus : Int32) (serial : ℕ) : Outcome Host :=
  match context.filter (·.deviceId == deviceId) with
  | none => ⟨none, inner, []⟩
  | some c =>
    match inner.client? c.client with
    | none => ⟨none, inner, []⟩
    | some callbacks =>
      match answer with
      | .error _ => ⟨none, inner, [.request (callbacks, c.request abi deviceId size)]⟩
      | .ok allocation =>
        if !allocation.valid abi size || (inner.live? allocation.devicePtr).isSome then
          ⟨none, inner,
            [.free serial (callbacks, allocation) (freeStatus == abi.statusOk),
             .grant serial (callbacks, allocation),
             .request (callbacks, c.request abi deviceId size)]⟩
        else
          ⟨some allocation.devicePtr,
            { inner with
              live := ⟨allocation.devicePtr, allocation, callbacks, c.client, serial⟩ ::
                inner.live },
            [.record serial, .grant serial (callbacks, allocation),
             .request (callbacks, c.request abi deviceId size)]⟩

/-- `free_scoped`: a refused allocation goes back into the map. -/
def freeScoped (abi : Abi) (inner : AllocatorInner Host) (pointer : UInt64) (status : Int32) :
    AllocatorInner Host × List (Event Host) :=
  match inner.live? pointer with
  | none => (inner, [])
  | some e =>
    (if status == abi.statusOk then inner.removeLive pointer
      else { inner.removeLive pointer with live := e :: (inner.removeLive pointer).live },
     [.free e.serial e.granted (status == abi.statusOk)])

/-- The loop of `unregister_client`: the statuses of the hosts are not looked at. -/
def reclaim (abi : Abi) (status : UInt64 → Int32) :
    AllocatorInner Host × List (Event Host) → List UInt64 → AllocatorInner Host × List (Event Host)
  | result, [] => result
  | (inner, events), pointer :: pointers =>
    match inner.live? pointer with
    | none => reclaim abi status (inner, events) pointers
    | some e =>
      reclaim abi status (inner.removeLive pointer,
        .free e.serial e.granted (status pointer == abi.statusOk) :: events) pointers

/-! ## The threads and the registry -/

/-- `AllocationScopeBridge`, less its counter. -/
structure Bridge where
  deviceId : Int32
  client : ClientKey

/-- The thread-local contexts, the registry and the hosts' record; `β` names the bridges. -/
structure State (ι β Host : Type*) where
  /-- `ALLOCATION_CONTEXT` of every thread. -/
  context : ι → Option Context
  /-- The `previous` of every live `AllocationScope` of a thread, innermost first. -/
  guards : ι → List (Option Context)
  /-- The scopes a thread is in, innermost first. -/
  scopes : ι → List Context
  nextScopeId : β → UInt64
  registry : Int32 → Option (AllocatorInner Host)
  /-- The device whose last client has just left, while ORT is asked to let its allocator go. -/
  closing : Option Int32
  nextGrant : ℕ
  events : List (Event Host)

variable {ι β : Type*} [DecidableEq ι] [DecidableEq β]

namespace State

/-- `AllocationScope::enter`, and whether it returned a scope. -/
def enter (abi : Abi) (s : State ι β Host) (t : ι) (c : Context) : State ι β Host × Bool :=
  if c.deviceId < 0 ∨ 0 ∈ c.requestIds ∨ abi.wellFormed c.scope = false then (s, false)
  else
    ({ s with
        context := Function.update s.context t (some c)
        guards := Function.update s.guards t (s.context t :: s.guards t) }, true)

/-- The kind of an adapter scope: by the number of its requests. -/
def adapterScopeKind (abi : Abi) (allocationClass : UInt32) : List UInt64 → UInt32
  | [] => if allocationClass = abi.classWeights then abi.scopeModel else abi.scopeReplica
  | [_] => abi.scopeRequest
  | _ => abi.scopeRequestBatch

/-- The scope `enter_adapter_scope` asks for under a scope ID. -/
def adapterContext (abi : Abi) (bridge : Bridge) (allocationClass : UInt32) (scopeId : UInt64)
    (requestIds : List UInt64) : Context where
  deviceId := bridge.deviceId
  client := bridge.client
  allocationClass := allocationClass
  scopeKind := adapterScopeKind abi allocationClass requestIds
  scopeId := scopeId
  requestIds := requestIds

/-- `AllocationScopeBridge::enter_adapter_scope`. -/
def enterAdapterScope (abi : Abi) (bridge : β → Bridge) (s : State ι β Host) (t : ι) (b : β)
    (allocationClass : UInt32) (requestIds : List UInt64) : State ι β Host × Bool :=
  -- "ORT governed allocation scope IDs exhausted"
  if (s.nextScopeId b).toNat + 1 = UInt64.size then (s, false)
  else
    enter abi { s with nextScopeId := Function.update s.nextScopeId b (s.nextScopeId b + 1) } t
      (adapterContext abi (bridge b) allocationClass (s.nextScopeId b) requestIds)

/-- The scope the bridge asks for when the generation engine enters one. -/
def providerContext (abi : Abi) (bridge : Bridge) (scope : DeviceScope) : Context where
  deviceId := bridge.deviceId
  client := bridge.client
  allocationClass :=
    match scope.allocationClass with
    | .persistentWeights => abi.classWeights
    | .kvCache => abi.classKv
    | .transientWorkspace => abi.classWorkspace
    | .blockTable | .requestTransient => abi.classRequest
    | .other => abi.classOther
  scopeKind :=
    match scope.kind with
    | .model => abi.scopeModel
    | .replica => abi.scopeReplica
    | .request => abi.scopeRequest
    | .requestBatch => abi.scopeRequestBatch
  scopeId := scope.scopeId
  requestIds := scope.requestIds

/-- `DeviceAllocationScopeProvider::enter` of the bridge. -/
def enterProvider (abi : Abi) (bridge : β → Bridge) (s : State ι β Host) (t : ι) (b : β)
    (scope : DeviceScope) : State ι β Host × Bool :=
  if abi.deviceScopeWellFormed scope = false ∨ scope.deviceId ≠ (bridge b).deviceId.toInt ∨
      scope.modelId ≠ (bridge b).client.modelId ∨ scope.replicaId ≠ (bridge b).client.replicaId ∨
      0 ∈ scope.requestIds then (s, false)
  else enter abi s t (providerContext abi (bridge b) scope)

/-- `Drop for AllocationScope`, of the innermost guard of a thread. -/
def exit (s : State ι β Host) (t : ι) (previous : Option Context) : State ι β Host :=
  { s with
    context := Function.update s.context t previous
    guards := Function.update s.guards t (s.guards t).tail }

/-- The history of a call that asked for a scope: the thread is in it if one was returned. -/
def noteEnter (t : ι) (c : Context) (entered : State ι β Host × Bool) : State ι β Host :=
  if entered.2 then
    { entered.1 with scopes := Function.update entered.1.scopes t (c :: entered.1.scopes t) }
  else entered.1

/-- The history of a drop: the thread has left its innermost scope. -/
def noteExit (t : ι) (s : State ι β Host) : State ι β Host :=
  { s with scopes := Function.update s.scopes t (s.scopes t).tail }

/-- Replace the maps of a device. -/
def setInner (s : State ι β Host) (deviceId : Int32) (inner : AllocatorInner Host) :
    State ι β Host :=
  { s with registry := Function.update s.registry deviceId (some inner) }

/-- `register_client`: `ok` says whether ORT gives its environment and takes a new allocator. -/
def registerClient (s : State ι β Host) (deviceId : Int32) (client : ClientKey) (callbacks : Host)
    (ok : Bool) : State ι β Host :=
  match s.registry deviceId with
  | some inner =>
    if (inner.client? client).isSome then s
    else s.setInner deviceId (inner.insertClient client callbacks)
  | none => if ok then s.setInner deviceId ⟨[(client, callbacks)], []⟩ else s

/-- `unregister_client` up to the end of the allocator's section; `order` is the order in which the
map was read. -/
def unregisterClient (abi : Abi) (s : State ι β Host) (deviceId : Int32)
    (inner : AllocatorInner Host) (client : ClientKey) (order : List UInt64)
    (status : UInt64 → Int32) : State ι β Host :=
  match reclaim abi status (inner, s.events) order with
  | (reclaimed, events) =>
    match reclaimed.client? client with
    | none => { s.setInner deviceId reclaimed with events := events }
    | some _ =>
      { s.setInner deviceId (reclaimed.removeClient client) with
        events := events
        closing := if (reclaimed.removeClient client).clients = [] then some deviceId else none }

/-- The end of `unregister_client` for the last client: `UnregisterAllocator`. -/
def unregisterAllocator (s : State ι β Host) (deviceId : Int32) (ok : Bool) : State ι β Host :=
  { s with
    closing := none
    registry := if ok then Function.update s.registry deviceId none else s.registry }

end State

/-- One step: of a thread's scopes, of an allocator called by ORT, or of the registry. -/
inductive Act (ι β Host : Type*)
  | enterAdapterScope (t : ι) (b : β) (allocationClass : UInt32) (requestIds : List UInt64)
  | enterProvider (t : ι) (b : β) (scope : DeviceScope)
  | exit (t : ι)
  | allocate (t : ι) (deviceId : Int32) (size : UInt64) (answer : Except Int32 Allocation)
    (freeStatus : Int32)
  | free (deviceId : Int32) (pointer : UInt64) (status : Int32)
  | register (deviceId : Int32) (client : ClientKey) (callbacks : Host) (ok : Bool)
  | unregister (deviceId : Int32) (client : ClientKey) (order : List UInt64)
    (status : UInt64 → Int32)
  | unregisterAllocator (ok : Bool)

/-- The successor under a step.  ORT calls an allocator while it is registered, and the registry's
lock is free unless a device is closing. -/
def step (abi : Abi) (bridge : β → Bridge) (s : State ι β Host) :
    Act ι β Host → Option (State ι β Host)
  | .enterAdapterScope t b allocationClass requestIds =>
    some (State.noteEnter t
      (State.adapterContext abi (bridge b) allocationClass (s.nextScopeId b) requestIds)
      (s.enterAdapterScope abi bridge t b allocationClass requestIds))
  | .enterProvider t b scope =>
    some (State.noteEnter t (State.providerContext abi (bridge b) scope)
      (s.enterProvider abi bridge t b scope))
  | .exit t =>
    match s.guards t with
    | [] => none
    | previous :: _ => some (State.noteExit t (s.exit t previous))
  | .allocate t deviceId size answer freeStatus =>
    match s.registry deviceId with
    | none => none
    | some inner =>
      let outcome := allocateScoped abi (s.context t) deviceId inner size answer freeStatus
        s.nextGrant
      some { s.setInner deviceId outcome.inner with
        events := outcome.events ++ s.events, nextGrant := s.nextGrant + 1 }
  | .free deviceId pointer status =>
    match s.registry deviceId with
    | none => none
    | some inner =>
      let result := freeScoped abi inner pointer status
      some { s.setInner deviceId result.1 with events := result.2 ++ s.events }
  | .register deviceId client callbacks ok =>
    if s.closing = none then some (s.registerClient deviceId client callbacks ok) else none
  | .unregister deviceId client order status =>
    if s.closing = none then
      match s.registry deviceId with
      | none => some s
      | some inner =>
        if order.Perm (inner.livePointers client) then
          some (s.unregisterClient abi deviceId inner client order status)
        else none
    else none
  | .unregisterAllocator ok => s.closing.map fun deviceId => s.unregisterAllocator deviceId ok

/-- No scope entered, no allocator registered. -/
def State.initial : State ι β Host where
  context _ := none
  guards _ := []
  scopes _ := []
  nextScopeId _ := 1
  registry _ := none
  closing := none
  nextGrant := 0
  events := []

/-- The runs of the threads `ι` over the bridges `β` and the hosts `Host`. -/
def runs (ι : Type*) {β : Type*} [DecidableEq ι] [DecidableEq β] (Host : Type*) (abi : Abi)
    (bridge : β → Bridge) : Lts (State ι β Host) (Act ι β Host) where
  init s := s = .initial
  step := step abi bridge

/-- **What a step can do**: one case for each label that is enabled, and one for the calls that
leave everything as it is. -/
inductive Step (abi : Abi) (s : State ι β Host) : Act ι β Host → State ι β Host → Prop
  | refused (a : Act ι β Host) : Step abi s a s
  | enterAdapterScope {t : ι} {b : β} {allocationClass : UInt32} {requestIds : List UInt64}
    (nextScopeId : β → UInt64) (c : Context) :
    Step abi s (.enterAdapterScope t b allocationClass requestIds)
      (State.noteEnter t c ({ s with nextScopeId := nextScopeId }.enter abi t c))
  | enterProvider {t : ι} {b : β} {scope : DeviceScope} (c : Context) :
    Step abi s (.enterProvider t b scope) (State.noteEnter t c (s.enter abi t c))
  | exit {t : ι} {previous : Option Context} {outer : List (Option Context)}
    (hguards : s.guards t = previous :: outer) :
    Step abi s (.exit t) (State.noteExit t (s.exit t previous))
  | allocate {t : ι} {d : Int32} {size : UInt64} {answer : Except Int32 Allocation}
    {freeStatus : Int32} {inner : AllocatorInner Host} {outcome : Outcome Host}
    (hd : s.registry d = some inner)
    (houtcome : outcome =
      allocateScoped abi (s.context t) d inner size answer freeStatus s.nextGrant) :
    Step abi s (.allocate t d size answer freeStatus)
      { s.setInner d outcome.inner with
        events := outcome.events ++ s.events, nextGrant := s.nextGrant + 1 }
  | free {d : Int32} {pointer : UInt64} {status : Int32} {inner : AllocatorInner Host}
    (hd : s.registry d = some inner) : Step abi s (.free d pointer status)
      { s.setInner d (freeScoped abi inner pointer status).1 with
        events := (freeScoped abi inner pointer status).2 ++ s.events }
  | register {d : Int32} {client : ClientKey} {callbacks : Host} {ok : Bool}
    (hclosing : s.closing = none) : Step abi s (.register d client callbacks ok)
      (s.registerClient d client callbacks ok)
  | unregister {d : Int32} {client : ClientKey} {order : List UInt64} {status : UInt64 → Int32}
    {inner : AllocatorInner Host} (hd : s.registry d = some inner)
    (horder : order.Perm (inner.livePointers client)) :
    Step abi s (.unregister d client order status)
      (s.unregisterClient abi d inner client order status)
  | unregisterAllocator {d : Int32} {ok : Bool} (hclosing : s.closing = some d) :
    Step abi s (.unregisterAllocator ok) (s.unregisterAllocator d ok)

/-- **A step does what its label says.** -/
theorem Step.of_step {abi : Abi} {bridge : β → Bridge} {s s' : State ι β Host}
    {a : Act ι β Host} (h : step abi bridge s a = some s') : Step abi s a s' := by
  cases a with
  | enterAdapterScope t b allocationClass requestIds =>
    obtain rfl := Option.some.inj h
    rw [State.enterAdapterScope]
    split
    · exact .refused _
    · exact .enterAdapterScope _ _
  | enterProvider t b scope =>
    obtain rfl := Option.some.inj h
    rw [State.enterProvider]
    split
    · exact .refused _
    · exact .enterProvider _
  | exit t =>
    dsimp only [step] at h
    split at h
    · contradiction
    · exact Option.some.inj h ▸ .exit ‹_›
  | allocate t d size answer freeStatus =>
    dsimp only [step] at h
    split at h
    · contradiction
    · exact Option.some.inj h ▸ .allocate ‹_› rfl
  | free d pointer status =>
    dsimp only [step] at h
    split at h
    · contradiction
    · exact Option.some.inj h ▸ .free ‹_›
  | register d client callbacks ok =>
    obtain ⟨hclosing, h⟩ := Option.ite_none_right_eq_some.mp h
    exact Option.some.inj h ▸ .register hclosing
  | unregister d client order status =>
    obtain ⟨-, h⟩ := Option.ite_none_right_eq_some.mp h
    split at h
    · exact Option.some.inj h ▸ .refused _
    · obtain ⟨horder, h⟩ := Option.ite_none_right_eq_some.mp h
      exact Option.some.inj h ▸ .unregister ‹_› horder
  | unregisterAllocator ok =>
    obtain ⟨d, hclosing, rfl⟩ := Option.map_eq_some_iff.mp h
    exact .unregisterAllocator hclosing

end Kapsl.Ort.Allocator
