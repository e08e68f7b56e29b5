import Mathlib.Data.List.GetD
import Mathlib.Data.Set.Function
import Mathlib.Order.Interval.Set.Defs
import Kapsl.Vllm.ClientErrors

/-!
# Vllm/HandleSegments — which segments a returned handle belongs to

A segment names its physical allocation by an index into the handles that came with the response.
The validators refuse an index used twice within one pool or one operation, and the client compares
the *set* of all indices with the handles.  Together they say less than a bijection:

* `handles_bijective_iff` — segments and handles are in bijection exactly when no index is used in
  two pools, or in two `map_workers` operations, of the response.
* `handle_shared_twoMaps` — two operations over one handle are returned.
-/

namespace Kapsl.Vllm

/-! ## Bijections -/

/-- **The segments with these handle indices are in bijection with the handles.** -/
def Bijects (indices : List ℕ) (handles : List Fd) : Prop :=
  Set.BijOn (fun i => indices.getD i 0) (Set.Iio indices.length) (Set.Iio handles.length)

/-- An index list that covers the handles is a bijection when nothing in it repeats. -/
theorem bijects_iff_nodup {indices : List ℕ} {handles : List Fd}
    (h : sameSet indices (List.range handles.length)) :
    Bijects indices handles ↔ indices.Nodup := by
  constructor
  · intro hbij
    rw [List.nodup_iff_injective_getElem]
    intro i j hij
    refine Fin.ext (hbij.injOn i.isLt j.isLt ?_)
    simpa only [List.getD_eq_getElem _ _ i.isLt, List.getD_eq_getElem _ _ j.isLt] using hij
  · intro hnodup
    refine ⟨fun i hi => ?_, fun i hi j hj hij => ?_, fun k hk => ?_⟩
    · have hmem : indices.getD i 0 ∈ indices := by
        rw [List.getD_eq_getElem _ _ hi]
        exact List.getElem_mem hi
      exact List.mem_range.mp (h.1 _ hmem)
    · simp only [List.getD_eq_getElem _ _ hi, List.getD_eq_getElem _ _ hj] at hij
      exact (List.Nodup.getElem_inj_iff hnodup).mp hij
    · obtain ⟨i, hi, rfl⟩ := List.getElem_of_mem (h.2 k (List.mem_range.mpr hk))
      exact ⟨i, hi, List.getD_eq_getElem _ _ hi⟩

/-! ## Pools and operations -/

/-- The handle indices of a pool. -/
def poolIndices (pool : Json) : List ℕ :=
  Client.handleIndices ((pool.get "elastic").getD "segments" (.list [])).items

/-- The handle indices of an operation. -/
def operationIndices (operation : Json) : List ℕ :=
  Client.handleIndices (operation.getD "segments" (.list [])).items

/-- **No handle index is used in two of the pools.** -/
def PoolsApart (receipt : Json) : Prop :=
  (receiptPools receipt).Pairwise fun p q => (poolIndices p).Disjoint (poolIndices q)

/-- **No handle index is used in two of the `map_workers` operations.** -/
def OperationsApart (operations : List Json) : Prop :=
  (operations.filter fun operation => (operation.get "stage").eqStr "map_workers").Pairwise
    fun p q => (operationIndices p).Disjoint (operationIndices q)

theorem handleIndices_flatMap (containers : List Json) (segments : Json → List Json) :
    Client.handleIndices (containers.flatMap segments) =
      containers.flatMap fun container => Client.handleIndices (segments container) := by
  rw [Client.handleIndices, List.map_flatMap]
  rfl

/-- Nothing repeats in lists without repetitions exactly when they are disjoint. -/
theorem nodup_flatMap_iff {containers : List Json} {indices : Json → List ℕ}
    (h : ∀ container ∈ containers, (indices container).Nodup) :
    (containers.flatMap indices).Nodup ↔
      containers.Pairwise fun p q => (indices p).Disjoint (indices q) := by
  rw [List.nodup_flatMap]
  exact and_iff_right h

/-- The segments of an elastic pool have handles of their own. -/
theorem nodup_handles_of_validateElasticPool {elastic : Json} {blockCount stride : ℕ}
    (h : validateElasticPool elastic blockCount stride = .ok ()) :
    (Client.handleIndices (elastic.getD "segments" (.list [])).items).Nodup := by
  simp only [validateElasticPool, validateElasticSegments, Except.bind_eq_ok,
    Except.raiseIf_eq_ok] at h
  obtain ⟨-, -, -, -, -, -, granularity, -, -, -, -, -, -, -, raws, hraws, segments, hsegments, keyed, hkeyed,
    expected, hscan, -⟩ := h
  obtain rfl : segments = raws := by
    rw [Except.eq_map_of_mapM (g := id) (fun _ _ h => (mapping_eq_ok h).symm) hsegments,
      List.map_id]
  have hget : elastic.getD "segments" (.list []) = .list segments := by
    have hlist := nonemptyListOr_eq_ok hraws
    unfold Json.get at hlist
    unfold Json.getD
    cases hfound : elastic.get? "segments" with
    | none => simp [hfound] at hlist
    | some value => simpa [hfound] using hlist
  rw [hget]
  exact Segment.nodup_handles_of_scan
    (Except.eq_map_of_mapM (fun _ _ => elasticSegmentKey_eq_ok) hkeyed) hscan

/-- **The indices of one pool do not repeat.** -/
theorem nodup_poolIndices {pool : Json} {before : Option Bool} {live : Bool}
    (h : validateReceiptPool pool before = .ok live) : (poolIndices pool).Nodup := by
  simp only [validateReceiptPool, Except.bind_eq_ok] at h
  obtain ⟨pool', hpool, -, -, -, -, -, -, blockCount, -, stride, -, -, -, -, -, -, -,
    -, -, -, -, -, -, transport, -, -, -, hrest⟩ := h
  obtain rfl := mapping_eq_ok hpool
  split at hrest
  · simp only [Except.bind_eq_ok] at hrest
    obtain ⟨elastic, helastic, u, helasticPool, -⟩ := hrest
    obtain rfl := mapping_eq_ok helastic
    exact nodup_handles_of_validateElasticPool helasticPool
  · -- a fixed pool has no segments
    simp only [Except.bind_eq_ok, Except.raiseIf_eq_ok] at hrest
    obtain ⟨-, hnull, -⟩ := hrest
    have helastic : pool.get "elastic" = .null := by
      cases hvalue : pool.get "elastic" with
      | null => rfl
      | _ => exact absurd (by rw [hvalue]; rfl) hnull
    rw [poolIndices, helastic]
    exact List.nodup_nil

/-- **The indices of one operation do not repeat.** -/
theorem nodup_operationIndices {operation : Json} (h : checkResizeOperation operation = .ok ()) :
    (operationIndices operation).Nodup := by
  simp only [checkResizeOperation, validateResizeSegments, Except.bind_eq_ok,
    Except.raiseIf_eq_ok] at h
  obtain ⟨-, -, -, -, -, -, stage, -, fromBlocks, -, target, -, -, -, -, -, stride, -, granularity,
    -, -, -, raws, hraws, -, -, keyed, hkeyed, expected, hscan, -⟩ := h
  rw [operationIndices, listOr_eq_ok hraws, Json.items]
  exact Segment.nodup_handles_of_scan
    (Except.eq_map_of_mapM (fun _ _ => resizeSegmentKey_eq_ok) hkeyed) hscan

/-! ## What the client returns -/

/-- A response that can be read is returned with its handles. -/
theorem handleCall_of_received {α : Type} {c : Client} {x : Exchange} {operation label : String}
    {payload : List (String × Json)} {read : Json → List Fd → Except PyError α} {value : α}
    {frame : List UInt8} {response : Json} {handles : List Fd}
    (hreceived : Received c x operation payload frame handles)
    (hdecode : c.decodeResponse frame x.requestId = .ok response)
    (hresult : (response.get "result").eqStr "error" = false)
    (hread : read response handles = .ok value) :
    ∃ fds, c.handleCall x (.ok ()) operation payload label read .none =
      (.ok (value, handles), fds) := by
  obtain ⟨fds, hrpc⟩ := rpcWithHandles_of_received hreceived hdecode hresult
  exact ⟨fds, by simp only [Client.handleCall, hrpc, hread]⟩

/-- A request that is encoded within the limit goes out. -/
theorem requestFrame_of_dumps {c : Client} {x : Exchange} {operation : String}
    {payload : List (String × Json)} {frame : List UInt8} (hid : isBlank x.requestId = false)
    (hoperation : isBlank operation = false)
    (hdumps : ∀ envelope, c.interpreter.dumps envelope = .ok frame)
    (hsize : ¬frame.length + 1 > c.maxFrameBytes) :
    c.requestFrame x operation payload = .ok frame := by
  simp only [Client.requestFrame, makeEnvelope, nonempty, hid, hoperation, hdumps, Except.raiseIf,
    hsize, Bool.false_eq_true, if_false, bind, Except.bind, pure, Except.pure]

/-- What a receipt that was read with live resize says of the handles. -/
theorem readReceipt_eq_ok {c : Client} {registration response receipt : Json} {handles : List Fd}
    (hlive : Client.wantsLiveResize registration = true)
    (h : c.readReceipt registration response handles = .ok receipt) :
    receipt = response.get "receipt" ∧ (∀ pool ∈ receiptPools receipt, (poolIndices pool).Nodup) ∧
      sameSet (Client.handleIndices (Client.receiptSegments receipt))
        (List.range handles.length) := by
  simp only [Client.readReceipt, hlive, if_true, Client.checkReferenced, Except.bind_eq_ok,
    Except.raiseIf_eq_ok, Except.pure_eq_ok, not_not] at h
  obtain ⟨-, -, raw, hraw, accepted, haccepted, -, -, -, -, -, -, -, -, -, hsame, rfl⟩ := h
  obtain rfl := mapping_eq_ok hraw
  simp only [validateRegistrationReceipt, Except.bind_eq_ok, Except.raiseIf_eq_ok] at haccepted
  obtain ⟨-, -, -, -, -, -, pools, hpools, u, hvalid, hcopy⟩ := haccepted
  obtain rfl := deepcopy_eq_ok hcopy
  refine ⟨rfl, fun pool hpool => ?_, hsame⟩
  rw [receiptPools, listOr_eq_ok hpools, Json.items] at hpool
  obtain ⟨before, live, hpool⟩ := validateReceiptPools_mem hvalid hpool
  exact nodup_poolIndices hpool

/-- The segments of a receipt that was read. -/
theorem bijects_receipt_iff {c : Client} {registration response receipt : Json} {handles : List Fd}
    (hlive : Client.wantsLiveResize registration = true)
    (h : c.readReceipt registration response handles = .ok receipt) :
    Bijects (Client.handleIndices (Client.receiptSegments receipt)) handles ↔
      PoolsApart (response.get "receipt") := by
  obtain ⟨rfl, hpools, hsame⟩ := readReceipt_eq_ok hlive h
  rw [bijects_iff_nodup hsame, Client.receiptSegments, handleIndices_flatMap]
  exact nodup_flatMap_iff hpools

/-- The `map_workers` segments of operations that were read. -/
theorem bijects_operations_iff {c : Client} {response : Json} {operations : List Json}
    {pending : Bool} {handles : List Fd}
    (h : AcceptedResize c response handles operations pending) :
    Bijects (Client.handleIndices (Client.mapSegments operations)) handles ↔
      OperationsApart (response.getD "operations" (.list [])).items := by
  rw [bijects_iff_nodup h.referenced, Client.mapSegments, handleIndices_flatMap, h.listed, Json.items]
  refine nodup_flatMap_iff fun operation hoperation => ?_
  exact nodup_operationIndices (h.valid operation (List.mem_of_mem_filter hoperation)).2.1

/-- **Segments and handles are in bijection exactly when the response uses no handle index in two
pools or two operations** — for the receipt of a registration with live resize, and for the
`map_workers` operations of a poll. -/
theorem handles_bijective_iff {c : Client} {x : Exchange} {frame : List UInt8} {arrived : List Fd}
    {response : Json} (hframe : Arrives c.maxFrameBytes 0 [] [] x.transport.recv frame arrived)
    (hresponse : c.decodeResponse frame x.requestId = .ok response) :
    (∀ registration receipt handles fds, Client.wantsLiveResize registration = true →
      c.registerWithHandles x registration .none = (.ok (receipt, handles), fds) →
      (Bijects (Client.handleIndices (Client.receiptSegments receipt)) handles ↔
        PoolsApart (response.get "receipt"))) ∧
    ∀ request operations pending handles fds,
      c.pollResizeStateWithHandles x request .none = (.ok ((operations, pending), handles), fds) →
      (Bijects (Client.handleIndices (Client.mapSegments operations)) handles ↔
        OperationsApart (response.getD "operations" (.list [])).items) := by
  have hsame : ∀ {operation payload frame' handles response'},
      Received c x operation payload frame' handles →
      c.decodeResponse frame' x.requestId = .ok response' → response' = response := by
    intro operation payload frame' handles response' hreceived hdecode
    obtain ⟨rfl, -⟩ := hreceived.2.2.unique (Nat.zero_le _) hframe
    exact Except.ok.inj (hdecode.symm.trans hresponse)
  constructor
  · intro registration receipt handles fds hlive h
    obtain ⟨frame', response', hreceived, hdecode, hread⟩ := handleCall_eq_ok h
    obtain rfl := hsame hreceived hdecode
    exact bijects_receipt_iff hlive hread
  · intro request operations pending handles fds h
    obtain ⟨frame', response', hreceived, hdecode, hread⟩ := handleCall_eq_ok h
    obtain rfl := hsame hreceived hdecode
    obtain ⟨result, hresult⟩ := result_of_decodeResponse hdecode
    exact bijects_operations_iff ((readOperations_eq_ok hresult).mp hread)

/-! ## Two operations of one poll -/

/-- The growth of a binding from one block of 32 bytes to two, over the handle with an index. -/
def growthOver (bindingId : String) (handleIndex : ℤ) : Json :=
  .obj [("participant_epoch", .int 1), ("resize_generation", .int 1), ("binding_id", .str bindingId),
    ("stage", .str "map_workers"), ("from_block_count", .int 1), ("target_block_count", .int 2),
    ("bytes_per_block", .int 32), ("allocation_granularity_bytes", .int 32),
    ("segments", .list [.obj [("segment_id", .str "s"), ("offset_bytes", .int 32),
      ("length_bytes", .int 32), ("handle_index", .int handleIndex)]])]

/-- The answer to a poll: bindings `a` and `b` grow. -/
def twoGrowths (first second : ℤ) : Json :=
  .obj [("abi_version", .obj [("major", .int 1), ("minor", .int 5)]), ("request_id", .str "r"),
    ("result", .str "resize"), ("pending", .bool true),
    ("operations", .list [growthOver "a" first, growthOver "b" second])]

/-- The poll of a worker. -/
def workerPoll : Json :=
  resizePollRequest 1 (.obj [("role", .str "worker"), ("shard", .obj [("tensor_parallel_rank", .int 0),
    ("tensor_parallel_world_size", .int 1), ("pipeline_parallel_rank", .int 0),
    ("pipeline_parallel_world_size", .int 1)])]) 0

/-- The bytes of its request, field by field. -/
def workerPollFrame : List UInt8 :=
  ["\x7b\"abi_version\":", "\x7b\"major\":1,\"minor\":5\x7d", ",\"operation\":\"resize_poll\"",
    ",\"participant_id\":\"p\"", ",\"request\":\x7b\"actor\":", "\x7b\"role\":\"worker\"",
    ",\"shard\":\x7b", "\"pipeline_parallel_rank\":0", ",\"pipeline_parallel_world_size\":1",
    ",\"tensor_parallel_rank\":0", ",\"tensor_parallel_world_size\":1", "\x7d\x7d",
    ",\"applied_generation\":0", ",\"participant_epoch\":1\x7d",
    ",\"request_id\":\"r\"\x7d"].flatMap ClientCall.ascii

/-- A client in an interpreter that encodes that poll and decodes that answer. -/
def growthClient (first second : ℤ) : Client :=
  { ClientCall.heartbeatClient with
    interpreter :=
      { ClientCall.heartbeatClient.interpreter with
        dumps := fun _ => .ok workerPollFrame
        loads := fun _ => .ok (twoGrowths first second)
        loads_raises := fun _ _ h => absurd h nofun } }

/-- The text of one growth, field by field. -/
def growthText (bindingId handleIndex : String) : List String :=
  ["\x7b\"participant_epoch\":1", ",\"resize_generation\":1", ",\"binding_id\":\"", bindingId,
    "\",\"stage\":\"map_workers\"", ",\"from_block_count\":1", ",\"target_block_count\":2",
    ",\"bytes_per_block\":32", ",\"allocation_granularity_bytes\":32", ",\"segments\":[",
    "\x7b\"segment_id\":\"s\"", ",\"offset_bytes\":32", ",\"length_bytes\":32",
    ",\"handle_index\":", handleIndex, "\x7d]\x7d"]

/-- The text of the answer. -/
def growthAnswer (first second : String) : List String :=
  ["\x7b\"abi_version\":", "\x7b\"major\":1,\"minor\":5\x7d", ",\"request_id\":\"r\"",
    ",\"result\":\"resize\"", ",\"pending\":true", ",\"operations\":["] ++
    growthText "a" first ++ [","] ++ growthText "b" second ++ ["]\x7d"]

/-- Its bytes. -/
def growthFrame (first second : String) : List UInt8 :=
  (growthAnswer first second).flatMap ClientCall.ascii

/-- The answer arrives in one message with these descriptors. -/
def growthExchange (first second : String) (payload : List UInt8) : Exchange where
  requestId := "r"
  transport :=
    { sendError := none
      recv := [.message (growthFrame first second ++ [10]) [⟨1, 1, payload⟩]] }

/-- A frame in one message. -/
theorem arrives_single {max : ℕ} {frame payload : List UInt8} (hnewline : (10 : UInt8) ∉ frame)
    (hne : frame ≠ []) (hsize : frame.length ≤ max)
    (hmany : (Ancillary.descriptorsOf payload).length ≤ 64) :
    Arrives max 0 [] [] [.message (frame ++ [10]) [⟨1, 1, payload⟩]] frame
      (Ancillary.descriptorsOf payload) := by
  have hpart : ∀ b ∈ frame, (b != 10) = true := fun b hb => by
    rw [bne_iff_ne]
    exact fun heq => hnewline (heq ▸ hb)
  refine ⟨[], frame ++ [10], [⟨1, 1, payload⟩], [], rfl, gathered_nil (Nat.zero_le _), ?_,
    by simp, ?_, ?_, hmany, hne, hsize⟩
  · exact List.forall_mem_singleton.mpr rfl
  · rw [List.takeWhile_append_of_pos hpart]
    simp
  · simp [Ancillary.descriptors, Ancillary.isRights, Ancillary.solSocket, Ancillary.scmRights]

/-- Each of the two answers is one frame. -/
theorem growthFrame_plain : ∀ second ∈ ["0", "1"], (10 : UInt8) ∉ growthFrame "0" second ∧
    growthFrame "0" second ≠ [] ∧ (growthFrame "0" second).length ≤ 1048576 := by decide +kernel

theorem growthFrame_arrives {second : String} {payload : List UInt8} {handles : List Fd}
    (hsecond : second ∈ ["0", "1"]) (hhandles : Ancillary.descriptorsOf payload = handles)
    (hmany : handles.length ≤ 64) :
    Arrives 1048576 0 [] [] (growthExchange "0" second payload).transport.recv
      (growthFrame "0" second) handles := by
  obtain ⟨hnewline, hne, hsize⟩ := growthFrame_plain second hsecond
  rw [← hhandles] at hmany ⊢
  exact arrives_single hnewline hne hsize hmany

theorem workerPollFrame_length : ¬workerPollFrame.length + 1 > 1048576 := by decide +kernel

/-- The poll that meets one of the answers returns its operations. -/
theorem growth_returns {second : String} (index : ℤ) {payload : List UInt8} {handles : List Fd}
    (harrives : Arrives 1048576 0 [] [] (growthExchange "0" second payload).transport.recv
      (growthFrame "0" second) handles)
    (hread : (growthClient 0 index).readOperations (twoGrowths 0 index) handles =
      .ok ([growthOver "a" 0, growthOver "b" index], true)) :
    ∃ fds, (growthClient 0 index).pollResizeStateWithHandles (growthExchange "0" second payload)
      workerPoll .none = (.ok (([growthOver "a" 0, growthOver "b" index], true), handles), fds) := by
  have hdecode : (growthClient 0 index).decodeResponse (growthFrame "0" second) "r" =
      .ok (twoGrowths 0 index) := rfl
  have hid : isBlank "r" = false := by decide +kernel
  have hoperation : isBlank "resize_poll" = false := by decide +kernel
  have hrequest := @requestFrame_of_dumps (growthClient 0 index) (growthExchange "0" second payload)
    "resize_poll" [("participant_id", .str "p"), ("request", workerPoll)] workerPollFrame hid
    hoperation (fun _ => rfl) workerPollFrame_length
  exact handleCall_of_received ⟨⟨_, hrequest⟩, rfl, harrives⟩ hdecode rfl hread

/-- **Each growth over a handle of its own**: the operations are returned, and the bijection
holds. -/
theorem handles_bijective_iff_ownHandles :
    ∃ fds, (growthClient 0 1).pollResizeStateWithHandles
        (growthExchange "0" "1" [7, 0, 0, 0, 8, 0, 0, 0]) workerPoll .none =
          (.ok (([growthOver "a" 0, growthOver "b" 1], true), [7, 8]), fds) ∧
      Bijects [0, 1] [7, 8] := by
  have hhandles : Ancillary.descriptorsOf [7, 0, 0, 0, 8, 0, 0, 0] = [7, 8] := rfl
  have hsecond : "1" ∈ ["0", "1"] := by decide
  have harrives := growthFrame_arrives hsecond hhandles (by decide)
  have hdecode : (growthClient 0 1).decodeResponse (growthFrame "0" "1") "r" =
      .ok (twoGrowths 0 1) := rfl
  obtain ⟨fds, hpoll⟩ := growth_returns 1 harrives rfl
  have hapart : OperationsApart [growthOver "a" 0, growthOver "b" 1] := by
    have hstage : ∀ bindingId index,
        ((growthOver bindingId index).get "stage").eqStr "map_workers" = true := fun _ _ => rfl
    have hindices : ∀ bindingId index,
        operationIndices (growthOver bindingId index) = [index.toNat] := fun _ _ => rfl
    simp [OperationsApart, hstage, hindices]
  have hindices : Client.handleIndices (Client.mapSegments [growthOver "a" 0, growthOver "b" 1]) =
      [0, 1] := rfl
  have hoperations : ((twoGrowths 0 1).getD "operations" (.list [])).items =
      [growthOver "a" 0, growthOver "b" 1] := rfl
  have hiff := (@handles_bijective_iff (growthClient 0 1) (growthExchange "0" "1" _) _ _ _ harrives
    hdecode).2 _ _ _ _ _ hpoll
  rw [hindices, hoperations] at hiff
  exact ⟨fds, hpoll, hiff.mpr hapart⟩

/-- **Two growths over one handle are returned**, and both import the same allocation. -/
theorem handle_shared_twoMaps :
    ∃ fds, (growthClient 0 0).pollResizeStateWithHandles
        (growthExchange "0" "0" [7, 0, 0, 0]) workerPoll .none =
          (.ok (([growthOver "a" 0, growthOver "b" 0], true), [7]), fds) ∧
      Client.handleIndices (Client.mapSegments [growthOver "a" 0, growthOver "b" 0]) = [0, 0] ∧
      ¬Bijects [0, 0] [7] := by
  have hhandles : Ancillary.descriptorsOf [7, 0, 0, 0] = [7] := rfl
  have hsecond : "0" ∈ ["0", "1"] := by decide
  have harrives := growthFrame_arrives hsecond hhandles (by decide)
  obtain ⟨fds, hpoll⟩ := growth_returns 0 harrives rfl
  have hindices : Client.handleIndices (Client.mapSegments [growthOver "a" 0, growthOver "b" 0]) =
      [0, 0] := rfl
  refine ⟨fds, hpoll, hindices, fun hbij => ?_⟩
  have hnodup := (bijects_iff_nodup (by decide)).mp hbij
  exact absurd hnodup (by decide)

end Kapsl.Vllm
