import Kapsl.Vllm.ClientErrors

/-!
# Vllm/ErrorTaxonomy — what each call of the control client can end in

A call either returns a value that its validator accepts or raises `KapslKvControlError`, whatever
the peer sends, with exceptions of a few kinds: those of the exchange (`ExchangeEscapes`), a field
that is tested for membership in a set before its type is checked (`UnhashableMode` in a receipt,
`UnhashableKind` in a lease), and a value too deeply nested to copy.

* `closed_taxonomy_iff` — for every method, exactly these inputs leave the taxonomy.
* `escapes_unhashableResult` — a response whose `result` is a list raises `TypeError`.
-/

namespace Kapsl.Vllm

open Except (raiseIf RaisesOnly raisesOnly_error raisesOnly_ok raisesOnly_pure)

/-! ## One check at a time -/

section Checks

variable {α : Type} {value : Json} {field message : String}

theorem mapping_eq_ok_iff {value' : Json} :
    mapping value field = .ok value' ↔ value.isMapping = true ∧ value' = value := by
  rcases mapping_cases value field with ⟨hm, hv⟩ | ⟨hm, hv⟩
  · rw [hv, hm]
    exact ⟨fun h => ⟨rfl, (Except.ok.inj h).symm⟩, fun h => congrArg _ h.2.symm⟩
  · rw [hv, hm]
    exact ⟨nofun, fun h => absurd h.1 Bool.false_ne_true⟩

theorem listOr_eq_ok_iff {items : List Json} :
    listOr value message = .ok items ↔ value = .list items := by
  refine ⟨listOr_eq_ok, ?_⟩
  rintro rfl
  rfl

theorem nonemptyListOr_raisesOnly :
    RaisesOnly PyError.IsContract (nonemptyListOr value message) := by
  unfold nonemptyListOr
  split
  · exact raisesOnly_error (isContract_invalid _)
  · exact raisesOnly_ok
  · exact raisesOnly_error (isContract_invalid _)

/-- `_mapping` lets a mapping through as it is. -/
theorem uncaught_mapping_bind {f : Json → Except PyError α} :
    Uncaught (mapping value field >>= f) ↔ value.isMapping = true ∧ Uncaught (f value) := by
  rw [uncaught_bind_of_contract mapping_raisesOnly]
  simp only [mapping_eq_ok_iff, and_assoc, exists_and_left, exists_eq_left]

theorem uncaught_listOr_bind {f : List Json → Except PyError α} :
    Uncaught (listOr value message >>= f) ↔ ∃ items, value = .list items ∧ Uncaught (f items) := by
  rw [uncaught_bind_of_contract listOr_raisesOnly]
  simp only [listOr_eq_ok_iff]

theorem uncaught_nonemptyListOr_bind {f : List Json → Except PyError α} :
    Uncaught (nonemptyListOr value message >>= f) ↔
      ∃ items, nonemptyListOr value message = .ok items ∧ Uncaught (f items) :=
  uncaught_bind_of_contract nonemptyListOr_raisesOnly

theorem uncaught_nonempty_bind {f : String → Except PyError α} :
    Uncaught (nonempty value field >>= f) ↔
      ∃ text, nonempty value field = .ok text ∧ Uncaught (f text) :=
  uncaught_bind_of_contract nonempty_raisesOnly

theorem uncaught_positiveInt_bind {f : ℕ → Except PyError α} :
    Uncaught (positiveInt value field >>= f) ↔
      ∃ n, positiveInt value field = .ok n ∧ Uncaught (f n) :=
  uncaught_bind_of_contract positiveInt_raisesOnly

theorem uncaught_raiseIf_bind {c : Prop} [Decidable c] {f : Unit → Except PyError α} :
    Uncaught (raiseIf c (invalid message) >>= f) ↔ ¬c ∧ Uncaught (f ()) := by
  rw [uncaught_bind_of_contract raiseIf_raisesOnly]
  simp only [Except.raiseIf_eq_ok]
  exact ⟨by rintro ⟨_, h⟩; exact h, fun h => ⟨(), h⟩⟩

/-- Testing a list or a dict for membership in a set raises `TypeError`. -/
theorem uncaught_inSet {names : List String} :
    Uncaught (value.inSet names) ↔ value.hashable = false := by
  rcases inSet_cases value names with ⟨hh, found, hs⟩ | ⟨hh, text, hs⟩
  · rw [hs, hh]
    exact ⟨fun h => absurd h Except.not_raises_ok, nofun⟩
  · rw [hs, hh]
    exact ⟨fun _ => rfl, fun _ => ⟨_, rfl, rfl, fun ⟨_, h⟩ => nomatch h⟩⟩

theorem uncaught_deepcopy {I : Interpreter} :
    Uncaught (I.deepcopy value) ↔ I.copies value = false := by
  unfold Interpreter.deepcopy
  cases hcopies : I.copies value with
  | true => exact ⟨fun h => absurd h Except.not_raises_ok, nofun⟩
  | false => exact ⟨fun _ => rfl, fun _ => ⟨_, rfl, rfl, fun ⟨_, h⟩ => nomatch h⟩⟩

/-- The first item that is not accepted is `bad`. -/
def FirstBad (accepted bad : Json → Prop) (items : List Json) : Prop :=
  ∃ before item after, items = before ++ item :: after ∧ (∀ good ∈ before, accepted good) ∧ bad item

theorem uncaught_forM {items : List Json} {f : Json → Except PyError Unit} :
    Uncaught (items.forM f) ↔ FirstBad (f · = .ok ()) (Uncaught <| f ·) items :=
  Except.raises_forM

end Checks

/-! ## Leases -/

/-- A lease block whose kind cannot be hashed. -/
def UnhashableKind (block : Json) : Prop :=
  block.isMapping = true ∧ (block.get "kind").hashable = false

theorem validateLeaseBlock_uncaught {block : Json} :
    Uncaught (validateLeaseBlock block) ↔ UnhashableKind block := by
  rw [validateLeaseBlock, uncaught_mapping_bind]
  refine and_congr_right fun _ => ?_
  split
  · rename_i hkind
    have hpool : (block.get "kind").hashable = true := by
      cases hvalue : block.get "kind" with
      | str text => rfl
      | _ => rw [hvalue] at hkind; exact absurd hkind nofun
    rw [hpool]
    refine ⟨fun h => absurd h (not_uncaught_of_contract ?_), nofun⟩
    refine nonempty_raisesOnly.bind fun _ _ => ?_
    refine nonnegativeInt_raisesOnly.bind fun _ _ => ?_
    exact positiveInt_raisesOnly.bind fun _ _ => raisesOnly_pure
  · rw [uncaught_bind, uncaught_inSet]
    refine or_iff_left ?_
    rintro ⟨found, -, h⟩
    exact not_uncaught_of_contract raiseIf_raisesOnly h

/-- A lease group with such a block, behind blocks that are accepted. -/
def GroupEscapes (group : Json) : Prop :=
  group.isMapping = true ∧ (∃ id, nonempty (group.get "group_id") "group_id" = .ok id) ∧
    (∃ n, positiveInt (group.get "token_capacity") "token_capacity" = .ok n) ∧
    ∃ blocks, group.getD "blocks" (.list []) = .list blocks ∧
      FirstBad (validateLeaseBlock · = .ok ()) UnhashableKind blocks

theorem validateLeaseGroup_uncaught {group : Json} :
    Uncaught (validateLeaseGroup group) ↔ GroupEscapes group := by
  simp only [validateLeaseGroup, uncaught_mapping_bind, uncaught_nonempty_bind,
    uncaught_positiveInt_bind, uncaught_listOr_bind, uncaught_forM, validateLeaseBlock_uncaught,
    GroupEscapes, exists_and_right]

/-- A lease that cannot be read: a group escapes behind groups that are accepted, or all are
accepted and the lease is too deeply nested to copy. -/
def LeaseEscapes (I : Interpreter) (lease : Json) : Prop :=
  (∃ id, nonempty (lease.get "lease_id") "lease_id" = .ok id) ∧
    validateSequence (lease.get "sequence") = .ok () ∧
    ∃ groups, nonemptyListOr (lease.get "groups") "lease groups must be a non-empty list" =
        .ok groups ∧
      (FirstBad (validateLeaseGroup · = .ok ()) GroupEscapes groups ∨
        (∀ group ∈ groups, validateLeaseGroup group = .ok ()) ∧ I.copies lease = false)

theorem validateSequence_raisesOnly {value : Json} :
    RaisesOnly PyError.IsContract (validateSequence value) := by
  refine mapping_raisesOnly.bind fun _ _ => ?_
  refine nonempty_raisesOnly.bind fun _ _ => ?_
  exact nonempty_raisesOnly.bind fun _ _ => raisesOnly_pure

theorem validateLease_uncaught {I : Interpreter} {lease : Json} :
    Uncaught (validateLease I lease) ↔ LeaseEscapes I lease := by
  have hunit : ∀ {p : Unit → Prop}, (∃ u, p u) ↔ p () :=
    ⟨fun ⟨_, h⟩ => h, fun h => ⟨(), h⟩⟩
  have hgroups : ∀ {groups : List Json} {rest : Except PyError Json},
      Uncaught (groups.forM validateLeaseGroup >>= fun _ => rest) ↔
        FirstBad (validateLeaseGroup · = .ok ()) GroupEscapes groups ∨
          (∀ group ∈ groups, validateLeaseGroup group = .ok ()) ∧ Uncaught rest := by
    intro groups rest
    rw [uncaught_bind, uncaught_forM, hunit, Except.forM_eq_ok]
    simp only [validateLeaseGroup_uncaught]
  simp only [validateLease, uncaught_nonempty_bind, uncaught_nonemptyListOr_bind,
    uncaught_bind_of_contract validateSequence_raisesOnly, hunit, hgroups, uncaught_deepcopy,
    LeaseEscapes, exists_and_right]

theorem expect_eq_ok_iff {c : Client} {response : Json} {allowed result : String} {u : Unit}
    (hresult : response.get "result" = .str result) :
    c.expect response allowed = .ok u ↔ (response.get "result").eqStr allowed = true := by
  refine ⟨eqStr_of_expect hresult, fun h => ?_⟩
  rw [Client.expect, if_pos h]
  rfl

theorem raises_mapError {α : Type} {y : Except PyError α} {label : String} :
    Except.Raises (·.isControlError = false) (y.mapError (Client.wrapContractError label)) ↔
      Uncaught y := by
  cases y with
  | ok value => exact iff_of_false Except.not_raises_ok Except.not_raises_ok
  | error error =>
    constructor
    · rintro ⟨e, he, hcontrol⟩
      obtain rfl := Except.error.inj he
      exact ⟨error, rfl, wrapContractError_isControlError.mp hcontrol⟩
    · rintro ⟨e, he, h⟩
      obtain rfl := Except.error.inj he
      exact ⟨_, rfl, wrapContractError_isControlError.mpr h⟩

/-- What `reserve` makes of a response. -/
theorem leaseOf_raises {c : Client} {response : Json} {result : String}
    (hresult : response.get "result" = .str result) :
    Except.Raises (·.isControlError = false) (c.leaseOf response) ↔
      (response.get "result").eqStr "lease" = true ∧ (response.get "lease").isMapping = true ∧
        LeaseEscapes c.interpreter (response.get "lease") := by
  have hexpect : ¬Except.Raises (·.isControlError = false) (c.expect response "lease") :=
    (expect_raisesOnly hresult).not_raises fun error herror => by
      rw [herror]
      exact Bool.false_ne_true
  rw [Client.leaseOf, Except.raises_bind, or_iff_right hexpect]
  simp only [expect_eq_ok_iff hresult, raises_mapError, uncaught_mapping_bind,
    validateLease_uncaught, exists_const]

/-! ## Receipts -/

theorem validateElasticPool_raisesOnly {elastic : Json} {blockCount stride : ℕ} :
    RaisesOnly PyError.IsContract (validateElasticPool elastic blockCount stride) := by
  refine positiveInt_raisesOnly.bind fun _ _ => ?_
  refine positiveInt_raisesOnly.bind fun _ _ => ?_
  refine positiveInt_raisesOnly.bind fun _ _ => ?_
  refine positiveInt_raisesOnly.bind fun _ _ => ?_
  refine positiveInt_raisesOnly.bind fun _ _ => ?_
  refine raiseIf_raisesOnly.bind fun _ _ => ?_
  refine raiseIf_raisesOnly.bind fun _ _ => ?_
  refine nonemptyListOr_raisesOnly.bind fun _ _ => ?_
  refine (RaisesOnly.mapM fun _ _ => mapping_raisesOnly).bind fun _ _ => ?_
  refine (RaisesOnly.mapM fun _ _ => ?_).bind fun _ _ => ?_
  · exact nonnegativeInt_raisesOnly.bind fun _ _ => raisesOnly_pure
  · exact (scanSegments_raisesOnly _ _ _ _ _).bind fun _ _ => raiseIf_raisesOnly

/-- A shared pool whose allocation mode cannot be hashed, the fields checked before it being as they
should. -/
def UnhashableMode (pool : Json) : Prop :=
  pool.isMapping = true ∧ (∃ id, nonempty (pool.get "binding_id") "binding_id" = .ok id) ∧
    (∃ id, nonempty (pool.get "capacity_pool_id") "capacity_pool_id" = .ok id) ∧
    (∃ n, positiveInt (pool.get "generation") "generation" = .ok n) ∧
    (∃ n, positiveInt (pool.get "block_count") "block_count" = .ok n) ∧
    (∃ n, positiveInt (pool.get "bytes_per_block") "bytes_per_block" = .ok n) ∧
    (pool.getD "allocation_mode" (.str "runtime_leased")).hashable = false

theorem validateReceiptPool_uncaught {pool : Json} {live : Option Bool} :
    Uncaught (validateReceiptPool pool live) ↔ UnhashableMode pool := by
  simp only [validateReceiptPool, uncaught_mapping_bind, uncaught_nonempty_bind,
    uncaught_positiveInt_bind, UnhashableMode, exists_and_right]
  refine and_congr_right fun _ => and_congr_right fun _ => and_congr_right fun _ =>
    and_congr_right fun _ => ?_
  constructor
  · rintro ⟨blockCount, hblocks, stride, hstride, h⟩
    refine ⟨⟨blockCount, hblocks⟩, ⟨stride, hstride⟩, ?_⟩
    refine (uncaught_bind.mp h).elim uncaught_inSet.mp ?_
    -- what follows the mode raises contract errors only
    rintro ⟨known, -, hrest⟩
    refine absurd hrest (not_uncaught_of_contract ?_)
    refine raiseIf_raisesOnly.bind fun _ _ => ?_
    refine nonempty_raisesOnly.bind fun _ _ => ?_
    refine nonemptyListOr_raisesOnly.bind fun _ _ => ?_
    refine (RaisesOnly.forM fun _ _ => ?_).bind fun _ _ => ?_
    · exact nonempty_raisesOnly.bind fun _ _ => raisesOnly_pure
    refine mapping_raisesOnly.bind fun _ _ => ?_
    refine mapping_raisesOnly.bind fun _ _ => ?_
    refine raiseIf_raisesOnly.bind fun _ _ => ?_
    split
    · refine mapping_raisesOnly.bind fun _ _ => ?_
      exact validateElasticPool_raisesOnly.bind fun _ _ => raisesOnly_pure
    · exact raiseIf_raisesOnly.bind fun _ _ => raisesOnly_pure
  · rintro ⟨⟨blockCount, hblocks⟩, ⟨stride, hstride⟩, hmode⟩
    exact ⟨blockCount, hblocks, stride, hstride, uncaught_bind.mpr (.inl (uncaught_inSet.mpr hmode))⟩

/-- The pools of a receipt: one escapes behind pools that are accepted. -/
theorem validateReceiptPools_uncaught {pools : List Json} {live : Option Bool} :
    Uncaught (validateReceiptPools pools live) ↔
      ∃ before pool after, pools = before ++ pool :: after ∧
        validateReceiptPools before live = .ok () ∧ UnhashableMode pool := by
  induction pools generalizing live with
  | nil => exact ⟨fun h => absurd h Except.not_raises_ok, fun ⟨_, _, _, h, _⟩ => by simp at h⟩
  | cons first pools ih =>
    rw [validateReceiptPools, uncaught_bind, validateReceiptPool_uncaught]
    constructor
    · rintro (h | ⟨poolIsLive, hfirst, h⟩)
      · exact ⟨[], first, pools, rfl, rfl, h⟩
      · obtain ⟨before, pool, after, rfl, hbefore, hpool⟩ := ih.mp h
        refine ⟨first :: before, pool, after, rfl, ?_, hpool⟩
        exact Except.bind_eq_ok.mpr ⟨poolIsLive, hfirst, hbefore⟩
    · rintro ⟨before, pool, after, heq, hbefore, hpool⟩
      rcases before with _ | ⟨b, before⟩
      · obtain ⟨rfl, rfl⟩ := List.cons.inj heq
        exact .inl hpool
      · obtain ⟨rfl, rfl⟩ := List.cons.inj heq
        obtain ⟨poolIsLive, hfirst, hrest⟩ := Except.bind_eq_ok.mp hbefore
        exact .inr ⟨poolIsLive, hfirst, ih.mpr ⟨before, pool, after, rfl, hrest, hpool⟩⟩

/-- A receipt that cannot be read: a pool escapes behind pools that are accepted, or all are
accepted and the receipt is too deeply nested to copy. -/
def ReceiptEscapes (c : Client) (receipt : Json) : Prop :=
  (receipt.get "participant_id").eqStr c.participantId = true ∧
    (∃ n, positiveInt (receipt.get "participant_epoch") "participant_epoch" = .ok n) ∧
    ∃ pools, receipt.getD "shared_pools" (.list []) = .list pools ∧
      ((∃ before pool after, pools = before ++ pool :: after ∧
          validateReceiptPools before none = .ok () ∧ UnhashableMode pool) ∨
        validateReceiptPools pools none = .ok () ∧ c.interpreter.copies receipt = false)

theorem validateRegistrationReceipt_uncaught {c : Client} {receipt : Json} :
    Uncaught (validateRegistrationReceipt c.interpreter receipt c.participantId) ↔
      ReceiptEscapes c receipt := by
  have hid : nonempty (.str c.participantId) "participant_id" = .ok c.participantId := by
    rw [nonempty, c.participantId_nonblank]
    rfl
  have hpools : ∀ {pools : List Json} {rest : Except PyError Json},
      Uncaught (validateReceiptPools pools none >>= fun _ => rest) ↔
        (∃ before pool after, pools = before ++ pool :: after ∧
          validateReceiptPools before none = .ok () ∧ UnhashableMode pool) ∨
        validateReceiptPools pools none = .ok () ∧ Uncaught rest := by
    intro pools rest
    rw [uncaught_bind, validateReceiptPools_uncaught]
    exact or_congr_right ⟨by rintro ⟨_, h⟩; exact h, fun h => ⟨(), h⟩⟩
  rw [validateRegistrationReceipt, uncaught_nonempty_bind]
  simp only [hid, Except.ok.injEq, exists_eq_left', uncaught_raiseIf_bind, uncaught_positiveInt_bind,
    uncaught_listOr_bind, hpools, uncaught_deepcopy, ReceiptEscapes, exists_and_right,
    Bool.not_eq_false]

/-- What `register_with_handles` makes of a response. -/
theorem readReceipt_uncaught {c : Client} {registration response : Json} {handles : List Fd}
    {result : String} (hresult : response.get "result" = .str result) :
    Uncaught (c.readReceipt registration response handles) ↔
      (response.get "result").eqStr "registered" = true ∧
        (response.get "receipt").isMapping = true ∧ ReceiptEscapes c (response.get "receipt") := by
  rw [Client.readReceipt, uncaught_bind,
    or_iff_right (not_uncaught_of_control (expect_raisesOnly hresult))]
  simp only [expect_eq_ok_iff hresult, uncaught_mapping_bind, exists_const]
  refine and_congr_right fun _ => and_congr_right fun _ => ?_
  rw [uncaught_bind, validateRegistrationReceipt_uncaught]
  refine or_iff_left ?_
  -- what follows the validation raises contract errors only
  rintro ⟨receipt, -, hrest⟩
  refine not_uncaught_of_contract ?_ hrest
  refine mapping_raisesOnly.bind fun _ _ => ?_
  refine raiseIf_raisesOnly.bind fun _ _ => ?_
  refine raiseIf_raisesOnly.bind fun _ _ => ?_
  refine raiseIf_raisesOnly.bind fun _ _ => ?_
  split
  · exact raiseIf_raisesOnly.bind fun _ _ => raisesOnly_pure
  · exact raiseIf_raisesOnly.bind fun _ _ => raisesOnly_pure

/-! ## What a call returns -/

/-- The validator returns the receipt as it is. -/
def AcceptedReceipt (c : Client) (receipt : Json) : Prop :=
  validateRegistrationReceipt c.interpreter receipt c.participantId = .ok receipt

/-- The validator returns the lease as it is. -/
def AcceptedLease (c : Client) (lease : Json) : Prop :=
  validateLease c.interpreter lease = .ok lease

/-- The validator returns each operation as it is. -/
def AcceptedOperations (c : Client) (operations : List Json) : Prop :=
  ∀ operation ∈ operations, validateResizeOperation c.interpreter operation = .ok operation

theorem acceptedReceipt_of_readReceipt {c : Client} {registration response receipt : Json}
    {handles : List Fd} (h : c.readReceipt registration response handles = .ok receipt) :
    AcceptedReceipt c receipt := by
  simp only [Client.readReceipt, Except.bind_eq_ok] at h
  obtain ⟨-, -, raw, -, accepted, haccepted, -, -, -, -, -, -, -, -, hrest⟩ := h
  obtain rfl : accepted = receipt := by
    split at hrest
    · obtain ⟨-, -, heq⟩ := Except.bind_eq_ok.mp hrest
      exact Except.ok.inj heq
    · obtain ⟨-, -, heq⟩ := Except.bind_eq_ok.mp hrest
      exact Except.ok.inj heq
  have hcopy := haccepted
  simp only [validateRegistrationReceipt, Except.bind_eq_ok] at hcopy
  obtain ⟨-, -, -, -, -, -, -, -, -, -, hcopy⟩ := hcopy
  obtain rfl := deepcopy_eq_ok hcopy
  exact haccepted

theorem acceptedLease_of_leaseOf {c : Client} {response lease : Json}
    (h : c.leaseOf response = .ok lease) : AcceptedLease c lease := by
  rw [Client.leaseOf, Except.bind_eq_ok] at h
  obtain ⟨-, -, h⟩ := h
  rcases hread : (do
    let lease ← mapping (response.get "lease") "lease"
    validateLease c.interpreter lease) with error | value
  · rw [hread] at h
    exact absurd h nofun
  · rw [hread] at h
    obtain rfl := Except.ok.inj h
    obtain ⟨raw, -, hlease⟩ := Except.bind_eq_ok.mp hread
    have hcopy := hlease
    simp only [validateLease, Except.bind_eq_ok] at hcopy
    obtain ⟨-, -, -, -, -, -, -, -, hcopy⟩ := hcopy
    obtain rfl := deepcopy_eq_ok hcopy
    exact hlease

theorem AcceptedResize.acceptedOperations {c : Client} {response : Json} {handles : List Fd}
    {operations : List Json} {pending : Bool}
    (h : AcceptedResize c response handles operations pending) : AcceptedOperations c operations := by
  intro operation hmem
  obtain ⟨-, hcheck, hcopies⟩ := h.valid operation hmem
  rw [validateResizeOperation, hcheck, Interpreter.deepcopy, hcopies]
  rfl

/-! ## The calls -/

/-- **The call returned a value in `valid` or raised `KapslKvControlError`.** -/
def Closed {α : Type} (valid : α → Prop) (outcome : Outcome Descriptors α) : Prop :=
  match outcome.1 with
  | .ok value => valid value
  | .error error => error.isControlError = true

theorem closed_iff_not_escapes {α : Type} {valid : α → Prop} {outcome : Outcome Descriptors α}
    (h : ∀ value fds, outcome = (.ok value, fds) → valid value) :
    Closed valid outcome ↔ ¬Escapes outcome := by
  rcases outcome with ⟨error | value, fds⟩
  · rw [escapes_error, Bool.not_eq_false]
    exact Iff.rfl
  · exact ⟨fun _ => not_escapes_ok, fun _ => h value fds rfl⟩

theorem closed_closing {α : Type} {valid : α → Prop} {outcome : Outcome Descriptors (α × List Fd)} :
    Closed valid (Client.closing outcome) ↔ Closed (fun value => valid value.1) outcome := by
  rcases outcome with ⟨error | value, fds⟩
  · exact Iff.rfl
  · exact Iff.rfl

section Calls

variable {α : Type} {c : Client} {x : Exchange} {checked : Except PyError Unit}
  {operation label : String} {payload : List (String × Json)}

/-- An exception of another kind leaves the exchange or the reading of its response. -/
def EscapesBy (c : Client) (x : Exchange) (operation : String) (payload : List (String × Json))
    (escapes : Json → List Fd → Prop) : Prop :=
  ExchangeEscapes c x operation payload ∨
    ∃ frame handles response, Received c x operation payload frame handles ∧
      c.decodeResponse frame x.requestId = .ok response ∧ escapes response handles

/-- **An acknowledged call is closed unless its exchange escapes.** -/
theorem ackCall_closed_iff (hvalid : checked = .ok ()) :
    Closed (fun _ => True) (c.ackCall x checked operation payload .none) ↔
      ¬EscapesBy c x operation payload fun _ _ => False := by
  subst hvalid
  rw [closed_iff_not_escapes fun _ _ _ => trivial, ackCall_escapes, EscapesBy]
  simp only [and_false, exists_false, or_false]

/-- **A call over handles is closed unless its exchange or the reading of its response escapes.** -/
theorem handleCall_closed_iff {read : Json → List Fd → Except PyError α} {valid : α → Prop}
    {escapes : Json → List Fd → Prop} (hvalid : checked = .ok ())
    (hok : ∀ {frame response handles value}, c.decodeResponse frame x.requestId = .ok response →
      read response handles = .ok value → valid value)
    (hread : ∀ {response handles result}, response.get "result" = .str result →
      (Uncaught (read response handles) ↔ escapes response handles))
    (herror : ∀ {response handles}, escapes response handles →
      (response.get "result").eqStr "error" = false) :
    Closed (fun value => valid value.1)
        (c.handleCall x checked operation payload label read .none) ↔
      ¬EscapesBy c x operation payload escapes := by
  subst hvalid
  have huncaught : ∀ {frame response handles}, c.decodeResponse frame x.requestId = .ok response →
      (Uncaught (read response handles) ↔ escapes response handles) := by
    intro frame response handles hd
    obtain ⟨result, hresult⟩ := result_of_decodeResponse hd
    exact hread hresult
  rw [closed_iff_not_escapes, handleCall_escapes fun hd h => herror ((huncaught hd).mp h)]
  · refine not_congr (or_congr_right (exists_congr fun frame => exists_congr fun handles =>
      exists_congr fun response => and_congr_right fun _ => and_congr_right fun hd => huncaught hd))
  · rintro ⟨value, handles⟩ fds h
    obtain ⟨frame, response, -, hd, hvalue⟩ := handleCall_eq_ok h
    exact hok hd hvalue

end Calls

namespace ClientCall

/-- **Each method returns what its validator accepts or raises `KapslKvControlError`.** -/
def ClosedTaxonomy (c : Client) (x : Exchange) : ClientCall → Prop
  | register registration => Closed (AcceptedReceipt c) (c.register x registration .none)
  | registerWithHandles registration =>
    Closed (fun value => AcceptedReceipt c value.1) (c.registerWithHandles x registration .none)
  | reserve request => Closed (AcceptedLease c) (c.reserve x request .none)
  | attach attachment => Closed (fun _ => True) (c.attach x attachment .none)
  | activate epoch => Closed (fun _ => True) (c.activate x epoch .none)
  | commit leaseId tokens => Closed (fun _ => True) (c.commit x leaseId tokens .none)
  | touch leaseId => Closed (fun _ => True) (c.touch x leaseId .none)
  | heartbeat => Closed (fun _ => True) (c.heartbeat x .none)
  | release leaseId completion => Closed (fun _ => True) (c.release x leaseId completion .none)
  | detach request => Closed (fun _ => True) (c.detach x request .none)
  | pollResize request => Closed (AcceptedOperations c) (c.pollResize x request .none)
  | pollResizeWithHandles request =>
    Closed (fun value => AcceptedOperations c value.1) (c.pollResizeWithHandles x request .none)
  | pollResizeStateWithHandles request =>
    Closed (fun value => AcceptedOperations c value.1.1)
      (c.pollResizeStateWithHandles x request .none)
  | ackResize request => Closed (fun _ => True) (c.ackResize x request .none)

/-- The responses that a method reads with an exception of another kind. -/
def ResponseEscapes (c : Client) : ClientCall → Json → List Fd → Prop
  | register _, response, _ | registerWithHandles _, response, _ =>
    (response.get "result").eqStr "registered" = true ∧
      (response.get "receipt").isMapping = true ∧ ReceiptEscapes c (response.get "receipt")
  | reserve _, response, handles =>
    handles = [] ∧ (response.get "result").eqStr "lease" = true ∧
      (response.get "lease").isMapping = true ∧
      LeaseEscapes c.interpreter (response.get "lease")
  | pollResize _, response, _ | pollResizeWithHandles _, response, _
  | pollResizeStateWithHandles _, response, _ => TooDeepOperation c response
  | _, _, _ => False

/-- The inputs that leave the taxonomy. -/
def Escapes (c : Client) (x : Exchange) (call : ClientCall) : Prop :=
  EscapesBy c x call.operation (call.payload c) (call.ResponseEscapes c)

variable {c : Client} {x : Exchange}

theorem registerWithHandles_closed_iff {registration : Json}
    (hvalid : validateRegistration c.interpreter registration = .ok ()) :
    Closed (fun value => AcceptedReceipt c value.1) (c.registerWithHandles x registration .none) ↔
      ¬Escapes c x (registerWithHandles registration) := by
  refine handleCall_closed_iff hvalid (fun _ => acceptedReceipt_of_readReceipt)
    (fun hresult => readReceipt_uncaught hresult) fun h => ?_
  exact eqStr_unique h.1 (by decide)

theorem reserve_closed_iff {request : Json} (hvalid : validateReserveRequest request = .ok ()) :
    Closed (AcceptedLease c) (c.reserve x request .none) ↔ ¬Escapes c x (reserve request) := by
  have hcall : c.reserve x request .none = rpcCall c x "reserve"
      [("participant_id", .str c.participantId), ("request", request)] c.leaseOf .none := by
    simp only [Client.reserve, hvalid]
    rfl
  have hraises : ∀ {frame response}, c.decodeResponse frame x.requestId = .ok response →
      (Except.Raises (·.isControlError = false) (c.leaseOf response) ↔
        (response.get "result").eqStr "lease" = true ∧ (response.get "lease").isMapping = true ∧
          LeaseEscapes c.interpreter (response.get "lease")) := by
    intro frame response hd
    obtain ⟨result, hresult⟩ := result_of_decodeResponse hd
    exact leaseOf_raises hresult
  rw [hcall, closed_iff_not_escapes, rpcCall_escapes fun hd h =>
    eqStr_unique ((hraises hd).mp h).1 (by decide)]
  · refine not_congr (or_congr_right (exists_congr fun frame => ?_))
    constructor
    · rintro ⟨response, hreceived, hd, h⟩
      exact ⟨[], response, hreceived, hd, rfl, (hraises hd).mp h⟩
    · rintro ⟨_, response, hreceived, hd, rfl, h⟩
      exact ⟨response, hreceived, hd, (hraises hd).mpr h⟩
  · intro lease fds h
    unfold rpcCall at h
    split at h
    · cases (Prod.mk.inj h).1
    · exact acceptedLease_of_leaseOf (Prod.mk.inj h).1

theorem pollResizeStateWithHandles_closed_iff {request : Json}
    (hvalid : validateResizePollRequest request = .ok ()) :
    Closed (fun value => AcceptedOperations c value.1.1)
        (c.pollResizeStateWithHandles x request .none) ↔
      ¬Escapes c x (pollResizeStateWithHandles request) := by
  have hclosed := @handleCall_closed_iff _ c x _ "resize_poll" "invalid resize operation: "
    [("participant_id", .str c.participantId), ("request", request)] c.readOperations
    (fun value => AcceptedOperations c value.1) (fun response _ => TooDeepOperation c response)
    hvalid
  refine hclosed (fun {_ _ _ value} hd h => ?_) (fun hresult => readOperations_uncaught hresult)
    fun h => eqStr_error_of_resize h.1
  obtain ⟨result, hresult⟩ := result_of_decodeResponse hd
  exact ((readOperations_eq_ok hresult).mp h).acceptedOperations

/-- A poll without the pending flag. -/
theorem closed_pollResizeWithHandles {request : Json} :
    Closed (fun value => AcceptedOperations c value.1) (c.pollResizeWithHandles x request .none) ↔
      Closed (fun value => AcceptedOperations c value.1.1)
        (c.pollResizeStateWithHandles x request .none) := by
  unfold Client.pollResizeWithHandles
  rcases c.pollResizeStateWithHandles x request .none with ⟨error | value, fds⟩
  · exact Iff.rfl
  · exact Iff.rfl

/-- **The error taxonomy of the client** — a method whose arguments are accepted returns a value its
validator accepts or raises `KapslKvControlError`, exactly for the exchanges outside `Escapes`. -/
theorem closed_taxonomy_iff (c : Client) (x : Exchange) (call : ClientCall)
    (hvalid : call.checked c = .ok ()) : call.ClosedTaxonomy c x ↔ ¬call.Escapes c x := by
  cases call with
  | register registration => exact closed_closing.trans (registerWithHandles_closed_iff hvalid)
  | registerWithHandles registration => exact registerWithHandles_closed_iff hvalid
  | reserve request => exact reserve_closed_iff hvalid
  | pollResize request =>
    exact closed_closing.trans
      (closed_pollResizeWithHandles.trans (pollResizeStateWithHandles_closed_iff hvalid))
  | pollResizeWithHandles request =>
    exact closed_pollResizeWithHandles.trans (pollResizeStateWithHandles_closed_iff hvalid)
  | pollResizeStateWithHandles request => exact pollResizeStateWithHandles_closed_iff hvalid
  | attach | activate | commit | touch | heartbeat | release | detach | ackResize =>
    exact ackCall_closed_iff hvalid

/-- The heartbeat client, in an interpreter that decodes a response with this result. -/
def answeredClient (result : Json) : Client :=
  { heartbeatClient with
    interpreter :=
      { heartbeatClient.interpreter with
        loads := fun _ => .ok (.obj [("abi_version", .obj [("major", .int 1), ("minor", .int 5)]),
          ("request_id", .str "r"), ("result", result)])
        loads_raises := fun _ _ h => absurd h nofun } }

/-- The response arrives in one message, without handles. -/
def answered (result : String) : Exchange where
  requestId := "r"
  transport :=
    { sendError := none
      recv := [.message (ascii ("\x7b\"abi_version\":\x7b\"major\":1,\"minor\":5\x7d," ++
        "\"request_id\":\"r\",\"result\":" ++ result ++ "\x7d\n")) []] }

set_option maxRecDepth 4000 in
/-- A heartbeat that is acknowledged returns. -/
theorem closed_taxonomy_iff_acknowledged :
    (answeredClient (.str "ack")).heartbeat (answered "\"ack\"") .none = (.ok (), .none) ∧
      ¬heartbeat.Escapes (answeredClient (.str "ack")) (answered "\"ack\"") := by
  have hreturns : (answeredClient (.str "ack")).heartbeat (answered "\"ack\"") .none =
      (.ok (), .none) := rfl
  have hclosed : heartbeat.ClosedTaxonomy (answeredClient (.str "ack")) (answered "\"ack\"") := by
    simp only [ClosedTaxonomy, hreturns, Closed]
  exact ⟨hreturns, (closed_taxonomy_iff _ _ heartbeat rfl).mp hclosed⟩

set_option maxRecDepth 4000 in
/-- **A response whose `result` is a list makes the heartbeat raise `TypeError`.** -/
theorem escapes_unhashableResult :
    heartbeat.checked (answeredClient (.list [])) = .ok () ∧
      (answeredClient (.list [])).heartbeat (answered "[]") .none =
        (.error (.typeError "unhashable type: 'list'"), .none) ∧
      ¬heartbeat.ClosedTaxonomy (answeredClient (.list [])) (answered "[]") := by
  have hraises : (answeredClient (.list [])).heartbeat (answered "[]") .none =
      (.error (.typeError "unhashable type: 'list'"), .none) := rfl
  refine ⟨rfl, hraises, fun hclosed => ?_⟩
  simp only [ClosedTaxonomy, hraises, Closed] at hclosed
  exact absurd hclosed nofun

end ClientCall

end Kapsl.Vllm
