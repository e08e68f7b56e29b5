import Kapsl.Vllm.Accepted
import Kapsl.Vllm.ClientHandles

/-!
# Vllm/ClientErrors — which exceptions leave the control client

The scheduler's background thread survives a failed call only if the failure is a
`KapslKvControlError`.  An exception of another kind leaves an exchange exactly for the inputs in
`ExchangeEscapes`: the request cannot be built, the frame cannot be decoded, or an error response is
malformed.  A resize poll adds one more: a well-formed operation too deeply nested to copy.
-/

namespace Kapsl.Vllm

open Except (raiseIf RaisesOnly raisesOnly_raiseIf raisesOnly_error raisesOnly_ok raisesOnly_pure)

/-- The call raised something other than `KapslKvControlError`. -/
def Escapes {α : Type} (outcome : Outcome Descriptors α) : Prop :=
  ∃ error fds, outcome = (.error error, fds) ∧ error.isControlError = false

/-! ## What the validators raise -/

/-- `ContractValidationError`. -/
def PyError.IsContract (error : PyError) : Prop := ∃ message, error = invalid message

theorem isContract_invalid (message : String) : (invalid message).IsContract := ⟨message, rfl⟩

section Contract

variable {value : Json} {field message : String}

theorem mapping_raisesOnly : RaisesOnly PyError.IsContract (mapping value field) := by
  unfold mapping
  split
  · exact raisesOnly_ok
  · exact raisesOnly_error (isContract_invalid _)

theorem nonempty_raisesOnly : RaisesOnly PyError.IsContract (nonempty value field) := by
  unfold nonempty
  split
  · split
    · exact raisesOnly_error (isContract_invalid _)
    · exact raisesOnly_ok
  · exact raisesOnly_error (isContract_invalid _)

theorem positiveInt_raisesOnly : RaisesOnly PyError.IsContract (positiveInt value field) := by
  unfold positiveInt
  split
  · split
    · exact raisesOnly_error (isContract_invalid _)
    · exact raisesOnly_ok
  · exact raisesOnly_error (isContract_invalid _)

theorem nonnegativeInt_raisesOnly :
    RaisesOnly PyError.IsContract (nonnegativeInt value field) := by
  unfold nonnegativeInt
  split
  · split
    · exact raisesOnly_error (isContract_invalid _)
    · exact raisesOnly_ok
  · exact raisesOnly_error (isContract_invalid _)

theorem listOr_raisesOnly : RaisesOnly PyError.IsContract (listOr value message) := by
  unfold listOr
  split
  · exact raisesOnly_ok
  · exact raisesOnly_error (isContract_invalid _)

theorem raiseIf_raisesOnly {c : Prop} [Decidable c] :
    RaisesOnly PyError.IsContract (raiseIf c (invalid message)) :=
  raisesOnly_raiseIf (isContract_invalid _)

theorem validateResizeStage_raisesOnly :
    RaisesOnly PyError.IsContract (validateResizeStage value) := by
  refine nonempty_raisesOnly.bind fun _ _ => ?_
  split
  · exact raisesOnly_ok
  · exact raisesOnly_error (isContract_invalid _)

theorem checkSegment_raisesOnly : RaisesOnly PyError.IsContract (checkSegment field value) :=
  nonempty_raisesOnly.bind fun _ _ => nonnegativeInt_raisesOnly.bind fun _ _ =>
    positiveInt_raisesOnly.bind fun _ _ => nonnegativeInt_raisesOnly.bind fun _ _ =>
      raisesOnly_pure

theorem scanSegments_raisesOnly (granularity : ℕ) (segments : List Json) (expectedOffset : ℕ)
    (seenIds : List String) (seenHandles : List ℕ) :
    RaisesOnly PyError.IsContract
      (scanSegments field message granularity segments expectedOffset seenIds seenHandles) := by
  induction segments generalizing expectedOffset seenIds seenHandles with
  | nil => exact raisesOnly_ok
  | cons raw rest ih =>
    refine checkSegment_raisesOnly.bind fun _ _ => ?_
    exact raiseIf_raisesOnly.bind fun _ _ => ih _ _ _

/-- **The checks of a resize operation raise `ContractValidationError` only.** -/
theorem checkResizeOperation_raisesOnly :
    RaisesOnly PyError.IsContract (checkResizeOperation value) := by
  refine positiveInt_raisesOnly.bind fun _ _ => ?_
  refine positiveInt_raisesOnly.bind fun _ _ => ?_
  refine nonempty_raisesOnly.bind fun _ _ => ?_
  refine validateResizeStage_raisesOnly.bind fun _ _ => ?_
  refine positiveInt_raisesOnly.bind fun _ _ => ?_
  refine positiveInt_raisesOnly.bind fun _ _ => ?_
  refine raiseIf_raisesOnly.bind fun _ _ => ?_
  refine raiseIf_raisesOnly.bind fun _ _ => ?_
  refine positiveInt_raisesOnly.bind fun _ _ => ?_
  refine positiveInt_raisesOnly.bind fun _ _ => ?_
  refine raiseIf_raisesOnly.bind fun _ _ => ?_
  refine listOr_raisesOnly.bind fun _ _ => ?_
  refine raiseIf_raisesOnly.bind fun _ _ => ?_
  refine (RaisesOnly.mapM fun _ _ => ?_).bind fun _ _ => ?_
  · exact mapping_raisesOnly.bind fun _ _ => nonnegativeInt_raisesOnly.bind fun _ _ =>
      raisesOnly_pure
  · exact (scanSegments_raisesOnly _ _ _ _ _).bind fun _ _ => raiseIf_raisesOnly

end Contract

/-! ## The exchange -/

/-- An error response whose `error` cannot be read: it is not an object, or printing its kind or its
text nests too deeply. -/
def MalformedError (c : Client) (response : Json) : Prop :=
  let remote := response.get "error"
  remote.isMapping = false ∨
    c.interpreter.renders (remote.getD "kind" (.str "internal")) = none ∨
    if (remote.get "message").truthy then c.interpreter.renders (remote.get "message") = none
    else (remote.get "operation").truthy = true ∧
      c.interpreter.renders (remote.get "operation") = none

/-- The response `frame` decodes to passes the checks of `_rpc_with_handles` with `handles`. -/
def Received (c : Client) (x : Exchange) (operation : String) (payload : List (String × Json))
    (frame : List UInt8) (handles : List Fd) : Prop :=
  (∃ request, c.requestFrame x operation payload = .ok request) ∧ x.transport.sendError = none ∧
    Arrives c.maxFrameBytes 0 [] [] x.transport.recv frame handles

/-- An exception of another kind leaves the exchange. -/
def ExchangeEscapes (c : Client) (x : Exchange) (operation : String)
    (payload : List (String × Json)) : Prop :=
  (∃ error, c.requestFrame x operation payload = .error error ∧ error.isControlError = false) ∨
  ∃ frame handles, Received c x operation payload frame handles ∧
    (Undecodable c x.requestId frame ∨
      ∃ response, c.decodeResponse frame x.requestId = .ok response ∧
        (response.get "result").eqStr "error" = true ∧ MalformedError c response)

theorem str_cases (I : Interpreter) (value : Json) :
    (I.renders value = none ∧ I.str value = .error Interpreter.tooDeep) ∨
      ∃ text, I.renders value = some text ∧ I.str value = .ok text := by
  unfold Interpreter.str
  cases h : I.renders value with
  | none => exact .inl ⟨rfl, rfl⟩
  | some text => exact .inr ⟨text, rfl, rfl⟩

/-- The text an error response is reported with. -/
theorem remoteText_cases {c : Client} {remote : Json} {kind : String} :
    (∃ text, c.interpreter.str
      (if (remote.get "message").truthy then remote.get "message"
        else if (remote.get "operation").truthy then remote.get "operation" else .str kind) =
        .ok text ∧
      ¬(if (remote.get "message").truthy then c.interpreter.renders (remote.get "message") = none
        else (remote.get "operation").truthy = true ∧
          c.interpreter.renders (remote.get "operation") = none)) ∨
    (c.interpreter.str
      (if (remote.get "message").truthy then remote.get "message"
        else if (remote.get "operation").truthy then remote.get "operation" else .str kind) =
        .error Interpreter.tooDeep ∧
      if (remote.get "message").truthy then c.interpreter.renders (remote.get "message") = none
        else (remote.get "operation").truthy = true ∧
          c.interpreter.renders (remote.get "operation") = none) := by
  cases hm : (remote.get "message").truthy with
  | true =>
    rcases str_cases c.interpreter (remote.get "message") with ⟨hr, hs⟩ | ⟨text, hr, hs⟩
    · exact .inr ⟨by simpa using hs, by simpa using hr⟩
    · exact .inl ⟨text, by simpa using hs, by simp [hr]⟩
  | false =>
    cases ho : (remote.get "operation").truthy with
    | true =>
      rcases str_cases c.interpreter (remote.get "operation") with ⟨hr, hs⟩ | ⟨text, hr, hs⟩
      · exact .inr ⟨by simpa using hs, by simpa using hr⟩
      · exact .inl ⟨text, by simpa using hs, by simp [hr]⟩
    | false =>
      refine .inl ⟨kind, ?_, by simp⟩
      simp [Interpreter.str, c.interpreter.renders_str]

/-- **Which error responses raise something other than the remote error.** -/
theorem raisedFor_isControlError {c : Client} {response : Json} :
    (c.raisedFor response).isControlError = false ↔ MalformedError c response := by
  unfold Client.raisedFor Client.remoteError MalformedError
  rcases mapping_cases (response.get "error") "error" with ⟨hm, hv⟩ | ⟨hm, hv⟩
  · rcases str_cases c.interpreter ((response.get "error").getD "kind" (.str "internal")) with
      ⟨hr, hs⟩ | ⟨kind, hr, hs⟩
    · simp [hv, hm, hr, hs, bind, Except.bind, Interpreter.tooDeep, PyError.isControlError]
    · rcases @remoteText_cases c (response.get "error") kind with ⟨text, ht, hno⟩ | ⟨ht, hyes⟩
      · simp only [hv, hm, hr, hs, ht, bind, Except.bind, pure, Except.pure, PyError.isControlError,
          Bool.true_eq_false, false_or, false_iff, reduceCtorEq]
        exact hno
      · simp only [hv, hm, hr, hs, ht, bind, Except.bind, Interpreter.tooDeep,
          PyError.isControlError, Bool.true_eq_false, false_or, reduceCtorEq, true_iff]
        exact hyes
  · simp [hv, hm, bind, Except.bind, invalid, PyError.isControlError]

theorem PyError.IsContract.isControlError {error : PyError} (h : error.IsContract) :
    error.isControlError = false := by
  obtain ⟨message, rfl⟩ := h
  rfl

/-- Decoding never raises `KapslKvControlError` itself. -/
theorem decodeResponse_raisesOnly {c : Client} {frame : List UInt8} {requestId : String} :
    RaisesOnly (·.isControlError = false) (c.decodeResponse frame requestId) := by
  have hcontract : ∀ {α : Type} {y : Except PyError α}, RaisesOnly PyError.IsContract y →
      RaisesOnly (·.isControlError = false) y := fun h e he => (h e he).isControlError
  refine RaisesOnly.bind (c.interpreter.loads_raises frame) fun _ _ => ?_
  refine (hcontract mapping_raisesOnly).bind fun response _ => ?_
  refine RaisesOnly.bind ?_ fun _ _ => raisesOnly_pure
  refine (hcontract mapping_raisesOnly).bind fun _ _ => ?_
  refine (hcontract raiseIf_raisesOnly).bind fun _ _ => ?_
  refine (hcontract raiseIf_raisesOnly).bind fun _ _ => ?_
  refine RaisesOnly.bind ?_ fun _ _ => hcontract raiseIf_raisesOnly
  intro error herror
  rcases inSet_cases (response.get "result") ["registered", "lease", "resize", "ack", "error"] with
    ⟨-, found, hs⟩ | ⟨-, message, hs⟩
  · exact absurd (herror.symm.trans hs) (by simp)
  · exact Except.error.inj (hs.symm.trans herror) ▸ rfl

theorem escapes_error {α : Type} {error : PyError} {fds : Descriptors} :
    Escapes ((.error error, fds) : Outcome Descriptors α) ↔ error.isControlError = false := by
  constructor
  · rintro ⟨error', fds', heq, h⟩
    obtain rfl := Except.error.inj (Prod.mk.inj heq).1
    exact h
  · exact fun h => ⟨error, fds, rfl, h⟩

theorem not_escapes_ok {α : Type} {value : α} {fds : Descriptors} :
    ¬Escapes ((.ok value, fds) : Outcome Descriptors α) := by
  rintro ⟨error, fds', heq, -⟩
  exact absurd (Prod.mk.inj heq).1 (by simp)

/-- What `_rpc_with_handles` does with a complete frame. -/
theorem settleResponse_escapes {c : Client} {x : Exchange} {frame : List UInt8} {handles : List Fd}
    {fds : Descriptors} :
    Escapes (c.settleResponse x frame handles fds) ↔
      Undecodable c x.requestId frame ∨
        ∃ response, c.decodeResponse frame x.requestId = .ok response ∧
          (response.get "result").eqStr "error" = true ∧ MalformedError c response := by
  rw [← decodeResponse_uncaught]
  unfold Client.settleResponse
  cases hd : c.decodeResponse frame x.requestId with
  | error error =>
    cases hcaught : Client.caughtByDecode error with
    | true => simp [hcaught, escapes_error, controlError, PyError.isControlError]
    | false => simp [hcaught, escapes_error, decodeResponse_raisesOnly error hd]
  | ok response =>
    cases hresult : (response.get "result").eqStr "error" with
    | true => simp [hresult, escapes_error, raisedFor_isControlError]
    | false => simp [hresult, not_escapes_ok]

/-- **Which exchanges raise something other than `KapslKvControlError`.** -/
theorem rpcWithHandles_escapes {c : Client} {x : Exchange} {operation : String}
    {payload : List (String × Json)} :
    Escapes (c.rpcWithHandles x operation payload .none) ↔
      ExchangeEscapes c x operation payload := by
  have hread := readSpec_transport c x
  unfold ExchangeEscapes Received
  dsimp only [Client.rpcWithHandles]
  split
  · rename_i error hframe
    simp [escapes_error, hframe]
  · rename_i frame message hframe hsend
    simp [escapes_error, hframe, hsend, Client.transportError, PyError.isControlError]
  · rename_i frame hframe hsend
    split
    · rename_i error fds hr
      rw [hr] at hread
      obtain ⟨-, hnone, herr⟩ := hread
      have hcontrol : (Client.transportError operation error).isControlError = true := by
        rcases herr with herr | ⟨message, rfl⟩
        · cases error <;> simp_all [PyError.isControlError, Client.transportError]
        · rfl
      simp [escapes_error, hframe, hcontrol, hnone]
    · rename_i raw handles fds hr
      rw [hr] at hread
      obtain ⟨-, harrives, -⟩ := hread
      rw [settleResponse_escapes]
      constructor
      · exact fun h => .inr ⟨raw, handles, ⟨⟨frame, hframe⟩, hsend, harrives⟩, h⟩
      · rintro (⟨error, herror, -⟩ | ⟨raw', handles', ⟨-, -, harrives'⟩, h⟩)
        · rw [hframe] at herror
          exact absurd herror (by simp)
        · obtain ⟨rfl, -⟩ := harrives'.unique (Nat.zero_le _) harrives
          exact h

/-! ## The two calls of the background thread -/

/-- A response that passed `validate_response` has a string for its result. -/
theorem result_of_decodeResponse {c : Client} {frame : List UInt8} {requestId : String}
    {response : Json} (h : c.decodeResponse frame requestId = .ok response) :
    ∃ result, response.get "result" = .str result := by
  simp only [Client.decodeResponse, Except.bind_eq_ok, Except.pure_eq_ok] at h
  obtain ⟨decoded, -, response', -, u, hvalid, rfl⟩ := h
  simp only [validateResponse, Except.bind_eq_ok, Except.raiseIf_eq_ok] at hvalid
  obtain ⟨_, _, _, _, _, _, known, hknown, hfound⟩ := hvalid
  cases hresult : response'.get "result" with
  | str result => exact ⟨result, rfl⟩
  | list items => simp [hresult, Json.inSet] at hknown
  | obj fields => simp [hresult, Json.inSet] at hknown
  | null => simp [hresult, Json.inSet] at hknown; simp [← hknown] at hfound
  | bool b => simp [hresult, Json.inSet] at hknown; simp [← hknown] at hfound
  | int n => simp [hresult, Json.inSet] at hknown; simp [← hknown] at hfound
  | float q => simp [hresult, Json.inSet] at hknown; simp [← hknown] at hfound

/-- What an exchange that returned received. -/
theorem received_of_rpcWithHandles {c : Client} {x : Exchange} {operation : String}
    {payload : List (String × Json)} {response : Json} {handles : List Fd} {fds : Descriptors}
    (h : c.rpcWithHandles x operation payload .none = (.ok (response, handles), fds)) :
    ∃ frame, Received c x operation payload frame handles ∧
      c.decodeResponse frame x.requestId = .ok response := by
  have hread := readSpec_transport c x
  dsimp only [Client.rpcWithHandles] at h
  split at h
  · exact absurd (Prod.mk.inj h).1 (by simp)
  · exact absurd (Prod.mk.inj h).1 (by simp)
  · rename_i request hframe hsend
    split at h
    · exact absurd (Prod.mk.inj h).1 (by simp)
    · rename_i raw gathered fds' hr
      rw [hr] at hread
      obtain ⟨-, harrives, -⟩ := hread
      dsimp only [Client.settleResponse] at h
      split at h
      · split at h
        · exact absurd (Prod.mk.inj h).1 (by simp)
        · exact absurd (Prod.mk.inj h).1 (by simp)
      · rename_i decoded hd
        split at h
        · exact absurd (Prod.mk.inj h).1 (by simp)
        · obtain ⟨rfl, rfl⟩ := Prod.mk.inj (Except.ok.inj (Prod.mk.inj h).1)
          exact ⟨raw, ⟨⟨request, hframe⟩, hsend, harrives⟩, hd⟩

/-- A received response comes back, unless it is an error. -/
theorem rpcWithHandles_of_received {c : Client} {x : Exchange} {operation : String}
    {payload : List (String × Json)} {frame : List UInt8} {response : Json} {handles : List Fd}
    (h : Received c x operation payload frame handles)
    (hd : c.decodeResponse frame x.requestId = .ok response)
    (hresult : (response.get "result").eqStr "error" = false) :
    ∃ fds, c.rpcWithHandles x operation payload .none = (.ok (response, handles), fds) := by
  obtain ⟨⟨request, hframe⟩, hsend, harrives⟩ := h
  have hread := readSpec_transport c x
  simp only [Client.rpcWithHandles, hframe, hsend]
  split
  · rename_i error fds hr
    rw [hr] at hread
    exact absurd harrives (hread.2.1 frame handles)
  · rename_i raw gathered fds hr
    rw [hr] at hread
    obtain ⟨rfl, rfl⟩ := hread.2.1.unique (Nat.zero_le _) harrives
    exact ⟨fds, by simp [Client.settleResponse, hd, hresult]⟩

/-- `_expect` raises `KapslKvControlError` only. -/
theorem expect_raisesOnly {c : Client} {response : Json} {allowed result : String}
    (h : response.get "result" = .str result) :
    RaisesOnly (·.isControlError = true) (c.expect response allowed) := by
  unfold Client.expect
  simp only [h, Interpreter.str, c.interpreter.renders_str]
  split
  · exact raisesOnly_pure
  · exact raisesOnly_error rfl

/-- `read` raises an exception that neither the handler of contract errors nor the caller
catches. -/
def Uncaught {α : Type} (read : Except PyError α) : Prop :=
  Except.Raises (fun error => error.isControlError = false ∧ ¬error.IsContract) read

theorem not_uncaught_of_contract {α : Type} {y : Except PyError α}
    (h : RaisesOnly PyError.IsContract y) : ¬Uncaught y :=
  h.not_raises fun _ he => he.2

theorem not_uncaught_of_control {α : Type} {y : Except PyError α}
    (h : RaisesOnly (·.isControlError = true) y) : ¬Uncaught y :=
  h.not_raises fun error he => by
    rw [he.1]
    exact Bool.false_ne_true

theorem uncaught_bind {α β : Type} {y : Except PyError α} {f : α → Except PyError β} :
    Uncaught (y >>= f) ↔ Uncaught y ∨ ∃ a, y = .ok a ∧ Uncaught (f a) :=
  Except.raises_bind

/-- The second half decides when the first raises contract errors only. -/
theorem uncaught_bind_of_contract {α β : Type} {y : Except PyError α} {f : α → Except PyError β}
    (h : RaisesOnly PyError.IsContract y) :
    Uncaught (y >>= f) ↔ ∃ a, y = .ok a ∧ Uncaught (f a) := by
  rw [uncaught_bind]
  exact or_iff_right (not_uncaught_of_contract h)

theorem wrapContractError_isControlError {label : String} {error : PyError} :
    (Client.wrapContractError label error).isControlError = false ↔
      error.isControlError = false ∧ ¬error.IsContract := by
  cases error <;>
    simp [Client.wrapContractError, controlError, PyError.isControlError, PyError.IsContract, invalid]

section Calls

variable {α : Type} {c : Client} {x : Exchange} {operation label : String}
  {payload : List (String × Json)}

/-- A call over handles that returned: what it received, and how it was read. -/
theorem handleCall_eq_ok {checked : Except PyError Unit}
    {read : Json → List Fd → Except PyError α} {value : α} {handles : List Fd} {fds : Descriptors}
    (h : c.handleCall x checked operation payload label read .none =
      (.ok (value, handles), fds)) :
    ∃ frame response, Received c x operation payload frame handles ∧
      c.decodeResponse frame x.requestId = .ok response ∧ read response handles = .ok value := by
  unfold Client.handleCall at h
  split at h
  · exact absurd (Prod.mk.inj h).1 nofun
  split at h
  · exact absurd (Prod.mk.inj h).1 nofun
  rename_i response received fds' hrpc
  split at h
  · exact absurd (Prod.mk.inj h).1 nofun
  rename_i value' hread
  obtain ⟨rfl, rfl⟩ := Prod.mk.inj (Except.ok.inj (Prod.mk.inj h).1)
  obtain ⟨frame, hreceived, hdecode⟩ := received_of_rpcWithHandles hrpc
  exact ⟨frame, response, hreceived, hdecode, hread⟩

/-- **A call over handles escapes when its exchange does, or when reading the response raises an
exception nothing catches.** -/
theorem handleCall_escapes {read : Json → List Fd → Except PyError α}
    (hread : ∀ {frame response handles}, c.decodeResponse frame x.requestId = .ok response →
      Uncaught (read response handles) → (response.get "result").eqStr "error" = false) :
    Escapes (c.handleCall x (.ok ()) operation payload label read .none) ↔
      ExchangeEscapes c x operation payload ∨
        ∃ frame handles response, Received c x operation payload frame handles ∧
          c.decodeResponse frame x.requestId = .ok response ∧ Uncaught (read response handles) := by
  rw [← rpcWithHandles_escapes]
  simp only [Client.handleCall]
  rcases hrpc : c.rpcWithHandles x operation payload .none with ⟨error | ⟨response, handles⟩, fds⟩
  · simp only [escapes_error]
    refine ⟨.inl, fun h => h.elim id ?_⟩
    rintro ⟨frame, handles, response, hreceived, hd, huncaught⟩
    obtain ⟨fds', hok⟩ := rpcWithHandles_of_received hreceived hd (hread hd huncaught)
    exact absurd (Prod.mk.inj (hrpc.symm.trans hok)).1 nofun
  · obtain ⟨frame, hreceived, hd⟩ := received_of_rpcWithHandles hrpc
    have hright : (Escapes ((.ok (response, handles), fds) : Outcome Descriptors _) ∨
        ∃ frame handles response, Received c x operation payload frame handles ∧
          c.decodeResponse frame x.requestId = .ok response ∧
          Uncaught (read response handles)) ↔ Uncaught (read response handles) := by
      constructor
      · rintro (h | ⟨frame', handles', response', hreceived', hd', huncaught⟩)
        · exact absurd h not_escapes_ok
        · obtain ⟨rfl, rfl⟩ := hreceived'.2.2.unique (Nat.zero_le _) hreceived.2.2
          obtain rfl := Except.ok.inj (hd'.symm.trans hd)
          exact huncaught
      · exact fun h => .inr ⟨frame, handles, response, hreceived, hd, h⟩
    rw [hright]
    rcases hvalue : read response handles with error | value
    · simp [hvalue, escapes_error, wrapContractError_isControlError, Uncaught, Except.Raises]
    · simp [hvalue, not_escapes_ok, Uncaught, Except.not_raises_ok]

/-- A call that reads the response of `_rpc`. -/
def rpcCall (c : Client) (x : Exchange) (operation : String) (payload : List (String × Json))
    (read : Json → Except PyError α) (fds : Descriptors) : Outcome Descriptors α :=
  match c.rpc x operation payload fds with
  | (.error error, fds) => (.error error, fds)
  | (.ok response, fds) => (read response, fds)

/-- **A call without handles escapes when its exchange does, or when a response that came without
handles is read with an exception of another kind.** -/
theorem rpcCall_escapes {read : Json → Except PyError α}
    (hread : ∀ {frame response}, c.decodeResponse frame x.requestId = .ok response →
      Except.Raises (·.isControlError = false) (read response) →
      (response.get "result").eqStr "error" = false) :
    Escapes (rpcCall c x operation payload read .none) ↔
      ExchangeEscapes c x operation payload ∨
        ∃ frame response, Received c x operation payload frame [] ∧
          c.decodeResponse frame x.requestId = .ok response ∧
          Except.Raises (·.isControlError = false) (read response) := by
  rw [← rpcWithHandles_escapes]
  simp only [rpcCall, Client.rpc]
  rcases hrpc : c.rpcWithHandles x operation payload .none with ⟨error | ⟨response, handles⟩, fds⟩
  · simp only [escapes_error]
    refine ⟨.inl, fun h => h.elim id ?_⟩
    rintro ⟨frame, response, hreceived, hd, hraises⟩
    obtain ⟨fds', hok⟩ := rpcWithHandles_of_received hreceived hd (hread hd hraises)
    exact absurd (Prod.mk.inj (hrpc.symm.trans hok)).1 nofun
  · obtain ⟨frame, hreceived, hd⟩ := received_of_rpcWithHandles hrpc
    have hright : (Escapes ((.ok (response, handles), fds) : Outcome Descriptors _) ∨
        ∃ frame response, Received c x operation payload frame [] ∧
          c.decodeResponse frame x.requestId = .ok response ∧
          Except.Raises (·.isControlError = false) (read response)) ↔
        handles = [] ∧ Except.Raises (·.isControlError = false) (read response) := by
      constructor
      · rintro (h | ⟨frame', response', hreceived', hd', hraises⟩)
        · exact absurd h not_escapes_ok
        · obtain ⟨rfl, rfl⟩ := hreceived'.2.2.unique (Nat.zero_le _) hreceived.2.2
          obtain rfl := Except.ok.inj (hd'.symm.trans hd)
          exact ⟨rfl, hraises⟩
      · rintro ⟨rfl, hraises⟩
        exact .inr ⟨frame, response, hreceived, hd, hraises⟩
    rw [hright]
    by_cases hnil : handles = []
    · rcases hvalue : read response with error | value
      · simp [hnil, hvalue, escapes_error, Except.Raises]
      · simp [hnil, hvalue, not_escapes_ok, Except.not_raises_ok]
    · simp [hnil, escapes_error, controlError, PyError.isControlError]

/-- **An acknowledged call escapes exactly when its exchange does.** -/
theorem ackCall_escapes : Escapes (c.ackCall x (.ok ()) operation payload .none) ↔
    ExchangeEscapes c x operation payload := by
  have hexpect : ∀ {frame response}, c.decodeResponse frame x.requestId = .ok response →
      ¬Except.Raises (·.isControlError = false) (c.expect response "ack") := by
    intro frame response hd
    obtain ⟨result, hresult⟩ := result_of_decodeResponse hd
    refine (expect_raisesOnly hresult).not_raises fun error herror => ?_
    rw [herror]
    exact Bool.false_ne_true
  have hcall : Escapes (c.ackCall x (.ok ()) operation payload .none) ↔ _ :=
    rpcCall_escapes fun hd hraises => absurd hraises (hexpect hd)
  rw [hcall]
  refine or_iff_left ?_
  rintro ⟨frame, response, -, hd, hraises⟩
  exact hexpect hd hraises

end Calls

/-- A resize response with a well-formed operation that is too deeply nested to copy, behind
operations that are accepted. -/
def TooDeepOperation (c : Client) (response : Json) : Prop :=
  (response.get "result").eqStr "resize" = true ∧ (∃ pending, response.get "pending" = .bool pending) ∧
    ∃ before operation after,
      response.getD "operations" (.list []) = .list (before ++ operation :: after) ∧
      (∀ accepted ∈ before, ∃ v, Client.checkOperation c.interpreter accepted = .ok v) ∧
      operation.isMapping = true ∧ checkResizeOperation operation = .ok () ∧
      c.interpreter.copies operation = false

/-- A value is equal to one string at most. -/
theorem eqStr_unique {value : Json} {a b : String} (h : value.eqStr a = true) (hne : a ≠ b) :
    value.eqStr b = false := by
  cases value with
  | str text =>
    obtain rfl : text = a := by simpa [Json.eqStr] using h
    simpa [Json.eqStr] using hne
  | _ => rfl

/-- A resize response is not an error response. -/
theorem eqStr_error_of_resize {response : Json}
    (h : (response.get "result").eqStr "resize" = true) :
    (response.get "result").eqStr "error" = false :=
  eqStr_unique h (by decide)

/-- What checking one operation of a response raises. -/
theorem checkOperation_eq_error {I : Interpreter} {raw : Json} {error : PyError}
    (h : Client.checkOperation I raw = .error error) :
    error.IsContract ∨ (error = Interpreter.tooDeep ∧ raw.isMapping = true ∧
      checkResizeOperation raw = .ok () ∧ I.copies raw = false) := by
  unfold Client.checkOperation validateResizeOperation at h
  rcases mapping_cases raw "resize operation" with ⟨hm, hv⟩ | ⟨-, hv⟩
  · rw [hv] at h
    rcases Except.bind_eq_error.mp h with h | ⟨value, hvalue, h⟩
    · exact absurd h (by simp)
    · obtain rfl := Except.ok.inj hvalue
      rcases Except.bind_eq_error.mp h with h | ⟨u, hcheck, h⟩
      · exact .inl (checkResizeOperation_raisesOnly error h)
      · cases hcopies : I.copies raw with
        | true => exact absurd h (by simp [Interpreter.deepcopy, hcopies])
        | false =>
          simp only [Interpreter.deepcopy, hcopies, Bool.false_eq_true, if_false,
            Except.error.injEq] at h
          exact .inr ⟨h.symm, hm, hcheck, rfl⟩
  · rw [hv] at h
    exact .inl (Except.error.inj h ▸ isContract_invalid _)

/-- An operation too deeply nested to copy. -/
theorem checkOperation_tooDeep {I : Interpreter} {raw : Json} (hm : raw.isMapping = true)
    (hcheck : checkResizeOperation raw = .ok ()) (hcopies : I.copies raw = false) :
    Client.checkOperation I raw = .error Interpreter.tooDeep := by
  simp [Client.checkOperation, mapping, hm, validateResizeOperation, hcheck, Interpreter.deepcopy,
    hcopies, bind, Except.bind]

theorem pendingFlag_raisesOnly {value : Json} :
    RaisesOnly PyError.IsContract (Client.pendingFlag value) := by
  unfold Client.pendingFlag
  split
  · exact raisesOnly_ok
  · exact raisesOnly_error (isContract_invalid _)

theorem pendingFlag_eq_ok {value : Json} {pending : Bool}
    (h : Client.pendingFlag value = .ok pending) : value = .bool pending := by
  cases value <;> simp_all [Client.pendingFlag]

theorem eqStr_of_expect {c : Client} {response : Json} {allowed result : String} {u : Unit}
    (hresult : response.get "result" = .str result) (h : c.expect response allowed = .ok u) :
    (response.get "result").eqStr allowed = true := by
  unfold Client.expect at h
  cases heq : (response.get "result").eqStr allowed with
  | true => rfl
  | false =>
    rw [hresult] at heq
    simp [heq, hresult, Interpreter.str, c.interpreter.renders_str, bind, Except.bind] at h

/-- An operation that is accepted is returned as it came. -/
theorem checkOperation_eq_ok {I : Interpreter} {raw operation : Json} :
    Client.checkOperation I raw = .ok operation ↔ operation = raw ∧ raw.isMapping = true ∧
      checkResizeOperation raw = .ok () ∧ I.copies raw = true := by
  simp only [Client.checkOperation, validateResizeOperation, Interpreter.deepcopy,
    Except.bind_eq_ok]
  constructor
  · rintro ⟨value, hvalue, u, hcheck, hcopy⟩
    rcases mapping_cases raw "resize operation" with ⟨hm, hv⟩ | ⟨-, hv⟩
    · obtain rfl := Except.ok.inj (hv.symm.trans hvalue)
      split at hcopy
      · rename_i hcopies
        exact ⟨(Except.ok.inj hcopy).symm, hm, hcheck, hcopies⟩
      · exact absurd hcopy nofun
    · exact absurd (hv.symm.trans hvalue) nofun
  · rintro ⟨rfl, hm, hcheck, hcopies⟩
    exact ⟨operation, by simp [mapping, hm], (), hcheck, by simp [hcopies]⟩

/-- A resize response that is accepted with these handles. -/
structure AcceptedResize (c : Client) (response : Json) (handles : List Fd)
    (operations : List Json) (pending : Bool) : Prop where
  isResize : (response.get "result").eqStr "resize" = true
  isPending : response.get "pending" = .bool pending
  listed : response.getD "operations" (.list []) = .list operations
  valid : ∀ operation ∈ operations, operation.isMapping = true ∧
    checkResizeOperation operation = .ok () ∧ c.interpreter.copies operation = true
  referenced : sameSet (Client.handleIndices (Client.mapSegments operations))
    (List.range handles.length)
  transaction : operations ≠ [] → pending = true

/-- **Which responses are read as operations, and as which.** -/
theorem readOperations_eq_ok {c : Client} {response : Json} {handles : List Fd} {result : String}
    {operations : List Json} {pending : Bool} (hresult : response.get "result" = .str result) :
    c.readOperations response handles = .ok (operations, pending) ↔
      AcceptedResize c response handles operations pending := by
  simp only [Client.readOperations, Client.checkReferenced, Except.bind_eq_ok, Except.pure_eq_ok,
    Except.raiseIf_eq_ok, not_not, Prod.mk.injEq]
  constructor
  · rintro ⟨u, hexpect, flag, hflag, raw, hraw, accepted, haccepted, _, hsame, _, htxn, rfl, rfl⟩
    have hself : accepted = raw := by
      rw [Except.eq_map_of_mapM (g := id) (fun _ _ h => (checkOperation_eq_ok.mp h).1) haccepted,
        List.map_id]
    refine ⟨eqStr_of_expect hresult hexpect, pendingFlag_eq_ok hflag,
      hself ▸ listOr_eq_ok hraw, ?_, hsame, ?_⟩
    · intro operation hmem
      subst hself
      have hself := List.forall₂_same.mp (Except.mapM_eq_ok.mp haccepted) operation hmem
      exact (checkOperation_eq_ok.mp hself).2
    · intro hne
      by_contra hflag
      exact htxn ⟨hne, by simpa using hflag⟩
  · rintro ⟨hresize, hpending, hoperations, hvalid, hsame, htxn⟩
    refine ⟨(), by simp [Client.expect, hresize, pure, Except.pure], pending,
      by simp [hpending, Client.pendingFlag],
      operations, by simp [hoperations, listOr], operations, ?_, (), hsame, (), ?_, rfl, rfl⟩
    · exact Except.mapM_eq_ok.mpr (List.forall₂_same.mpr fun operation hmem =>
        checkOperation_eq_ok.mpr ⟨rfl, hvalid operation hmem⟩)
    · rintro ⟨hne, hflag⟩
      exact absurd (htxn hne) (by simp [hflag])

/-- **Which responses make reading the operations raise an exception nothing catches.** -/
theorem readOperations_uncaught {c : Client} {response : Json} {handles : List Fd}
    {result : String} (hresult : response.get "result" = .str result) :
    Uncaught (c.readOperations response handles) ↔ TooDeepOperation c response := by
  constructor
  · rintro ⟨error, herror, hcontrol, hcontract⟩
    unfold Client.readOperations at herror
    rcases Except.bind_eq_error.mp herror with h | ⟨u, hexpect, herror⟩
    · exact absurd (expect_raisesOnly hresult error h) (by simp [hcontrol])
    rcases Except.bind_eq_error.mp herror with h | ⟨pending, hpending, herror⟩
    · exact absurd (pendingFlag_raisesOnly error h) hcontract
    rcases Except.bind_eq_error.mp herror with h | ⟨raw, hraw, herror⟩
    · exact absurd (listOr_raisesOnly error h) hcontract
    rcases Except.bind_eq_error.mp herror with h | ⟨operations, hoperations, herror⟩
    · obtain ⟨before, operation, after, rfl, hbefore, hop⟩ := Except.mapM_eq_error.mp h
      rcases checkOperation_eq_error hop with h | ⟨-, hm, hcheck, hcopies⟩
      · exact absurd h hcontract
      · refine ⟨eqStr_of_expect hresult hexpect, ⟨pending, pendingFlag_eq_ok hpending⟩, before,
          operation, after, listOr_eq_ok hraw, hbefore, hm, hcheck, hcopies⟩
    rcases Except.bind_eq_error.mp herror with h | ⟨u', -, herror⟩
    · exact absurd (raiseIf_raisesOnly error h) hcontract
    rcases Except.bind_eq_error.mp herror with h | ⟨u'', -, herror⟩
    · exact absurd (raiseIf_raisesOnly error h) hcontract
    · exact absurd herror nofun
  · rintro ⟨hresize, ⟨pending, hpending⟩, before, operation, after, hops, hbefore, hm, hcheck,
      hcopies⟩
    have hmap : (before ++ operation :: after).mapM (Client.checkOperation c.interpreter) =
        .error Interpreter.tooDeep :=
      Except.mapM_eq_error.mpr
        ⟨before, operation, after, rfl, hbefore, checkOperation_tooDeep hm hcheck hcopies⟩
    refine ⟨Interpreter.tooDeep, ?_, rfl, ?_⟩
    · simp only [Client.readOperations, Client.expect, hresize, if_true, hpending,
        Client.pendingFlag, hops, listOr, hmap, bind, Except.bind, pure, Except.pure]
    · rintro ⟨message, h⟩
      exact absurd h (by simp [Interpreter.tooDeep, invalid])

/-- An exception of another kind leaves a resize poll. -/
def PollEscapes (c : Client) (x : Exchange) (payload : List (String × Json)) : Prop :=
  ExchangeEscapes c x "resize_poll" payload ∨
    ∃ frame handles response, Received c x "resize_poll" payload frame handles ∧
      c.decodeResponse frame x.requestId = .ok response ∧ TooDeepOperation c response

/-- **Which polls raise something other than `KapslKvControlError`.** -/
theorem pollResizeStateWithHandles_escapes {c : Client} {x : Exchange} {request : Json}
    (hrequest : validateResizePollRequest request = .ok ()) :
    Escapes (c.pollResizeStateWithHandles x request .none) ↔
      PollEscapes c x [("participant_id", .str c.participantId), ("request", request)] := by
  have huncaught : ∀ {frame response handles}, c.decodeResponse frame x.requestId = .ok response →
      (Uncaught (c.readOperations response handles) ↔ TooDeepOperation c response) := by
    intro frame response handles hd
    obtain ⟨result, hresult⟩ := result_of_decodeResponse hd
    exact readOperations_uncaught hresult
  simp only [Client.pollResizeStateWithHandles, hrequest]
  rw [handleCall_escapes fun hd h => eqStr_error_of_resize ((huncaught hd).mp h).1, PollEscapes]
  refine or_congr_right (exists_congr fun frame => exists_congr fun handles =>
    exists_congr fun response => and_congr_right fun _ => and_congr_right fun hd => huncaught hd)

end Kapsl.Vllm
