import Kapsl.Lib.Lts
import Kapsl.Vllm.ClientErrors

/-!
# Vllm/Heartbeat — the scheduler's background thread and its failure flag

`_heartbeat_loop` polls for resizes, beats while leases are held, and on `KapslKvControlError` sets
`_control_failure` before it returns, so that every scheduler callback raises from then on.  Each
wait, call and lock section of the thread is one step, interleaved with what the scheduler thread
does to the shared fields; a call carries the exchange it meets.

* `heartbeat_failsClosed` — the thread never ends behind the scheduler's back, in the runs in which
  no exchange makes a call raise an exception of another kind.
* `silentlyEnded_nonObjectError` — one error response is enough to leave that condition.
* `endedSilently_of_not_contained` — so is every exchange outside the condition.
-/

namespace Kapsl.Vllm.Heartbeat

/-- The registered scheduler connector; `_positive_int` accepted the epoch of its receipt. -/
structure Config where
  client : Client
  liveResize : Bool
  participantEpoch : ℕ
  participantEpoch_pos : 0 < participantEpoch

/-- Where the background thread stands. -/
inductive Pc
  /-- `self._heartbeat_stop.wait(interval_seconds)`. -/
  | waiting
  /-- About to poll. -/
  | polling
  /-- A poll returned; `_poll_scheduler_resizes` is about to take the lock. -/
  | merging (operations : List Json) (pending : Bool)
  /-- The handler of a failed poll, before its lock section. -/
  | pollFailed (error : PyError)
  /-- About to look at the lease table. -/
  | checking
  /-- About to call `heartbeat`. -/
  | beating
  /-- The handler of a failed heartbeat, before its lock section. -/
  | beatFailed (error : PyError)
  /-- The thread has returned, or an exception has left it. -/
  | ended

/-- The fields the two threads share, and the background thread. -/
structure State where
  thread : Pc
  /-- `_heartbeat_stop.is_set()`. -/
  stop : Bool
  /-- `_control_failure`. -/
  controlFailure : Option PyError
  /-- The keys of `_leases`. -/
  leases : List String
  /-- `_resize_applied_generation`. -/
  appliedGeneration : ℕ
  /-- `_pending_scheduler_operations`. -/
  pendingOperations : List Json
  /-- `_resize_pending`. -/
  resizePending : Bool
  /-- The thread ended while the stop event was not set. -/
  endedEarly : Bool

/-- The thread has just started. -/
def initial : State where
  thread := .waiting
  stop := false
  controlFailure := none
  leases := []
  appliedGeneration := 0
  pendingOperations := []
  resizePending := false
  endedEarly := false

/-- One step of the background thread, or one of the scheduler thread on the shared fields. -/
inductive Act
  | wait
  | poll (x : Exchange)
  | merge
  | recordPollFailure
  | checkLeases
  | beat (x : Exchange)
  | recordBeatFailure
  /-- `self._leases.setdefault(request_id, lease)`. -/
  | storeLease (requestId : String)
  /-- `self._leases.pop(request_id, None)`. -/
  | popLease (requestId : String)
  /-- `self._leases.clear()`. -/
  | clearLeases
  /-- `self._heartbeat_stop.set()`. -/
  | setStop
  /-- `_apply_scheduler_resizes` takes the pending operations. -/
  | takeOperations
  /-- `_apply_scheduler_resizes` records an acknowledged generation. -/
  | applied (generation : ℕ)

/-! ## The calls of the thread -/

/-- `{"role": "scheduler"}`. -/
def schedulerActor : Json := .obj [("role", .str "scheduler")]

/-- `_poll_scheduler_resizes` up to its lock section. -/
def pollOperations (cfg : Config) (x : Exchange) (appliedGeneration : ℕ) :
    Except PyError (List Json × Bool) :=
  match makeResizePollRequest cfg.participantEpoch schedulerActor appliedGeneration with
  | .error error => .error error
  | .ok request =>
    match (cfg.client.pollResizeStateWithHandles x request .none).1 with
    | .error error => .error error
    | .ok ((operations, pending), handles) =>
      if handles = [] then .ok (operations, pending)
      else .error (.sharedPoolImportError "scheduler resize phase received CUDA allocation handles")

/-- `self._control_client().heartbeat()`. -/
def sendHeartbeat (cfg : Config) (x : Exchange) : Except PyError Unit :=
  (cfg.client.heartbeat x .none).1

/-- `int(operation["resize_generation"])`. -/
def generationOf (operation : Json) : ℕ := (operation.get "resize_generation").toNat

/-! ## The step -/

namespace State

/-- The thread ends. -/
def finish (s : State) : State :=
  { s with thread := .ended, endedEarly := s.endedEarly || !s.stop }

/-- `self._control_failure = error`, and the thread returns. -/
def fail (s : State) (error : PyError) : State := { s with controlFailure := some error }.finish

/-- What an exception out of a call does: `except KapslKvControlError` takes it to a handler, any
other one ends the thread. -/
def raised (s : State) (error : PyError) (handler : PyError → Pc) : State :=
  if error.isControlError then { s with thread := handler error } else s.finish

/-- The lock section of `_poll_scheduler_resizes`. -/
def merge (s : State) (operations : List Json) (pending : Bool) : State :=
  { s with
    thread := .checking
    pendingOperations := s.pendingOperations ++ operations.filter fun operation =>
      generationOf operation > s.appliedGeneration &&
        !(s.pendingOperations.map generationOf).contains (generationOf operation)
    resizePending := pending }

end State

/-- The successor under a step of the background thread. -/
def stepThread (cfg : Config) (s : State) : Act → Option State
  | .wait =>
    match s.thread with
    | .waiting =>
      some (if s.stop then s.finish
        else { s with thread := if cfg.liveResize then .polling else .checking })
    | _ => none
  | .poll x =>
    match s.thread with
    | .polling =>
      match pollOperations cfg x s.appliedGeneration with
      | .ok (operations, pending) => some { s with thread := .merging operations pending }
      | .error error => some (s.raised error .pollFailed)
    | _ => none
  | .merge =>
    match s.thread with
    | .merging operations pending => some (s.merge operations pending)
    | _ => none
  | .recordPollFailure =>
    match s.thread with
    | .pollFailed error => some (s.fail error)
    | _ => none
  | .checkLeases =>
    match s.thread with
    | .checking => some { s with thread := if s.leases = [] then .waiting else .beating }
    | _ => none
  | .beat x =>
    match s.thread with
    | .beating =>
      match sendHeartbeat cfg x with
      | .ok () => some { s with thread := .waiting }
      | .error error => some (s.raised error .beatFailed)
    | _ => none
  -- The last lease may have gone while the call was under way: nothing is at stake then.
  | .recordBeatFailure =>
    match s.thread with
    | .beatFailed error =>
      some (if s.leases = [] then { s with thread := .waiting } else s.fail error)
    | _ => none
  | _ => none

/-- The successor under a step; the scheduler thread is not held up by the background thread. -/
def step (cfg : Config) (s : State) : Act → Option State
  | .storeLease requestId => some { s with leases := s.leases.insert requestId }
  | .popLease requestId => some { s with leases := s.leases.erase requestId }
  | .clearLeases => some { s with leases := [] }
  | .setStop => some { s with stop := true }
  | .takeOperations => some { s with pendingOperations := [] }
  | .applied generation =>
    some { s with appliedGeneration := max s.appliedGeneration generation }
  | act => stepThread cfg s act

/-- The runs of a scheduler connector. -/
def lts (cfg : Config) : Lts State Act where
  init s := s = initial
  step := step cfg

/-! ## The callbacks -/

/-- `_raise_if_control_failed`. -/
def raiseIfControlFailed (s : State) : Except PyError Unit :=
  match s.controlFailure with
  | none => .ok ()
  | some failure =>
    .error (.kapslKvControlError ("Kapsl KV authority heartbeat failed: " ++ failure.message)
      failure.kind)

/-- A scheduler callback: the guard, then the rest of its body. -/
def guarded {α : Type} (s : State) (body : Except PyError α) : Except PyError α := do
  raiseIfControlFailed s
  body

/-- `on_new_request`, given what activating, reserving and storing the lease do. -/
def onNewRequest (s : State) (admission : Except PyError Unit) : Except PyError Unit :=
  guarded s admission

/-- `get_num_new_matched_tokens`. -/
def getNumNewMatchedTokens (s : State) : Except PyError (ℕ × Bool) := guarded s (.ok (0, false))

/-- `update_state_after_alloc`. -/
def updateStateAfterAlloc (s : State) : Except PyError Unit := guarded s (.ok ())

/-- `build_connector_meta`, given what `_apply_scheduler_resizes` does. -/
def buildConnectorMeta (s : State) (applied : Except PyError Unit) : Except PyError Unit :=
  guarded s applied

/-- Every scheduler callback raises, whatever the rest of its body would do. -/
structure CallbacksRaise (s : State) : Prop where
  onNewRequest : ∀ admission, ∃ error, onNewRequest s admission = .error error
  getNumNewMatchedTokens : ∃ error, getNumNewMatchedTokens s = .error error
  updateStateAfterAlloc : ∃ error, updateStateAfterAlloc s = .error error
  buildConnectorMeta : ∀ applied, ∃ error, buildConnectorMeta s applied = .error error

/-- **If the thread has ended early, the failure is recorded and every callback raises.** -/
def FailsClosed (s : State) : Prop :=
  s.endedEarly = true → s.controlFailure.isSome = true ∧ CallbacksRaise s

theorem guarded_eq_error {α : Type} {s : State} (h : s.controlFailure.isSome = true)
    (body : Except PyError α) : ∃ error, guarded s body = .error error := by
  obtain ⟨failure, hfailure⟩ := Option.isSome_iff_exists.mp h
  refine ⟨.kapslKvControlError ("Kapsl KV authority heartbeat failed: " ++ failure.message)
    failure.kind, ?_⟩
  simp only [guarded, raiseIfControlFailed, hfailure]
  rfl

/-- A recorded failure makes every callback raise. -/
theorem callbacksRaise_of_isSome {s : State} (h : s.controlFailure.isSome = true) :
    CallbacksRaise s where
  onNewRequest admission := guarded_eq_error h admission
  getNumNewMatchedTokens := guarded_eq_error h _
  updateStateAfterAlloc := guarded_eq_error h _
  buildConnectorMeta applied := guarded_eq_error h applied

/-! ## Which exchanges escape the handlers -/

/-- The request of a poll. -/
def pollRequest (cfg : Config) (appliedGeneration : ℕ) : Json :=
  resizePollRequest cfg.participantEpoch schedulerActor appliedGeneration

/-- The payload of a poll. -/
def pollPayload (cfg : Config) (appliedGeneration : ℕ) : List (String × Json) :=
  [("participant_id", .str cfg.client.participantId),
    ("request", pollRequest cfg appliedGeneration)]

/-- An acceptable resize response arrives with handles, which only a worker may receive. -/
def HandlesArrive (c : Client) (x : Exchange) (payload : List (String × Json)) : Prop :=
  ∃ frame handles response operations pending,
    Received c x "resize_poll" payload frame handles ∧
      c.decodeResponse frame x.requestId = .ok response ∧
      AcceptedResize c response handles operations pending ∧ handles ≠ []

theorem validateResizePollRequest_pollRequest (cfg : Config) (appliedGeneration : ℕ) :
    validateResizePollRequest (pollRequest cfg appliedGeneration) = .ok () := by
  have hpos := cfg.participantEpoch_pos
  have hepoch : positiveInt (.int cfg.participantEpoch) "participant_epoch" =
      .ok cfg.participantEpoch := by
    simp [positiveInt, Nat.pos_iff_ne_zero.mp hpos]
  have hgeneration : nonnegativeInt (.int appliedGeneration) "applied_generation" =
      .ok appliedGeneration := by
    simp [nonnegativeInt]
  show (do
    let _ ← positiveInt (.int cfg.participantEpoch) "participant_epoch"
    let actor ← mapping schedulerActor "resize actor"
    validateResizeActor actor
    let _ ← nonnegativeInt (.int appliedGeneration) "applied_generation") = .ok ()
  rw [hepoch, hgeneration]
  rfl

theorem makeResizePollRequest_eq_ok (cfg : Config) (appliedGeneration : ℕ) :
    makeResizePollRequest cfg.participantEpoch schedulerActor appliedGeneration =
      .ok (pollRequest cfg appliedGeneration) := by
  have hvalid := validateResizePollRequest_pollRequest cfg appliedGeneration
  unfold pollRequest at hvalid
  simp only [makeResizePollRequest, hvalid, pollRequest]
  rfl

/-- **Which polls return, and with what.** -/
theorem pollResizeStateWithHandles_eq_ok {c : Client} {x : Exchange} {request : Json}
    (hrequest : validateResizePollRequest request = .ok ()) {operations : List Json}
    {pending : Bool} {handles : List Fd} :
    (c.pollResizeStateWithHandles x request .none).1 = .ok ((operations, pending), handles) ↔
      ∃ frame response,
        Received c x "resize_poll"
          [("participant_id", .str c.participantId), ("request", request)] frame handles ∧
        c.decodeResponse frame x.requestId = .ok response ∧
        AcceptedResize c response handles operations pending := by
  simp only [Client.pollResizeStateWithHandles, Client.handleCall, hrequest]
  constructor
  · intro h
    split at h
    · cases h
    · rename_i response gathered fds hrpc
      obtain ⟨frame, hreceived, hd⟩ := received_of_rpcWithHandles hrpc
      obtain ⟨text, hresult⟩ := result_of_decodeResponse hd
      split at h
      · cases h
      · rename_i value hread
        obtain ⟨rfl, rfl⟩ := Prod.mk.inj (Except.ok.inj h)
        exact ⟨frame, response, hreceived, hd, (readOperations_eq_ok hresult).mp hread⟩
  · rintro ⟨frame, response, hreceived, hd, haccepted⟩
    obtain ⟨text, hresult⟩ := result_of_decodeResponse hd
    obtain ⟨fds, hrpc⟩ :=
      rpcWithHandles_of_received hreceived hd (eqStr_error_of_resize haccepted.isResize)
    rw [hrpc]
    simp only [(readOperations_eq_ok hresult).mpr haccepted]

/-- **Which polls end the thread.** -/
theorem pollOperations_escapes {cfg : Config} {x : Exchange} {generation : ℕ} :
    (∃ error, pollOperations cfg x generation = .error error ∧ error.isControlError = false) ↔
      PollEscapes cfg.client x (pollPayload cfg generation) ∨
        HandlesArrive cfg.client x (pollPayload cfg generation) := by
  have hrequest := validateResizePollRequest_pollRequest cfg generation
  unfold pollPayload
  rw [← pollResizeStateWithHandles_escapes hrequest]
  simp only [pollOperations, makeResizePollRequest_eq_ok]
  cases hpoll : cfg.client.pollResizeStateWithHandles x (pollRequest cfg generation) .none with
  | mk result fds =>
    cases result with
    | error error =>
      rw [escapes_error]
      constructor
      · rintro ⟨error', herror, hcontrol⟩
        exact .inl (Except.error.inj herror ▸ hcontrol)
      · rintro (hcontrol | ⟨frame, handles, response, operations, pending, hreceived, hd, ha, -⟩)
        · exact ⟨error, rfl, hcontrol⟩
        · have hok := (pollResizeStateWithHandles_eq_ok hrequest).mpr
            ⟨frame, response, hreceived, hd, ha⟩
          rw [hpoll] at hok
          exact absurd hok nofun
    | ok value =>
      obtain ⟨⟨operations, pending⟩, handles⟩ := value
      have hok := congrArg Prod.fst hpoll
      obtain ⟨frame, response, hreceived, hd, ha⟩ :=
        (pollResizeStateWithHandles_eq_ok hrequest).mp hok
      by_cases hnil : handles = []
      · simp only [hnil, if_true, reduceCtorEq, false_and, exists_false, not_escapes_ok, false_or,
          false_iff]
        rintro ⟨frame', handles', response', operations', pending', hreceived', -, -, hne⟩
        obtain ⟨-, rfl⟩ := hreceived'.2.2.unique (Nat.zero_le _) hreceived.2.2
        exact hne hnil
      · simp only [hnil, if_false]
        constructor
        · exact fun _ => .inr ⟨frame, handles, response, operations, pending, hreceived, hd, ha, hnil⟩
        · exact fun _ => ⟨_, rfl, rfl⟩

/-- **Which heartbeats end the thread.** -/
theorem sendHeartbeat_escapes {cfg : Config} {x : Exchange} :
    (∃ error, sendHeartbeat cfg x = .error error ∧ error.isControlError = false) ↔
      ExchangeEscapes cfg.client x "heartbeat"
        [("participant_id", .str cfg.client.participantId)] := by
  rw [← ackCall_escapes]
  unfold sendHeartbeat Client.heartbeat
  constructor
  · rintro ⟨error, herror, hcontrol⟩
    exact ⟨error, _, Prod.ext herror rfl, hcontrol⟩
  · rintro ⟨error, fds, heq, hcontrol⟩
    exact ⟨error, congrArg Prod.fst heq, hcontrol⟩

/-- The call of the step meets an exchange that the handlers of the loop can deal with. -/
def Contained (cfg : Config) (s : State) : Act → Prop
  | .poll x => ¬PollEscapes cfg.client x (pollPayload cfg s.appliedGeneration) ∧
      ¬HandlesArrive cfg.client x (pollPayload cfg s.appliedGeneration)
  | .beat x => ¬ExchangeEscapes cfg.client x "heartbeat"
      [("participant_id", .str cfg.client.participantId)]
  | _ => True

/-! ## The thread fails closed -/

theorem endedEarly_finish_of_stop {s : State} (h : s.stop = true) :
    s.finish.endedEarly = s.endedEarly := by
  simp [State.finish, h]

/-- `except KapslKvControlError` takes the exception to its handler. -/
theorem raised_of_isControlError {s : State} {error : PyError} {handler : PyError → Pc}
    (h : error.isControlError = true) :
    s.raised error handler = { s with thread := handler error } := by
  simp [State.raised, h]

/-- **An early end is always recorded.** -/
def Recorded (s : State) : Prop := s.endedEarly = true → s.controlFailure.isSome = true

/-- A step of the background thread. -/
theorem Recorded.stepThread {cfg : Config} {s s' : State} {act : Act} (h : Recorded s)
    (hok : Contained cfg s act) (hs : stepThread cfg s act = some s') : Recorded s' := by
  cases act with
  | wait =>
    simp only [Heartbeat.stepThread] at hs
    split at hs
    · obtain rfl := Option.some.inj hs
      split
      · rename_i hstop
        intro hearly
        exact h (endedEarly_finish_of_stop hstop ▸ hearly)
      · exact h
    · exact absurd hs nofun
  | poll x =>
    simp only [Heartbeat.stepThread] at hs
    split at hs
    · split at hs
      · obtain rfl := Option.some.inj hs
        exact h
      · rename_i error herror
        obtain rfl := Option.some.inj hs
        cases hcontrol : error.isControlError with
        | true => rw [raised_of_isControlError hcontrol]; exact h
        | false =>
          exact absurd (pollOperations_escapes.mp ⟨error, herror, hcontrol⟩)
            (not_or.mpr hok)
    · exact absurd hs nofun
  | beat x =>
    simp only [Heartbeat.stepThread] at hs
    split at hs
    · split at hs
      · obtain rfl := Option.some.inj hs
        exact h
      · rename_i error herror
        obtain rfl := Option.some.inj hs
        cases hcontrol : error.isControlError with
        | true => rw [raised_of_isControlError hcontrol]; exact h
        | false => exact absurd (sendHeartbeat_escapes.mp ⟨error, herror, hcontrol⟩) hok
    · exact absurd hs nofun
  | merge =>
    simp only [Heartbeat.stepThread] at hs
    split at hs
    · exact Option.some.inj hs ▸ h
    · exact absurd hs nofun
  | checkLeases =>
    simp only [Heartbeat.stepThread] at hs
    split at hs
    · exact Option.some.inj hs ▸ h
    · exact absurd hs nofun
  | recordPollFailure =>
    simp only [Heartbeat.stepThread] at hs
    split at hs
    · exact Option.some.inj hs ▸ fun _ => rfl
    · exact absurd hs nofun
  | recordBeatFailure =>
    simp only [Heartbeat.stepThread] at hs
    split at hs
    · obtain rfl := Option.some.inj hs
      split
      · exact h
      · exact fun _ => rfl
    · exact absurd hs nofun
  | _ => exact absurd hs nofun

/-- **An early end stays recorded.** -/
theorem Recorded.step {cfg : Config} {s s' : State} {act : Act} (h : Recorded s)
    (hok : Contained cfg s act) (hs : step cfg s act = some s') : Recorded s' := by
  cases act with
  | storeLease | popLease | clearLeases | setStop | takeOperations | applied =>
    exact Option.some.inj hs ▸ h
  | _ => exact h.stepThread hok hs

/-- **The thread fails closed** — in every run in which each call meets an exchange that ends in a
result or in `KapslKvControlError`, the thread ends before `shutdown` only with the failure
recorded, and from then on every scheduler callback raises. -/
theorem heartbeat_failsClosed (cfg : Config) {s : State}
    (h : (lts cfg).ReachBy (Contained cfg) s) : FailsClosed s := by
  have hrecorded : Recorded s :=
    h.invariant (fun s hs => by obtain rfl := hs; exact nofun)
      fun s act s' hI hok hs => hI.step hok hs
  intro hearly
  exact ⟨hrecorded hearly, callbacksRaise_of_isSome (hrecorded hearly)⟩

/-- A connector without live resize. -/
def opaqueConfig (client : Client) : Config where
  client := client
  liveResize := false
  participantEpoch := 1
  participantEpoch_pos := Nat.one_pos

/-- The coordinator refuses the connection. -/
def refused : Exchange where
  requestId := "r"
  transport := { sendError := some "Connection refused", recv := [] }

/-- A heartbeat is refused while a lease is held. -/
def refusedRun : List Act :=
  [.storeLease "a", .wait, .checkLeases, .beat refused, .recordBeatFailure]

/-- The run of a refused heartbeat ends early and fails closed. -/
theorem heartbeat_failsClosed_refused :
    ∃ s, (lts (opaqueConfig ClientCall.heartbeatClient)).exec initial refusedRun = some s ∧
      s.endedEarly = true ∧ FailsClosed s := by
  have hbeat : ¬ExchangeEscapes ClientCall.heartbeatClient refused "heartbeat"
      [("participant_id", .str "p")] := by
    intro h
    obtain ⟨error, herror, hcontrol⟩ :=
      (@sendHeartbeat_escapes (opaqueConfig ClientCall.heartbeatClient) refused).mpr h
    have hsent : sendHeartbeat (opaqueConfig ClientCall.heartbeatClient) refused =
        .error (.kapslKvControlError "KV control request 'heartbeat' failed: Connection refused"
          (some "transport")) := rfl
    rw [hsent] at herror
    exact absurd (Except.error.inj herror ▸ hcontrol) nofun
  refine ⟨_, rfl, rfl, heartbeat_failsClosed (opaqueConfig ClientCall.heartbeatClient) ?_⟩
  exact Lts.reachBy_of_exec (.init rfl) refusedRun
    ⟨trivial, trivial, trivial, hbeat, trivial, trivial⟩ rfl

/-! ## What lies outside the condition -/

/-- **Every exchange outside the condition ends the thread silently.** -/
theorem endedSilently_of_not_contained {cfg : Config} {s s' : State} {act : Act}
    (hok : ¬Contained cfg s act) (hs : step cfg s act = some s') (hstop : s.stop = false)
    (hnone : s.controlFailure = none) : ¬FailsClosed s' := by
  have hfinish : ¬FailsClosed s.finish := fun h =>
    absurd (h (by simp [State.finish, hstop])).1 (by simp [State.finish, hnone])
  cases act with
  | poll x =>
    have hescapes : PollEscapes cfg.client x (pollPayload cfg s.appliedGeneration) ∨
        HandlesArrive cfg.client x (pollPayload cfg s.appliedGeneration) := by
      by_contra hno
      exact hok (not_or.mp hno)
    obtain ⟨error, herror, hcontrol⟩ := pollOperations_escapes.mpr hescapes
    simp only [step, stepThread, herror, State.raised, hcontrol] at hs
    split at hs
    · exact Option.some.inj hs ▸ hfinish
    · exact absurd hs nofun
  | beat x =>
    obtain ⟨error, herror, hcontrol⟩ := sendHeartbeat_escapes.mpr (not_not.mp hok)
    simp only [step, stepThread, herror, State.raised, hcontrol] at hs
    split at hs
    · exact Option.some.inj hs ▸ hfinish
    · exact absurd hs nofun
  | _ => exact absurd trivial hok

/-- `{"abi_version":{"major":1,"minor":5},"error":"busy","request_id":"r","result":"error"}`. -/
def busyResponse : Json :=
  .obj [("abi_version", .obj [("major", .int 1), ("minor", .int 5)]), ("error", .str "busy"),
    ("request_id", .str "r"), ("result", .str "error")]

/-- The heartbeat client, in an interpreter that decodes that response. -/
def busyClient : Client :=
  { ClientCall.heartbeatClient with
    interpreter :=
      { ClientCall.heartbeatClient.interpreter with
        loads := fun _ => .ok busyResponse
        loads_raises := fun _ _ h => absurd h nofun } }

/-- The response arrives in one message, without handles. -/
def busy : Exchange where
  requestId := "r"
  transport :=
    { sendError := none
      recv := [.message (ClientCall.ascii
        ("\x7b\"abi_version\":\x7b\"major\":1,\"minor\":5\x7d,\"error\":\"busy\"," ++
          "\"request_id\":\"r\",\"result\":\"error\"\x7d\n")) []] }

set_option maxRecDepth 4000 in
/-- **An error response whose `error` is not an object ends the thread behind the scheduler's
back** — a lease is held, the thread is gone, and no callback raises. -/
theorem silentlyEnded_nonObjectError :
    ¬∀ (cfg : Config) (s : State), (lts cfg).Reach s → FailsClosed s := by
  intro h
  have hexec : ∃ s, (lts (opaqueConfig busyClient)).exec initial
      [.storeLease "a", .wait, .checkLeases, .beat busy] = some s ∧
      s.endedEarly = true ∧ s.controlFailure = none := ⟨_, rfl, rfl, rfl⟩
  obtain ⟨s, hs, hearly, hnone⟩ := hexec
  have hclosed := h (opaqueConfig busyClient) s (Lts.reach_of_exec (.init rfl) _ hs)
  exact absurd (hclosed hearly).1 (by simp [hnone])

end Kapsl.Vllm.Heartbeat
