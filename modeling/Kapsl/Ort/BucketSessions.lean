import Mathlib.Data.List.AList
import Kapsl.Lib.Recency
import Kapsl.Ort.SessionPool
import Kapsl.Ort.Tensor

/-!
# Ort/BucketSessions — one session pool per shape bucket, the least recently used one evicted

`pool_for_request` gives the first bucket it sees the primary pool and every other bucket a pool of
its own; a full map evicts from the front of `lru` before `create_session` runs, which may fail.
The call is cut where `create_session` starts: `lookup` before it, `insert` after it.

A **history** is the calls in the order of the bucket lock, each with the answer `create_session`
would give.

* `Buckets` — what map, queue and primary key keep of each other.
* `Buckets.poolForRequest` — one call keeps it, whatever `create_session` answers.
* `bucketSessions_lru` — the whole account over every history.
-/

namespace Kapsl.Ort

/-! ## Tuning and bucket keys -/

/-- The fields of `OrtTuning` that the pools read. -/
structure OrtTuning where
  sessionBuckets : Option UInt64
  bucketDimGranularity : Option UInt64
  bucketMaxDims : Option UInt64
  peakConcurrencyHint : Option UInt32
  deriving DecidableEq

/-- `OrtBackend`: its tuning, the numbers the ABI gives the dtypes, and whether the build checks
integer overflow. -/
structure OrtBackend where
  tuning : OrtTuning
  dtypeCode : Dtype → UInt32
  overflowChecks : Bool

def maxSessionBuckets : ℕ := 64

namespace OrtBackend

/-- `session_pool_size`. -/
def sessionPoolSize (b : OrtBackend) : ℕ := max (b.tuning.peakConcurrencyHint.getD 1).toNat 1

/-- `max_bucket_sessions`. -/
def maxBucketSessions (b : OrtBackend) : ℕ :=
  min (max (b.tuning.sessionBuckets.getD 4).toNat 1) maxSessionBuckets

/-- How many bucket pools the map holds beside the primary one. -/
def secondaryCapacity (b : OrtBackend) : ℕ := max (b.maxBucketSessions - 1) 1

/-- The value of an `i64` operation: itself in range, else a panic or the wrapped value. -/
def i64 (b : OrtBackend) (x : ℤ) : Option ℤ :=
  if -2 ^ 63 ≤ x ∧ x < 2 ^ 63 then some x
  else if b.overflowChecks then none
  else some (x.bmod (2 ^ 64))

/-- `usize as i64`. -/
def granularity (b : OrtBackend) : ℤ :=
  (max (b.tuning.bucketDimGranularity.getD 64).toNat 1 : ℤ).bmod (2 ^ 64)

/-- `((dimension + granularity - 1) / granularity) * granularity`; a division that overflows panics
in every build. -/
def roundedDim (b : OrtBackend) (dimension : ℤ) : Option ℤ := do
  let sum ← b.i64 (dimension + b.granularity)
  let dividend ← b.i64 (sum - 1)
  let quotient := dividend.tdiv b.granularity
  if -2 ^ 63 ≤ quotient ∧ quotient < 2 ^ 63 then b.i64 (quotient * b.granularity) else none

/-- `bucket_key`, `none` when it panics. -/
def bucketKey (b : OrtBackend) (primary : BorrowedTensor) : Option String := do
  let maxDims := max (b.tuning.bucketMaxDims.getD 4).toNat 1
  let dims ← (primary.shape.take maxDims).zipIdx.mapM fun (dimension, index) =>
    if index = 0 then some dimension else b.roundedDim dimension
  let key := s!"{b.dtypeCode primary.dtype}:r{primary.shape.length}"
  let key := dims.foldl (fun key rounded => key ++ ":" ++ toString rounded) key
  some (if maxDims < primary.shape.length then key ++ ":*" else key)

end OrtBackend

/-! ## The map, the queue and the primary key -/

/-- `BucketSessionState`. -/
structure BucketSessionState where
  primaryBucketKey : Option String
  sessions : AList fun _ : String => PoolId
  lru : List String

namespace BucketSessionState

def default : BucketSessionState where
  primaryBucketKey := none
  sessions := ∅
  lru := []

/-- `sessions.len()`. -/
def len (state : BucketSessionState) : ℕ := state.sessions.keys.length

/-- `touch_bucket_lru`. -/
def touchBucketLru (state : BucketSessionState) (bucketKey : String) : BucketSessionState :=
  { state with lru := Recency.touch bucketKey state.lru }

/-- The `while` loop: evict from the front of the queue until the map has room. -/
def evictFrom (capacity : ℕ) (state : BucketSessionState) : List String → BucketSessionState
  | [] => { state with lru := [] }
  | evicted :: lru =>
    if capacity ≤ state.len then
      evictFrom capacity { state with sessions := state.sessions.erase evicted } lru
    else { state with lru := evicted :: lru }

def evict (capacity : ℕ) (state : BucketSessionState) : BucketSessionState :=
  state.evictFrom capacity state.lru

/-- `primary_bucket_key.get_or_insert_with`. -/
def choosePrimary (state : BucketSessionState) (bucketKey : String) : BucketSessionState :=
  { state with primaryBucketKey := some (state.primaryBucketKey.getD bucketKey) }

/-- `pool_for_request` up to `create_session`: the pool of the bucket, or room for it. -/
def lookup (state : BucketSessionState) (capacity : ℕ) (primaryPool : PoolId)
    (bucketKey : String) : BucketSessionState × Option PoolId :=
  if state.primaryBucketKey.getD bucketKey = bucketKey then
    (state.choosePrimary bucketKey, some primaryPool)
  else
    match state.sessions.lookup bucketKey with
    | some pool => ((state.choosePrimary bucketKey).touchBucketLru bucketKey, some pool)
    | none => ((state.choosePrimary bucketKey).evict capacity, none)

/-- `pool_for_request` after `create_session`. -/
def insert (state : BucketSessionState) (bucketKey : String) (pool : PoolId) :
    BucketSessionState :=
  { state with sessions := state.sessions.insert bucketKey pool }.touchBucketLru bucketKey

end BucketSessionState

/-- The pools of a loaded model: pool `0` is the primary one, `pools` counts those created. -/
structure LoadedModel where
  buckets : BucketSessionState
  pools : ℕ

def primaryPool : PoolId := 0

/-- What `load` leaves. -/
def LoadedModel.initial : LoadedModel := ⟨.default, 1⟩

/-- How a call of `pool_for_request` ended. -/
inductive PoolAnswer
  | ok (pool : PoolId)
  | error (e : FfiError)
  | panicked
  deriving DecidableEq

/-- A call of `pool_for_request`: its tensor, and the answer `create_session` would give. -/
structure PoolRequest where
  primary : BorrowedTensor
  createSession : Except FfiError Unit

/-- `pool_for_request`. -/
def LoadedModel.poolForRequest (b : OrtBackend) (loaded : LoadedModel) (request : PoolRequest) :
    LoadedModel × PoolAnswer :=
  if b.maxBucketSessions ≤ 1 then (loaded, .ok primaryPool)
  else
    match b.bucketKey request.primary with
    | none => (loaded, .panicked)
    | some bucketKey =>
      match loaded.buckets.lookup b.secondaryCapacity primaryPool bucketKey with
      | (state, some pool) => ({ loaded with buckets := state }, .ok pool)
      | (state, none) =>
        match request.createSession with
        | .error e => ({ loaded with buckets := state }, .error e)
        | .ok () => (⟨state.insert bucketKey loaded.pools, loaded.pools + 1⟩, .ok loaded.pools)

/-! ## What a call can do -/

/-- Map, queue and primary key keep to each other. -/
structure Buckets (capacity : ℕ) (state : BucketSessionState) : Prop where
  lru_nodup : state.lru.Nodup
  mem_lru : ∀ k, k ∈ state.lru ↔ k ∈ state.sessions
  len_le : state.len ≤ capacity
  primary_notMem : ∀ k, state.primaryBucketKey = some k → k ∉ state.sessions
  unchosen : state.primaryBucketKey = none → state.lru = []

/-- **What the eviction loop does**: nothing with room left, else it drops the queue's front. -/
inductive Evicts (capacity : ℕ) (state : BucketSessionState) : BucketSessionState → Prop
  | room (hlen : state.len < capacity) : Evicts capacity state state
  | full {evicted : String} {lru : List String} (hlru : state.lru = evicted :: lru)
    (hlen : state.len = capacity) :
    Evicts capacity state
      { state with sessions := state.sessions.erase evicted, lru := lru }

variable {b : OrtBackend} {capacity : ℕ} {state state' : BucketSessionState} {k : String}

theorem BucketSessionState.len_erase (hk : k ∈ state.sessions) :
    (state.sessions.erase k).keys.length + 1 = state.len := by
  rw [AList.keys_erase]
  exact List.length_erase_add_one (AList.mem_keys.mp hk)

theorem Buckets.evicts (h : Buckets capacity state) (hcapacity : 0 < capacity) :
    Evicts capacity state (state.evict capacity) := by
  rcases h.len_le.lt_or_eq with hroom | hfull
  · have hevict : state.evict capacity = state := by
      rcases hlru : state.lru with _ | ⟨front, lru⟩
      · rw [BucketSessionState.evict, hlru, BucketSessionState.evictFrom, ← hlru]
      · rw [BucketSessionState.evict, hlru, BucketSessionState.evictFrom,
          if_neg (Nat.not_le.mpr hroom), ← hlru]
    rw [hevict]
    exact .room hroom
  · rcases hlru : state.lru with _ | ⟨front, lru⟩
    · -- A full map has a key, and the queue holds it.
      obtain ⟨k, hk⟩ : ∃ k, k ∈ state.sessions.keys :=
        List.exists_mem_of_length_pos (show 0 < state.len by omega)
      have hmem := (h.mem_lru k).mpr (AList.mem_keys.mpr hk)
      rw [hlru] at hmem
      exact absurd hmem List.not_mem_nil
    · have hfront : front ∈ state.sessions := (h.mem_lru front).mp (by simp [hlru])
      have hlen := BucketSessionState.len_erase hfront
      have hevict : state.evict capacity =
          { state with sessions := state.sessions.erase front, lru := lru } := by
        rw [BucketSessionState.evict, hlru, BucketSessionState.evictFrom,
          if_pos hfull.ge]
        rcases lru with _ | ⟨next, lru⟩
        · rfl
        · rw [BucketSessionState.evictFrom, if_neg]
          exact Nat.not_le.mpr (show (state.sessions.erase front).keys.length < capacity by omega)
      rw [hevict]
      exact .full hlru hfull

/-- **What `pool_for_request` can find** before it creates a session. -/
inductive Looked (capacity : ℕ) (state : BucketSessionState) (key : String) :
    BucketSessionState × Option PoolId → Prop
  | primary (hprimary : state.primaryBucketKey.getD key = key) :
    Looked capacity state key ({ state with primaryBucketKey := some key }, some primaryPool)
  | hit {chosen : String} {pool : PoolId} (hchosen : state.primaryBucketKey = some chosen)
    (hne : chosen ≠ key) (hpool : state.sessions.lookup key = some pool) :
    Looked capacity state key (state.touchBucketLru key, some pool)
  | missed {chosen : String} {room : BucketSessionState}
    (hchosen : state.primaryBucketKey = some chosen) (hne : chosen ≠ key)
    (hpool : state.sessions.lookup key = none) (hroom : Evicts capacity state room) :
    Looked capacity state key (room, none)

/-- A chosen primary key stays as it is. -/
theorem BucketSessionState.choosePrimary_of_some {chosen : String}
    (h : state.primaryBucketKey = some chosen) (key : String) :
    state.choosePrimary key = state := by
  rw [choosePrimary, h, Option.getD_some, ← h]

theorem Looked.of_buckets (h : Buckets capacity state) (hcapacity : 0 < capacity) (key : String) :
    Looked capacity state key (state.lookup capacity primaryPool key) := by
  by_cases hprimary : state.primaryBucketKey.getD key = key
  · simp only [BucketSessionState.lookup, BucketSessionState.choosePrimary, hprimary]
    exact .primary hprimary
  obtain ⟨chosen, hchosen⟩ : ∃ chosen, state.primaryBucketKey = some chosen := by
    rcases hp : state.primaryBucketKey with _ | chosen
    · exact absurd (by rw [hp, Option.getD_none]) hprimary
    · exact ⟨chosen, rfl⟩
  have hne : chosen ≠ key := by
    rintro rfl
    exact hprimary (by rw [hchosen, Option.getD_some])
  simp only [BucketSessionState.lookup, if_neg hprimary,
    BucketSessionState.choosePrimary_of_some hchosen]
  rcases hpool : state.sessions.lookup key with _ | pool
  · exact .missed hchosen hne hpool (h.evicts hcapacity)
  · exact .hit hchosen hne hpool

/-- **What a call of `pool_for_request` can do.** -/
inductive PoolStep (b : OrtBackend) (loaded : LoadedModel) (request : PoolRequest) :
    LoadedModel × PoolAnswer → Prop
  | single (hone : b.maxBucketSessions ≤ 1) : PoolStep b loaded request (loaded, .ok primaryPool)
  | panicked (hmany : 1 < b.maxBucketSessions) (hkey : b.bucketKey request.primary = none) :
    PoolStep b loaded request (loaded, .panicked)
  | primary {key : String} (hmany : 1 < b.maxBucketSessions)
    (hkey : b.bucketKey request.primary = some key)
    (hprimary : loaded.buckets.primaryBucketKey.getD key = key) :
    PoolStep b loaded request
      ({ loaded with buckets := { loaded.buckets with primaryBucketKey := some key } },
        .ok primaryPool)
  | hit {key chosen : String} {pool : PoolId} (hmany : 1 < b.maxBucketSessions)
    (hkey : b.bucketKey request.primary = some key)
    (hchosen : loaded.buckets.primaryBucketKey = some chosen) (hne : chosen ≠ key)
    (hpool : loaded.buckets.sessions.lookup key = some pool) :
    PoolStep b loaded request
      ({ loaded with buckets := loaded.buckets.touchBucketLru key }, .ok pool)
  | failed {key chosen : String} {room : BucketSessionState} (e : FfiError)
    (hmany : 1 < b.maxBucketSessions) (hkey : b.bucketKey request.primary = some key)
    (hchosen : loaded.buckets.primaryBucketKey = some chosen) (hne : chosen ≠ key)
    (hpool : loaded.buckets.sessions.lookup key = none)
    (hroom : Evicts b.secondaryCapacity loaded.buckets room) :
    PoolStep b loaded request ({ loaded with buckets := room }, .error e)
  | opened {key chosen : String} {room : BucketSessionState} (hmany : 1 < b.maxBucketSessions)
    (hkey : b.bucketKey request.primary = some key)
    (hchosen : loaded.buckets.primaryBucketKey = some chosen) (hne : chosen ≠ key)
    (hpool : loaded.buckets.sessions.lookup key = none)
    (hroom : Evicts b.secondaryCapacity loaded.buckets room) :
    PoolStep b loaded request (⟨room.insert key loaded.pools, loaded.pools + 1⟩, .ok loaded.pools)

theorem OrtBackend.secondaryCapacity_pos (b : OrtBackend) : 0 < b.secondaryCapacity :=
  Nat.lt_of_lt_of_le Nat.zero_lt_one (Nat.le_max_right _ _)

/-- **A call does one of these.** -/
theorem PoolStep.of_buckets {loaded : LoadedModel}
    (h : Buckets b.secondaryCapacity loaded.buckets) (request : PoolRequest) :
    PoolStep b loaded request (loaded.poolForRequest b request) := by
  rw [LoadedModel.poolForRequest]
  split_ifs with hone
  · exact .single hone
  have hmany := Nat.not_le.mp hone
  rcases hkey : b.bucketKey request.primary with _ | key
  · exact .panicked hmany hkey
  have hlooked := Looked.of_buckets h b.secondaryCapacity_pos key
  dsimp only
  generalize loaded.buckets.lookup b.secondaryCapacity primaryPool key = result at hlooked ⊢
  cases hlooked with
  | primary hprimary => exact .primary hmany hkey hprimary
  | hit hchosen hne hpool => exact .hit hmany hkey hchosen hne hpool
  | missed hchosen hne hpool hroom =>
    rcases hcreate : request.createSession with e | ⟨⟩
    · exact .failed e hmany hkey hchosen hne hpool hroom
    · exact .opened hmany hkey hchosen hne hpool hroom

/-! ## Every call keeps map, queue and primary key together -/

theorem Buckets.default (capacity : ℕ) : Buckets capacity .default where
  lru_nodup := List.nodup_nil
  mem_lru _ := by simp [BucketSessionState.default]
  len_le := Nat.zero_le _
  primary_notMem _ h := nomatch h
  unchosen _ := rfl

/-- The first key becomes the primary one while no bucket has a pool of its own. -/
theorem Buckets.choosePrimary (h : Buckets capacity state)
    (hprimary : state.primaryBucketKey.getD k = k) :
    Buckets capacity { state with primaryBucketKey := some k } where
  lru_nodup := h.lru_nodup
  mem_lru := h.mem_lru
  len_le := h.len_le
  primary_notMem := by
    intro k' hk'
    obtain rfl := Option.some.inj hk'
    rcases hchosen : state.primaryBucketKey with _ | chosen
    · intro hk
      have hmem := (h.mem_lru k).mpr hk
      rw [h.unchosen hchosen] at hmem
      exact List.not_mem_nil hmem
    · rw [hchosen, Option.getD_some] at hprimary
      exact h.primary_notMem k (hprimary ▸ hchosen)
  unchosen hnone := nomatch hnone

theorem Buckets.touch (h : Buckets capacity state) (hk : k ∈ state.sessions) :
    Buckets capacity (state.touchBucketLru k) where
  lru_nodup := Recency.nodup_touch h.lru_nodup
  mem_lru k' := by
    refine Recency.mem_touch.trans ⟨?_, fun hk' => .inr ((h.mem_lru k').mpr hk')⟩
    rintro (rfl | hk')
    · exact hk
    · exact (h.mem_lru k').mp hk'
  len_le := h.len_le
  primary_notMem := h.primary_notMem
  unchosen hnone := by
    have hmem := (h.mem_lru k).mpr hk
    rw [h.unchosen hnone] at hmem
    exact absurd hmem List.not_mem_nil

/-- The eviction loop keeps the agreement and leaves room for one bucket. -/
theorem Buckets.evicted (h : Buckets capacity state) (hs : Evicts capacity state state') :
    Buckets capacity state' ∧ state'.len < capacity := by
  obtain hlen | @⟨front, lru, hlru, hlen⟩ := hs
  · exact ⟨h, hlen⟩
  · have hnodup := h.lru_nodup
    rw [hlru, List.nodup_cons] at hnodup
    have hfront : front ∈ state.sessions := (h.mem_lru front).mp (by simp [hlru])
    have hroom := BucketSessionState.len_erase hfront
    have hlt : (state.sessions.erase front).keys.length < capacity := by omega
    refine ⟨⟨hnodup.2, ?_, hlt.le, ?_, ?_⟩, hlt⟩
    · intro k
      have hmem := h.mem_lru k
      rw [hlru, List.mem_cons] at hmem
      rw [AList.mem_erase, ← hmem]
      refine ⟨fun hk => ⟨?_, .inr hk⟩, fun hk => hk.2.resolve_left hk.1⟩
      rintro rfl
      exact hnodup.1 hk
    · intro k hk hmem
      exact h.primary_notMem k hk (AList.mem_erase.mp hmem).2
    · intro hnone
      have hnil := h.unchosen hnone
      rw [hlru] at hnil
      exact absurd hnil (List.cons_ne_nil front lru)

/-- A bucket that is not the primary one takes the room it was given. -/
theorem Buckets.insert (h : Buckets capacity state) (hroom : state.len < capacity)
    (hprimary : ∃ chosen, state.primaryBucketKey = some chosen ∧ chosen ≠ k) (pool : PoolId) :
    Buckets capacity (state.insert k pool) := by
  obtain ⟨chosen, hchosen, hne⟩ := hprimary
  refine ⟨Recency.nodup_touch h.lru_nodup, ?_, ?_, ?_, ?_⟩
  · intro k'
    refine Recency.mem_touch.trans ?_
    rw [h.mem_lru]
    exact (AList.mem_insert _).symm
  · have hkeys : (state.insert k pool).len = (state.sessions.keys.erase k).length + 1 := by
      rw [BucketSessionState.len, BucketSessionState.insert]
      show (state.sessions.insert k pool).keys.length = _
      rw [AList.keys_insert, List.length_cons]
    have hle : (state.sessions.keys.erase k).length ≤ state.len := List.length_erase_le
    omega
  · intro k' hk' hmem
    obtain rfl := Option.some.inj (hchosen.symm.trans hk')
    obtain rfl | hold := (AList.mem_insert _).mp hmem
    · exact hne rfl
    · exact h.primary_notMem chosen hchosen hold
  · intro hnone
    exact absurd (hchosen.symm.trans hnone) (by simp)

/-- **One call keeps map, queue and primary key together**, whatever `create_session` answers. -/
theorem Buckets.poolForRequest {loaded : LoadedModel}
    (h : Buckets b.secondaryCapacity loaded.buckets) (request : PoolRequest) :
    Buckets b.secondaryCapacity (loaded.poolForRequest b request).1.buckets := by
  have hstep := PoolStep.of_buckets h request
  generalize loaded.poolForRequest b request = result at hstep
  cases hstep with
  | single => exact h
  | panicked => exact h
  | primary _ _ hprimary => exact h.choosePrimary hprimary
  | hit _ _ _ _ hpool => exact h.touch (AList.lookup_isSome.mp (by rw [hpool]; rfl))
  | failed _ _ _ _ _ _ hroom => exact (h.evicted hroom).1
  | opened _ _ hchosen hne _ hroom =>
    obtain ⟨hkept, hlen⟩ := h.evicted hroom
    refine hkept.insert hlen ⟨_, ?_, hne⟩ _
    cases hroom with
    | room => exact hchosen
    | full => exact hchosen

/-! ## Histories -/

/-- The model before call `n` of a history. -/
def stateAt (b : OrtBackend) (calls : ℕ → PoolRequest) : ℕ → LoadedModel
  | 0 => .initial
  | n + 1 => ((stateAt b calls n).poolForRequest b (calls n)).1

/-- How call `n` ended. -/
def answerAt (b : OrtBackend) (calls : ℕ → PoolRequest) (n : ℕ) : PoolAnswer :=
  ((stateAt b calls n).poolForRequest b (calls n)).2

/-- Call `n` is a request of bucket `key` that got a pool. -/
def UsedAt (b : OrtBackend) (calls : ℕ → PoolRequest) (key : String) (n : ℕ) : Prop :=
  b.bucketKey (calls n).primary = some key ∧ ∃ pool, answerAt b calls n = .ok pool

/-- The bucket had a pool of its own before call `n` and has none after it. -/
def EvictedAt (b : OrtBackend) (calls : ℕ → PoolRequest) (key : String) (n : ℕ) : Prop :=
  key ∈ (stateAt b calls n).buckets.sessions ∧ key ∉ (stateAt b calls (n + 1)).buckets.sessions

/-- Call `i` is the last one before call `n` that used bucket `key`. -/
def LastUse (b : OrtBackend) (calls : ℕ → PoolRequest) (key : String) (n i : ℕ) : Prop :=
  i < n ∧ UsedAt b calls key i ∧ ∀ j, i < j → j < n → ¬UsedAt b calls key j

variable {calls : ℕ → PoolRequest} {key : String} {n i : ℕ}

theorem LastUse.next (h : LastUse b calls key n i) (hn : ¬UsedAt b calls key n) :
    LastUse b calls key (n + 1) i := by
  obtain ⟨hlt, hused, hsince⟩ := h
  refine ⟨by omega, hused, ?_⟩
  intro j hij hj
  rcases Nat.lt_succ_iff_lt_or_eq.mp hj with hj | rfl
  · exact hsince j hij hj
  · exact hn

theorem LastUse.now (h : UsedAt b calls key n) : LastUse b calls key (n + 1) n :=
  ⟨Nat.lt_succ_self n, h, fun _ hj hj' => absurd hj' (by omega)⟩

theorem buckets_stateAt (b : OrtBackend) (calls : ℕ → PoolRequest) (n : ℕ) :
    Buckets b.secondaryCapacity (stateAt b calls n).buckets := by
  induction n with
  | zero => exact .default _
  | succ n ih => exact ih.poolForRequest (calls n)

/-- What call `n` does, read between two states of the history. -/
theorem poolStep_stateAt (b : OrtBackend) (calls : ℕ → PoolRequest) (n : ℕ) :
    PoolStep b (stateAt b calls n) (calls n) (stateAt b calls (n + 1), answerAt b calls n) :=
  PoolStep.of_buckets (buckets_stateAt b calls n) (calls n)

/-- With one bucket allowed the map and the queue stay empty. -/
theorem lru_stateAt_of_single (hone : b.maxBucketSessions ≤ 1) (n : ℕ) :
    (stateAt b calls n).buckets.lru = [] := by
  induction n with
  | zero => rfl
  | succ n ih =>
    rw [stateAt, LoadedModel.poolForRequest, if_pos hone]
    exact ih

/-- The queue stands in the order of last use. -/
def InOrderOfUse (b : OrtBackend) (calls : ℕ → PoolRequest) (n : ℕ) : Prop :=
  ∃ stamp : String → ℕ, Recency.Ordered stamp (stateAt b calls n).buckets.lru ∧
    ∀ k ∈ (stateAt b calls n).buckets.lru, LastUse b calls k n (stamp k)

/-- A call that uses no key of the queue and only drops keys from it keeps the order. -/
theorem InOrderOfUse.keep (h : InOrderOfUse b calls n)
    (hsub : List.Sublist (stateAt b calls (n + 1)).buckets.lru (stateAt b calls n).buckets.lru)
    (hn : ∀ k ∈ (stateAt b calls n).buckets.lru, ¬UsedAt b calls k n) :
    InOrderOfUse b calls (n + 1) := by
  obtain ⟨stamp, hord, hlast⟩ := h
  refine ⟨stamp, List.Pairwise.sublist hsub hord, ?_⟩
  intro k hk
  exact (hlast k (hsub.subset hk)).next (hn k (hsub.subset hk))

/-- A call that uses `key` and touches it, after dropping keys, keeps the order. -/
theorem InOrderOfUse.use (h : InOrderOfUse b calls n) {rest : List String}
    (hlru : (stateAt b calls (n + 1)).buckets.lru = Recency.touch key rest)
    (hsub : List.Sublist rest (stateAt b calls n).buckets.lru) (hused : UsedAt b calls key n) :
    InOrderOfUse b calls (n + 1) := by
  obtain ⟨stamp, hord, hlast⟩ := h
  have hnodup := hsub.nodup (buckets_stateAt b calls n).lru_nodup
  have hnow : ∀ a ∈ rest, stamp a < n := fun a ha => (hlast a (hsub.subset ha)).1
  refine ⟨Function.update stamp key n, ?_, ?_⟩
  · rw [hlru]
    exact Recency.Ordered.touch (List.Pairwise.sublist hsub hord) hnodup hnow
  · intro k hk
    rw [hlru, Recency.mem_touch] at hk
    by_cases hkey : k = key
    · subst hkey
      rw [Function.update_self]
      exact .now hused
    · rw [Function.update_of_ne hkey]
      refine (hlast k (hsub.subset (hk.resolve_left hkey))).next ?_
      intro hk'
      exact hkey (Option.some.inj (hk'.1.symm.trans hused.1))

theorem Evicts.lru_sublist (h : Evicts capacity state state') :
    List.Sublist state'.lru state.lru := by
  obtain _ | ⟨hlru, _⟩ := h
  · exact List.Sublist.refl _
  · rw [hlru]
    exact List.sublist_cons_self _ _

theorem Evicts.mem_of_mem (h : Evicts capacity state state') (hk : k ∈ state'.sessions) :
    k ∈ state.sessions := by
  obtain _ | _ := h
  · exact hk
  · exact (AList.mem_erase.mp hk).2

/-- A bucket the loop spares keeps its pool. -/
theorem Evicts.lookup_of_mem (h : Evicts capacity state state') (hk : k ∈ state'.sessions) :
    state'.sessions.lookup k = state.sessions.lookup k := by
  obtain _ | _ := h
  · rfl
  · exact AList.lookup_erase_ne (AList.mem_erase.mp hk).1

/-- A bucket the loop does not spare stood at the front of the queue. -/
theorem Evicts.front_of_notMem (h : Evicts capacity state state') (hk : k ∈ state.sessions)
    (hk' : k ∉ state'.sessions) : ∃ lru, state.lru = k :: lru := by
  obtain _ | @⟨front, lru, hlru, _⟩ := h
  · exact absurd hk hk'
  · have hfront : k = front := by
      by_contra hne
      exact hk' (AList.mem_erase.mpr ⟨hne, hk⟩)
    exact ⟨lru, hfront ▸ hlru⟩

/-- **The queue is in the order of last use before every call.** -/
theorem inOrderOfUse (b : OrtBackend) (calls : ℕ → PoolRequest) (n : ℕ) :
    InOrderOfUse b calls n := by
  induction n with
  | zero => exact ⟨fun _ => 0, List.Pairwise.nil, fun _ hk => absurd hk List.not_mem_nil⟩
  | succ n ih =>
    have hb := buckets_stateAt b calls n
    have hstep := poolStep_stateAt b calls n
    generalize hs : stateAt b calls (n + 1) = s at hstep
    generalize ha : answerAt b calls n = answer at hstep
    cases hstep with
    | single hone =>
      refine ih.keep (by rw [hs]) ?_
      rw [lru_stateAt_of_single hone]
      exact fun k hk => absurd hk List.not_mem_nil
    | panicked _ hkey =>
      refine ih.keep (by rw [hs]) fun k _ hk => ?_
      exact absurd (hkey.symm.trans hk.1) (by simp)
    | @primary key _ hkey hprimary =>
      refine ih.keep (by rw [hs]) fun k hmem hk => ?_
      obtain rfl := Option.some.inj (hkey.symm.trans hk.1)
      exact (hb.choosePrimary hprimary).primary_notMem key rfl ((hb.mem_lru key).mp hmem)
    | hit _ hkey =>
      exact ih.use (by rw [hs]; rfl) (List.Sublist.refl _) ⟨hkey, _, ha⟩
    | failed e _ _ _ _ _ hroom =>
      refine ih.keep (by rw [hs]; exact hroom.lru_sublist) fun k _ hk => ?_
      obtain ⟨pool, hpool⟩ := hk.2
      exact absurd (ha.symm.trans hpool) (by simp)
    | opened _ hkey _ _ _ hroom =>
      exact ih.use (by rw [hs]; rfl) hroom.lru_sublist ⟨hkey, _, ha⟩

/-! ## The primary key, the pool of a bucket, and the evicted key -/

theorem Evicts.primaryBucketKey_eq (h : Evicts capacity state state') :
    state'.primaryBucketKey = state.primaryBucketKey := by
  obtain _ | _ := h
  · rfl
  · rfl

/-- A call keeps a primary key that was chosen. -/
theorem PoolStep.primary_eq {loaded : LoadedModel} {request : PoolRequest}
    {result : LoadedModel × PoolAnswer} (h : PoolStep b loaded request result)
    (hk : loaded.buckets.primaryBucketKey = some k) :
    result.1.buckets.primaryBucketKey = some k := by
  cases h with
  | single => exact hk
  | panicked => exact hk
  | primary _ _ hprimary =>
    rw [hk, Option.getD_some] at hprimary
    rw [hprimary]
  | hit => exact hk
  | failed _ _ _ _ _ _ hroom => exact hroom.primaryBucketKey_eq.trans hk
  | opened _ _ _ _ _ hroom => exact hroom.primaryBucketKey_eq.trans hk

theorem primaryBucketKey_stateAt (hk : (stateAt b calls n).buckets.primaryBucketKey = some k)
    {m : ℕ} (hm : n ≤ m) : (stateAt b calls m).buckets.primaryBucketKey = some k := by
  induction m, hm using Nat.le_induction with
  | base => exact hk
  | succ m _ ih => exact (poolStep_stateAt b calls m).primary_eq ih

/-- Requests of bucket `key` are served by `pool`. -/
def Serves (b : OrtBackend) (loaded : LoadedModel) (key : String) (pool : PoolId) : Prop :=
  (b.maxBucketSessions ≤ 1 ∧ pool = primaryPool) ∨
  (1 < b.maxBucketSessions ∧ loaded.buckets.primaryBucketKey = some key ∧ pool = primaryPool) ∨
  (1 < b.maxBucketSessions ∧ loaded.buckets.sessions.lookup key = some pool)

/-- The pool a call returns serves its bucket from then on. -/
theorem serves_of_answer {pool : PoolId} (hkey : b.bucketKey (calls n).primary = some key)
    (hanswer : answerAt b calls n = .ok pool) : Serves b (stateAt b calls (n + 1)) key pool := by
  have hstep := poolStep_stateAt b calls n
  rw [hanswer] at hstep
  generalize stateAt b calls (n + 1) = s at hstep
  cases hstep with
  | single hone => exact .inl ⟨hone, rfl⟩
  | primary hmany hkey' =>
    obtain rfl := Option.some.inj (hkey.symm.trans hkey')
    exact .inr (.inl ⟨hmany, rfl, rfl⟩)
  | hit hmany hkey' _ _ hpool =>
    obtain rfl := Option.some.inj (hkey.symm.trans hkey')
    exact .inr (.inr ⟨hmany, hpool⟩)
  | opened hmany hkey' =>
    obtain rfl := Option.some.inj (hkey.symm.trans hkey')
    exact .inr (.inr ⟨hmany, AList.lookup_insert _⟩)

/-- …until its bucket is evicted. -/
theorem Serves.next {pool : PoolId} (h : Serves b (stateAt b calls n) key pool)
    (hkept : ¬EvictedAt b calls key n) : Serves b (stateAt b calls (n + 1)) key pool := by
  have hstep := poolStep_stateAt b calls n
  obtain ⟨hone, hpool⟩ | ⟨hmany, hprimary, hpool⟩ | ⟨hmany, hpool⟩ := h
  · exact .inl ⟨hone, hpool⟩
  · exact .inr (.inl ⟨hmany, hstep.primary_eq hprimary, hpool⟩)
  · refine .inr (.inr ⟨hmany, ?_⟩)
    have hmem : key ∈ (stateAt b calls n).buckets.sessions :=
      AList.lookup_isSome.mp (by rw [hpool]; rfl)
    have hstays : key ∈ (stateAt b calls (n + 1)).buckets.sessions := by
      by_contra hgone
      exact hkept ⟨hmem, hgone⟩
    generalize stateAt b calls (n + 1) = s at hstep hstays
    generalize answerAt b calls n = answer at hstep
    cases hstep with
    | single => exact hpool
    | panicked => exact hpool
    | primary => exact hpool
    | hit => exact hpool
    | failed _ _ _ _ _ _ hroom => exact (hroom.lookup_of_mem hstays).trans hpool
    | @opened key' _ room _ _ _ _ hnone hroom =>
      have hne : key ≠ key' := by
        rintro rfl
        exact absurd (hnone.symm.trans hpool) (by simp)
      have hin : key ∈ room.sessions := ((AList.mem_insert _).mp hstays).resolve_left hne
      refine (AList.lookup_insert_ne hne).trans ?_
      exact (hroom.lookup_of_mem hin).trans hpool

/-- A request of a served bucket that gets a pool gets that one. -/
theorem Serves.answer {pool pool' : PoolId} (h : Serves b (stateAt b calls n) key pool)
    (hkey : b.bucketKey (calls n).primary = some key)
    (hanswer : answerAt b calls n = .ok pool') : pool' = pool := by
  have hb := buckets_stateAt b calls n
  have hstep := poolStep_stateAt b calls n
  rw [hanswer] at hstep
  generalize stateAt b calls (n + 1) = s at hstep
  cases hstep with
  | single hone =>
    obtain ⟨_, rfl⟩ | ⟨hmany, _⟩ | ⟨hmany, _⟩ := h
    · rfl
    · omega
    · omega
  | primary hmany hkey' hprimary =>
    obtain rfl := Option.some.inj (hkey.symm.trans hkey')
    obtain ⟨hone, _⟩ | ⟨_, _, rfl⟩ | ⟨_, hpool⟩ := h
    · omega
    · rfl
    · have hmem := AList.lookup_isSome.mp (show (AList.lookup key _).isSome by rw [hpool]; rfl)
      exact absurd hmem ((hb.choosePrimary hprimary).primary_notMem key rfl)
  | hit hmany hkey' hchosen hne hpool' =>
    obtain rfl := Option.some.inj (hkey.symm.trans hkey')
    obtain ⟨hone, _⟩ | ⟨_, hprimary, _⟩ | ⟨_, hpool⟩ := h
    · omega
    · exact absurd (Option.some.inj (hchosen.symm.trans hprimary)) hne
    · exact Option.some.inj (hpool'.symm.trans hpool)
  | opened hmany hkey' hchosen hne hpool' =>
    obtain rfl := Option.some.inj (hkey.symm.trans hkey')
    obtain ⟨hone, _⟩ | ⟨_, hprimary, _⟩ | ⟨_, hpool⟩ := h
    · omega
    · exact absurd (Option.some.inj (hchosen.symm.trans hprimary)) hne
    · exact absurd (hpool'.symm.trans hpool) (by simp)

/-- **Requests of one bucket share its pool** while the bucket is not evicted. -/
theorem pool_eq_of_not_evicted {m : ℕ} {pool pool' : PoolId} (hmn : m < n)
    (hm : b.bucketKey (calls m).primary = some key)
    (hn : b.bucketKey (calls n).primary = some key) (hfirst : answerAt b calls m = .ok pool)
    (hlast : answerAt b calls n = .ok pool')
    (hkept : ∀ i, m < i → i < n → ¬EvictedAt b calls key i) : pool' = pool := by
  have hserves : ∀ j, m + 1 ≤ j → j ≤ n → Serves b (stateAt b calls j) key pool := by
    intro j hj
    induction j, hj using Nat.le_induction with
    | base => exact fun _ => serves_of_answer hm hfirst
    | succ j hj ih => exact fun hle => (ih (by omega)).next (hkept j (by omega) (by omega))
  exact (hserves n hmn le_rfl).answer hn hlast

/-- **The evicted bucket is the one whose last use is oldest.** -/
theorem lastUse_of_evicted {evicted : String} (h : EvictedAt b calls evicted n)
    (hk : k ∈ (stateAt b calls n).buckets.sessions) (hne : k ≠ evicted) :
    ∃ i j, LastUse b calls evicted n i ∧ LastUse b calls k n j ∧ i < j := by
  have hb := buckets_stateAt b calls n
  obtain ⟨stamp, hord, hlast⟩ := inOrderOfUse b calls n
  obtain ⟨lru, hlru⟩ : ∃ lru, (stateAt b calls n).buckets.lru = evicted :: lru := by
    obtain ⟨hmem, hgone⟩ := h
    have hstep := poolStep_stateAt b calls n
    generalize stateAt b calls (n + 1) = s at hstep hgone
    generalize answerAt b calls n = answer at hstep
    cases hstep with
    | single => exact absurd hmem hgone
    | panicked => exact absurd hmem hgone
    | primary => exact absurd hmem hgone
    | hit => exact absurd hmem hgone
    | failed _ _ _ _ _ _ hroom => exact hroom.front_of_notMem hmem hgone
    | opened _ _ _ _ _ hroom =>
      exact hroom.front_of_notMem hmem fun hin => hgone ((AList.mem_insert _).mpr (.inr hin))
  have hmem := (hb.mem_lru k).mpr hk
  rw [hlru] at hord hlast hmem
  have hkin := (List.mem_cons.mp hmem).resolve_left hne
  refine ⟨stamp evicted, stamp k, hlast evicted List.mem_cons_self,
    hlast k (List.mem_cons_of_mem _ hkin), ?_⟩
  exact (List.pairwise_cons.mp hord).1 k hkin

/-- **The bucket sessions are an LRU cache** — before the first call of every history and after each
call: the queue lists the keys of the map once each; the map keeps to its capacity; the primary key
is no key of the map, and once chosen it stays; a request gets the pool that an earlier request of
its bucket got, unless the bucket was evicted in between; and what the next call evicts is the
bucket whose last use is oldest. -/
theorem bucketSessions_lru (b : OrtBackend) (calls : ℕ → PoolRequest) (n : ℕ) :
    (stateAt b calls n).buckets.lru.Nodup ∧
    (∀ k, k ∈ (stateAt b calls n).buckets.lru ↔ k ∈ (stateAt b calls n).buckets.sessions) ∧
    (stateAt b calls n).buckets.len ≤ max (b.maxBucketSessions - 1) 1 ∧
    (∀ k, (stateAt b calls n).buckets.primaryBucketKey = some k →
      k ∉ (stateAt b calls n).buckets.sessions ∧
        ∀ m, n ≤ m → (stateAt b calls m).buckets.primaryBucketKey = some k) ∧
    (∀ m key pool pool', m < n → b.bucketKey (calls m).primary = some key →
      b.bucketKey (calls n).primary = some key → answerAt b calls m = .ok pool →
      answerAt b calls n = .ok pool' → (∀ i, m < i → i < n → ¬EvictedAt b calls key i) →
      pool' = pool) ∧
    ∀ evicted, EvictedAt b calls evicted n →
      ∀ k ∈ (stateAt b calls n).buckets.sessions, k ≠ evicted →
        ∃ i j, LastUse b calls evicted n i ∧ LastUse b calls k n j ∧ i < j := by
  have hb := buckets_stateAt b calls n
  refine ⟨hb.lru_nodup, hb.mem_lru, hb.len_le, ?_, ?_, ?_⟩
  · intro k hk
    exact ⟨hb.primary_notMem k hk, fun m hm => primaryBucketKey_stateAt hk hm⟩
  · intro m key pool pool' hmn hm hn hfirst hlast hkept
    exact pool_eq_of_not_evicted hmn hm hn hfirst hlast hkept
  · intro evicted hevicted k hk hne
    exact lastUse_of_evicted hevicted hk hne

/-- A backend with room for the primary bucket and two more. -/
def threeBuckets : OrtBackend where
  tuning :=
    { sessionBuckets := some 3
      bucketDimGranularity := none
      bucketMaxDims := none
      peakConcurrencyHint := none }
  dtypeCode _ := 1
  overflowChecks := false

/-- A request of so many floats, for which a session can be opened. -/
def floatsRequest (count : ℕ) : PoolRequest where
  primary :=
    { name := "input", dtype := .f32, shape := [count], data := List.replicate (4 * count) 0 }
  createSession := .ok ()

/-- The bucket of two floats is used again before that of four needs room: three floats go. -/
example :
    let calls : ℕ → PoolRequest := fun n => floatsRequest ([1, 2, 3, 2, 4].getD n 1)
    (stateAt threeBuckets calls 4).buckets.lru = ["1:r1:3", "1:r1:2"] ∧
      (stateAt threeBuckets calls 5).buckets.lru = ["1:r1:2", "1:r1:4"] ∧
        EvictedAt threeBuckets calls "1:r1:3" 4 := by
  unfold EvictedAt
  decide +kernel

end Kapsl.Ort
