import Kapsl.Ort.BatchRows

/-!
# Ort/BatchAnswers — every request of a batch gets its own answer

`Filled outs results done` is the invariant of both loops of `infer_batch`: the slots of the
requests in `done` hold the answers of `outs`.  The first loop leaves the grouped requests open, the
second fills them group after group, whether a stack succeeds or falls back.

* `classify_returns`, `inferGroups_returns` — what the two loops leave.
* `inferBatch_returns` — the batch returns the single answers in the order of the requests, for
  every order in which its groups are read.
-/

namespace Kapsl.Ort

open Attempt (Returns exec)
open List (Forall₂)

variable {ω : Type} {b : Backend ω} {requests : List (List BorrowedTensor)}
  {outs : List OwnedTensor} {results : List (Option OwnedTensor)} {done : ℕ → Prop}

/-! ## The slots -/

/-- The slots in `done` hold their answers. -/
structure Filled (outs : List OwnedTensor) (results : List (Option OwnedTensor))
    (done : ℕ → Prop) : Prop where
  length : results.length = outs.length
  slot : ∀ i out, done i → outs[i]? = some out → results[i]? = some (some out)

theorem Filled.mono {done' : ℕ → Prop} (h : Filled outs results done)
    (hdone : ∀ i, done' i → done i) : Filled outs results done' :=
  ⟨h.length, fun i out hi => h.slot i out (hdone i hi)⟩

/-- **An answer in its own slot** leaves the others as they are. -/
theorem Filled.set {index : ℕ} {out : OwnedTensor} (h : Filled outs results done)
    (hout : outs[index]? = some out) :
    Filled outs (results.set index (some out)) (fun i => done i ∨ i = index) := by
  have hlt : index < results.length := by
    rw [h.length]
    exact (List.getElem?_eq_some_iff.mp hout).1
  refine ⟨by rw [List.length_set, h.length], fun i out' hi hout' => ?_⟩
  by_cases heq : index = i
  · subst heq
    rw [List.getElem?_set_self hlt, ← hout', hout]
  · rw [List.getElem?_set_ne heq]
    exact h.slot i out' (hi.resolve_right fun hi => heq hi.symm) hout'

/-- The answers of a stack, each in the slot of its request. -/
theorem Filled.scatter {indices : List ℕ} {outputs : List OwnedTensor}
    (h : Filled outs results done)
    (houts : Forall₂ (fun i out => outs[i]? = some out) indices outputs) :
    Filled outs (Backend.scatter (indices.zip outputs) results)
      (fun i => done i ∨ i ∈ indices) := by
  induction houts generalizing results done with
  | nil => exact h.mono fun i hi => hi.resolve_right List.not_mem_nil
  | cons hout _ ih =>
    refine (ih (h.set hout)).mono fun i hi => ?_
    rw [or_assoc]
    exact hi.imp_right List.mem_cons.mp

/-- **Once every slot is filled, the batch has its answers.** -/
theorem collect_of_filled (index : ℕ) (h : Filled outs results fun i => i < outs.length) :
    Backend.collect index results = .ok outs := by
  have hmap : results = outs.map some := by
    refine List.ext_getElem? fun i => ?_
    rcases hout : outs[i]? with _ | out
    · have hle : outs.length ≤ i := List.getElem?_eq_none_iff.mp hout
      rw [List.getElem?_map, hout, Option.map_none, List.getElem?_eq_none_iff, h.length]
      exact hle
    · rw [List.getElem?_map, hout, Option.map_some]
      exact h.slot i out (List.getElem?_eq_some_iff.mp hout).1 hout
  subst hmap
  clear h
  induction outs generalizing index with
  | nil => rfl
  | cons out outs ih =>
    rw [List.map_cons, Backend.collect, ih, Except.map]

/-! ## The groups -/

/-- A request that `infer_batch` may stack. -/
def Stackable (requests : List (List BorrowedTensor)) (index : ℕ) : Prop :=
  ∃ primary, requests[index]? = some [primary] ∧ 2 ≤ primary.shape.length

/-- Groups of requests to be stacked; none is empty. -/
def Stacks (requests : List (List BorrowedTensor)) (groups : List (List ℕ)) : Prop :=
  ∀ group ∈ groups, group ≠ [] ∧ ∀ i ∈ group, Stackable requests i

/-- A group that grew, or one from before. -/
theorem mem_pushGroup {key : BatchKey} {index : ℕ} {groups : List (BatchKey × List ℕ)}
    {group : List ℕ} (h : group ∈ (pushGroup key index groups).map (·.2)) :
    group ∈ groups.map (·.2) ∨
      ∃ before, group = before ++ [index] ∧ (before = [] ∨ before ∈ groups.map (·.2)) := by
  induction groups with
  | nil =>
    obtain rfl := List.mem_singleton.mp h
    exact .inr ⟨[], rfl, .inl rfl⟩
  | cons g groups ih =>
    rw [pushGroup] at h
    split_ifs at h
    · rcases List.mem_cons.mp h with rfl | h
      · exact .inr ⟨g.2, rfl, .inr List.mem_cons_self⟩
      · exact .inl (List.mem_cons_of_mem _ h)
    · rcases List.mem_cons.mp h with rfl | h
      · exact .inl List.mem_cons_self
      · rcases ih h with hmem | ⟨before, rfl, hbefore⟩
        · exact .inl (List.mem_cons_of_mem _ hmem)
        · exact .inr ⟨before, rfl, hbefore.imp_right (List.mem_cons_of_mem _)⟩

/-- **A request pushed to its group joins the pending ones.** -/
theorem flatten_pushGroup {key : BatchKey} {index i : ℕ} {groups : List (BatchKey × List ℕ)} :
    i ∈ ((pushGroup key index groups).map (·.2)).flatten ↔
      i ∈ (groups.map (·.2)).flatten ∨ i = index := by
  induction groups with
  | nil => simp [pushGroup]
  | cons g groups ih =>
    rw [pushGroup]
    split_ifs
    · simp only [List.map_cons, List.flatten_cons, List.mem_append, List.mem_singleton]
      exact or_right_comm
    · simp only [List.map_cons, List.flatten_cons, List.mem_append, ih]
      exact or_assoc.symm

/-- Pushing a request that may be stacked. -/
theorem Stacks.pushGroup {key : BatchKey} {index : ℕ} {groups : List (BatchKey × List ℕ)}
    (h : Stacks requests (groups.map (·.2))) (hindex : Stackable requests index) :
    Stacks requests ((Ort.pushGroup key index groups).map (·.2)) := by
  intro group hgroup
  obtain hmem | ⟨before, rfl, hbefore⟩ := mem_pushGroup hgroup
  · exact h group hmem
  refine ⟨List.append_ne_nil_of_right_ne_nil _ (List.cons_ne_nil _ _), fun i hi => ?_⟩
  rcases List.mem_append.mp hi with hi | hi
  · rcases hbefore with rfl | hmem
    · exact absurd hi List.not_mem_nil
    · exact (h before hmem).2 i hi
  · obtain rfl := List.mem_singleton.mp hi
    exact hindex

/-! ## The first loop -/

/-- Each request, alone, gets its answer. -/
def Answers (b : Backend ω) (requests : List (List BorrowedTensor)) (outs : List OwnedTensor) :
    Prop :=
  Forall₂ (fun inputs out => Returns (b.infer inputs) (· = out)) requests outs

theorem Answers.at {index : ℕ} {inputs : List BorrowedTensor} (h : Answers b requests outs)
    (hinputs : requests[index]? = some inputs) :
    ∃ out, outs[index]? = some out ∧ Returns (b.infer inputs) (· = out) := by
  obtain ⟨hlt, rfl⟩ := List.getElem?_eq_some_iff.mp hinputs
  have hlt' : index < outs.length := by rwa [← h.length_eq]
  exact ⟨outs[index], List.getElem?_eq_getElem hlt', h.get hlt hlt'⟩

/-- The first `k` requests are answered or grouped. -/
structure Sorted (requests : List (List BorrowedTensor)) (outs : List OwnedTensor) (k : ℕ)
    (batch : Batch) : Prop where
  grouped : Stacks requests (batch.groups.map (·.2))
  filled : Filled outs batch.results fun i => i < k ∧ i ∉ (batch.groups.map (·.2)).flatten

/-- **The first loop answers a request or groups it.** -/
theorem classify_returns (hanswers : Answers b requests outs) {k : ℕ}
    {rest : List (List BorrowedTensor)} {batch : Batch} (hvalid : ∀ r ∈ rest, Validated r)
    (hrest : requests.drop k = rest) (hbatch : Sorted requests outs k batch) :
    Returns (b.classify k rest batch) (Sorted requests outs requests.length) := by
  induction rest generalizing k batch with
  | nil =>
    refine Returns.pure ⟨hbatch.grouped, hbatch.filled.mono fun i hi => ?_⟩
    exact ⟨Nat.lt_of_lt_of_le hi.1 (List.drop_eq_nil_iff.mp hrest), hi.2⟩
  | cons inputs rest ih =>
    have hinputs : requests[k]? = some inputs := by
      rw [← List.head?_drop, hrest, List.head?_cons]
    have hnext : requests.drop (k + 1) = rest := by
      rw [← List.tail_drop, hrest, List.tail_cons]
    obtain ⟨hinputs_valid, hrest_valid⟩ := List.forall_mem_cons.mp hvalid
    obtain ⟨primary, more, rfl⟩ := List.exists_cons_of_ne_nil hinputs_valid.nonempty
    rw [Backend.classify]
    split_ifs with hcase
    · obtain ⟨out, hout, hreturns⟩ := hanswers.at hinputs
      refine hreturns.bind fun _ heq => ih hrest_valid hnext ⟨hbatch.grouped, ?_⟩
      rw [heq]
      refine (hbatch.filled.set hout).mono fun i hi => ?_
      rcases Nat.lt_succ_iff_lt_or_eq.mp hi.1 with hlt | rfl
      · exact .inl ⟨hlt, hi.2⟩
      · exact .inr rfl
    · rw [not_or, not_not, Nat.not_lt] at hcase
      obtain ⟨rfl, hlength⟩ := hcase
      refine ih hrest_valid hnext ⟨hbatch.grouped.pushGroup ⟨primary, hinputs, hlength⟩, ?_⟩
      refine hbatch.filled.mono fun i hi => ?_
      obtain ⟨hlt, hnotin⟩ := hi
      rw [flatten_pushGroup, not_or] at hnotin
      exact ⟨Nat.lt_of_le_of_ne (Nat.lt_succ_iff.mp hlt) hnotin.2, hnotin.1⟩

/-! ## The second loop -/

theorem Stackable.answer {index : ℕ} (hanswers : Answers b requests outs)
    (h : Stackable requests index) :
    requests.getD index [] = [primaryOf requests index] ∧
      2 ≤ (primaryOf requests index).shape.length ∧
      ∃ out, outs[index]? = some out ∧ Returns (b.infer [primaryOf requests index]) (· = out) := by
  obtain ⟨primary, hprimary, hlength⟩ := h
  have hget : requests.getD index [] = [primary] := by
    rw [List.getD_eq_getElem?_getD, hprimary, Option.getD_some]
  have hhead : primaryOf requests index = primary := by
    rw [primaryOf, hget, List.head?_cons, Option.getD_some]
  rw [hhead]
  exact ⟨hget, hlength, hanswers.at hprimary⟩

/-- **The fallback answers its group request by request.** -/
theorem inferEach_returns (hanswers : Answers b requests outs) {indices : List ℕ}
    (hgroup : ∀ i ∈ indices, Stackable requests i) (h : Filled outs results done) :
    Returns (b.inferEach requests indices results)
      (Filled outs · fun i => done i ∨ i ∈ indices) := by
  induction indices generalizing results done with
  | nil => exact Returns.pure (h.mono fun i hi => hi.resolve_right List.not_mem_nil)
  | cons index indices ih =>
    obtain ⟨hindex, hrest⟩ := List.forall_mem_cons.mp hgroup
    obtain ⟨hget, -, out, hout, hreturns⟩ := hindex.answer hanswers
    rw [Backend.inferEach, hget]
    refine hreturns.bind fun _ heq => ?_
    rw [heq]
    refine (ih hrest (h.set hout)).mono fun results' hfilled => hfilled.mono fun i hi => ?_
    rw [or_assoc]
    exact hi.imp_right List.mem_cons.mp

/-- One group of the second loop, after which the rest is read. -/
theorem inferGroup_returns (hcancelled : ∀ w, b.cancelled w = false) (hrun : RowWise b.run)
    (hanswers : Answers b requests outs) {indices : List ℕ} {groups : List (List ℕ)}
    {P : List (Option OwnedTensor) → Prop} (hne : indices ≠ [])
    (hgroup : ∀ i ∈ indices, Stackable requests i) (h : Filled outs results done)
    (hrest : ∀ results', Filled outs results' (fun i => done i ∨ i ∈ indices) →
      Returns (b.inferGroups requests groups results') P) :
    Returns (b.inferGroups requests (indices :: groups) results) P := by
  obtain ⟨index, indices, rfl⟩ := List.exists_cons_of_ne_nil hne
  rcases hindices : indices with _ | ⟨next, more⟩
  · obtain ⟨hget, -, out, hout, hreturns⟩ := (hgroup index List.mem_cons_self).answer hanswers
    rw [Backend.inferGroups, hget]
    refine hreturns.bind fun _ heq => hrest _ ?_
    rw [heq, hindices]
    exact (h.set hout).mono fun i hi => hi.imp_right List.mem_singleton.mp
  · rw [← hindices, Backend.inferGroups]
    · have hstack : Returns (Attempt.result (b.inferStacked requests (index :: indices)))
          (fun answer => ∀ outputs, answer = .ok outputs →
            Forall₂ (fun i out => outs[i]? = some out) (index :: indices) outputs) := by
        refine Returns.result fun w outputs houtputs => ?_
        refine inferStacked_ok hrun hne ?_ (Prod.ext houtputs rfl)
        exact fun i hi => ((hgroup i hi).answer hanswers).2
      refine hstack.bind fun answer hanswer => ?_
      match answer with
      | .ok outputs => exact hrest _ (h.scatter (hanswer outputs rfl))
      | .error error =>
        -- the batch is not cancelled, so the group falls back
        have hask : Returns (Attempt.ask b.cancelled : Attempt FfiError ω Bool) (· = false) :=
          Returns.ask hcancelled
        refine hask.bind fun cancelled hfalse => ?_
        rw [hfalse]
        exact (inferEach_returns hanswers hgroup h).bind hrest
    · intro i hi
      rw [hindices] at hi
      exact List.cons_ne_nil _ _ (List.cons.inj hi).2

/-- **The second loop answers every grouped request.** -/
theorem inferGroups_returns (hcancelled : ∀ w, b.cancelled w = false) (hrun : RowWise b.run)
    (hanswers : Answers b requests outs) {groups : List (List ℕ)} (hgroups : Stacks requests groups)
    (h : Filled outs results done) :
    Returns (b.inferGroups requests groups results)
      (Filled outs · fun i => done i ∨ i ∈ groups.flatten) := by
  induction groups generalizing results done with
  | nil => exact Returns.pure (h.mono fun i hi => hi.resolve_right List.not_mem_nil)
  | cons indices groups ih =>
    obtain ⟨⟨hne, hgroup⟩, hrest⟩ := List.forall_mem_cons.mp hgroups
    refine inferGroup_returns hcancelled hrun hanswers hne hgroup h fun results' h' => ?_
    refine (ih hrest h').mono fun _ hfilled => hfilled.mono fun i hi => ?_
    rw [List.flatten_cons, List.mem_append, ← or_assoc] at hi
    exact hi

/-! ## The batch -/

/-- **`infer_batch` agrees with `infer`**: when no request is cancelled and every request alone gets
its answer, the batch returns exactly these answers, in the order of the requests and for every
order of the groups. -/
theorem inferBatch_returns (hcancelled : ∀ w, b.cancelled w = false) (hrun : RowWise b.run)
    (hvalid : ∀ r ∈ requests, Validated r)
    (hanswers : Forall₂ (fun inputs out => Returns (b.infer inputs) (· = out)) requests outs)
    {order : List (BatchKey × List ℕ) → List (BatchKey × List ℕ)}
    (horder : ∀ groups, (order groups).Perm groups) :
    Returns (b.inferBatch order requests) (· = outs) := by
  have hstart : Sorted requests outs 0 ⟨List.replicate requests.length none, []⟩ := by
    refine ⟨nofun, ⟨?_, fun i out hi => absurd hi.1 (Nat.not_lt_zero i)⟩⟩
    rw [List.length_replicate, hanswers.length_eq]
  refine (classify_returns hanswers hvalid List.drop_zero hstart).bind fun batch hbatch => ?_
  have hperm := (horder batch.groups).map (·.2)
  have hgroups : Stacks requests ((order batch.groups).map (·.2)) :=
    fun group hgroup => hbatch.grouped group (hperm.mem_iff.mp hgroup)
  refine (inferGroups_returns hcancelled hrun hanswers hgroups hbatch.filled).bind
    fun results hfilled => ?_
  have hall : Filled outs results fun i => i < outs.length := by
    refine hfilled.mono fun i hi => ?_
    rw [hperm.flatten.mem_iff, ← hanswers.length_eq] at *
    by_cases hpending : i ∈ (batch.groups.map (·.2)).flatten
    · exact .inr hpending
    · exact .inl ⟨hi, hpending⟩
  intro w
  exact ⟨outs, w, by rw [collect_of_filled 0 hall, Attempt.exec_lift], rfl⟩

/-- A model that returns its input, in a process where everything is at hand. -/
def echo : Backend Unit where
  cancelled := fun _ => false
  loadedModel := pure ()
  acquire := fun _ => pure ()
  runOptions := fun _ => pure ()
  newValue := fun _ => pure ()
  inputNames := ["x"]
  outputNames := ["y"]
  code := fun _ => 0
  run
    | [(none, x)] =>
      if size : x.data.length = x.shape.prod * x.element.bytes then
        .ok [.tensor ⟨x.element, x.shape, x.data, size⟩]
      else .error "wrong number of bytes"
    | _ => .error "wrong inputs"

/-- What `echo` answers. -/
theorem echo_run {x : SessionInput} {y : OrtTensor} {rest : List OrtValue}
    (h : echo.run [(none, x)] = .ok (.tensor y :: rest)) :
    y.element = x.element ∧ y.shape = x.shape ∧ y.data = x.data := by
  simp only [echo] at h
  split_ifs at h
  obtain ⟨heq, -⟩ := List.cons.inj (Except.ok.inj h)
  obtain rfl := OrtValue.tensor.inj heq
  exact ⟨rfl, rfl, rfl⟩

/-- The answers of `echo` to the parts of a stack are the parts of a concatenation. -/
theorem echo_parts {element : ElementType} {tail : List ℕ} {xs : List SessionInput}
    {ys : List OrtTensor}
    (h : Forall₂ (fun x y => y.element = x.element ∧ y.shape = x.shape ∧ y.data = x.data) xs ys)
    (hsame : ∀ x ∈ xs, x.shape ≠ [] ∧ x.element = element ∧ x.shape.tail = tail) :
    Forall₂ (fun x y => y.shape.head? = some x.rows) xs ys ∧
      (∀ y ∈ ys, y.element = element ∧ y.shape.tail = tail) ∧
      xs.flatMap (·.data) = ys.flatMap (·.data) := by
  induction h with
  | nil => exact ⟨.nil, nofun, rfl⟩
  | @cons x y xs ys hxy _ ih =>
    obtain ⟨helement, hshape, hdata⟩ := hxy
    obtain ⟨⟨hne, hx, htail⟩, hrest⟩ := List.forall_mem_cons.mp hsame
    obtain ⟨hheads, hparts, hbytes⟩ := ih hrest
    refine ⟨.cons ?_ hheads, List.forall_mem_cons.mpr ⟨?_, hparts⟩, ?_⟩
    · obtain ⟨d, tail, hcons⟩ := List.exists_cons_of_ne_nil hne
      rw [hshape, SessionInput.rows, hcons, List.head?_cons, List.headD_cons]
    · rw [helement, hshape]
      exact ⟨hx, htail⟩
    · rw [List.flatMap_cons, List.flatMap_cons, hbytes, hdata]

theorem echo_rowWise : RowWise echo.run := by
  intro x xs v vs ys hstack hv _ hys
  obtain ⟨helement, hshape, hdata⟩ := echo_run hv
  have hechoes := hys.imp fun x y hxy => echo_run hxy.choose_spec
  obtain ⟨hheads, hparts, hbytes⟩ := echo_parts hechoes hstack.same
  refine ⟨hheads, ⟨fun y hy => ?_, ?_⟩⟩
  · rw [helement, hshape]
    exact hparts y hy
  · rw [hdata, hstack.data, hbytes]

/-- The requests of three callers: two that stack, and one without rows between them. -/
def mixedRequests : List (List BorrowedTensor) :=
  [[⟨"a", .u8, [1, 2], [1, 2]⟩], [⟨"b", .u8, [3], [7, 8, 9]⟩],
    [⟨"c", .u8, [2, 2], [3, 4, 5, 6]⟩]]

/-- Every caller gets its own bytes back, in its own shape. -/
theorem inferBatch_returns_mixedRequests :
    Returns (echo.inferBatch List.reverse mixedRequests)
      (· = [⟨"y", .u8, [1, 2], [1, 2]⟩, ⟨"y", .u8, [3], [7, 8, 9]⟩,
        ⟨"y", .u8, [2, 2], [3, 4, 5, 6]⟩]) := by
  refine inferBatch_returns (fun _ => rfl) echo_rowWise ?_ ?_ List.reverse_perm
  · intro r hr
    simp only [mixedRequests, List.mem_cons, List.not_mem_nil, or_false] at hr
    rcases hr with rfl | rfl | rfl <;>
      exact ⟨List.cons_ne_nil _ _, List.forall_mem_singleton.mpr ⟨_, 1, rfl, rfl, rfl⟩⟩
  · exact .cons (fun w => ⟨_, w, rfl, rfl⟩) (.cons (fun w => ⟨_, w, rfl, rfl⟩)
      (.cons (fun w => ⟨_, w, rfl, rfl⟩) .nil))

/-- The stack is really run: the two requests with rows are one group. -/
example : exec (echo.inferStacked mixedRequests [0, 2]) () =
    (.ok [⟨"y", .u8, [1, 2], [1, 2]⟩, ⟨"y", .u8, [2, 2], [3, 4, 5, 6]⟩], ()) := rfl

end Kapsl.Ort
