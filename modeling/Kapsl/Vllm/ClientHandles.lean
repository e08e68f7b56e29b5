import Kapsl.Vllm.Client

/-!
# Vllm/ClientHandles — what happens to the descriptors a call receives

A call is linear in its descriptors when each of them was closed once or handed to the caller once,
and all were closed if it raised.  Three kinds of input break that, and nothing else does
(`linear_iff`):

* a `recvmsg` raises after earlier messages delivered descriptors (`Recv.Drops`);
* the entry that ends the loop over the ancillary data is followed by entries with descriptors
  (`unread`);
* the frame is complete, descriptors came with it, and decoding it raises an exception outside the
  handler's list (`Undecodable`).
-/

namespace Kapsl.Vllm

/-! ## Balance -/

/-- Every descriptor received was closed once or is in `held` once. -/
def Balanced (fds : Descriptors) (held : List Fd) : Prop :=
  (fds.closed ++ held).Perm fds.received

theorem Balanced.none : Balanced .none [] := List.Perm.refl _

theorem Balanced.receive {fds : Descriptors} {held : List Fd} (h : Balanced fds held)
    (descriptors : List Fd) : Balanced (fds.receive descriptors) (held ++ descriptors) := by
  have happ := h.append_right descriptors
  rwa [List.append_assoc] at happ

/-- Closing a part of what is held leaves the rest held. -/
theorem Balanced.closeHandles_append {fds : Descriptors} {closed rest : List Fd}
    (h : Balanced fds (closed ++ rest)) : Balanced (fds.closeHandles closed) rest := by
  simpa only [Balanced, Descriptors.closeHandles, List.append_assoc] using h

theorem Balanced.closeHandles {fds : Descriptors} {held : List Fd} (h : Balanced fds held) :
    Balanced (fds.closeHandles held) [] :=
  Balanced.closeHandles_append (by rwa [List.append_nil])

/-- Abandoning held descriptors unbalances the account. -/
theorem Balanced.nil_iff {fds : Descriptors} {held : List Fd} (h : Balanced fds held) :
    Balanced fds [] ↔ held = [] := by
  constructor
  · intro h'
    have hlen := h.length_eq
    have hlen' := h'.length_eq
    simp only [List.length_append, List.length_nil] at hlen hlen'
    exact List.length_eq_zero_iff.mp (by omega)
  · rintro rfl
    exact h

/-! ## The loop over the ancillary data -/

/-- The descriptors of the entries behind the first one that is not `SCM_RIGHTS` or takes the count
of handles past 64. -/
def unread : List Ancillary → ℕ → List Fd
  | [], _ => []
  | entry :: rest, count =>
    if entry.isRights = false ∨ count + entry.descriptors.length > 64 then
      rest.flatMap Ancillary.descriptors
    else unread rest (count + entry.descriptors.length)

theorem Ancillary.descriptors_of_isRights {entry : Ancillary} (h : entry.isRights = true) :
    entry.descriptors = descriptorsOf entry.payload := if_pos h

/-- **What the loop gathered, and what it left.** -/
theorem gatherHandles_spec (ancillary : List Ancillary) (handles : List Fd) :
    match gatherHandles ancillary handles with
    | .ok gathered => gathered = handles ++ ancillary.flatMap Ancillary.descriptors ∧
        (∀ entry ∈ ancillary, entry.isRights = true) ∧ unread ancillary handles.length = [] ∧
        (handles.length ≤ 64 → gathered.length ≤ 64)
    | .error (error, gathered) =>
        gathered ++ unread ancillary handles.length =
          handles ++ ancillary.flatMap Ancillary.descriptors ∧
        error.isControlError = true ∧
        (handles.length ≤ 64 → ¬((∀ entry ∈ ancillary, entry.isRights = true) ∧
          handles.length + (ancillary.flatMap Ancillary.descriptors).length ≤ 64)) := by
  induction ancillary generalizing handles with
  | nil => simp [gatherHandles, unread]
  | cons entry rest ih =>
    by_cases hrights : entry.isRights = true
    · have hdesc := Ancillary.descriptors_of_isRights hrights
      by_cases hmany : (handles ++ entry.descriptors).length > 64
      · have hmany' := hmany
        rw [List.length_append] at hmany'
        simp only [gatherHandles, unread, hrights, ← hdesc, hmany, hmany', if_true, or_true,
          Bool.true_eq_false, if_false, List.flatMap_cons, List.append_assoc, true_and]
        refine ⟨rfl, fun _ h => ?_⟩
        rw [List.length_append] at h
        omega
      · have hfew := hmany
        rw [List.length_append] at hfew
        have hih := ih (handles ++ entry.descriptors)
        simp only [gatherHandles, unread, hrights, ← hdesc, hfew, if_false, or_false,
          Bool.true_eq_false, List.flatMap_cons, List.length_append] at hih ⊢
        split at hih
        · rename_i gathered hg
          obtain ⟨rfl, hall, hun, hlen⟩ := hih
          refine ⟨List.append_assoc .., ?_, hun, fun _ => hlen (by omega)⟩
          simp only [List.mem_cons, forall_eq_or_imp, hrights, true_and]
          exact hall
        · rename_i error gathered hg
          obtain ⟨heq, hctl, hno⟩ := hih
          refine ⟨by rw [heq, List.append_assoc], hctl, fun _ h => hno (by omega) ⟨?_, by omega⟩⟩
          exact fun e he => h.1 e (List.mem_cons_of_mem _ he)
    · rw [Bool.not_eq_true] at hrights
      simp only [gatherHandles, unread, hrights, if_true, true_or, List.flatMap_cons,
        Ancillary.descriptors, Bool.false_eq_true, if_false, List.nil_append]
      refine ⟨trivial, rfl, fun _ h => ?_⟩
      exact absurd (h.1 entry List.mem_cons_self) (by simp [hrights])

/-! ## The loop over the messages -/

/-- The bytes of a message. -/
def Recv.chunk : Recv → List UInt8
  | .message chunk _ => chunk
  | .raises _ => []

/-- The descriptors that came with a message. -/
def Recv.descriptors : Recv → List Fd
  | .message _ ancillary => ancillary.flatMap Ancillary.descriptors
  | .raises _ => []

/-- A message the loop can continue after: some bytes, no newline, descriptors only. -/
def Recv.IsPart : Recv → Prop
  | .message chunk ancillary => chunk ≠ [] ∧ (10 : UInt8) ∉ chunk ∧
      ∀ entry ∈ ancillary, entry.isRights = true
  | .raises _ => False

/-- The messages before the last one read, when `size` bytes and `count` handles were there before:
parts, fewer than `max` bytes together, no more than 64 handles. -/
structure Gathered (max size count : ℕ) (pre : List Recv) : Prop where
  parts : ∀ m ∈ pre, m.IsPart
  size_lt : pre ≠ [] → size + (pre.flatMap Recv.chunk).length < max
  count_le : count + (pre.flatMap Recv.descriptors).length ≤ 64

/-- With `count` handles gathered, the result makes the code forget descriptors: the call raised, or
its message has descriptors behind the entry that ends the loop. -/
def Recv.Drops (count : ℕ) : Recv → Prop
  | .raises _ => 0 < count
  | .message _ ancillary => unread ancillary count ≠ []

/-- Reading reaches a result that makes it forget descriptors. -/
def ReadLoses (max size count : ℕ) (recv : List Recv) : Prop :=
  ∃ pre next rest, recv = pre ++ next :: rest ∧ Gathered max size count pre ∧
    next.Drops (count + (pre.flatMap Recv.descriptors).length)

/-- Reading finds `frame` complete, with `handles`. -/
def Arrives (max size : ℕ) (chunks : List UInt8) (held : List Fd) (recv : List Recv)
    (frame : List UInt8) (handles : List Fd) : Prop :=
  ∃ pre chunk ancillary rest, recv = pre ++ .message chunk ancillary :: rest ∧
    Gathered max size held.length pre ∧
    (∀ entry ∈ ancillary, entry.isRights = true) ∧ (10 : UInt8) ∈ chunk ∧
    frame = chunks ++ pre.flatMap Recv.chunk ++ chunk.takeWhile (· != 10) ∧
    handles = held ++ pre.flatMap Recv.descriptors ++ ancillary.flatMap Ancillary.descriptors ∧
    handles.length ≤ 64 ∧ frame ≠ [] ∧ frame.length ≤ max

/-- The loop continues after the message. -/
def Recv.Continues (max size count : ℕ) (m : Recv) : Prop :=
  m.IsPart ∧ size + m.chunk.length < max ∧ count + m.descriptors.length ≤ 64

variable {max size : ℕ}

theorem gathered_nil {count : ℕ} (h : count ≤ 64) : Gathered max size count [] :=
  ⟨nofun, fun h => absurd rfl h, h⟩

theorem gathered_cons {count : ℕ} {m : Recv} {pre : List Recv} :
    Gathered max size count (m :: pre) ↔ m.Continues max size count ∧
      Gathered max (size + m.chunk.length) (count + m.descriptors.length) pre := by
  constructor
  · rintro ⟨hparts, hsize, hcount⟩
    have hsize := hsize (List.cons_ne_nil m pre)
    simp only [List.flatMap_cons, List.length_append] at hsize hcount
    refine ⟨⟨hparts m List.mem_cons_self, by omega, by omega⟩, ?_, fun _ => by omega, by omega⟩
    exact fun m' hm' => hparts m' (List.mem_cons_of_mem _ hm')
  · rintro ⟨⟨hpart, hlt, hle⟩, hparts, hsize, hcount⟩
    refine ⟨List.forall_mem_cons.mpr ⟨hpart, hparts⟩, fun _ => ?_, ?_⟩
    · simp only [List.flatMap_cons, List.length_append]
      by_cases hpre : pre = []
      · subst hpre
        simpa using hlt
      · have := hsize hpre
        omega
    · simp only [List.flatMap_cons, List.length_append]
      omega

theorem readLoses_nil {count : ℕ} : ¬ReadLoses max size count [] := by
  rintro ⟨pre, next, rest, h, -⟩
  exact absurd h (by simp)

/-- **Reading forgets descriptors at the first message or after it.** -/
theorem readLoses_cons {count : ℕ} (hcount : count ≤ 64) {m : Recv} {recv : List Recv} :
    ReadLoses max size count (m :: recv) ↔ m.Drops count ∨ (m.Continues max size count ∧
      ReadLoses max (size + m.chunk.length) (count + m.descriptors.length) recv) := by
  constructor
  · rintro ⟨pre, next, rest, heq, hg, hd⟩
    cases pre with
    | nil =>
      obtain ⟨rfl, rfl⟩ := List.cons.inj heq
      exact .inl (by simpa using hd)
    | cons m' pre =>
      obtain ⟨rfl, rfl⟩ := List.cons.inj heq
      obtain ⟨hc, hg⟩ := gathered_cons.mp hg
      refine .inr ⟨hc, pre, next, rest, rfl, hg, ?_⟩
      simpa only [List.flatMap_cons, List.length_append, Nat.add_assoc] using hd
  · rintro (hd | ⟨hc, pre, next, rest, rfl, hg, hd⟩)
    · exact ⟨[], m, recv, rfl, gathered_nil hcount, by simpa using hd⟩
    · refine ⟨m :: pre, next, rest, rfl, gathered_cons.mpr ⟨hc, hg⟩, ?_⟩
      simpa only [List.flatMap_cons, List.length_append, Nat.add_assoc] using hd

theorem arrives_nil {chunks frame : List UInt8} {held handles : List Fd} :
    ¬Arrives max size chunks held [] frame handles := by
  rintro ⟨pre, chunk, ancillary, rest, h, -⟩
  exact absurd h (by simp)

/-- The message completes the frame. -/
def Recv.Completes (max : ℕ) (chunks : List UInt8) (held : List Fd) (frame : List UInt8)
    (handles : List Fd) : Recv → Prop
  | .raises _ => False
  | .message chunk ancillary =>
    (∀ entry ∈ ancillary, entry.isRights = true) ∧ (10 : UInt8) ∈ chunk ∧
      frame = chunks ++ chunk.takeWhile (· != 10) ∧
      handles = held ++ ancillary.flatMap Ancillary.descriptors ∧
      handles.length ≤ 64 ∧ frame ≠ [] ∧ frame.length ≤ max

/-- **A frame is complete at the first message or after it.** -/
theorem arrives_cons {chunks frame : List UInt8} {held handles : List Fd}
    (hheld : held.length ≤ 64) {m : Recv} {recv : List Recv} :
    Arrives max size chunks held (m :: recv) frame handles ↔
      m.Completes max chunks held frame handles ∨ (m.Continues max size held.length ∧
        Arrives max (size + m.chunk.length) (chunks ++ m.chunk) (held ++ m.descriptors) recv frame
          handles) := by
  constructor
  · rintro ⟨pre, chunk, ancillary, rest, heq, hg, hrest⟩
    cases pre with
    | nil =>
      obtain ⟨rfl, rfl⟩ := List.cons.inj heq
      exact .inl (by simpa only [Recv.Completes, List.flatMap_nil, List.append_nil] using hrest)
    | cons m' pre =>
      obtain ⟨rfl, rfl⟩ := List.cons.inj heq
      obtain ⟨hc, hg⟩ := gathered_cons.mp hg
      refine .inr ⟨hc, pre, chunk, ancillary, rest, rfl, ?_, ?_⟩
      · rwa [List.length_append]
      · simpa only [List.flatMap_cons, List.append_assoc] using hrest
  · rintro (hd | ⟨hc, pre, chunk, ancillary, rest, rfl, hg, hrest⟩)
    · cases m with
      | raises message => exact hd.elim
      | message chunk ancillary =>
        refine ⟨[], chunk, ancillary, recv, rfl, gathered_nil hheld, ?_⟩
        simpa only [Recv.Completes, List.flatMap_nil, List.append_nil] using hd
    · rw [List.length_append] at hg
      refine ⟨m :: pre, chunk, ancillary, rest, rfl, gathered_cons.mpr ⟨hc, hg⟩, ?_⟩
      simpa only [List.flatMap_cons, List.append_assoc] using hrest

/-- A message completes the frame or the loop continues after it, not both. -/
theorem Recv.Completes.not_continues {m : Recv} {chunks frame : List UInt8}
    {held handles : List Fd} {count : ℕ} (h : m.Completes max chunks held frame handles) :
    ¬m.Continues max size count := by
  intro hc
  cases m with
  | raises message => exact h
  | message chunk ancillary => exact hc.1.2.1 h.2.1

/-- At most one frame arrives. -/
theorem Arrives.unique {recv : List Recv} {chunks f f' : List UInt8} {held h h' : List Fd}
    (hheld : held.length ≤ 64) (ha : Arrives max size chunks held recv f h)
    (ha' : Arrives max size chunks held recv f' h') : f = f' ∧ h = h' := by
  induction recv generalizing size chunks held with
  | nil => exact absurd ha arrives_nil
  | cons m recv ih =>
    rcases (arrives_cons hheld).mp ha with hc | ⟨hc, ha⟩
    · rcases (arrives_cons hheld).mp ha' with hc' | ⟨hc', -⟩
      · cases m with
        | raises message => exact hc.elim
        | message chunk ancillary =>
          exact ⟨hc.2.2.1.trans hc'.2.2.1.symm, hc.2.2.2.1.trans hc'.2.2.2.1.symm⟩
      · exact absurd hc' hc.not_continues
    · rcases (arrives_cons hheld).mp ha' with hc' | ⟨-, ha'⟩
      · exact absurd hc hc'.not_continues
      · refine ih ?_ ha ha'
        rw [List.length_append]
        exact hc.2.2

/-- What reading a frame comes to. -/
def ReadSpec (max size : ℕ) (chunks : List UInt8) (held : List Fd) (recv : List Recv) :
    Outcome Descriptors (List UInt8 × List Fd) → Prop
  | (.ok (frame, handles), fds) => Balanced fds handles ∧
      Arrives max size chunks held recv frame handles ∧ ¬ReadLoses max size held.length recv
  | (.error error, fds) => (Balanced fds [] ↔ ¬ReadLoses max size held.length recv) ∧
      (∀ frame handles, ¬Arrives max size chunks held recv frame handles) ∧
      (error.isControlError = true ∨ ∃ message, error = .osError message)

/-- A message that ends the loop with an error after closing what was gathered. -/
theorem ReadSpec.of_closed {chunks : List UInt8} {held gathered : List Fd} {recv : List Recv}
    {fds : Descriptors} {error : PyError} (hbal : Balanced fds gathered)
    (hloses : ¬ReadLoses max size held.length recv)
    (hnone : ∀ frame handles, ¬Arrives max size chunks held recv frame handles)
    (herr : error.isControlError = true) :
    ReadSpec max size chunks held recv (.error error, fds.closeHandles gathered) :=
  ⟨⟨fun _ => hloses, fun _ => hbal.closeHandles⟩, hnone, .inl herr⟩

section Stop

variable {m : Recv} {recv : List Recv} {chunks : List UInt8} {held : List Fd}

/-- Nothing is forgotten when the last message read makes the code forget nothing. -/
theorem not_readLoses_of_stop (hheld : held.length ≤ 64) (hdrops : ¬m.Drops held.length)
    (hstop : ¬m.Continues max size held.length) : ¬ReadLoses max size held.length (m :: recv) := by
  rw [readLoses_cons hheld]
  exact fun h => h.elim hdrops fun h => hstop h.1

/-- A frame that arrives is completed by the last message read. -/
theorem completes_of_stop (hheld : held.length ≤ 64)
    (hstop : ¬m.Continues max size held.length) {frame : List UInt8} {handles : List Fd}
    (h : Arrives max size chunks held (m :: recv) frame handles) :
    m.Completes max chunks held frame handles :=
  ((arrives_cons hheld).mp h).elim id fun h => absurd h.1 hstop

/-- Reading on after a part. -/
theorem ReadSpec.of_continues (hheld : held.length ≤ 64) (hdrops : ¬m.Drops held.length)
    (hcont : m.Continues max size held.length) (hnewline : (10 : UInt8) ∉ m.chunk)
    {o : Outcome Descriptors (List UInt8 × List Fd)}
    (h : ReadSpec max (size + m.chunk.length) (chunks ++ m.chunk) (held ++ m.descriptors) recv o) :
    ReadSpec max size chunks held (m :: recv) o := by
  have hloses : ReadLoses max size held.length (m :: recv) ↔
      ReadLoses max (size + m.chunk.length) (held ++ m.descriptors).length recv := by
    rw [readLoses_cons hheld, List.length_append]
    exact ⟨fun h => h.elim (fun h => absurd h hdrops) And.right, fun h => .inr ⟨hcont, h⟩⟩
  have harrives : ∀ frame handles, Arrives max size chunks held (m :: recv) frame handles ↔
      Arrives max (size + m.chunk.length) (chunks ++ m.chunk) (held ++ m.descriptors) recv frame
        handles := by
    intro frame handles
    rw [arrives_cons hheld]
    refine ⟨fun h => h.elim (fun h => ?_) And.right, fun h => .inr ⟨hcont, h⟩⟩
    cases m with
    | raises message => exact h.elim
    | message chunk ancillary => exact absurd h.2.1 hnewline
  obtain ⟨result, fds⟩ := o
  cases result with
  | error error => simpa only [ReadSpec, hloses, harrives] using h
  | ok value => simpa only [ReadSpec, hloses, harrives] using h

end Stop

/-- The end of the frame: it is empty, too long, or complete. -/
theorem finishFrame_spec {chunk chunks : List UInt8} {ancillary : List Ancillary} {held : List Fd}
    {recv : List Recv} {fds : Descriptors} (hheld : held.length ≤ 64)
    (hbal : Balanced fds (held ++ ancillary.flatMap Ancillary.descriptors))
    (hall : ∀ entry ∈ ancillary, entry.isRights = true)
    (hlen : (held ++ ancillary.flatMap Ancillary.descriptors).length ≤ 64)
    (hdrops : ¬(Recv.message chunk ancillary).Drops held.length)
    (hnewline : (10 : UInt8) ∈ chunk) :
    ReadSpec max size chunks held (.message chunk ancillary :: recv)
      (finishFrame max (chunks ++ chunk.takeWhile (· != 10))
        (held ++ ancillary.flatMap Ancillary.descriptors) fds) := by
  have hstop : ¬(Recv.message chunk ancillary).Continues max size held.length :=
    fun h => h.1.2.1 hnewline
  have hloses : ¬ReadLoses max size held.length (.message chunk ancillary :: recv) :=
    not_readLoses_of_stop hheld hdrops hstop
  have hcompletes : ∀ frame handles,
      Arrives max size chunks held (.message chunk ancillary :: recv) frame handles →
        (Recv.message chunk ancillary).Completes max chunks held frame handles :=
    fun _ _ => completes_of_stop hheld hstop
  dsimp only [finishFrame]
  split
  · rename_i hframe
    refine .of_closed hbal hloses (fun frame handles h => ?_) rfl
    obtain ⟨-, -, rfl, -, -, hne, -⟩ := hcompletes frame handles h
    exact hne hframe
  · rename_i hframe
    split
    · rename_i hlong
      refine .of_closed hbal hloses (fun frame handles h => ?_) rfl
      obtain ⟨-, -, rfl, -, -, -, hle⟩ := hcompletes frame handles h
      exact absurd hle (by omega)
    · rename_i hlong
      refine ⟨hbal, (arrives_cons hheld).mpr (.inl ?_), hloses⟩
      exact ⟨hall, hnewline, rfl, rfl, hlen, hframe, Nat.not_lt.mp hlong⟩

/-- **Reading a frame**: it comes back balanced with the frame that arrived, or raises, balanced
exactly when no result made it forget descriptors. -/
theorem readFrameWithHandles_spec (recv : List Recv) (chunks : List UInt8) (held : List Fd)
    (fds : Descriptors) (hbal : Balanced fds held) (hheld : held.length ≤ 64) :
    ReadSpec max size chunks held recv
      (readFrameWithHandles max recv chunks held size fds) := by
  induction recv generalizing size chunks held fds with
  | nil => exact .of_closed hbal readLoses_nil (fun _ _ => arrives_nil) rfl
  | cons m recv ih =>
    cases m with
    | raises message =>
      refine ⟨?_, fun frame handles h => ?_, .inr ⟨message, rfl⟩⟩
      · rw [hbal.nil_iff, readLoses_cons hheld]
        simp [Recv.Drops, Recv.Continues, Recv.IsPart, List.length_pos_iff]
      · rw [arrives_cons hheld] at h
        simp [Recv.Completes, Recv.Continues, Recv.IsPart] at h
    | message chunk ancillary =>
      have hgather := gatherHandles_spec ancillary held
      have hbal' := hbal.receive (ancillary.flatMap Ancillary.descriptors)
      simp only [readFrameWithHandles]
      split
      · rename_i error gathered hg
        rw [hg] at hgather
        obtain ⟨heq, herr, hnot⟩ := hgather
        have hstop : ¬(Recv.message chunk ancillary).Continues max size held.length :=
          fun h => hnot hheld ⟨h.1.2.2, h.2.2⟩
        refine ⟨?_, fun frame handles h => ?_, .inl herr⟩
        · rw [← heq] at hbal'
          rw [hbal'.closeHandles_append.nil_iff, readLoses_cons hheld]
          simp only [Recv.Drops, hstop, false_and, or_false, not_not]
        · obtain ⟨hall, -, -, rfl, hlen, -⟩ := completes_of_stop hheld hstop h
          exact hnot hheld ⟨hall, by rwa [List.length_append] at hlen⟩
      · rename_i gathered hg
        rw [hg] at hgather
        obtain ⟨rfl, hall, hun, hlen⟩ := hgather
        have hlen := hlen hheld
        have hdrops : ¬(Recv.message chunk ancillary).Drops held.length := fun h => h hun
        split
        · rename_i hempty
          have hstop : ¬(Recv.message chunk ancillary).Continues max size held.length :=
            fun h => h.1.1 hempty
          refine .of_closed hbal' (not_readLoses_of_stop hheld hdrops hstop) ?_ rfl
          exact fun frame handles h =>
            absurd (completes_of_stop hheld hstop h).2.1 (by simp [hempty])
        split
        · rename_i hnewline
          exact finishFrame_spec hheld hbal' hall hlen hdrops hnewline
        rename_i hempty hnewline
        split
        · rename_i hlong
          have hstop : ¬(Recv.message chunk ancillary).Continues max size held.length :=
            fun h => absurd h.2.1 (Nat.not_lt.mpr hlong)
          refine .of_closed hbal' (not_readLoses_of_stop hheld hdrops hstop) ?_ rfl
          exact fun frame handles h => hnewline (completes_of_stop hheld hstop h).2.1
        · rename_i hlong
          refine .of_continues hheld hdrops ⟨⟨hempty, hnewline, hall⟩, Nat.not_le.mp hlong, ?_⟩
            hnewline (ih _ _ _ hbal' hlen)
          rwa [List.length_append] at hlen

/-! ## The exchange -/

/-- Decoding a complete frame raises an exception its handler does not list: `json.loads` raises
one, or the response passes the version and request-ID checks with a `result` that cannot be
hashed. -/
def Undecodable (c : Client) (requestId : String) (frame : List UInt8) : Prop :=
  (∃ error, c.interpreter.loads frame = .error error ∧ Client.caughtByDecode error = false) ∨
  ∃ response, c.interpreter.loads frame = .ok response ∧ response.isMapping = true ∧
    (response.get "abi_version").isMapping = true ∧
    acceptsVersion (response.get "abi_version") = true ∧
    (response.get "request_id").eqStr requestId = true ∧
    (response.get "result").hashable = false

/-- The exchange forgets descriptors: the request went out, and reading it back forgets some, or
they came with a frame that cannot be decoded. -/
def Leaks (c : Client) (x : Exchange) (operation : String) (payload : List (String × Json)) :
    Prop :=
  (∃ frame, c.requestFrame x operation payload = .ok frame) ∧ x.transport.sendError = none ∧
    (ReadLoses c.maxFrameBytes 0 0 x.transport.recv ∨
      ∃ frame handles, Arrives c.maxFrameBytes 0 [] [] x.transport.recv frame handles ∧
        handles ≠ [] ∧ Undecodable c x.requestId frame)

theorem mapping_cases (value : Json) (field : String) :
    (value.isMapping = true ∧ mapping value field = .ok value) ∨
      (value.isMapping = false ∧ mapping value field =
        .error (invalid s!"{field} must be an object")) := by
  cases h : value.isMapping with
  | true => exact .inl ⟨rfl, if_pos h⟩
  | false => exact .inr ⟨rfl, if_neg (by simp [h])⟩

theorem inSet_cases (value : Json) (names : List String) :
    (value.hashable = true ∧ ∃ found, value.inSet names = .ok found) ∨
      (value.hashable = false ∧ ∃ message, value.inSet names = .error (.typeError message)) := by
  cases value with
  | list items => exact .inr ⟨rfl, _, rfl⟩
  | obj fields => exact .inr ⟨rfl, _, rfl⟩
  | _ => exact .inl ⟨rfl, _, rfl⟩

/-- **Which responses make `validate_response` raise an exception of another kind.** -/
theorem validateResponse_uncaught {response : Json} {requestId : String} :
    (∃ error, validateResponse response requestId = .error error ∧
      Client.caughtByDecode error = false) ↔
    (response.get "abi_version").isMapping = true ∧
      acceptsVersion (response.get "abi_version") = true ∧
      (response.get "request_id").eqStr requestId = true ∧
      (response.get "result").hashable = false := by
  unfold validateResponse
  rcases mapping_cases (response.get "abi_version") "abi_version" with ⟨hm, hv⟩ | ⟨hm, hv⟩
  · cases ha : acceptsVersion (response.get "abi_version") with
    | false => simp [hv, ha, hm, Except.raiseIf, bind, Except.bind, invalid, Client.caughtByDecode]
    | true =>
      cases hr : (response.get "request_id").eqStr requestId with
      | false =>
        simp [hv, ha, hm, Except.raiseIf, bind, Except.bind, invalid, Client.caughtByDecode]
      | true =>
        rcases inSet_cases (response.get "result")
            ["registered", "lease", "resize", "ack", "error"] with ⟨hh, found, hs⟩ | ⟨hh, m, hs⟩
        · cases found <;>
            simp [hv, ha, hm, hh, hs, Except.raiseIf, bind, Except.bind, invalid,
              Client.caughtByDecode]
        · simp [hv, ha, hm, hh, hs, Except.raiseIf, bind, Except.bind, Client.caughtByDecode]
  · simp [hv, hm, bind, Except.bind, invalid, Client.caughtByDecode]

/-- **Which frames cannot be decoded.** -/
theorem decodeResponse_uncaught {c : Client} {frame : List UInt8} {requestId : String} :
    (∃ error, c.decodeResponse frame requestId = .error error ∧
      Client.caughtByDecode error = false) ↔ Undecodable c requestId frame := by
  unfold Client.decodeResponse Undecodable
  cases hl : c.interpreter.loads frame with
  | error error => simp [bind, Except.bind]
  | ok response =>
    rcases mapping_cases response "response" with ⟨hm, hv⟩ | ⟨hm, hv⟩
    · have huncaught := @validateResponse_uncaught response requestId
      cases hr : validateResponse response requestId with
      | error error =>
        rw [hr] at huncaught
        simpa [bind, Except.bind, hv, hm, hr] using huncaught
      | ok u =>
        rw [hr] at huncaught
        simpa [bind, Except.bind, hv, hm, hr, pure, Except.pure] using huncaught
    · simp [bind, Except.bind, hv, hm, invalid, Client.caughtByDecode]

/-- A call whose descriptors are settled unless `leaks`: on return it holds those it hands over. -/
def Settles {α : Type} (outcome : Outcome Descriptors α) (handed : α → List Fd) (leaks : Prop) :
    Prop :=
  match outcome with
  | (.ok value, fds) => Balanced fds (handed value) ∧ ¬leaks
  | (.error _, fds) => Balanced fds [] ↔ ¬leaks

theorem Settles.congr {α : Type} {outcome : Outcome Descriptors α} {handed : α → List Fd}
    {leaks leaks' : Prop} (h : Settles outcome handed leaks) (hiff : leaks ↔ leaks') :
    Settles outcome handed leaks' :=
  propext hiff ▸ h

/-- What the reading of one response comes to. -/
theorem readSpec_transport (c : Client) (x : Exchange) :
    ReadSpec c.maxFrameBytes 0 [] [] x.transport.recv
      (readFrameWithHandles c.maxFrameBytes x.transport.recv [] [] 0 .none) :=
  readFrameWithHandles_spec x.transport.recv [] [] .none .none (Nat.zero_le _)

/-- A complete frame loses its descriptors only when its decoding escapes. -/
theorem settleResponse_settles (c : Client) (x : Exchange) (raw : List UInt8) {handles : List Fd}
    {fds : Descriptors} (hbal : Balanced fds handles) :
    Settles (c.settleResponse x raw handles fds) Prod.snd
      (handles ≠ [] ∧ Undecodable c x.requestId raw) := by
  dsimp only [Client.settleResponse]
  split
  · rename_i error hd
    split
    · rename_i hcaught
      refine ⟨fun _ h => ?_, fun _ => hbal.closeHandles⟩
      obtain ⟨error', hd', hc'⟩ := decodeResponse_uncaught.mpr h.2
      rw [hd] at hd'
      obtain rfl := Except.error.inj hd'
      exact absurd hcaught (by simp [hc'])
    · rename_i hcaught
      have hu : Undecodable c x.requestId raw :=
        decodeResponse_uncaught.mp ⟨error, hd, Bool.not_eq_true _ ▸ hcaught⟩
      refine hbal.nil_iff.trans ?_
      exact ⟨fun h h' => h'.1 h, fun h => by_contra fun hne => h ⟨hne, hu⟩⟩
  · rename_i response hd
    have hno : ¬(handles ≠ [] ∧ Undecodable c x.requestId raw) := by
      rintro ⟨-, hu⟩
      obtain ⟨error', hd', -⟩ := decodeResponse_uncaught.mpr hu
      rw [hd] at hd'
      exact absurd hd' (by simp)
    split
    · exact ⟨fun _ => hno, fun _ => hbal.closeHandles⟩
    · exact ⟨hbal, hno⟩

/-- **The exchange settles its descriptors unless it leaks.** -/
theorem rpcWithHandles_settles (c : Client) (x : Exchange) (operation : String)
    (payload : List (String × Json)) :
    Settles (c.rpcWithHandles x operation payload .none) Prod.snd
      (Leaks c x operation payload) := by
  have hread := readSpec_transport c x
  dsimp only [Client.rpcWithHandles]
  split
  · rename_i error hframe
    have hno : ¬Leaks c x operation payload := by
      rintro ⟨⟨frame, hf⟩, -⟩
      rw [hframe] at hf
      exact absurd hf (by simp)
    exact ⟨fun _ => hno, fun _ => Balanced.none⟩
  · rename_i frame message hframe hsend
    have hno : ¬Leaks c x operation payload := by
      rintro ⟨-, hs, -⟩
      rw [hsend] at hs
      exact absurd hs (by simp)
    exact ⟨fun _ => hno, fun _ => Balanced.none⟩
  · rename_i frame hframe hsend
    have hleaks : Leaks c x operation payload ↔
        ReadLoses c.maxFrameBytes 0 0 x.transport.recv ∨
          ∃ frame handles, Arrives c.maxFrameBytes 0 [] [] x.transport.recv frame handles ∧
            handles ≠ [] ∧ Undecodable c x.requestId frame :=
      ⟨fun h => h.2.2, fun h => ⟨⟨frame, hframe⟩, hsend, h⟩⟩
    split
    · rename_i error fds hr
      rw [hr] at hread
      obtain ⟨hbal, hnone, -⟩ := hread
      have hiff : Leaks c x operation payload ↔ ReadLoses c.maxFrameBytes 0 0 x.transport.recv := by
        rw [hleaks]
        exact ⟨fun h => h.elim id fun ⟨f, hs, ha, _⟩ => absurd ha (hnone f hs), .inl⟩
      exact hbal.trans (not_congr hiff.symm)
    · rename_i raw handles fds hr
      rw [hr] at hread
      obtain ⟨hbal, harr, hnot⟩ := hread
      refine (settleResponse_settles c x raw hbal).congr ?_
      rw [hleaks]
      constructor
      · rintro ⟨hne, hu⟩
        exact .inr ⟨raw, handles, harr, hne, hu⟩
      · rintro (h | ⟨f, hs, ha, hne, hu⟩)
        · exact absurd h hnot
        · obtain ⟨rfl, rfl⟩ := ha.unique (Nat.zero_le _) harr
          exact ⟨hne, hu⟩

/-! ## The calls -/

/-- `_rpc` hands nothing over. -/
theorem rpc_settles (c : Client) (x : Exchange) (operation : String)
    (payload : List (String × Json)) :
    Settles (c.rpc x operation payload .none) (fun _ => []) (Leaks c x operation payload) := by
  have h := rpcWithHandles_settles c x operation payload
  dsimp only [Client.rpc]
  split
  · rename_i error fds hr
    rw [hr] at h
    exact h
  · rename_i response handles fds hr
    rw [hr] at h
    obtain ⟨hbal, hno⟩ := h
    split
    · rename_i hnil
      exact ⟨hnil ▸ hbal, hno⟩
    · exact ⟨fun _ => hno, fun _ => hbal.closeHandles⟩

/-- A call that reads the response of `_rpc` into a result. -/
theorem settles_of_rpc {α : Type} {c : Client} {x : Exchange} {operation : String}
    {payload : List (String × Json)} {fds : Descriptors} {response : Json}
    (hr : c.rpc x operation payload .none = (.ok response, fds)) (result : Except PyError α) :
    Settles (result, fds) (fun _ => []) (Leaks c x operation payload) := by
  have h := rpc_settles c x operation payload
  rw [hr] at h
  obtain ⟨hbal, hno⟩ := h
  cases result with
  | error error => exact ⟨fun _ => hno, fun _ => hbal⟩
  | ok value => exact ⟨hbal, hno⟩

/-- The arguments were accepted and the exchange leaks. -/
def CallLeaks (c : Client) (x : Exchange) (checked : Except PyError Unit) (operation : String)
    (payload : List (String × Json)) : Prop :=
  checked = .ok () ∧ Leaks c x operation payload

theorem ackCall_settles (c : Client) (x : Exchange) (checked : Except PyError Unit)
    (operation : String) (payload : List (String × Json)) :
    Settles (c.ackCall x checked operation payload .none) (fun _ => [])
      (CallLeaks c x checked operation payload) := by
  dsimp only [Client.ackCall]
  split
  · exact ⟨fun _ h => absurd h.1 (by simp), fun _ => Balanced.none⟩
  · simp only [CallLeaks, true_and]
    split
    · rename_i error fds hr
      have h := rpc_settles c x operation payload
      rw [hr] at h
      exact h
    · rename_i response fds hr
      exact settles_of_rpc hr _

theorem reserve_settles (c : Client) (x : Exchange) (request : Json) :
    Settles (c.reserve x request .none) (fun _ => [])
      (CallLeaks c x (validateReserveRequest request) "reserve"
        [("participant_id", .str c.participantId), ("request", request)]) := by
  dsimp only [Client.reserve]
  split
  · rename_i error hv
    exact ⟨fun _ h => absurd (hv.symm.trans h.1) (by simp), fun _ => Balanced.none⟩
  · rename_i hv
    simp only [CallLeaks, hv, true_and]
    split
    · rename_i error fds hr
      have h := rpc_settles c x "reserve"
        [("participant_id", .str c.participantId), ("request", request)]
      rw [hr] at h
      exact h
    · rename_i response fds hr
      exact settles_of_rpc hr _

theorem handleCall_settles {α : Type} (c : Client) (x : Exchange) (checked : Except PyError Unit)
    (operation : String) (payload : List (String × Json)) (label : String)
    (read : Json → List Fd → Except PyError α) :
    Settles (c.handleCall x checked operation payload label read .none) Prod.snd
      (CallLeaks c x checked operation payload) := by
  dsimp only [Client.handleCall]
  split
  · exact ⟨fun _ h => absurd h.1 (by simp), fun _ => Balanced.none⟩
  · simp only [CallLeaks, true_and]
    have h := rpcWithHandles_settles c x operation payload
    split
    · rename_i error fds hr
      rw [hr] at h
      exact h
    · rename_i response handles fds hr
      rw [hr] at h
      obtain ⟨hbal, hno⟩ := h
      split
      · exact ⟨fun _ => hno, fun _ => hbal.closeHandles⟩
      · exact ⟨hbal, hno⟩

/-- Closing what a call hands over settles it. -/
theorem Settles.closing {α : Type} {outcome : Outcome Descriptors (α × List Fd)} {leaks : Prop}
    (h : Settles outcome Prod.snd leaks) :
    Settles (Client.closing outcome) (fun _ => []) leaks := by
  obtain ⟨result, fds⟩ := outcome
  cases result with
  | error error => exact h
  | ok value => exact ⟨h.1.closeHandles, h.2⟩

theorem pollResizeWithHandles_settles (c : Client) (x : Exchange) (request : Json) :
    Settles (c.pollResizeWithHandles x request .none) Prod.snd
      (CallLeaks c x (validateResizePollRequest request) "resize_poll"
        [("participant_id", .str c.participantId), ("request", request)]) := by
  have h := handleCall_settles c x (validateResizePollRequest request) "resize_poll"
    [("participant_id", .str c.participantId), ("request", request)] "invalid resize operation: "
    c.readOperations
  dsimp only [Client.pollResizeWithHandles, Client.pollResizeStateWithHandles]
  split
  · rename_i error fds hr
    rw [hr] at h
    exact h
  · rename_i operations pending handles fds hr
    rw [hr] at h
    exact h

/-- The methods of the client, with their arguments. -/
inductive ClientCall
  | register (registration : Json)
  | registerWithHandles (registration : Json)
  | reserve (request : Json)
  | attach (attachment : Json)
  | activate (participantEpoch : ℤ)
  | commit (leaseId : String) (computedTokens : ℤ)
  | touch (leaseId : String)
  | heartbeat
  | release (leaseId : String) (completion : Option Json)
  | detach (request : Json)
  | pollResize (request : Json)
  | pollResizeWithHandles (request : Json)
  | pollResizeStateWithHandles (request : Json)
  | ackResize (request : Json)

namespace ClientCall

/-- What a returned value hands over. -/
def handing {α : Type} (outcome : Outcome Descriptors α) (handed : α → List Fd) :
    Outcome Descriptors (List Fd) :=
  (outcome.1.map handed, outcome.2)

/-- The call, from no descriptors: what it hands over or raises, and what it did to descriptors. -/
def run (c : Client) (x : Exchange) : ClientCall → Outcome Descriptors (List Fd)
  | register registration => handing (c.register x registration .none) fun _ => []
  | registerWithHandles registration => handing (c.registerWithHandles x registration .none) (·.2)
  | reserve request => handing (c.reserve x request .none) fun _ => []
  | attach attachment => handing (c.attach x attachment .none) fun _ => []
  | activate epoch => handing (c.activate x epoch .none) fun _ => []
  | commit leaseId tokens => handing (c.commit x leaseId tokens .none) fun _ => []
  | touch leaseId => handing (c.touch x leaseId .none) fun _ => []
  | heartbeat => handing (c.heartbeat x .none) fun _ => []
  | release leaseId completion => handing (c.release x leaseId completion .none) fun _ => []
  | detach request => handing (c.detach x request .none) fun _ => []
  | pollResize request => handing (c.pollResize x request .none) fun _ => []
  | pollResizeWithHandles request => handing (c.pollResizeWithHandles x request .none) (·.2)
  | pollResizeStateWithHandles request =>
    handing (c.pollResizeStateWithHandles x request .none) (·.2)
  | ackResize request => handing (c.ackResize x request .none) fun _ => []

/-- The check of the call's arguments, made before anything is sent. -/
def checked (c : Client) : ClientCall → Except PyError Unit
  | register registration | registerWithHandles registration =>
    validateRegistration c.interpreter registration
  | reserve request => validateReserveRequest request
  | attach attachment => validateSharedPoolAttachment attachment
  | activate epoch =>
    Except.raiseIf (epoch ≤ 0) (.valueError "participant_epoch must be positive")
  | commit leaseId tokens => Client.checkCommit leaseId tokens
  | touch leaseId | release leaseId _ => Client.required leaseId "lease_id"
  | heartbeat => .ok ()
  | detach request => validateSharedPoolDetachRequest request
  | pollResize request | pollResizeWithHandles request | pollResizeStateWithHandles request =>
    validateResizePollRequest request
  | ackResize request => validateResizeAckRequest request

/-- The operation the call asks for. -/
def operation : ClientCall → String
  | register _ | registerWithHandles _ => "register"
  | reserve _ => "reserve"
  | attach _ => "attach"
  | activate _ => "activate"
  | commit _ _ => "commit"
  | touch _ => "touch"
  | heartbeat => "heartbeat"
  | release _ _ => "release"
  | detach _ => "detach"
  | pollResize _ | pollResizeWithHandles _ | pollResizeStateWithHandles _ => "resize_poll"
  | ackResize _ => "resize_ack"

/-- The payload of the call's request. -/
def payload (c : Client) : ClientCall → List (String × Json)
  | register registration | registerWithHandles registration => [("registration", registration)]
  | attach attachment => [("participant_id", .str c.participantId), ("attachment", attachment)]
  | activate epoch => [("participant_id", .str c.participantId), ("participant_epoch", .int epoch)]
  | commit leaseId tokens =>
    [("participant_id", .str c.participantId),
     ("request", .obj [("lease_id", .str leaseId), ("computed_tokens", .int tokens)])]
  | touch leaseId => [("participant_id", .str c.participantId), ("lease_id", .str leaseId)]
  | heartbeat => [("participant_id", .str c.participantId)]
  | release leaseId completion =>
    [("participant_id", .str c.participantId), ("lease_id", .str leaseId)] ++
      match completion with
      | some completion => [("completion", completion)]
      | none => []
  | reserve request | detach request | pollResize request | pollResizeWithHandles request
  | pollResizeStateWithHandles request | ackResize request =>
    [("participant_id", .str c.participantId), ("request", request)]

/-- **Each descriptor received was closed once or handed over once; all were closed if the call
raised.** -/
def Linear (outcome : Outcome Descriptors (List Fd)) : Prop :=
  match outcome with
  | (.ok handed, fds) => Balanced fds handed
  | (.error _, fds) => Balanced fds []

theorem linear_handing_iff {α : Type} {outcome : Outcome Descriptors α} {handed : α → List Fd}
    {leaks : Prop} (h : Settles outcome handed leaks) : Linear (handing outcome handed) ↔ ¬leaks := by
  obtain ⟨result, fds⟩ := outcome
  cases result with
  | error error => exact h
  | ok value => exact ⟨fun _ => h.2, fun _ => h.1⟩

/-- **A call is linear in its descriptors exactly when its exchange does not leak.** -/
theorem linear_iff (c : Client) (x : Exchange) (call : ClientCall) :
    Linear (call.run c x) ↔
      ¬CallLeaks c x (call.checked c) call.operation (call.payload c) := by
  cases call with
  | register registration => exact linear_handing_iff (handleCall_settles ..).closing
  | registerWithHandles registration => exact linear_handing_iff (handleCall_settles ..)
  | reserve request => exact linear_handing_iff (reserve_settles c x request)
  | attach attachment => exact linear_handing_iff (ackCall_settles ..)
  | activate epoch => exact linear_handing_iff (ackCall_settles ..)
  | commit leaseId tokens => exact linear_handing_iff (ackCall_settles ..)
  | touch leaseId => exact linear_handing_iff (ackCall_settles ..)
  | heartbeat => exact linear_handing_iff (ackCall_settles ..)
  | release leaseId completion => exact linear_handing_iff (ackCall_settles ..)
  | detach request => exact linear_handing_iff (ackCall_settles ..)
  | pollResize request => exact linear_handing_iff (pollResizeWithHandles_settles c x request).closing
  | pollResizeWithHandles request =>
    exact linear_handing_iff (pollResizeWithHandles_settles c x request)
  | pollResizeStateWithHandles request => exact linear_handing_iff (handleCall_settles ..)
  | ackResize request => exact linear_handing_iff (ackCall_settles ..)

/-- The bytes of an ASCII text. -/
def ascii (text : String) : List UInt8 := text.toList.map fun ch => ch.toNat.toUInt8

/-- A client in an interpreter that encodes the heartbeat of participant `p` under request ID `r`;
the response of the example never reaches the decoder. -/
def heartbeatClient : Client where
  interpreter :=
    { loads := fun _ => .error (.jsonDecodeError "Expecting value: line 1 column 1 (char 0)")
      dumps := fun _ => .ok (ascii <|
        "\x7b\"abi_version\":\x7b\"major\":1,\"minor\":5\x7d,\"operation\":\"heartbeat\"," ++
          "\"participant_id\":\"p\",\"request_id\":\"r\"\x7d")
      copies := fun _ => true
      loads_raises := fun _ _ h => Except.error.inj h ▸ rfl
      renders := fun value =>
        match value with
        | .str text => some text
        | _ => none
      renders_str := fun _ => rfl
      repr := fun text => text }
  participantId := "p"
  maxFrameBytes := 1048576
  participantId_nonblank := by decide
  maxFrameBytes_pos := by decide

/-- The first bytes of a response arrive with descriptor 7, then the read times out. -/
def timeoutAfterHandle : Exchange where
  requestId := "r"
  transport :=
    { sendError := none
      recv := [.message (ascii "\x7b") [⟨1, 1, [7, 0, 0, 0]⟩], .raises "timed out"] }

/-- **A call can raise and leave a descriptor open.** -/
theorem not_linear_timeoutAfterHandle :
    ¬∀ (c : Client) (x : Exchange) (call : ClientCall), Linear (call.run c x) := by
  intro h
  have hrun : heartbeat.run heartbeatClient timeoutAfterHandle =
      (.error (.kapslKvControlError "KV control request 'heartbeat' failed: timed out"
        (some "transport")), ⟨[7], []⟩) := by rfl
  have hlin := h heartbeatClient timeoutAfterHandle heartbeat
  rw [hrun] at hlin
  exact absurd hlin.length_eq (by simp)

end ClientCall

end Kapsl.Vllm
