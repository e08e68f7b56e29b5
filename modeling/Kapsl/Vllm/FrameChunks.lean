import Kapsl.Vllm.Client

/-!
# Vllm/FrameChunks — where a frame reader may cut its stream

`_read_frame_with_handles` asks for at most one byte more than the frame may still have, and looks
for the newline in what it gets.  `Splits` are the ways a stream can arrive under those requests.

* `readFrame_eq` — every way of arriving has the outcome of the stream as a whole (`frameOutcome`),
  unless the frame is exactly as long as allowed.
* `readsFrame_iff` — in that case, and only then, the outcome depends on the way: a cut right before
  the newline fills the frame up, and a full frame without its newline is refused.
-/

namespace Kapsl.Vllm

/-- The bytes before the first newline. -/
def frameOf (stream : List UInt8) : List UInt8 := stream.takeWhile (· != 10)

/-! ## Chunks -/

/-- What `recvmsg` may return once `size` bytes were read: a chunk no longer than requested, and
more of them as long as the loop goes on. -/
def Requested (maxFrameBytes : ℕ) : ℕ → List (List UInt8) → Prop
  | _, [] => True
  | size, chunk :: rest =>
    chunk ≠ [] ∧ chunk.length ≤ min 65536 (maxFrameBytes - size + 1) ∧
      ((10 : UInt8) ∉ chunk → size + chunk.length < maxFrameBytes →
        Requested maxFrameBytes (size + chunk.length) rest)

/-- **The chunks are a way for the stream to arrive.** -/
structure Splits (maxFrameBytes : ℕ) (stream : List UInt8) (chunks : List (List UInt8)) : Prop where
  flatten : chunks.flatten = stream
  requested : Requested maxFrameBytes 0 chunks

/-- `_read_frame_with_handles` on chunks without ancillary data, after which the peer closes. -/
def readChunks (maxFrameBytes : ℕ) (chunks : List (List UInt8)) (fds : Descriptors) :
    Outcome Descriptors (List UInt8 × List Fd) :=
  readFrameWithHandles maxFrameBytes (chunks.map fun chunk => .message chunk []) [] [] 0 fds

/-- **The outcome of a stream as a whole**, with no regard to its chunks. -/
def frameOutcome (maxFrameBytes : ℕ) (stream : List UInt8) (fds : Descriptors) :
    Outcome Descriptors (List UInt8 × List Fd) :=
  if (10 : UInt8) ∈ stream then finishFrame maxFrameBytes (frameOf stream) [] fds
  else if stream.length < maxFrameBytes then
    (.error (controlError "KV control peer closed before a complete frame"), fds)
  else (.error (controlError "KV control response exceeds maximum frame size"), fds)

/-- The frame of the stream is exactly as long as allowed. -/
def FillsUp (maxFrameBytes : ℕ) (stream : List UInt8) : Prop :=
  (10 : UInt8) ∈ stream ∧ (frameOf stream).length = maxFrameBytes

/-! ## The outcome of every way of arriving -/

section

variable {maxFrameBytes : ℕ} {before chunk rest : List UInt8} {fds : Descriptors}

theorem closeHandles_nil : fds.closeHandles [] = fds := by
  simp [Descriptors.closeHandles]

theorem receive_nil : fds.receive [] = fds := by
  simp [Descriptors.receive]

/-- Bytes without a newline are part of the frame. -/
theorem frameOf_append (h : (10 : UInt8) ∉ before) :
    frameOf (before ++ rest) = before ++ frameOf rest := by
  have hall : ∀ b ∈ before, (b != 10) = true := fun b hb => by
    simpa using fun heq : b = 10 => h (heq ▸ hb)
  rw [frameOf, List.takeWhile_append_of_pos hall, frameOf]

/-- The frame ends at the first newline. -/
theorem frameOf_append_of_mem (h : (10 : UInt8) ∈ chunk) :
    frameOf (chunk ++ rest) = frameOf chunk ∧ (frameOf chunk).length < chunk.length := by
  induction chunk with
  | nil => exact absurd h List.not_mem_nil
  | cons b bytes ih =>
    by_cases hb : b = 10
    · subst hb
      exact ⟨rfl, Nat.succ_pos _⟩
    · have hbytes : (10 : UInt8) ∈ bytes := (List.mem_cons.mp h).resolve_left fun heq => hb heq.symm
      have hcons : ∀ l, frameOf (b :: l) = b :: frameOf l := fun l =>
        List.takeWhile_cons_of_pos (p := fun x => x != 10) (by simpa using hb)
      obtain ⟨heq, hlt⟩ := ih hbytes
      rw [List.cons_append, hcons, hcons, heq]
      exact ⟨rfl, Nat.succ_lt_succ hlt⟩

/-- **Any way of arriving has the outcome of the whole**, from whatever was read before, unless the
frame fills up. -/
theorem readFrame_from (chunks : List (List UInt8)) (hbefore : (10 : UInt8) ∉ before)
    (hlt : before.length < maxFrameBytes) (hrequested : Requested maxFrameBytes before.length chunks)
    (hfills : ¬FillsUp maxFrameBytes (before ++ chunks.flatten)) :
    readFrameWithHandles maxFrameBytes (chunks.map fun chunk => .message chunk []) before []
      before.length fds = frameOutcome maxFrameBytes (before ++ chunks.flatten) fds := by
  induction chunks generalizing before fds with
  | nil =>
    rw [List.flatten_nil, List.append_nil, frameOutcome, if_neg hbefore, if_pos hlt, List.map_nil,
      readFrameWithHandles, closeHandles_nil]
  | cons chunk rest ih =>
    obtain ⟨hne, hlen, hnext⟩ := hrequested
    rw [List.flatten_cons] at hfills ⊢
    simp only [List.map_cons, readFrameWithHandles, gatherHandles, List.flatMap_nil, receive_nil,
      if_neg hne]
    by_cases hnewline : (10 : UInt8) ∈ chunk
    · have hmem : (10 : UInt8) ∈ before ++ (chunk ++ rest.flatten) := by simp [hnewline]
      rw [if_pos hnewline, frameOutcome, if_pos hmem, frameOf_append hbefore,
        (frameOf_append_of_mem hnewline).1]
      rfl
    rw [if_neg hnewline]
    have hread : (10 : UInt8) ∉ before ++ chunk := by simp [hbefore, hnewline]
    rw [← List.append_assoc] at hfills ⊢
    by_cases hlong : before.length + chunk.length ≥ maxFrameBytes
    · -- What was read already fills the frame up, so the whole frame is longer than that.
      rw [if_pos hlong, closeHandles_nil, frameOutcome]
      have hstream : maxFrameBytes ≤ ((before ++ chunk) ++ rest.flatten).length := by
        simp only [List.length_append]
        omega
      by_cases hmem : (10 : UInt8) ∈ (before ++ chunk) ++ rest.flatten
      · have hframe : maxFrameBytes < (frameOf ((before ++ chunk) ++ rest.flatten)).length := by
          have hle : maxFrameBytes ≤ (frameOf ((before ++ chunk) ++ rest.flatten)).length := by
            rw [frameOf_append hread, List.length_append, List.length_append]
            omega
          exact lt_of_le_of_ne hle fun heq => hfills ⟨hmem, heq.symm⟩
        have hnil : frameOf ((before ++ chunk) ++ rest.flatten) ≠ [] :=
          List.length_pos_iff.mp (by omega)
        rw [if_pos hmem, finishFrame, if_neg hnil, if_pos hframe, closeHandles_nil]
      · rw [if_neg hmem, if_neg (by omega)]
    · rw [if_neg hlong, ← List.length_append]
      rw [← List.length_append] at hnext hlong
      exact ih hread (by omega) (hnext hnewline (by omega)) hfills

end

/-- **The outcome is that of the stream**, unless its frame is exactly as long as allowed. -/
theorem readFrame_eq {maxFrameBytes : ℕ} {stream : List UInt8} {chunks : List (List UInt8)}
    {fds : Descriptors} (hmax : 1 ≤ maxFrameBytes) (h : Splits maxFrameBytes stream chunks)
    (hfills : ¬FillsUp maxFrameBytes stream) :
    readChunks maxFrameBytes chunks fds = frameOutcome maxFrameBytes stream fds := by
  obtain ⟨rfl, hrequested⟩ := h
  exact readFrame_from chunks List.not_mem_nil hmax hrequested hfills

/-! ## A full frame, byte for byte -/

/-- **Byte for byte is always a way to arrive.** -/
theorem splits_singletons {maxFrameBytes : ℕ} (stream : List UInt8) :
    Splits maxFrameBytes stream (stream.map fun b => [b]) := by
  refine ⟨?_, ?_⟩
  · induction stream with
    | nil => rfl
    | cons b bytes ih => rw [List.map_cons, List.flatten_cons, ih, List.singleton_append]
  · generalize 0 = size
    induction stream generalizing size with
    | nil => trivial
    | cons b bytes ih =>
      refine ⟨List.cons_ne_nil _ _, ?_, fun _ _ => ih _⟩
      rw [List.length_singleton]
      omega

/-- **A full frame that arrives byte for byte is refused**, from whatever was read before. -/
theorem readFrame_full {maxFrameBytes : ℕ} {bytes : List UInt8} (fds : Descriptors)
    (rest : List Recv) (before : List UInt8) (hbytes : (10 : UInt8) ∉ bytes) (hne : bytes ≠ [])
    (hfull : before.length + bytes.length = maxFrameBytes) :
    readFrameWithHandles maxFrameBytes ((bytes.map fun b => .message [b] []) ++ rest) before []
        before.length fds =
      (.error (controlError "KV control response exceeds maximum frame size"), fds) := by
  induction bytes generalizing before with
  | nil => exact absurd rfl hne
  | cons b bytes ih =>
    rw [List.mem_cons, not_or] at hbytes
    have hb : (10 : UInt8) ∉ [b] := by simpa using hbytes.1
    simp only [List.map_cons, List.cons_append, readFrameWithHandles, gatherHandles,
      List.flatMap_nil, receive_nil, if_neg hb, if_neg (List.cons_ne_nil b []),
      List.length_singleton]
    obtain rfl | hmore := eq_or_ne bytes []
    · rw [if_pos (by simpa using hfull.ge), closeHandles_nil]
    · have hpos := List.length_pos_iff.mpr hmore
      rw [List.length_cons] at hfull
      have hnext := ih (before ++ [b]) hbytes.2 hmore (by simp; omega)
      rw [List.length_append, List.length_singleton] at hnext
      rw [if_neg (by omega)]
      exact hnext

/-! ## When the cuts do not matter -/

/-- **Reading the frame of a stream does not depend on its chunks**, and returns the frame exactly
when there is one of an allowed length. -/
structure ReadsFrame (maxFrameBytes : ℕ) (stream : List UInt8) : Prop where
  same : ∀ chunks chunks' fds, Splits maxFrameBytes stream chunks →
    Splits maxFrameBytes stream chunks' →
      readChunks maxFrameBytes chunks fds = readChunks maxFrameBytes chunks' fds
  returns : ∀ chunks fds, Splits maxFrameBytes stream chunks →
    (10 : UInt8) ∈ stream → 1 ≤ (frameOf stream).length →
      (frameOf stream).length ≤ maxFrameBytes →
        readChunks maxFrameBytes chunks fds = (.ok (frameOf stream, []), fds)
  raises : ∀ chunks fds, Splits maxFrameBytes stream chunks →
    ¬((10 : UInt8) ∈ stream ∧ 1 ≤ (frameOf stream).length ∧
      (frameOf stream).length ≤ maxFrameBytes) →
        ∃ message, readChunks maxFrameBytes chunks fds = (.error (controlError message), fds)

theorem frameOutcome_of_frame {maxFrameBytes : ℕ} {stream : List UInt8} {fds : Descriptors}
    (hmem : (10 : UInt8) ∈ stream) (hpos : 1 ≤ (frameOf stream).length)
    (hle : (frameOf stream).length ≤ maxFrameBytes) :
    frameOutcome maxFrameBytes stream fds = (.ok (frameOf stream, []), fds) := by
  have hne : frameOf stream ≠ [] := List.length_pos_iff.mp hpos
  rw [frameOutcome, if_pos hmem, finishFrame, if_neg hne, if_neg (by omega)]

theorem frameOutcome_of_no_frame {maxFrameBytes : ℕ} {stream : List UInt8} {fds : Descriptors}
    (h : ¬((10 : UInt8) ∈ stream ∧ 1 ≤ (frameOf stream).length ∧
      (frameOf stream).length ≤ maxFrameBytes)) :
    ∃ message, frameOutcome maxFrameBytes stream fds = (.error (controlError message), fds) := by
  unfold frameOutcome finishFrame
  rw [closeHandles_nil]
  by_cases hmem : (10 : UInt8) ∈ stream
  · rw [if_pos hmem]
    by_cases hnil : frameOf stream = []
    · exact ⟨_, if_pos hnil⟩
    · have hpos := List.length_pos_iff.mpr hnil
      have hlong : (frameOf stream).length > maxFrameBytes := by
        by_contra hle
        exact h ⟨hmem, hpos, by omega⟩
      rw [if_neg hnil, if_pos hlong]
      exact ⟨_, rfl⟩
  · rw [if_neg hmem]
    split
    · exact ⟨_, rfl⟩
    · exact ⟨_, rfl⟩

/-- **The cuts do not matter exactly when the frame does not fill up** the length it may have. -/
theorem readsFrame_iff {maxFrameBytes : ℕ} (hmax : 1 ≤ maxFrameBytes) (stream : List UInt8) :
    ReadsFrame maxFrameBytes stream ↔ ¬FillsUp maxFrameBytes stream := by
  constructor
  · rintro hreads ⟨hmem, hlength⟩
    have hreturns := hreads.returns (stream.map fun b => [b]) .none (splits_singletons stream) hmem
      (by omega) hlength.le
    have hfull : readChunks maxFrameBytes (stream.map fun b => [b]) .none =
        (.error (controlError "KV control response exceeds maximum frame size"), .none) := by
      have hsplit : frameOf stream ++ stream.dropWhile (· != 10) = stream :=
        List.takeWhile_append_dropWhile
      have hclean : (10 : UInt8) ∉ frameOf stream := fun h => by
        simpa using List.all_eq_true.mp List.all_takeWhile _ h
      have hne : frameOf stream ≠ [] := List.length_pos_iff.mp (by omega)
      have hread := readFrame_full .none ((stream.dropWhile (· != 10)).map fun b =>
        Recv.message [b] []) [] hclean hne (by simpa using hlength)
      rw [← List.map_append, hsplit] at hread
      rw [readChunks, List.map_map]
      exact hread
    exact nomatch (Prod.mk.inj (hreturns.symm.trans hfull)).1
  · intro hfills
    refine ⟨fun chunks chunks' fds h h' => ?_, fun chunks fds h hmem hpos hle => ?_,
      fun chunks fds h hno => ?_⟩
    · rw [readFrame_eq hmax h hfills, readFrame_eq hmax h' hfills]
    · rw [readFrame_eq hmax h hfills, frameOutcome_of_frame hmem hpos hle]
    · rw [readFrame_eq hmax h hfills]
      exact frameOutcome_of_no_frame hno

theorem readsFrame_iff_shortFrame : ReadsFrame 64 [123, 125, 10] :=
  (readsFrame_iff (by decide) _).mpr (by simp [FillsUp, frameOf])

/-- **A full frame is returned or refused, as the kernel cuts it**: two bytes and their newline in
one chunk, or with a cut before the newline. -/
theorem not_readsFrame_fullFrame : ¬∀ maxFrameBytes stream, 1 ≤ maxFrameBytes →
    ReadsFrame maxFrameBytes stream := by
  intro h
  have hone : Splits 2 [123, 125, 10] [[123, 125, 10]] := ⟨rfl, by decide, by decide, nofun⟩
  have htwo : Splits 2 [123, 125, 10] [[123, 125], [10]] :=
    ⟨rfl, by decide, by decide, fun _ hlt => absurd hlt (by decide)⟩
  have hsame := (h 2 [123, 125, 10] (by decide)).same _ _ .none hone htwo
  exact absurd hsame (by decide)

end Kapsl.Vllm
