import Kapsl.Ort.ZipFormat
import Kapsl.Ort.ZipReads

/-!
# Ort/ZipRoundTrip — the parser inverts the format

A buffer is written as what stands before a record, the record and what stands behind it; a reader
at the first boundary returns the record and goes on from the second.  From that:

* `resolveZip64Fields_encodeExtra` — the values of a member come back from their fields and the
  ZIP64 record, wherever it stands among the extra data;
* `readMember_encode`, `readMembers_encode` — one turn of the loop, and all of them;
* `rfind_append` — the search from behind finds the end record;
* `parseCentralDirectory_inverts` — the members of an archive come back, and any other byte string
  is read or refused.
-/

namespace Kapsl.Ort.Zip

open Except

variable {before part after : List UInt8} {name : String}

/-! ## Parts of a buffer -/

/-- A part is sliced out at its boundaries. -/
theorem slice_part (before part after : List UInt8) : slice (before ++ (part ++ after)) before.length
    (before.length + part.length) = .ok part := by
  rw [slice_eq_ok (Nat.le_add_right _ _) (by simp only [List.length_append]; omega),
    List.take_length_add_append, List.take_left, List.drop_left]

/-- A record is read where it was spelled. -/
theorem unpackFrom_part {widths values : List ℕ} (h : Fields.Fit widths values) :
    unpackFrom widths (before ++ (Fields.pack widths values ++ after)) before.length =
      .ok values := by
  rw [unpackFrom_eq_ok (by simp only [List.length_append, Fields.length_pack h]; omega),
    List.drop_left, Fields.unpack_pack_append h]

/-- A range that is a part of the source is read as that part. -/
theorem readExactRange_part (before after : List UInt8) (h : part ≠ []) :
    readExactRange (before ++ (part ++ after)) before.length
      (before.length + part.length - 1) = .ok part := by
  have hpos : 0 < part.length := List.length_pos_iff.mpr h
  have hopen : openRange (before ++ (part ++ after)) before.length
      (before.length + part.length - 1) = .ok part := by
    rw [openRange, raiseIf_neg (by simp only [List.length_append]; omega), ok_bind]
    have hstop : ((before.length : ℤ) + part.length - 1 + 1).toNat =
        before.length + part.length := by omega
    rw [hstop, Int.toNat_natCast, slice_part]
  have htake : part.take ((before.length : ℤ) + part.length - 1 - before.length + 1 + 1).toNat =
      part := List.take_of_length_le (by omega)
  rw [readExactRange, hopen, ok_bind, htake]
  dsimp only
  rw [raiseIf_neg (by omega), ok_bind]
  rfl

/-! ## The search from behind -/

theorem rfind_eq_none {pattern buffer : List UInt8} (h : ¬pattern <:+: buffer) :
    rfind pattern buffer = none := by
  induction buffer with
  | nil =>
    refine if_neg fun hp => h ?_
    subst hp
    exact List.infix_refl _
  | cons byte buffer ih =>
    rw [List.infix_cons_iff, not_or] at h
    rw [rfind, ih h.2, if_neg fun hp => h.1 (List.isPrefixOf_iff_prefix.mp hp)]

/-- **The search from behind** finds the last occurrence. -/
theorem rfind_append {pattern xs ys : List UInt8} (hys : pattern <+: ys) (hne : ys ≠ [])
    (hlast : ¬pattern <:+: ys.tail) : rfind pattern (xs ++ ys) = some xs.length := by
  induction xs with
  | nil =>
    obtain ⟨byte, ys, rfl⟩ := List.exists_cons_of_ne_nil hne
    have hrest : rfind pattern ys = none := rfind_eq_none hlast
    rw [List.nil_append, rfind, hrest, if_pos (List.isPrefixOf_iff_prefix.mpr hys)]
    rfl
  | cons byte xs ih => rw [List.cons_append, rfind, ih, List.length_cons]

/-! ## Extra records -/

theorem fit_extraWidths {kind length : ℕ} (hkind : kind < 2 ^ 16) (hlength : length < 2 ^ 16) :
    Fields.Fit extraWidths [kind, length] :=
  .cons hkind (.cons hlength .nil)

theorem length_encodeRecord {kind : ℕ} {data : List UInt8} (hkind : kind < 2 ^ 16)
    (hdata : data.length < 2 ^ 16) : (encodeRecord kind data).length = 4 + data.length := by
  rw [encodeRecord, List.length_append, Fields.length_pack (fit_extraWidths hkind hdata)]
  rfl

/-- **One turn over the extra records.** -/
theorem findZip64_encodeRecord {kind : ℕ} {data : List UInt8} (hkind : kind < 2 ^ 16)
    (hdata : data.length < 2 ^ 16) (zip64 : Option (List UInt8))
    (hzip64 : kind = 1 → zip64 = none) :
    findZip64 name (before ++ (encodeRecord kind data ++ after)) before.length zip64 =
      findZip64 name (before ++ (encodeRecord kind data ++ after))
        (before.length + (encodeRecord kind data).length)
        (if kind = 1 then some data else zip64) := by
  have hlength := length_encodeRecord hkind hdata
  have hheader : unpackExtra (before ++ (encodeRecord kind data ++ after)) before.length =
      .ok (kind, data.length) := by
    rw [unpackExtra, encodeRecord, List.append_assoc,
      unpackFrom_part (fit_extraWidths hkind hdata)]
    rfl
  have hslice : slice (before ++ (encodeRecord kind data ++ after)) (before.length + 4)
      (before.length + 4 + data.length) = .ok data := by
    have hfields : (before ++ Fields.pack extraWidths [kind, data.length]).length =
        before.length + 4 := by
      rw [List.length_append, Fields.length_pack (fit_extraWidths hkind hdata)]
      rfl
    rw [encodeRecord, List.append_assoc, ← List.append_assoc before, ← hfields, slice_part]
  have hbuffer : (before ++ (encodeRecord kind data ++ after)).length =
      before.length + (4 + data.length) + after.length := by
    rw [List.length_append, List.length_append, hlength, ← Nat.add_assoc before.length]
  rw [findZip64, dif_pos (by omega), raiseIf_neg (by omega), ok_bind, hheader, ok_bind]
  dsimp only
  rw [raiseIf_neg (by omega), ok_bind, hlength, ← Nat.add_assoc]
  split
  · next h => rw [hzip64 h, raiseIf_neg (by simp), ok_bind, hslice, ok_bind]
  · rfl

/-- The records other than ZIP64 are passed over. -/
theorem findZip64_flatMap_encode (name : String) (records : List OtherRecord)
    (before after : List UInt8) (zip64 : Option (List UInt8)) :
    findZip64 name (before ++ (records.flatMap OtherRecord.encode ++ after)) before.length zip64 =
      findZip64 name (before ++ (records.flatMap OtherRecord.encode ++ after))
        (before.length + (records.flatMap OtherRecord.encode).length) zip64 := by
  induction records generalizing before with
  | nil => rfl
  | cons record records ih =>
    have hrest := ih (before ++ record.encode)
    rw [List.append_assoc, List.length_append] at hrest
    rw [List.flatMap_cons, List.append_assoc, OtherRecord.encode,
      findZip64_encodeRecord record.kind.toNat_lt record.data_lt zip64
        fun h => absurd h record.kind_ne,
      if_neg record.kind_ne]
    rw [OtherRecord.encode] at hrest
    rw [hrest, List.length_append, Nat.add_assoc]

/-- The end of the extra data. -/
theorem findZip64_length (extra : List UInt8) (zip64 : Option (List UInt8)) :
    findZip64 name extra extra.length zip64 = .ok zip64 := by
  rw [findZip64, dif_neg (Nat.lt_irrefl _)]
  rfl

/-- **The ZIP64 record** is found wherever it stands. -/
theorem findZip64_encodeExtra {extraBefore extraAfter : List OtherRecord} {values : List ℕ}
    (hzip64 : zip64Data values ≠ []) (hlength : (zip64Data values).length < 2 ^ 16) :
    findZip64 name (encodeExtra extraBefore values extraAfter) 0 none =
      .ok (some (zip64Data values)) := by
  have hbefore := findZip64_flatMap_encode name extraBefore []
    (encodeZip64 values ++ extraAfter.flatMap OtherRecord.encode) none
  have hafter := findZip64_flatMap_encode name extraAfter
    (extraBefore.flatMap OtherRecord.encode ++ encodeZip64 values) [] (some (zip64Data values))
  rw [encodeZip64, if_neg hzip64] at *
  rw [List.nil_append, List.length_nil, Nat.zero_add] at hbefore
  rw [List.append_nil, ← List.length_append, findZip64_length, List.append_assoc,
    List.length_append] at hafter
  rw [encodeExtra, encodeZip64, if_neg hzip64, hbefore,
    findZip64_encodeRecord (by decide) hlength none fun _ => rfl, if_pos rfl, hafter]

/-! ## The values in the ZIP64 record -/

/-- A value as `takeValues` is given it. -/
def narrowField (n : ℕ) : ℕ × ℕ × ℕ := (narrow n, 0xFFFFFFFF, 8)

theorem narrow_of_lt {n : ℕ} (h : n < 0xFFFFFFFF) : narrow n = n := Nat.min_eq_left h.le

theorem narrow_of_le {n : ℕ} (h : 0xFFFFFFFF ≤ n) : narrow n = 0xFFFFFFFF := Nat.min_eq_right h

theorem lt_of_narrow_ne {n : ℕ} (h : narrow n ≠ 0xFFFFFFFF) : n < 0xFFFFFFFF :=
  Nat.lt_of_not_le fun hle => h (narrow_of_le hle)

theorem narrow_lt (n : ℕ) : narrow n < 2 ^ 32 :=
  (Nat.min_le_right _ _).trans_lt (by decide)

theorem zip64Data_cons_of_le {n : ℕ} {values : List ℕ} (h : 0xFFFFFFFF ≤ n) :
    zip64Data (n :: values) = Fields.spell 8 n ++ zip64Data values := by
  rw [zip64Data, List.filter_cons_of_pos (by rwa [decide_eq_true_eq]), List.flatMap_cons,
    zip64Data]

theorem zip64Data_cons_of_lt {n : ℕ} {values : List ℕ} (h : n < 0xFFFFFFFF) :
    zip64Data (n :: values) = zip64Data values := by
  rw [zip64Data, List.filter_cons_of_neg (by rw [decide_eq_true_eq]; omega), zip64Data]

/-- There is no ZIP64 record where every value fits its field. -/
theorem zip64Data_eq_nil {values : List ℕ} :
    zip64Data values = [] ↔ ∀ n ∈ values, n < 0xFFFFFFFF := by
  induction values with
  | nil => exact ⟨fun _ => nofun, fun _ => rfl⟩
  | cons n values ih =>
    rw [List.forall_mem_cons]
    rcases Nat.lt_or_ge n 0xFFFFFFFF with h | h
    · rw [zip64Data_cons_of_lt h, ih, and_iff_right h]
    · rw [zip64Data_cons_of_le h]
      refine iff_of_false (fun hnil => ?_) fun hlt => absurd h (Nat.not_le.mpr hlt.1)
      have hlength := congrArg List.length (List.append_eq_nil_iff.mp hnil).1
      rw [Fields.length_spell, List.length_nil] at hlength
      exact absurd hlength (by decide)

theorem length_zip64Data (values : List ℕ) :
    (zip64Data values).length ≤ 8 * values.length := by
  induction values with
  | nil => exact Nat.le_refl 0
  | cons n values ih =>
    rw [List.length_cons]
    rcases Nat.lt_or_ge n 0xFFFFFFFF with h | h
    · rw [zip64Data_cons_of_lt h]
      omega
    · rw [zip64Data_cons_of_le h, List.length_append, Fields.length_spell]
      omega

/-- **The values come back**, in the order in which they were spelled. -/
theorem takeValues_narrow {values : List ℕ} (hvalues : ∀ n ∈ values, n < 2 ^ 64)
    (before : List UInt8) :
    takeValues name (before ++ zip64Data values) (values.map narrowField ++ [(0, 0xFFFF, 4)])
        before.length =
      .ok (values ++ [0], (before ++ zip64Data values).length) := by
  induction values generalizing before with
  | nil =>
    rw [zip64Data, List.filter_nil, List.flatMap_nil, List.append_nil, List.map_nil,
      List.nil_append, takeValues, if_neg (by decide), takeValues]
    rfl
  | cons n values ih =>
    obtain ⟨hn, hvalues⟩ := List.forall_mem_cons.mp hvalues
    rw [List.map_cons, List.cons_append, narrowField, takeValues]
    rcases Nat.lt_or_ge n 0xFFFFFFFF with h | h
    · rw [zip64Data_cons_of_lt h, narrow_of_lt h, if_neg h.ne, ih hvalues]
      rfl
    · have hlength := Fields.length_spell 8 n
      have hslice : slice (before ++ (Fields.spell 8 n ++ zip64Data values)) before.length
          (before.length + 8) = .ok (Fields.spell 8 n) := by
        have hpart := slice_part before (Fields.spell 8 n) (zip64Data values)
        rwa [hlength] at hpart
      have hrest := ih hvalues (before ++ Fields.spell 8 n)
      rw [List.append_assoc, List.length_append, hlength] at hrest
      rw [zip64Data_cons_of_le h, narrow_of_le h, if_pos rfl,
        raiseIf_neg (by simp only [List.length_append, hlength]; omega), ok_bind, hslice, ok_bind,
        hrest, ok_bind, Fields.value_spell hn]
      rfl

/-- **The values of a member** come back from their fields and its extra data. -/
theorem resolveZip64Fields_encodeExtra {size compressedSize localHeaderOffset : ℕ}
    {extraBefore extraAfter : List OtherRecord} (hsize : size < 2 ^ 64)
    (hcompressedSize : compressedSize < 2 ^ 64) (hoffset : localHeaderOffset < 2 ^ 64) :
    resolveZip64Fields name (narrow size) (narrow compressedSize) (narrow localHeaderOffset) 0
        (encodeExtra extraBefore [size, compressedSize, localHeaderOffset] extraAfter) =
      .ok (size, compressedSize, localHeaderOffset, 0) := by
  have hvalues : ∀ n ∈ [size, compressedSize, localHeaderOffset], n < 2 ^ 64 := by
    simp only [List.forall_mem_cons]
    exact ⟨hsize, hcompressedSize, hoffset, nofun⟩
  rw [resolveZip64Fields]
  by_cases hzip64 : zip64Data [size, compressedSize, localHeaderOffset] = []
  · obtain ⟨h₁, h₂, h₃⟩ : size < 0xFFFFFFFF ∧ compressedSize < 0xFFFFFFFF ∧
        localHeaderOffset < 0xFFFFFFFF := by
      simpa only [List.forall_mem_cons, List.not_mem_nil, false_imp_iff, implies_true, and_true]
        using zip64Data_eq_nil.mp hzip64
    rw [narrow_of_lt h₁, narrow_of_lt h₂, narrow_of_lt h₃,
      if_pos ⟨h₁.ne, h₂.ne, h₃.ne, by decide⟩]
    rfl
  · have hwide : ¬(narrow size ≠ 0xFFFFFFFF ∧ narrow compressedSize ≠ 0xFFFFFFFF ∧
        narrow localHeaderOffset ≠ 0xFFFFFFFF ∧ (0 : ℕ) ≠ 0xFFFF) := by
      rintro ⟨h₁, h₂, h₃, -⟩
      refine hzip64 (zip64Data_eq_nil.mpr ?_)
      simp only [List.forall_mem_cons]
      exact ⟨lt_of_narrow_ne h₁, lt_of_narrow_ne h₂, lt_of_narrow_ne h₃, nofun⟩
    have hlength : (zip64Data [size, compressedSize, localHeaderOffset]).length ≤ 24 :=
      length_zip64Data _
    have htake : takeValues name (zip64Data [size, compressedSize, localHeaderOffset])
        [(narrow size, 0xFFFFFFFF, 8), (narrow compressedSize, 0xFFFFFFFF, 8),
          (narrow localHeaderOffset, 0xFFFFFFFF, 8), (0, 0xFFFF, 4)] 0 =
        .ok ([size, compressedSize, localHeaderOffset, 0],
          (zip64Data [size, compressedSize, localHeaderOffset]).length) :=
      takeValues_narrow hvalues []
    rw [if_neg hwide, findZip64_encodeExtra hzip64 (hlength.trans_lt (by decide)), ok_bind]
    dsimp only
    rw [htake, ok_bind]
    dsimp only
    rw [raiseIf_neg fun h => h rfl, ok_bind]
    rfl

/-! ## Members -/

namespace Entry

variable (entry : Entry)

theorem extra_length_lt : entry.extra.length < 2 ^ 16 := entry.extra_lt

theorem fit_header : Fields.Fit centralWidths entry.header :=
  .cons (by decide) <| .cons entry.versionMadeBy.toNat_lt <| .cons entry.versionNeeded.toNat_lt <|
  .cons entry.flags.toNat_lt <| .cons entry.compression.toNat_lt <| .cons entry.time.toNat_lt <|
  .cons entry.date.toNat_lt <| .cons entry.crc32.toNat_lt <| .cons (narrow_lt _) <|
  .cons (narrow_lt _) <| .cons entry.nameBytes_lt <| .cons entry.extra_length_lt <|
  .cons entry.comment_lt <| .cons (by decide) <| .cons entry.internalAttributes.toNat_lt <|
  .cons entry.externalAttributes.toNat_lt <| .cons (narrow_lt _) .nil

theorem length_pack_header : (Fields.pack centralWidths entry.header).length = 46 :=
  Fields.length_pack entry.fit_header

theorem length_encode : entry.encode.length =
    46 + entry.nameBytes.length + entry.extra.length + entry.comment.length := by
  rw [encode, List.length_append, List.length_append, List.length_append,
    entry.length_pack_header, ← Nat.add_assoc, ← Nat.add_assoc]

/-- The header is read from the start of the member. -/
theorem unpackCentral_encode :
    unpackCentral (before ++ (entry.encode ++ after)) before.length =
      .ok ⟨Fields.value centralSignature, entry.flags.toNat, entry.compression.toNat,
        entry.crc32.toNat, narrow entry.compressedSize.toNat, narrow entry.size.toNat,
        entry.nameBytes.length, entry.extra.length, entry.comment.length, 0,
        narrow entry.localHeaderOffset.toNat⟩ := by
  rw [unpackCentral, encode, List.append_assoc, unpackFrom_part entry.fit_header]
  rfl

/-- The name stands behind the header. -/
theorem slice_nameBytes :
    slice (before ++ (entry.encode ++ after)) (before.length + 46)
      (before.length + 46 + entry.nameBytes.length) = .ok entry.nameBytes := by
  have hpart := slice_part (before ++ Fields.pack centralWidths entry.header) entry.nameBytes
    (entry.extra ++ entry.comment ++ after)
  rw [List.length_append, entry.length_pack_header] at hpart
  simpa only [encode, List.append_assoc] using hpart

/-- The extra data stands behind the name. -/
theorem slice_extra :
    slice (before ++ (entry.encode ++ after)) (before.length + 46 + entry.nameBytes.length)
        (before.length + 46 + entry.nameBytes.length + entry.extra.length) =
      .ok entry.extra := by
  have hpart := slice_part (before ++ Fields.pack centralWidths entry.header ++ entry.nameBytes)
    entry.extra (entry.comment ++ after)
  rw [List.length_append, List.length_append, entry.length_pack_header] at hpart
  simpa only [encode, List.append_assoc] using hpart

end Entry

/-- **One turn of the loop** reads one member, and goes on behind it. -/
theorem readMember_encode (entry : Entry) {result : Members}
    (hname : entry.name ∉ result.map Prod.fst) :
    readMember (before ++ (entry.encode ++ after)) before.length result =
      .ok ((before ++ entry.encode).length, result ++ [(entry.name, entry.member)]) := by
  have hbuffer : (before ++ (entry.encode ++ after)).length =
      before.length + (46 + entry.nameBytes.length + entry.extra.length + entry.comment.length) +
        after.length := by
    rw [List.length_append, List.length_append, entry.length_encode, ← Nat.add_assoc before.length]
  have hstop : before.length + 46 + entry.nameBytes.length + entry.extra.length +
      entry.comment.length = (before ++ entry.encode).length := by
    rw [List.length_append, entry.length_encode]
    omega
  have hresolve : resolveZip64Fields entry.name (narrow entry.size.toNat)
      (narrow entry.compressedSize.toNat) (narrow entry.localHeaderOffset.toNat) 0 entry.extra =
      .ok (entry.size.toNat, entry.compressedSize.toNat, entry.localHeaderOffset.toNat, 0) :=
    resolveZip64Fields_encodeExtra entry.size.toNat_lt entry.compressedSize.toNat_lt
      entry.localHeaderOffset.toNat_lt
  rw [readMember, raiseIf_neg (by omega), ok_bind, entry.unpackCentral_encode, ok_bind]
  dsimp only
  rw [raiseIf_neg fun h => h rfl, ok_bind, raiseIf_neg (by omega), ok_bind, entry.slice_nameBytes,
    ok_bind, entry.slice_extra, ok_bind, entry.decodes]
  dsimp only
  rw [raiseIf_neg fun h => h entry.unencrypted, ok_bind, raiseIf_neg hname, ok_bind, hresolve,
    ok_bind]
  dsimp only
  rw [raiseIf_neg fun h => h rfl, ok_bind, hstop]
  rfl

/-- **The loop over the members** reads them in their order. -/
theorem readMembers_encode {entries : List Entry} (before after : List UInt8) (result : Members)
    (hnames : (result.map Prod.fst ++ entries.map Entry.name).Nodup) :
    readMembers (before ++ (encodeCentral entries ++ after)) entries.length before.length result =
      .ok ((before ++ encodeCentral entries).length,
        result ++ entries.map fun entry => (entry.name, entry.member)) := by
  induction entries generalizing before result with
  | nil => rw [encodeCentral, List.flatMap_nil, List.map_nil, List.append_nil, List.append_nil]; rfl
  | cons entry entries ih =>
    rw [List.map_cons] at hnames
    have hname : entry.name ∉ result.map Prod.fst := fun hmem =>
      (List.nodup_append.mp hnames).2.2 _ hmem _ (List.mem_cons_self ..) rfl
    have hrest := ih (before ++ entry.encode) (result ++ [(entry.name, entry.member)])
      (by rwa [List.map_append, List.append_assoc])
    rw [List.append_assoc, List.append_assoc, List.append_assoc] at hrest
    rw [encodeCentral, List.flatMap_cons, List.append_assoc, List.length_cons, readMembers,
      readMember_encode entry hname, ok_bind]
    exact hrest

/-! ## The end record -/

namespace Archive

variable (archive : Archive)

/-- The values of the end record. -/
def endValues : List ℕ :=
  [Fields.value endSignature, 0, 0, archive.entries.length, archive.entries.length,
    (encodeCentral archive.entries).length, archive.body.length, archive.comment.length]

theorem central_lt : (encodeCentral archive.entries).length < 2 ^ 32 :=
  archive.central_le.trans_lt (by decide)

theorem fit_endValues : Fields.Fit endWidths archive.endValues :=
  have hcount : archive.entries.length < 2 ^ 16 := archive.entries_lt.trans (by decide)
  .cons (by decide) <| .cons (by decide) <| .cons (by decide) <| .cons hcount <| .cons hcount <|
  .cons archive.central_lt <| .cons (archive.body_lt.trans (by decide)) <|
  .cons archive.comment_lt .nil

theorem endRecord_eq :
    archive.endRecord = Fields.pack endWidths archive.endValues ++ archive.comment := rfl

theorem length_endRecord : archive.endRecord.length = 22 + archive.comment.length := by
  rw [endRecord_eq, List.length_append, Fields.length_pack archive.fit_endValues]
  rfl

theorem endSignature_prefix : endSignature <+: archive.endRecord := by
  have hspell : Fields.spell 4 (Fields.value endSignature) = endSignature := by decide
  rw [endRecord_eq, endValues, endWidths, Fields.pack, hspell, List.append_assoc]
  exact List.prefix_append _ _

/-- The directory is not empty. -/
theorem central_pos : 0 < (encodeCentral archive.entries).length := by
  obtain ⟨entry, entries, hentries⟩ := List.exists_cons_of_ne_nil archive.entries_ne
  rw [hentries, encodeCentral, List.flatMap_cons, List.length_append, entry.length_encode]
  omega

/-- What the parser takes of the end record. -/
def record : EndRecord :=
  ⟨Fields.value endSignature, 0, 0, archive.entries.length, archive.entries.length,
    (encodeCentral archive.entries).length, archive.body.length, archive.comment.length⟩

theorem unpackEnd_endRecord :
    unpackEnd (before ++ archive.endRecord) before.length = .ok archive.record := by
  rw [unpackEnd, endRecord_eq, unpackFrom_part archive.fit_endValues]
  rfl

/-- What stands before the end record. -/
def front : List UInt8 := archive.body ++ (encodeCentral archive.entries ++ archive.gap)

theorem encode_eq : archive.encode = archive.front ++ archive.endRecord := by
  rw [encode, front, List.append_assoc, List.append_assoc]

/-- **The end record** passes its checks. -/
theorem checkEnd_record {tailOffset endOffset : ℕ}
    (hoffset : tailOffset + endOffset = archive.front.length) :
    checkEnd archive.record tailOffset endOffset (endOffset + archive.endRecord.length) =
      .ok () := by
  have hpos : 0 < archive.entries.length := List.length_pos_iff.mpr archive.entries_ne
  have hcount := archive.entries_lt
  have hbody := archive.body_lt
  have hcentral := archive.central_le
  have hcentralPos := archive.central_pos
  have hbound : maxCentralDirectoryBytes = 4194304 := rfl
  rw [front, List.length_append, List.length_append] at hoffset
  rw [checkEnd, record]
  dsimp only
  rw [raiseIf_neg (by simp), ok_bind, raiseIf_neg (by omega), ok_bind,
    raiseIf_neg (by rw [archive.length_endRecord]; omega), ok_bind, raiseIf_neg (by omega),
    ok_bind, raiseIf_neg (by omega), ok_bind, raiseIf_neg (by omega)]

/-- The last bytes of the archive hold its end record. -/
theorem exists_tail : ∃ before : List UInt8,
    archive.encode.length - min archive.encode.length (65535 + 22) + before.length =
      archive.front.length ∧
    readExactRange archive.encode
        (archive.encode.length - min archive.encode.length (65535 + 22) : ℕ)
        (archive.encode.length - 1) =
      .ok (before ++ archive.endRecord) := by
  have hcomment := archive.comment_lt
  have hlength := archive.length_endRecord
  have hencode : archive.encode.length = archive.front.length + archive.endRecord.length := by
    rw [encode_eq, List.length_append]
  obtain ⟨tailOffset, htail⟩ : ∃ tailOffset,
      tailOffset = archive.encode.length - min archive.encode.length (65535 + 22) := ⟨_, rfl⟩
  have hle : tailOffset ≤ archive.front.length := by omega
  have htake : (archive.front.take tailOffset).length = tailOffset := List.length_take_of_le hle
  have hdrop : (archive.front.drop tailOffset).length = archive.front.length - tailOffset :=
    List.length_drop
  have hne : archive.front.drop tailOffset ++ archive.endRecord ≠ [] := by
    rw [← List.length_pos_iff, List.length_append]
    omega
  have hpart := readExactRange_part (archive.front.take tailOffset) [] hne
  rw [List.append_nil, ← List.append_assoc, List.take_append_drop, ← encode_eq, htake,
    List.length_append, hdrop] at hpart
  refine ⟨archive.front.drop tailOffset, by omega, ?_⟩
  rw [← htail, ← hpart]
  congr 1
  omega

/-- **The members of an archive** are what its parser returns. -/
theorem parseCentralDirectory_encode :
    parseCentralDirectory archive.encode = .ok archive.members := by
  obtain ⟨before, hoffset, htail⟩ := archive.exists_tail
  have hne : archive.endRecord ≠ [] := by
    rw [← List.length_pos_iff, archive.length_endRecord]
    omega
  have hfind : rfind endSignature (before ++ archive.endRecord) = some before.length :=
    rfind_append archive.endSignature_prefix hne archive.signature_last
  have hpayload : readExactRange archive.encode archive.body.length
      (archive.body.length + (encodeCentral archive.entries).length - 1) =
      .ok (encodeCentral archive.entries) :=
    readExactRange_part _ _ (List.length_pos_iff.mp archive.central_pos)
  have hread : readMembers (encodeCentral archive.entries) archive.entries.length 0 [] =
      .ok ((encodeCentral archive.entries).length, archive.members) := by
    have hloop := readMembers_encode [] [] [] archive.names_nodup
    rwa [List.nil_append, List.append_nil, List.nil_append] at hloop
  rw [parseCentralDirectory]
  dsimp only
  rw [htail, ok_bind, hfind]
  dsimp only
  rw [raiseIf_neg (by rw [List.length_append, archive.length_endRecord]; omega), ok_bind,
    archive.unpackEnd_endRecord, ok_bind, List.length_append, archive.checkEnd_record hoffset,
    ok_bind]
  rw [record]
  dsimp only
  rw [hpayload, ok_bind, hread, ok_bind]
  dsimp only
  rw [raiseIf_neg fun h => h rfl, ok_bind]
  rfl

end Archive

/-- **The parser inverts the format**: of an archive it returns the members, and of any byte
string it returns some or raises its own error, reading nothing outside its buffers. -/
theorem parseCentralDirectory_inverts :
    (∀ archive : Archive, parseCentralDirectory archive.encode = .ok archive.members) ∧
      ∀ source : List UInt8, (∃ result, parseCentralDirectory source = .ok result) ∨
        ∃ message, parseCentralDirectory source = .error (.fetch message) := by
  refine ⟨Archive.parseCentralDirectory_encode, fun source => ?_⟩
  cases h : parseCentralDirectory source with
  | ok result => exact .inl ⟨result, rfl⟩
  | error error =>
    obtain ⟨message, rfl⟩ := parseCentralDirectory_raisesOnly source error h
    exact .inr ⟨message, rfl⟩

/-- An archive with a member of `0xFFFFFFFF` bytes, whose ZIP64 record stands between two others,
and with the signature of the end record before it and in the comment of the member. -/
def sampleArchive : Archive where
  body := [80, 75, 5, 6]
  entries := [{
    name := "lib/a"
    nameBytes := [108, 105, 98, 47, 97]
    versionMadeBy := 45
    versionNeeded := 45
    flags := 0x800
    compression := 8
    time := 0
    date := 33
    crc32 := 0xCAFE
    compressedSize := 12
    size := 0xFFFFFFFF
    internalAttributes := 0
    externalAttributes := 0
    localHeaderOffset := 0x123456789
    extraBefore := [⟨0x5455, [1, 2, 3], by decide, by decide⟩]
    extraAfter := [⟨0x7875, [], by decide, by decide⟩]
    comment := [80, 75, 5, 6]
    decodes := by decide +kernel
    unencrypted := by decide
    nameBytes_lt := by decide
    extra_lt := by decide +kernel
    comment_lt := by decide }]
  gap := [0]
  comment := [33]
  entries_ne := by decide
  entries_lt := by decide
  names_nodup := by decide
  body_lt := by decide
  central_le := by decide +kernel
  comment_lt := by decide
  signature_last := by decide +kernel

example : parseCentralDirectory sampleArchive.encode = .ok [("lib/a",
    { name := "lib/a", flags := 0x800, compression := 8, crc32 := 0xCAFE, compressedSize := 12,
      size := 0xFFFFFFFF, localHeaderOffset := 0x123456789 })] := by decide +kernel

end Kapsl.Ort.Zip
