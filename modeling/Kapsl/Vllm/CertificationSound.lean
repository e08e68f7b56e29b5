import Mathlib.Data.Set.Function
import Kapsl.Vllm.Certification

/-!
# Vllm/CertificationSound — what an accepted report vouches for

`Sound` is what a report has to say before a shared pool may be authorised by it.  The validator
reads its digests with `int(text, 16)` and compares them as texts, so that two kinds of report pass
without being sound.

* `sound_iff_plainDigests` — an accepted report is sound if and only if its digests have nothing but
  digits in them, and no digest taken after the write is the sentinel's in other letters.
* `not_sound_respelledReport` — an accepted report that is not.
-/

namespace Kapsl.Vllm.Certification

/-! ## Soundness -/

/-- The hash of the whole allocation, filled with the sentinel. -/
def sentinel (report : Json) : String :=
  Sha256.hexdigest (List.replicate ((geometry report).get "allocation_bytes").toNat 0x5a)

/-- Exactly 64 hexadecimal digits. -/
def IsDigest (text : String) : Prop :=
  text.toList.length = 64 ∧ ∀ c ∈ text.toList, HexText.IsDigit c

/-- **The ranks are covered**: each of them once, and by devices one to one. -/
structure Covers (report : Json) (n : ℕ) (devices : List ℕ) (deviceOf : ℕ → ℕ) : Prop where
  get_worldSize : (report.get "matrix").get "tensor_parallel_world_size" = .int n
  get_devices : (report.get "matrix").get "devices" = .list (devices.map fun d : ℕ => .int d)
  devices_nodup : devices.Nodup
  ranks_perm :
    ((rankReports report).map (·.get "rank")).Perm ((List.range n).map fun r : ℕ => .int r)
  get_device : ∀ rank ∈ rankReports report, ∃ r : ℕ, rank.get "rank" = .int r ∧
    rank.get "device_id" = .int (deviceOf r)
  bijOn : Set.BijOn deviceOf {r | r < n} {d | d ∈ devices}
  bindings_nodup : ((rankReports report).map (·.get "binding_id")).Nodup

/-- **The bytes are accounted for**, by the geometry and by each rank. -/
structure Accounts (report : Json) (blocks dense guards padded allocation : ℕ) : Prop where
  get_blocks : (geometry report).get "num_blocks" = .int blocks
  get_dense : (geometry report).get "dense_page_bytes" = .int dense
  get_guards : (geometry report).get "guard_bytes_per_block" = .int guards
  get_padded : (geometry report).get "padded_page_bytes" = .int padded
  get_allocation : (geometry report).get "allocation_bytes" = .int allocation
  padded_eq : padded = dense + guards
  allocation_eq : allocation = blocks * padded
  get_imported : ∀ rank ∈ rankReports report,
    (evidence rank .allocatorAttachment).get "imported_bytes" = .int allocation
  get_guarded : ∀ rank ∈ rankReports report,
    (evidence rank .backendNativeWrite).get "guard_bytes_checked" = .int (guards * blocks : ℕ)

/-- **Every gate passed**: those required of the report, and those of each rank. -/
structure GatesPassed (report : Json) : Prop where
  required : ∀ name ∈ requiredGates, ((report.get "gates").get name).get "passed" = .bool true
  ranks : ∀ rank ∈ rankReports report, rank.get "passed" = .bool true
  rankGates : ∀ rank ∈ rankReports report, ∀ gate : RankGate,
    ((rank.get "gates").get gate.name).get "passed" = .bool true
  lifecycle : ∀ rank ∈ rankReports report, ∀ field ∈ lifecycleFields,
    (rank.get "lifecycle").get field = .bool true

/-- **The digests of a rank** are digits; the first denotes the sentinel's hash, the second another
number of 256 bits. -/
structure Written (decimal : Char → Option (Fin 10)) (report rank : Json) (before after : String) :
    Prop where
  get_before : (evidence rank .allocatorAttachment).get "raw_sha256_before_write" = .str before
  get_after : (evidence rank .backendNativeWrite).get "raw_sha256_after_write" = .str after
  before_digest : IsDigest before
  after_digest : IsDigest after
  before_eq : HexText.parse isPySpace decimal before =
    HexText.parse isPySpace decimal (sentinel report)
  after_lt : ∃ v : ℕ, HexText.parse isPySpace decimal after = some (v : ℤ) ∧ v < 2 ^ 256
  after_ne : HexText.parse isPySpace decimal after ≠ HexText.parse isPySpace decimal before

/-- **What an accepted report should vouch for.**  Of its gates, those that are required and those of
each rank are read; a report may have others, and nothing is said of them. -/
structure Sound (decimal : Char → Option (Fin 10)) (report : Json) : Prop where
  covers : ∃ n devices deviceOf, Covers report n devices deviceOf
  accounts : ∃ blocks dense guards padded allocation,
    Accounts report blocks dense guards padded allocation
  gates : GatesPassed report
  builds : ∀ field ∈ buildFields, ∃ digest,
    (report.get "environment").get field = .str ("sha256:" ++ digest) ∧ IsDigest digest
  written : ∀ rank ∈ rankReports report, ∃ before after, Written decimal report rank before after
  entry : ∃ (entry : String) (fields : List String), allowlistEntry decimal report = .ok entry ∧
    profileFields.map (fun field => (report.get "profile").get field) = fields.map .str ∧
    entry.toList.splitOn ',' = fields.map String.toList

/-! ## The condition -/

/-- Nothing in the text but what the reader takes for digits as they stand. -/
def Plain (text : String) : Prop := ∀ c ∈ text.toList, ¬HexText.Special c

/-- What a rank gives for the digest before the write. -/
def beforeWrite (rank : Json) : String :=
  ((evidence rank .allocatorAttachment).get "raw_sha256_before_write").toStr

/-- What a rank gives for the digest after the write. -/
def afterWrite (rank : Json) : String :=
  ((evidence rank .backendNativeWrite).get "raw_sha256_after_write").toStr

/-- **The digests mean what they spell**: they are plain, and the one after the write is not the one
before it in other letters. -/
structure PlainDigests (report : Json) : Prop where
  builds : ∀ field ∈ buildFields, Plain (afterScheme ((report.get "environment").get field).toStr)
  writes : ∀ rank ∈ rankReports report, Plain (afterWrite rank)
  recased : ∀ rank ∈ rankReports report,
    (afterWrite rank).toList.map Char.toLower ≠ (beforeWrite rank).toList

/-! ## What is sound in any accepted report -/

section

variable {decimal : Char → Option (Fin 10)} {report : Json} {m : Matrix} {ids : List Identity}

/-- Two ways to tell the members of a list apart correspond to each other. -/
theorem exists_bijOn {α β γ : Type} [Nonempty γ] {xs : List γ} {f : γ → α} {g : γ → β}
    (hf : (xs.map f).Nodup) (hg : (xs.map g).Nodup) :
    ∃ h : α → β, (∀ x ∈ xs, h (f x) = g x) ∧
      Set.BijOn h {a | a ∈ xs.map f} {b | b ∈ xs.map g} := by
  have hinjf : Set.InjOn f {x | x ∈ xs} := fun _ hx _ hy => List.inj_on_of_nodup_map hf hx hy
  have hinjg : Set.InjOn g {x | x ∈ xs} := fun _ hx _ hy => List.inj_on_of_nodup_map hg hx hy
  have himage : ∀ {δ : Type} (k : γ → δ), {b | b ∈ xs.map k} = Set.image k {x | x ∈ xs} :=
    fun k => Set.ext fun b => List.mem_map
  refine ⟨g ∘ Function.invFunOn f {x | x ∈ xs}, fun x hx => ?_, ?_⟩
  · exact congrArg g (hinjf.leftInvOn_invFunOn hx)
  · rw [himage f, himage g]
    have hinv := hinjf.bijOn_image.invOn_invFunOn.symm
    exact hinjg.bijOn_image.comp (hinjf.bijOn_image.symm hinv)

/-- What the reports of the ranks say is what the identities are. -/
theorem map_of_names {α : Type} {reports : List Json} {f : Json → α} {g : Identity → α}
    (h : List.Forall₂ Names reports ids) (hfg : ∀ raw id, Names raw id → f raw = g id) :
    reports.map f = ids.map g := by
  induction h with
  | nil => rfl
  | cons hnames _ ih => rw [List.map_cons, List.map_cons, hfg _ _ hnames, ih]

/-- Each report names an identity. -/
theorem exists_names {reports : List Json} (h : List.Forall₂ Names reports ids) {raw : Json}
    (hraw : raw ∈ reports) : ∃ id ∈ ids, Names raw id := by
  induction h with
  | nil => exact absurd hraw List.not_mem_nil
  | cons hnames _ ih =>
    obtain rfl | hraw := List.mem_cons.mp hraw
    · exact ⟨_, List.mem_cons_self, hnames⟩
    · obtain ⟨id, hid, hnames⟩ := ih hraw
      exact ⟨id, List.mem_cons_of_mem _ hid, hnames⟩

theorem covers (h : ReportPassed decimal report m ids) :
    ∃ deviceOf, Covers report m.worldSize m.devices deviceOf := by
  obtain ⟨deviceOf, hdeviceOf, hbij⟩ := exists_bijOn h.ranks_nodup h.devices_nodup
  have hworld : {r | r ∈ ids.map (·.rank)} = {r | r < m.worldSize} := Set.ext h.mem_ranks
  have hdevices : {d | d ∈ ids.map (·.deviceId)} = {d | d ∈ m.devices} := Set.ext h.mem_devices
  refine ⟨deviceOf, h.matrix.worldSize, h.matrix.devices, h.matrix.devices_nodup, ?_, ?_,
    hworld ▸ hdevices ▸ hbij, ?_⟩
  · have hrange : (ids.map (·.rank)).Perm (List.range m.worldSize) :=
      (List.perm_ext_iff_of_nodup h.ranks_nodup List.nodup_range).mpr fun r => by
        rw [h.mem_ranks, List.mem_range]
    rw [map_of_names h.names fun _ _ hnames => hnames.rank]
    have hmap := hrange.map fun r : ℕ => Json.int r
    rwa [List.map_map] at hmap
  · intro rank hrank
    obtain ⟨id, hid, hnames⟩ := exists_names h.names hrank
    exact ⟨id.rank, hnames.rank, by rw [hnames.deviceId, hdeviceOf id hid]⟩
  · rw [map_of_names h.names fun _ _ hnames => hnames.bindingId]
    have hmap := h.bindings_nodup.map (f := Json.str) fun _ _ => Json.str.inj
    rwa [List.map_map] at hmap

theorem accounts (h : ReportPassed decimal report m ids) :
    Accounts report (m.size "num_blocks") (m.size "dense_page_bytes")
      (m.size "guard_bytes_per_block") (m.size "padded_page_bytes")
      (m.size "allocation_bytes") := by
  have hsize := h.matrix.geometry_eq ▸ h.matrix.size
  exact ⟨hsize _ (by decide), hsize _ (by decide), hsize _ (by decide), hsize _ (by decide),
    hsize _ (by decide), h.matrix.padded, h.matrix.allocation, fun rank hrank =>
    (h.ranks rank hrank).imported, fun rank hrank => (h.ranks rank hrank).guards⟩

theorem gatesPassed (h : ReportPassed decimal report m ids) : GatesPassed report :=
  ⟨h.gates, fun rank hrank => (h.ranks rank hrank).passed,
    fun rank hrank => (h.ranks rank hrank).gates, fun rank hrank => (h.ranks rank hrank).lifecycle⟩

/-- **The allowlist value** has the fields of the profile between its commas. -/
theorem entry_of_accepted (h : validateCertificationReport decimal report = .ok ())
    (hp : ReportPassed decimal report m ids) :
    ∃ (entry : String) (fields : List String), allowlistEntry decimal report = .ok entry ∧
      profileFields.map (fun field => (report.get "profile").get field) = fields.map .str ∧
      entry.toList.splitOn ',' = fields.map String.toList := by
  have hmapping : mapping (report.get "profile") "profile" = .ok (report.get "profile") :=
    mapping_eq_ok.mpr ⟨hp.isMapping, rfl⟩
  refine ⟨_, profileFields.map fun field => ((report.get "profile").get field).toStr,
    by rw [allowlistEntry, h, Except.ok_bind, hmapping]; rfl, ?_, ?_⟩
  · rw [List.map_map]
    refine List.map_congr_left fun field hfield => ?_
    obtain ⟨text, htext, -⟩ := hp.profile field hfield
    simp only [Function.comp, htext, Json.toStr]
  · rw [String.toList_intercalate]
    refine List.splitOn_intercalate ',' (fun chars hchars hcomma => ?_) (by simp [profileFields])
    obtain ⟨_, hmem, rfl⟩ := List.mem_map.mp hchars
    obtain ⟨field, hfield, rfl⟩ := List.mem_map.mp hmem
    obtain ⟨text, htext, hsafe⟩ := hp.profile field hfield
    rw [htext] at hcomma
    exact hsafe.plain ',' hcomma (by decide)

/-! ## What depends on the digests -/

theorem plain_of_isDigest {text : String} (h : IsDigest text) : Plain text :=
  fun c hc => HexText.not_special_of_isDigit (h.2 c hc)

/-- A plain text that passes for a digest is one. -/
theorem isDigest_of_plain {text : String} (h : ReadsAsDigest decimal text) (hplain : Plain text) :
    IsDigest text := by
  obtain ⟨v, hv⟩ := h.reads
  exact ⟨h.length, HexText.digits_of_parse hv hplain⟩

theorem isDigest_sentinel : IsDigest (sentinel report) :=
  ⟨Sha256.length_hexdigest, fun _ => Sha256.isDigit_of_mem_hexdigest⟩

/-- A digest is read as the number it spells. -/
theorem parse_of_isDigest {text : String} (h : IsDigest text) :
    HexText.parse isPySpace decimal text = some (HexText.number text.toList : ℤ) := by
  have hpos : 0 < text.toList.length := by rw [h.1]; decide
  exact HexText.parse_digits (List.ne_nil_of_length_pos hpos) h.2

theorem number_lt_of_isDigest {text : String} (h : IsDigest text) :
    HexText.number text.toList < 2 ^ 256 := by
  have hlt := HexText.number_lt h.2
  rwa [h.1, show (16 : ℕ) ^ 64 = 2 ^ 256 by norm_num] at hlt

/-- Digests denote the same number if they differ in case only. -/
theorem parse_eq_iff_of_isDigest {text text' : String} (h : IsDigest text) (h' : IsDigest text') :
    HexText.parse isPySpace decimal text = HexText.parse isPySpace decimal text' ↔
      text.toList.map Char.toLower = text'.toList.map Char.toLower := by
  rw [parse_of_isDigest h, parse_of_isDigest h', Option.some_inj, Nat.cast_inj,
    HexText.number_eq_iff (h.1.trans h'.1.symm) h.2 h'.2]

theorem build_iff (h : ReportPassed decimal report m ids) {field : String}
    (hfield : field ∈ buildFields) :
    (∃ digest, (report.get "environment").get field = .str ("sha256:" ++ digest) ∧
      IsDigest digest) ↔ Plain (afterScheme ((report.get "environment").get field).toStr) := by
  obtain ⟨text, htext, hreads, hscheme⟩ := h.builds field hfield
  have heq : "sha256:" ++ afterScheme text = text := by
    rw [← String.toList_inj, String.toList_append, hscheme]
  rw [htext, Json.toStr]
  constructor
  · rintro ⟨digest, hdigest, hisDigest⟩
    obtain rfl : digest = afterScheme text := by
      have hboth := congrArg String.toList (Json.str.inj hdigest)
      rw [← hscheme, String.toList_append] at hboth
      exact String.toList_inj.mp (List.append_cancel_left hboth).symm
    exact plain_of_isDigest hisDigest
  · intro hplain
    exact ⟨afterScheme text, by rw [heq], isDigest_of_plain hreads hplain⟩

theorem written_iff (h : ReportPassed decimal report m ids) {rank : Json}
    (hrank : rank ∈ rankReports report) :
    (∃ before after, Written decimal report rank before after) ↔
      Plain (afterWrite rank) ∧
        (afterWrite rank).toList.map Char.toLower ≠ (beforeWrite rank).toList := by
  obtain ⟨before, after, hbefore, hafter, hsentinel, hreads, -⟩ := (h.ranks rank hrank).digests
  have heq : before = sentinel report := by
    rw [hsentinel, Matrix.size, h.matrix.geometry_eq, sentinel]
  have hdigest : IsDigest before := heq ▸ isDigest_sentinel
  have hlower : before.toList.map Char.toLower = before.toList := heq ▸ Sha256.toLower_hexdigest
  rw [afterWrite, beforeWrite, hbefore, hafter, Json.toStr, Json.toStr]
  constructor
  · rintro ⟨before', after', hw⟩
    obtain rfl := Json.str.inj (hbefore.symm.trans hw.get_before)
    obtain rfl := Json.str.inj (hafter.symm.trans hw.get_after)
    have hne := hw.after_ne
    rw [Ne, parse_eq_iff_of_isDigest hw.after_digest hdigest, hlower] at hne
    exact ⟨plain_of_isDigest hw.after_digest, hne⟩
  · rintro ⟨hplain, hne⟩
    have hafterDigest := isDigest_of_plain hreads hplain
    refine ⟨before, after, hbefore, hafter, hdigest, hafterDigest, by rw [heq],
      ⟨_, parse_of_isDigest hafterDigest, number_lt_of_isDigest hafterDigest⟩, ?_⟩
    rwa [Ne, parse_eq_iff_of_isDigest hafterDigest hdigest, hlower]

/-- **An accepted report is sound** if and only if its digests mean what they spell. -/
theorem sound_iff_plainDigests (h : validateCertificationReport decimal report = .ok ()) :
    Sound decimal report ↔ PlainDigests report := by
  obtain ⟨m, ids, hp⟩ := reportPassed_of_validate h
  obtain ⟨deviceOf, hcovers⟩ := covers hp
  constructor
  · intro hsound
    have hwritten := fun rank hrank => (written_iff hp hrank).mp (hsound.written rank hrank)
    exact ⟨fun field hfield => (build_iff hp hfield).mp (hsound.builds field hfield),
      fun rank hrank => (hwritten rank hrank).1, fun rank hrank => (hwritten rank hrank).2⟩
  · intro hplain
    exact
      { covers := ⟨_, _, deviceOf, hcovers⟩
        accounts := ⟨_, _, _, _, _, accounts hp⟩
        gates := gatesPassed hp
        builds := fun field hfield => (build_iff hp hfield).mpr (hplain.builds field hfield)
        written := fun rank hrank =>
          (written_iff hp hrank).mpr ⟨hplain.writes rank hrank, hplain.recased rank hrank⟩
        entry := entry_of_accepted h hp }

end

/-! ## Two reports -/

/-- A gate that passed. -/
def passedGate (evidence : Json) : Json := .obj [("passed", .bool true), ("evidence", evidence)]

/-- SHA-256 of the two bytes of the sentinel. -/
def twoByteSentinel : String := "099987a5188a32ab07b68b4219a824bb83bfcc10aca0fd4f58e41c99b37f09f9"

/-- The profile of the probe. -/
def probeProfile : Json := .obj (profileFields.map fun field => (field, .str "1"))

/-- The builds that are probed. -/
def probeEnvironment : Json :=
  .obj (buildFields.map (fun field => (field, .str ("sha256:" ++ twoByteSentinel))) ++
    versionFields.map fun field => (field, .str "1"))

/-- So many ranks, each with a pool of two bytes on a device of its own. -/
def probeMatrix (ranks : ℕ) : Json :=
  .obj (matrixFields.map (fun field => (field, .str "1")) ++
    [("tensor_parallel_world_size", .int ranks),
      ("devices", .list ((List.range ranks).map fun device => .int device)),
      ("cache_geometry", .obj
        [("num_blocks", .int 1), ("block_size", .int 1), ("num_kv_heads", .int 1),
          ("num_query_heads", .int 1), ("head_size", .int 1), ("dense_page_bytes", .int 1),
          ("guard_bytes_per_block", .int 1), ("padded_page_bytes", .int 2),
          ("allocation_bytes", .int 2)])])

/-- The gates of the probe. -/
def probeGates : Json := .obj (requiredGates.map fun name => (name, passedGate (.str "1")))

/-- A rank after whose write the memory has the digest `after`. -/
def probeRank (rank : ℕ) (after : String) : Json :=
  .obj
    [("rank", .int rank), ("device_id", .int rank), ("binding_id", .str (toString rank)),
      ("passed", .bool true),
      ("device", .obj
        [("name", .str "1"), ("compute_capability", .str "1"), ("total_memory_bytes", .int 1)]),
      ("gates", .obj
        [("allocator_attachment", passedGate (.obj
          [("allocator_poisoned", .bool true), ("pytorch_cuda_allocation_delta_bytes", .int 0),
            ("imported_bytes", .int 2), ("view_count", .int 1),
            ("raw_sha256_before_write", .str twoByteSentinel)])),
          ("backend_native_write", passedGate (.obj
            [("native_function", .str "1"), ("raw_sha256_after_write", .str after),
              ("guard_bytes_checked", .int 1), ("prefill_tokens", .int 1),
              ("decode_writes", .int 2), ("maximum_block_index", .int 0),
              ("production_implementation_binding", .bool true)])),
          ("backend_native_read", passedGate (.obj
            [("native_function", .str "1"), ("implementation", .str "1"),
              ("flash_attention_version", .int 1), ("causal_mutation_max_delta", .int 1),
              ("production_implementation_binding", .bool true)]))]),
      ("lifecycle", .obj (lifecycleFields.map fun field => (field, .bool true)))]

/-- The report of a probe, by the digests after the writes of its ranks. -/
def probeReport (afters : List String) : Json :=
  .obj
    [("schema_version", .int 1), ("status", .str "passed"), ("profile", probeProfile),
      ("environment", probeEnvironment), ("matrix", probeMatrix afters.length),
      ("gates", probeGates), ("ranks", .list (afters.mapIdx probeRank))]

/-- The reports have no characters beyond ASCII that could be decimal digits. -/
def asciiDecimal (_ : Char) : Option (Fin 10) := none

/-- A digest of other memory. -/
def writtenDigest : String := "ba7816bf8f01cfea414140de5dae2223b00361a396177a9cb410ff61f20015ad"

/-- Two ranks whose memory was written. -/
def writtenReport : Json := probeReport [writtenDigest, writtenDigest]

theorem sound_iff_plainDigests_writtenReport :
    validateCertificationReport asciiDecimal writtenReport = .ok () ∧
      (Sound asciiDecimal writtenReport ↔ PlainDigests writtenReport) := by
  have haccepted : validateCertificationReport asciiDecimal writtenReport = .ok () := by
    decide +kernel
  exact ⟨haccepted, sound_iff_plainDigests haccepted⟩

/-- The sentinel's digest in capitals. -/
def respelledDigest : String := "099987A5188A32AB07B68B4219A824BB83BFCC10ACA0FD4F58E41C99B37F09F9"

/-- One rank, which has written nothing. -/
def respelledReport : Json := probeReport [respelledDigest]

/-- **A pool that nothing was written to is accepted**: its digest after the write is the
sentinel's, in capitals. -/
theorem not_sound_respelledReport :
    validateCertificationReport asciiDecimal respelledReport = .ok () ∧
      ¬Sound asciiDecimal respelledReport := by
  have haccepted : validateCertificationReport asciiDecimal respelledReport = .ok () := by
    decide +kernel
  have hcapitals : respelledDigest.toList.map Char.toLower = twoByteSentinel.toList := by
    decide +kernel
  refine ⟨haccepted, fun hsound => ?_⟩
  obtain ⟨m, ids, hp⟩ := reportPassed_of_validate haccepted
  have hmem : probeRank 0 respelledDigest ∈ rankReports respelledReport := List.mem_cons_self
  exact ((written_iff hp hmem).mp (hsound.written _ hmem)).2 hcapitals

end Kapsl.Vllm.Certification
