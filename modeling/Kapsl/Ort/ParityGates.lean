import Kapsl.Ort.Parity

/-!
# Ort/ParityGates — what a passed report shows

A report that passes should show every piece of evidence its gates require, for every capture
(`FailClosed`).  The gates filter missing values out before they compare, and the concurrency points
of the two variants are compared with each other, not with the workload: a value that only some
captures have, or a point that no capture has measured, does not fail a gate.

`failClosed_iff` says that nothing else is missing: a passed report shows all of it exactly when no
required value is mixed and every configured point was measured (`EvidenceComplete`).
-/

namespace Kapsl.Ort.Parity

open Kapsl.Vllm (Json)

variable {F : Type} (R : Runtime F)

/-! ## Evidence -/

def routeVerified (capture : Json) : Bool :=
  ((capture.getD "route_evidence" (.obj [])).getD "verified" (.bool false)).truthy

def hasPeakRss (capture : Json) : Bool :=
  !((capture.getD "memory" (.obj [])).getD "peak_rss_bytes" .null).isNull

def hasStartup (capture : Json) : Bool := !(capture.get "startup_seconds").isNull

/-- Whether the process record of a capture has a field. -/
def hasProcessField (key : String) (capture : Json) : Bool :=
  ((capture.get "process").get key).truthy

/-- Whether a capture has a trial at a concurrency. -/
def measures (level : ℤ) (capture : Json) : Bool :=
  match pointsOf R capture with
  | .ok points => (points.map Prod.fst).contains level
  | .error _ => false

/-- A capture of the variant that shows this executable, these arguments and this directory. -/
structure ShowsProcess (executable argv cwd : String) (variant : Variant) (capture : Json) :
    Prop where
  record : (capture.get "process").isMapping = true
  executable : hasProcessField "executable_sha256" capture = true ∧
    R.str ((capture.get "process").get "executable_sha256") = executable
  argv : hasProcessField "argv_sha256" capture = true ∧
    R.str ((capture.get "process").get "argv_sha256") = argv
  cwd : hasProcessField "cwd" capture = true ∧
    R.str ((capture.get "process").get "cwd") = cwd
  switch : ((capture.get "process").get "generic_native_packs").eqStr variant.switch = true

/-- The fields of a process record that identify a process. -/
def processKeys : List String := ["executable_sha256", "argv_sha256", "cwd"]

/-! ## Tolerance -/

/-- Two elements within tolerance: both `NaN`, one infinity, or finite and close. -/
def ElementOk (maxAbsError maxRelError left right : F) : Prop :=
  (R.isNaN left = true ∧ R.isNaN right = true) ∨
    (R.isNaN left = false ∧ R.isNaN right = false) ∧
      ((R.isInf left = true ∨ R.isInf right = true) ∧ R.eq left right = true ∨
        (R.isInf left = false ∧ R.isInf right = false) ∧
          R.lt (R.add maxAbsError (R.mul maxRelError (R.max (R.abs left) (R.abs right))))
            (R.abs (R.sub left right)) = false)

/-- Two tensors within tolerance: floats element by element, anything else byte by byte. -/
def WithinTolerance (gates : Gates F) (reference tensor : Json) : Prop :=
  (reference.get "shape").pyEq (tensor.get "shape") = true ∧
    (reference.get "dtype").pyEq (tensor.get "dtype") = true ∧
    ∃ left right, tensorBytes R reference = .ok left ∧ tensorBytes R tensor = .ok right ∧
      left.length = right.length ∧
      match floatFormat (R.lower (R.str (reference.get "dtype"))) with
      | none => left = right
      | some format => left.length % format.size = 0 ∧
          ∀ pair ∈ (R.unpack format left).zip (R.unpack format right),
            ElementOk R gates.maxAbsError gates.maxRelError pair.1 pair.2

/-! ## The two statements -/

/-- **What a passed report should show**, for every capture.  The tensors of the first baseline
capture are the reference that those of all the others are held against. -/
structure FailClosed (config : Config F) (baseline candidate : List Json) : Prop where
  route : config.gates.requireRouteEvidence = true →
    ∀ capture ∈ baseline ++ candidate, routeVerified capture = true
  process : config.gates.requireProcessIdentity = true → ∃ executable argv cwd,
    (∀ capture ∈ baseline, ShowsProcess R executable argv cwd .baseline capture) ∧
      ∀ capture ∈ candidate, ShowsProcess R executable argv cwd .candidate capture
  rss : config.gates.requireProcessRss = true →
    ∀ capture ∈ baseline ++ candidate, hasPeakRss capture = true
  startup : config.gates.requireStartupEvidence = true →
    ∀ capture ∈ baseline ++ candidate, hasStartup capture = true
  concurrency : ∀ level ∈ config.concurrency,
    (∃ capture ∈ baseline, measures R level capture = true) ∧
      ∃ capture ∈ candidate, measures R level capture = true
  tensors : ∀ id ∈ config.payloads, ∃ reference,
    captureTensor (baseline.headD .null) id = .ok reference ∧
      ∀ capture ∈ baseline.tail ++ candidate, ∃ tensor, captureTensor capture id = .ok tensor ∧
        WithinTolerance R config.gates reference tensor

/-- A value that all of the captures have, or none. -/
def Unmixed (has : Json → Bool) (captures : List Json) : Prop :=
  (∃ capture ∈ captures, has capture = true) → ∀ capture ∈ captures, has capture = true

/-- No required value is mixed, and every configured point was measured by some capture. -/
structure EvidenceComplete (config : Config F) (baseline candidate : List Json) : Prop where
  process : config.gates.requireProcessIdentity = true →
    ∀ key ∈ processKeys, Unmixed (hasProcessField key) (baseline ++ candidate)
  rss : config.gates.requireProcessRss = true →
    Unmixed hasPeakRss baseline ∧ Unmixed hasPeakRss candidate
  startup : config.gates.requireStartupEvidence = true →
    Unmixed hasStartup baseline ∧ Unmixed hasStartup candidate
  concurrency : ∀ level ∈ config.concurrency,
    ∃ capture ∈ baseline ++ candidate, measures R level capture = true

/-! ## Comparing tensors -/

theorem compareElements_passed {maxAbsError maxRelError : F} {pairs : List (F × F)} :
    ∀ {index : ℕ} {observedAbs observedRel : F},
      (compareElements R maxAbsError maxRelError index observedAbs observedRel pairs).passed =
        true → ∀ pair ∈ pairs, ElementOk R maxAbsError maxRelError pair.1 pair.2 := by
  induction pairs with
  | nil => exact fun _ => nofun
  | cons pair pairs ih =>
    intro index observedAbs observedRel h
    obtain ⟨left, right⟩ := pair
    rw [List.forall_mem_cons]
    rw [compareElements] at h
    split at h
    · split at h
      · exact nomatch h
      · next hboth =>
        simp only [Bool.not_eq_true', Bool.not_eq_false, Bool.and_eq_true] at hboth
        exact ⟨.inl hboth, ih h⟩
    · next hnan =>
      simp only [Bool.not_eq_true, Bool.or_eq_false_iff] at hnan
      split at h
      · next hinf =>
        split at h
        · exact nomatch h
        · next heq =>
          simp only [Bool.not_eq_true', Bool.not_eq_false] at heq
          exact ⟨.inr ⟨hnan, .inl ⟨Bool.or_eq_true_iff.mp hinf, heq⟩⟩, ih h⟩
      · next hinf =>
        simp only [Bool.not_eq_true, Bool.or_eq_false_iff] at hinf
        simp only at h
        split at h
        · exact nomatch h
        · next hclose =>
          exact ⟨.inr ⟨hnan, .inr ⟨hinf, Bool.not_eq_true _ ▸ hclose⟩⟩, ih h⟩

/-- A comparison that is returned as failed is none that passed. -/
theorem fail_ne_of_passed {c : Comparison F} (hpassed : c.passed = true) (reason : String) :
    (.ok { passed := false, reason } : Except Raised (Comparison F)) ≠ .ok c := by
  intro heq
  rw [← Except.ok.inj heq] at hpassed
  exact nomatch hpassed

/-- **A comparison that passed is within tolerance.** -/
theorem compareTensors_passed {gates : Gates F} {reference tensor : Json} {c : Comparison F}
    (h : compareTensors R reference tensor gates.maxAbsError gates.maxRelError = .ok c)
    (hpassed : c.passed = true) : WithinTolerance R gates reference tensor := by
  have hfails := fail_ne_of_passed hpassed
  unfold compareTensors at h
  split_ifs at h with hshape hdtype
  · exact absurd h (hfails _)
  · exact absurd h (hfails _)
  obtain ⟨left, hleft, h⟩ := Except.bind_eq_ok.mp h
  obtain ⟨right, hright, h⟩ := Except.bind_eq_ok.mp h
  by_cases hlength : left.length = right.length
  swap
  · rw [if_pos hlength] at h
    exact absurd h (hfails _)
  rw [if_neg (not_not.mpr hlength)] at h
  obtain ⟨dtype, hget, h⟩ := Except.bind_eq_ok.mp h
  simp only [Bool.not_eq_true', Bool.not_eq_false] at hshape hdtype
  refine ⟨hshape, hdtype, left, right, hleft, hright, hlength, ?_⟩
  rw [getItem_eq_ok hget]
  obtain hformat | ⟨format, hformat⟩ :=
    Option.eq_none_or_eq_some (floatFormat (R.lower (R.str dtype)))
  · simp only [hformat] at h ⊢
    split_ifs at h with heq
    · exact heq
    · exact absurd h (hfails _)
  · simp only [hformat] at h ⊢
    split_ifs at h with haligned
    · exact absurd h (hfails _)
    · rw [← Except.ok.inj h] at hpassed
      exact ⟨not_not.mp haligned, compareElements_passed R hpassed⟩

/-! ## What a passed report has checked -/

variable {config : Config F} {baseline candidate : List Json} {report : Report}

/-- A report that passed, read back: no gate has left a text. -/
structure Passed (config : Config F) (baseline candidate : List Json) : Prop where
  baselines : ∀ capture ∈ baseline, checkCapture R config .baseline capture = .ok []
  candidates : ∀ capture ∈ candidate, checkCapture R config .candidate capture = .ok []
  process : config.gates.requireProcessIdentity = true →
    processIdentityVerified R baseline candidate = true
  payloads : ∀ id ∈ config.payloads, payloadFailures R config.gates (baseline.headD .null)
    (baseline.tail ++ candidate) id = .ok []
  aggregates : ∃ left right, aggregateCaptures R baseline = .ok left ∧
    aggregateCaptures R candidate = .ok right ∧
    performanceFailures R config.gates left right = [] ∧
    rssFailures R config.gates left right = .ok [] ∧
    startupFailures R config.gates left right = []

theorem failIf_eq_nil {condition : Bool} {message : String} :
    failIf condition message = [] ↔ condition = false := by
  rcases condition with _ | _ <;> simp [failIf]

/-- A loop that collected no text has collected none in any round. -/
theorem eq_nil_of_flatten {α : Type} {xs : List α} {f : α → Except Raised (List String)}
    {texts : List (List String)} (h : xs.mapM f = .ok texts) (hnil : texts.flatten = []) :
    ∀ x ∈ xs, f x = .ok [] := by
  intro x hx
  obtain ⟨y, hy, hxy⟩ := Except.exists_mem_of_mapM h hx
  rw [hxy, List.flatten_eq_nil_iff.mp hnil y hy]

/-- **A passed report has left no text at any gate.** -/
theorem passed_of_buildReport (h : buildReport R config baseline candidate = .ok report)
    (hstatus : report.status = .passed) : Passed R config baseline candidate := by
  simp only [buildReport, Except.bind_eq_ok, Except.raiseIf_eq_ok, Except.pure_eq_ok, not_or] at h
  obtain ⟨-, -, bs, hbs, cs, hcs, ps, hps, left, hleft, right, hright, memory, -, rss,
    hrss, rfl⟩ := h
  simp only [ite_eq_left_iff, reduceCtorEq, imp_false, not_not, List.isEmpty_iff,
    List.append_eq_nil_iff, failIf_eq_nil, Bool.and_eq_false_iff, Bool.not_eq_false'] at hstatus
  obtain ⟨⟨⟨⟨⟨⟨⟨⟨⟨hbaselines, hcandidates⟩, -⟩, hprocess⟩, hpayloads⟩, hperformance⟩, -⟩, hrssNil⟩,
    hstartup⟩, -⟩ := hstatus
  refine ⟨eq_nil_of_flatten hbs hbaselines, eq_nil_of_flatten hcs hcandidates, ?_,
    eq_nil_of_flatten hps hpayloads, left, right, hleft, hright, hperformance, hrssNil ▸ hrss,
    hstartup⟩
  intro hrequired
  obtain hoff | hverified := hprocess
  · exact absurd hrequired (by rw [hoff]; exact Bool.false_ne_true)
  · exact hverified

/-! ## One gate after the other -/

/-- The route evidence of a capture that passed. -/
theorem routeVerified_of_check {variant : Variant} {capture : Json}
    (hgate : config.gates.requireRouteEvidence = true)
    (h : checkCapture R config variant capture = .ok []) : routeVerified capture = true := by
  simp only [checkCapture, hgate, if_true, Except.bind_eq_ok, dictGet_eq_ok] at h
  obtain ⟨_, -, _, -, _, -, _, -, _, -, _, ⟨-, rfl⟩, _, ⟨-, rfl⟩, h⟩ := h
  split at h
  · next hverified => exact hverified
  · cases h

theorem mem_filterMap_processRecord {captures : List Json} {capture : Json}
    (hmem : capture ∈ captures) (h : (capture.get "process").isMapping = true) :
    capture.get "process" ∈ captures.filterMap processRecord := by
  rw [List.mem_filterMap]
  exact ⟨capture, hmem, by rw [processRecord, if_pos h]⟩

/-- **Every capture has a process record** if as many records as captures were found. -/
theorem isMapping_of_length {captures : List Json}
    (h : (captures.filterMap processRecord).length = captures.length) :
    ∀ capture ∈ captures, (capture.get "process").isMapping = true := by
  induction captures with
  | nil => exact nofun
  | cons capture captures ih =>
    have hle := List.length_filterMap_le processRecord captures
    by_cases hrecord : (capture.get "process").isMapping = true
    · rw [List.filterMap_cons_some (by rw [processRecord, if_pos hrecord]), List.length_cons,
        List.length_cons, Nat.add_right_cancel_iff] at h
      exact List.forall_mem_cons.mpr ⟨hrecord, ih h⟩
    · rw [List.filterMap_cons_none (by rw [processRecord, if_neg hrecord]), List.length_cons] at h
      omega

/-- A field that is set in every record has one text in all of them. -/
theorem eq_of_recordTexts {key : String} {captures : List Json}
    (hrecords : ∀ capture ∈ captures, (capture.get "process").isMapping = true)
    (hset : ∀ capture ∈ captures, hasProcessField key capture = true)
    (h : (recordTexts R key captures).dedup.length = 1) :
    ∃ text, ∀ capture ∈ captures, R.str ((capture.get "process").get key) = text := by
  obtain ⟨text, -, htext⟩ := List.forall_eq_of_dedup h
  refine ⟨text, fun capture hcapture => htext _ ?_⟩
  rw [recordTexts, List.mem_map]
  refine ⟨_, List.mem_filter.mpr ⟨?_, hset capture hcapture⟩, rfl⟩
  exact mem_filterMap_processRecord hcapture (hrecords capture hcapture)

theorem exists_of_recordTexts {key : String} {captures : List Json}
    (h : (recordTexts R key captures).dedup.length = 1) :
    ∃ capture ∈ captures, hasProcessField key capture = true := by
  obtain ⟨text, htext, -⟩ := List.forall_eq_of_dedup h
  obtain ⟨record, hrecord, -⟩ := List.mem_map.mp htext
  obtain ⟨hmem, hset⟩ := List.mem_filter.mp hrecord
  obtain ⟨capture, hcapture, heq⟩ := List.mem_filterMap.mp hmem
  refine ⟨capture, hcapture, ?_⟩
  unfold processRecord at heq
  split at heq
  · obtain rfl := Option.some.inj heq
    exact hset
  · exact nomatch heq

/-- **The process gate**, once no field is mixed. -/
theorem showsProcess_of_verified (h : processIdentityVerified R baseline candidate = true)
    (hunmixed : ∀ key ∈ processKeys, Unmixed (hasProcessField key) (baseline ++ candidate)) :
    ∃ executable argv cwd,
      (∀ capture ∈ baseline, ShowsProcess R executable argv cwd .baseline capture) ∧
        ∀ capture ∈ candidate, ShowsProcess R executable argv cwd .candidate capture := by
  simp only [processIdentityVerified, Bool.and_eq_true, beq_iff_eq] at h
  obtain ⟨⟨⟨⟨⟨hlength, hexecutable⟩, hargv⟩, hcwd⟩, hbaseline⟩, hcandidate⟩ := h
  have hrecords := isMapping_of_length hlength
  have hfield : ∀ key ∈ processKeys,
      (recordTexts R key (baseline ++ candidate)).dedup.length = 1 →
        (∀ capture ∈ baseline ++ candidate, hasProcessField key capture = true) ∧
          ∃ text, ∀ capture ∈ baseline ++ candidate,
            R.str ((capture.get "process").get key) = text := by
    intro key hkey hone
    have hset := hunmixed key hkey (exists_of_recordTexts R hone)
    exact ⟨hset, eq_of_recordTexts R hrecords hset hone⟩
  obtain ⟨hsetE, executable, hE⟩ := hfield _ (by simp [processKeys]) hexecutable
  obtain ⟨hsetA, argv, hA⟩ := hfield _ (by simp [processKeys]) hargv
  obtain ⟨hsetC, cwd, hC⟩ := hfield _ (by simp [processKeys]) hcwd
  have hshow : ∀ variant, ∀ capture ∈ baseline ++ candidate,
      ((capture.get "process").get "generic_native_packs").eqStr variant.switch = true →
        ShowsProcess R executable argv cwd variant capture := by
    intro variant capture hcapture hswitch
    exact ⟨hrecords capture hcapture, ⟨hsetE capture hcapture, hE capture hcapture⟩,
      ⟨hsetA capture hcapture, hA capture hcapture⟩, ⟨hsetC capture hcapture, hC capture hcapture⟩,
      hswitch⟩
  refine ⟨executable, argv, cwd, fun capture hcapture => ?_, fun capture hcapture => ?_⟩
  · have hmem := List.mem_append_left candidate hcapture
    refine hshow .baseline capture hmem (List.all_eq_true.mp hbaseline _ ?_)
    exact mem_filterMap_processRecord hcapture (hrecords capture hmem)
  · have hmem := List.mem_append_right baseline hcapture
    refine hshow .candidate capture hmem (List.all_eq_true.mp hcandidate _ ?_)
    exact mem_filterMap_processRecord hcapture (hrecords capture hmem)

/-- **The payload gate.** -/
theorem tensors_of_payloadFailures {gates : Gates F} {first : Json} {rest : List Json}
    {id : String} (h : payloadFailures R gates first rest id = .ok []) :
    ∃ reference, captureTensor first id = .ok reference ∧
      ∀ capture ∈ rest, ∃ tensor, captureTensor capture id = .ok tensor ∧
        WithinTolerance R gates reference tensor := by
  obtain ⟨reference, hreference, h⟩ := Except.bind_eq_ok.mp h
  obtain ⟨comparisons, hcomparisons, h⟩ := Except.bind_eq_ok.mp h
  refine ⟨reference, hreference, ?_⟩
  intro capture hcapture
  obtain ⟨comparison, hmem, hcomparison⟩ := Except.exists_mem_of_mapM hcomparisons hcapture
  obtain ⟨tensor, htensor, hcompare⟩ := Except.bind_eq_ok.mp hcomparison
  split at h
  · next hall =>
    exact ⟨tensor, htensor,
      compareTensors_passed R hcompare (List.all_eq_true.mp hall comparison hmem)⟩
  · exact nomatch h

/-! ## Aggregates -/

variable {captures : List Json} {aggregate : Aggregate F}

theorem mem_levels {points : List (ℤ × Json)} {level : ℤ} :
    level ∈ levels points ↔ level ∈ points.map Prod.fst := by
  rw [levels, List.mem_insertionSort, List.mem_dedup]

/-- **A variant has measured a point** if one of its captures has. -/
theorem mem_performance (h : aggregateCaptures R captures = .ok aggregate) {level : ℤ} :
    level ∈ aggregate.performance.map Prod.fst ↔
      ∃ capture ∈ captures, measures R level capture = true := by
  simp only [aggregateCaptures, Except.bind_eq_ok, Except.pure_eq_ok] at h
  obtain ⟨points, hpoints, performance, hperformance, _, -, _, -, _, -, _, -, _, -, rfl⟩ := h
  have hkeys : performance.map Prod.fst = levels points.flatten := by
    have hmap := Except.map_eq_map_of_mapM (g := Prod.fst) (k := id) ?_ hperformance
    · rwa [List.map_id] at hmap
    · rintro key - entry hentry
      obtain ⟨point, -, hpure⟩ := Except.bind_eq_ok.mp hentry
      rw [← Except.ok.inj hpure]
      rfl
  rw [hkeys, mem_levels]
  simp only [List.mem_map, List.mem_flatten]
  constructor
  · rintro ⟨entry, ⟨found, hfound, hentry⟩, rfl⟩
    obtain ⟨capture, hcapture, hread⟩ := Except.exists_of_mem_mapM hpoints hfound
    refine ⟨capture, hcapture, ?_⟩
    rw [measures, hread]
    exact List.contains_iff_mem.mpr (List.mem_map_of_mem hentry)
  · rintro ⟨capture, hcapture, hmeasures⟩
    obtain ⟨found, hfound, hread⟩ := Except.exists_mem_of_mapM hpoints hcapture
    rw [measures, hread] at hmeasures
    obtain ⟨entry, hentry, rfl⟩ := List.mem_map.mp (List.contains_iff_mem.mp hmeasures)
    exact ⟨entry, ⟨found, hfound, hentry⟩, rfl⟩

/-- What is left of the values that were set came from one of them. -/
theorem exists_of_filter_mapM {α : Type} {values : List Json} {f : Json → Except Raised α}
    {results : List α} (h : (values.filter (!·.isNull)).mapM f = .ok results)
    (hne : results ≠ []) : ∃ value ∈ values, (!value.isNull) = true := by
  obtain ⟨result, hresult⟩ := List.exists_mem_of_ne_nil results hne
  obtain ⟨value, hvalue, -⟩ := Except.exists_of_mem_mapM h hresult
  obtain ⟨hmem, hset⟩ := List.mem_filter.mp hvalue
  exact ⟨value, hmem, hset⟩

/-- A peak that was found was found in a capture. -/
theorem exists_hasPeakRss (h : aggregateCaptures R captures = .ok aggregate)
    (hsome : aggregate.peakRssBytes ≠ none) : ∃ capture ∈ captures, hasPeakRss capture = true := by
  simp only [aggregateCaptures, Except.bind_eq_ok, Except.pure_eq_ok] at h
  obtain ⟨_, -, _, -, values, hvalues, bytes, hbytes, _, -, _, -, _, -, rfl⟩ := h
  obtain ⟨value, hvalue, hset⟩ := exists_of_filter_mapM hbytes
    (fun hnil => hsome (List.max?_eq_none_iff.mpr hnil))
  obtain ⟨capture, hcapture, hread⟩ := Except.exists_of_mem_mapM hvalues hvalue
  refine ⟨capture, hcapture, ?_⟩
  simp only [peakRss, Except.bind_eq_ok, dictGet_eq_ok] at hread
  obtain ⟨_, ⟨-, rfl⟩, -, rfl⟩ := hread
  exact hset

/-- A median that was found has a capture with a startup time. -/
theorem exists_hasStartup (h : aggregateCaptures R captures = .ok aggregate)
    (hsome : aggregate.startupSecondsMedian ≠ none) :
    ∃ capture ∈ captures, hasStartup capture = true := by
  simp only [aggregateCaptures, Except.bind_eq_ok, Except.pure_eq_ok] at h
  obtain ⟨_, -, _, -, _, -, _, -, _, -, startups, hstartups, _, -, rfl⟩ := h
  obtain ⟨value, hvalue, hset⟩ := exists_of_filter_mapM hstartups
    (fun hnil => hsome (if_pos (List.isEmpty_iff.mpr hnil)))
  obtain ⟨capture, hcapture, rfl⟩ := List.mem_map.mp hvalue
  exact ⟨capture, hcapture, hset⟩

/-- **The RSS gate** asks for one peak in each variant. -/
theorem exists_of_rssFailures {gates : Gates F} {left right : Aggregate F}
    (hgate : gates.requireProcessRss = true) (h : rssFailures R gates left right = .ok []) :
    left.peakRssBytes ≠ none ∧ right.peakRssBytes ≠ none := by
  unfold rssFailures at h
  split at h
  · next hleft hright => exact ⟨by rw [hleft]; nofun, by rw [hright]; nofun⟩
  · rw [hgate] at h
    exact nomatch h

/-- **The startup gate** asks for one startup time in each variant. -/
theorem exists_of_startupFailures {gates : Gates F} {left right : Aggregate F}
    (hgate : gates.requireStartupEvidence = true) (h : startupFailures R gates left right = []) :
    left.startupSecondsMedian ≠ none ∧ right.startupSecondsMedian ≠ none := by
  unfold startupFailures at h
  rw [hgate] at h
  unfold ratio at h
  rcases hright : right.startupSecondsMedian with _ | r
  · simp only [hright] at h
    exact nomatch h
  · rcases hleft : left.startupSecondsMedian with _ | l
    · simp only [hright, hleft] at h
      exact nomatch h
    · exact ⟨nofun, nofun⟩

/-- The performance gate compares the points of the two variants. -/
theorem levels_iff_of_performanceFailures {gates : Gates F} {left right : Aggregate F}
    (h : performanceFailures R gates left right = []) (level : ℤ) :
    level ∈ left.performance.map Prod.fst ↔ level ∈ right.performance.map Prod.fst := by
  have hsame := (List.append_eq_nil_iff.mp h).1
  rw [failIf_eq_nil, Bool.not_eq_false', Bool.and_eq_true, List.all_eq_true, List.all_eq_true]
    at hsame
  simp only [List.contains_iff_mem] at hsame
  exact ⟨hsame.1 level, hsame.2 level⟩

/-! ## The report -/

theorem ShowsProcess.hasProcessField {executable argv cwd : String} {variant : Variant}
    {capture : Json} (h : ShowsProcess R executable argv cwd variant capture) {key : String}
    (hkey : key ∈ processKeys) : hasProcessField key capture = true := by
  simp only [processKeys, List.mem_cons, List.not_mem_nil, or_false] at hkey
  obtain rfl | rfl | rfl := hkey
  · exact h.executable.1
  · exact h.argv.1
  · exact h.cwd.1

theorem evidenceComplete_of_failClosed (h : FailClosed R config baseline candidate) :
    EvidenceComplete R config baseline candidate := by
  refine ⟨?_, ?_, ?_, ?_⟩
  · intro hgate key hkey _ capture hcapture
    obtain ⟨_, _, _, hbaseline, hcandidate⟩ := h.process hgate
    obtain hcapture | hcapture := List.mem_append.mp hcapture
    · exact (hbaseline capture hcapture).hasProcessField R hkey
    · exact (hcandidate capture hcapture).hasProcessField R hkey
  · intro hgate
    exact ⟨fun _ capture hcapture => h.rss hgate capture (List.mem_append_left _ hcapture),
      fun _ capture hcapture => h.rss hgate capture (List.mem_append_right _ hcapture)⟩
  · intro hgate
    exact ⟨fun _ capture hcapture => h.startup hgate capture (List.mem_append_left _ hcapture),
      fun _ capture hcapture => h.startup hgate capture (List.mem_append_right _ hcapture)⟩
  · intro level hlevel
    obtain ⟨⟨capture, hcapture, hmeasures⟩, -⟩ := h.concurrency level hlevel
    exact ⟨capture, List.mem_append_left _ hcapture, hmeasures⟩

/-- **Complete evidence makes a passed report show all of it.** -/
theorem failClosed_of_passed (h : Passed R config baseline candidate)
    (hcomplete : EvidenceComplete R config baseline candidate) :
    FailClosed R config baseline candidate := by
  obtain ⟨left, right, hleft, hright, hperformance, hrss, hstartup⟩ := h.aggregates
  refine ⟨?_, ?_, ?_, ?_, ?_, ?_⟩
  · intro hgate capture hcapture
    obtain hcapture | hcapture := List.mem_append.mp hcapture
    · exact routeVerified_of_check R hgate (h.baselines capture hcapture)
    · exact routeVerified_of_check R hgate (h.candidates capture hcapture)
  · intro hgate
    exact showsProcess_of_verified R (h.process hgate) (hcomplete.process hgate)
  · intro hgate
    obtain ⟨hleftSome, hrightSome⟩ := exists_of_rssFailures R hgate hrss
    obtain ⟨hbaseline, hcandidate⟩ := hcomplete.rss hgate
    exact List.forall_mem_append.mpr ⟨hbaseline (exists_hasPeakRss R hleft hleftSome),
      hcandidate (exists_hasPeakRss R hright hrightSome)⟩
  · intro hgate
    obtain ⟨hleftSome, hrightSome⟩ := exists_of_startupFailures R hgate hstartup
    obtain ⟨hbaseline, hcandidate⟩ := hcomplete.startup hgate
    exact List.forall_mem_append.mpr ⟨hbaseline (exists_hasStartup R hleft hleftSome),
      hcandidate (exists_hasStartup R hright hrightSome)⟩
  · intro level hlevel
    have hsame := levels_iff_of_performanceFailures R hperformance level
    rw [mem_performance R hleft, mem_performance R hright] at hsame
    obtain ⟨capture, hcapture, hmeasures⟩ := hcomplete.concurrency level hlevel
    obtain hcapture | hcapture := List.mem_append.mp hcapture
    · exact ⟨⟨capture, hcapture, hmeasures⟩, hsame.mp ⟨capture, hcapture, hmeasures⟩⟩
    · exact ⟨hsame.mpr ⟨capture, hcapture, hmeasures⟩, capture, hcapture, hmeasures⟩
  · intro id hid
    exact tensors_of_payloadFailures R (h.payloads id hid)

/-- **What a passed report shows.**  It shows everything its gates require, of every capture,
exactly when no required value is mixed and every configured concurrency point was measured. -/
theorem failClosed_iff (config : Config F) (baseline candidate : List Json) (report : Report)
    (h : buildReport R config baseline candidate = .ok report)
    (hstatus : report.status = .passed) :
    FailClosed R config baseline candidate ↔ EvidenceComplete R config baseline candidate :=
  ⟨evidenceComplete_of_failClosed R, failClosed_of_passed R (passed_of_buildReport R h hstatus)⟩

/-! ## Captures with and without a peak -/

/-- The median of rationals. -/
def median (values : List ℚ) : ℚ :=
  let ordered := values.insertionSort (· ≤ ·)
  let middle := ordered.length / 2
  if ordered.length % 2 = 1 then ordered.getD middle 0
  else (ordered.getD (middle - 1) 0 + ordered.getD middle 0) / 2

/-- Python on small integers and empty tensors, where binary64 is exact. -/
def exactRuntime : Runtime ℚ where
  parseInt _ := .error .valueError
  parseFloat _ := .error .valueError
  truncate
    | .finite q => .ok (if 0 ≤ q then q.floor else q.ceil)
    | .infinity _ => .error .overflowError
    | .nan => .error .valueError
  ofInt n := .ok n
  ofJson
    | .finite q => q
    | _ => 0
  literal q := q
  str
    | .str s => s
    | .int n => toString n
    | _ => "None"
  dumps _ := "null"
  lower s := s
  b64decode s := if s = "" then some [] else none
  unpack _ _ := []
  isNaN _ := false
  isInf _ := false
  eq a b := a = b
  lt a b := a < b
  le a b := a ≤ b
  intGt n x := x < n
  add := (· + ·)
  sub := (· - ·)
  mul := (· * ·)
  div := (· / ·)
  abs x := if x < 0 then -x else x
  max a b := if a < b then b else a
  floor x := x.floor.toNat
  ceil x := x.ceil.toNat
  sum := List.sum
  sorted := List.insertionSort (· ≤ ·)
  median := median

/-- A capture of one trial at concurrency 1, with this peak RSS. -/
def oneTrial (variant : Variant) (peakRss : Json) : Json :=
  .obj [("kind", .str captureKind), ("suite_id", .str "unit"), ("identity", .obj []),
    ("variant", .str variant.name), ("route_evidence", .obj [("verified", .bool true)]),
    ("startup_seconds", .int 1),
    ("process", .obj [("executable_sha256", .str "e"), ("argv_sha256", .str "a"),
      ("cwd", .str "/srv"), ("generic_native_packs", .str variant.switch)]),
    ("correctness", .obj [("p", .obj [("tensor", .obj [("shape", .list [.int 0]),
      ("dtype", .str "uint8"), ("data_base64", .str "")])])]),
    ("trials", .list [.obj [("concurrency", .int 1), ("successes", .int 1), ("failures", .int 0),
      ("duration_seconds", .int 1), ("latencies_ms", .list [.int 1])]]),
    ("memory", .obj [("peak_rss_bytes", peakRss), ("model_memory_usage_max", .int 1)])]

/-- A configuration with the default gates, and one point in its workload. -/
def oneTrialConfig : Json :=
  .obj [("schema_version", .int 1), ("suite_id", .str "unit"), ("task_profile", .str "forward"),
    ("payloads", .list [.obj [("id", .str "p"), ("request", .obj [])]]),
    ("workload", .obj [("concurrency", .list [.int 1])]), ("gates", .obj [])]

/-- A comparison that passed, with what is read of its configuration. -/
theorem passed_of_compareCommand (baseline candidate : List Json)
    (h : (compareCommand exactRuntime (.obj []) oneTrialConfig baseline candidate).toOption.map
      (fun result => (result.2.status, result.1.concurrency, result.1.gates.requireProcessRss)) =
        some (.passed, [1], true)) :
    ∃ config report, resolveConfig exactRuntime (.obj []) oneTrialConfig = .ok config ∧
      buildReport exactRuntime config baseline candidate = .ok report ∧
      report.status = .passed ∧ config.concurrency = [1] ∧
      config.gates.requireProcessRss = true := by
  obtain ⟨⟨config, report⟩, hrun, hread⟩ := Except.exists_of_map_toOption h
  simp only [compareCommand, Except.bind_eq_ok, Except.pure_eq_ok, Prod.mk.injEq] at hrun hread
  obtain ⟨_, hconfig, _, hreport, rfl, rfl⟩ := hrun
  exact ⟨_, _, hconfig, hreport, hread⟩

theorem failClosed_iff_oneTrial :
    let baseline := [oneTrial .baseline (.int 1000), oneTrial .baseline (.int 900)]
    let candidate := [oneTrial .candidate (.int 1000)]
    ∃ config report, resolveConfig exactRuntime (.obj []) oneTrialConfig = .ok config ∧
      buildReport exactRuntime config baseline candidate = .ok report ∧
      report.status = .passed ∧ FailClosed exactRuntime config baseline candidate := by
  intro baseline candidate
  obtain ⟨config, report, hconfig, hreport, hstatus, hlevels, -⟩ :=
    passed_of_compareCommand baseline candidate (by decide +kernel)
  have hprocess : ∀ key ∈ processKeys, ∀ capture ∈ baseline ++ candidate,
      hasProcessField key capture = true := by decide +kernel
  refine ⟨config, report, hconfig, hreport, hstatus,
    (failClosed_iff exactRuntime config _ _ report hreport hstatus).mpr ⟨?_, ?_, ?_, ?_⟩⟩
  · exact fun _ key hkey _ => hprocess key hkey
  · exact fun _ => ⟨fun _ => by decide +kernel, fun _ => by decide +kernel⟩
  · exact fun _ => ⟨fun _ => by decide +kernel, fun _ => by decide +kernel⟩
  · rw [hlevels]
    decide +kernel

/-- **A capture without its peak RSS.**  The other baseline capture has one: the report passes. -/
theorem not_failClosed_mixedRss :
    let baseline := [oneTrial .baseline (.int 1000), oneTrial .baseline .null]
    let candidate := [oneTrial .candidate (.int 1000)]
    ∃ config report, resolveConfig exactRuntime (.obj []) oneTrialConfig = .ok config ∧
      buildReport exactRuntime config baseline candidate = .ok report ∧
      report.status = .passed ∧ ¬FailClosed exactRuntime config baseline candidate := by
  intro baseline candidate
  obtain ⟨config, report, hconfig, hreport, hstatus, -, hgate⟩ :=
    passed_of_compareCommand baseline candidate (by decide +kernel)
  refine ⟨config, report, hconfig, hreport, hstatus, fun hclosed => ?_⟩
  have hrss := hclosed.rss hgate (oneTrial .baseline .null) (by simp [baseline])
  exact absurd hrss (by decide +kernel)

end Kapsl.Ort.Parity
