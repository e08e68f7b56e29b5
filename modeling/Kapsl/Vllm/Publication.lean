import Kapsl.Lib.AtomicFile
import Kapsl.Vllm.CertificationSound

/-!
# Vllm/Publication — what the hardware probe publishes, wherever it stops

`main` of the probe removes the allowlist of an earlier run, probes, and publishes the report and,
when the report validates, an allowlist with its entry; on any exception it publishes a failed
report.  What is raised outside of its `try` ends the process, with the status of a failed run.
Every file is replaced as a whole.  The process may die between any two calls of the system, and
each of them may fail: what is on the disk then is one of the states it went through.

* `failedReport_refused` — a failed report is refused, so no allowlist can be made of it.
* `publication_vouched` — an allowlist that is there after the stale one is gone holds the entry of
  a report of this run that validated, beside that very report, or beside a failed one when
  printing the result was what failed; exit status 0 means both are there, 1 a failed report, or a
  call outside of the `try` that failed.
-/

namespace Kapsl.Vllm.Publication

open Attempt AtomicFile Certification

abbrev Path := String

/-- What a run of the probe meets: its arguments, what probing comes to, and the system's answers.
No output is the other one, and `mkstemp` makes a new file that is none of them. -/
structure Run (ε : Type) where
  decimal : Char → Option (Fin 10)
  report : Path
  allowlist : Option Path
  profile : Json
  environment : Json
  matrix : Json
  /-- The gates and the ranks, when every rank passed. -/
  probe : Except ε (Json × List Json)
  /-- The rank reports that a failed run has. -/
  available : List Json
  /-- `json.dumps(value, indent=2, sort_keys=True, allow_nan=False).encode("utf-8")`. -/
  encode : Json → Except ε (List UInt8)
  refused : Refusal → ε
  traceback : ε → String
  unlinkStale : Option ε
  /-- The arguments that are read before the `try`. -/
  prepare : Option ε
  mkdirReport : Option ε
  reportCalls : Calls Path ε
  mkdirAllowlist : Option ε
  allowlistCalls : Calls Path ε
  printPassed : Option ε
  mkdirFailed : Option ε
  failedCalls : Calls Path ε
  printFailed : Option ε
  distinct : report ∉ allowlist
  fresh : ∀ calls ∈ [reportCalls, allowlistCalls, failedCalls], ∀ files temporary,
    calls.create files = .ok temporary →
      files temporary = none ∧ temporary ≠ report ∧ temporary ∉ allowlist

variable {ε : Type} (run : Run ε)

/-- The bytes of a line. -/
def line (text : String) : List UInt8 := (text ++ "\n").toByteArray.data.toList

/-- `write_json_atomic`. -/
def writeJsonAtomic (mkdir : Option ε) (calls : Calls Path ε) (path : Path) (value : Json) :
    Attempt ε (Disk Path) Unit := do
  call mkdir
  let bytes ← lift (run.encode value)
  replaceFile true calls path (bytes ++ [10])

/-- `write_allowlist_atomic`. -/
def writeAllowlistAtomic (path : Path) (report : Json) : Attempt ε (Disk Path) Unit := do
  call run.mkdirAllowlist
  let entry ← lift ((allowlistEntry run.decimal report).mapError run.refused)
  replaceFile true run.allowlistCalls path (line entry)

/-- `remove_stale_allowlist`. -/
def removeStaleAllowlist : Attempt ε (Disk Path) Unit :=
  match run.allowlist with
  | none => pure ()
  | some path => do
    call run.unlinkStale
    update (·.put path none)

/-- `failed_report`. -/
def failedReport (error : String) : Json :=
  .obj [
    ("schema_version", .int 1),
    ("status", .str "failed"),
    ("profile", run.profile),
    ("environment", run.environment),
    ("matrix", run.matrix),
    ("gates", .obj (requiredGates.map fun name => (name,
      .obj [("passed", .bool false), ("evidence", .str "probe did not complete")]))),
    ("ranks", .list run.available),
    ("error", .str error)]

/-- The report of a probe that went through. -/
def passedReport (gates : Json) (ranks : List Json) : Json :=
  .obj [
    ("schema_version", .int 1),
    ("status", .str "passed"),
    ("profile", run.profile),
    ("environment", run.environment),
    ("matrix", run.matrix),
    ("gates", gates),
    ("ranks", .list ranks)]

/-- The allowlist, if one was asked for. -/
def list (report : Json) : Attempt ε (Disk Path) Unit :=
  match run.allowlist with
  | none => pure ()
  | some path => writeAllowlistAtomic run path report

/-- The publication of a report that validates. -/
def publish (report : Json) : Attempt ε (Disk Path) Unit := do
  lift ((validateCertificationReport run.decimal report).mapError run.refused)
  writeJsonAtomic run run.mkdirReport run.reportCalls run.report report
  list run report
  call run.printPassed

/-- The handler of `main`. -/
def publishFailure (error : ε) : Attempt ε (Disk Path) ℕ := do
  writeJsonAtomic run run.mkdirFailed run.failedCalls run.report
    (failedReport run (run.traceback error))
  call run.printFailed
  return 1

/-- `main`: the exit code. -/
def main : Attempt ε (Disk Path) ℕ := do
  removeStaleAllowlist run
  call run.prepare
  tryCatch (do
    let (gates, ranks) ← lift run.probe
    publish run (passedReport run gates ranks)
    return 0) (publishFailure run)

/-- `raise SystemExit(main())`: the exit status, which is 1 after an exception that was not caught. -/
def process : Attempt ε (Disk Path) ℕ := tryCatch (main run) fun _ => return 1

/-! ## What the outputs may hold -/

/-- The file holds this value, as `write_json_atomic` writes it. -/
def Holds (value : Json) (file : Option File) : Prop :=
  ∃ bytes, run.encode value = .ok bytes ∧ file = some ⟨bytes ++ [10], true⟩

/-- There is no allowlist. -/
def Absent (files : Files Path) : Prop := ∀ path ∈ run.allowlist, files path = none

/-- The allowlist, if one was asked for, holds the entry of a report that validated. -/
def Listed (report : Json) (files : Files Path) : Prop :=
  validateCertificationReport run.decimal report = .ok () ∧
    ∀ path ∈ run.allowlist, ∃ entry, allowlistEntry run.decimal report = .ok entry ∧
      files path = some ⟨line entry, true⟩

/-- **The outputs of a run that passed**: the report it probed, and its entry. -/
def Published (files : Files Path) : Prop :=
  ∃ gates ranks, run.probe = .ok (gates, ranks) ∧
    Holds run (passedReport run gates ranks) (files run.report) ∧
    Listed run (passedReport run gates ranks) files

/-- The outputs of a run whose report was replaced because the result could not be printed. -/
def Overwritten (files : Files Path) : Prop :=
  run.printPassed ≠ none ∧
    (∃ error, Holds run (failedReport run error) (files run.report)) ∧
    ∃ gates ranks, run.probe = .ok (gates, ranks) ∧ Listed run (passedReport run gates ranks) files

/-- **The outputs of a run that failed**: a failed report, and no allowlist unless printing the
result was what failed. -/
def Refused (files : Files Path) : Prop :=
  (∃ error, Holds run (failedReport run error) (files run.report)) ∧
    (Absent run files ∨ Overwritten run files)

/-- What the handler of `main` may find. -/
def Interrupted (files : Files Path) : Prop :=
  Absent run files ∨ Published run files ∧ run.printPassed ≠ none

/-- Writing a failed report fails. -/
def Unwritten : Prop :=
  run.mkdirFailed ≠ none ∨ (∃ error e, run.encode (failedReport run error) = .error e) ∨
    run.failedCalls.Fails

/-- **The outputs of a run that left no failed report**, from what they were `before`. -/
inductive Unreported (before files : Files Path) : Prop
  /-- The stale allowlist could not be removed. -/
  | stale (hunlink : run.unlinkStale ≠ none) (hsame : files = before)
  /-- An argument was refused. -/
  | unprepared (hprepare : run.prepare ≠ none) (habsent : Absent run files)
  /-- The handler could not write. -/
  | unwritten (hunwritten : Unwritten run) (hinterrupted : Interrupted run files)

/-- **Nobody is misled**: no allowlist, or one that its own report vouched for. -/
def Vouched (files : Files Path) : Prop :=
  Absent run files ∨ Published run files ∨ Overwritten run files

/-- The report, and the allowlist. -/
def Outputs (path : Path) : Prop := path = run.report ∨ path ∈ run.allowlist

variable {run}

theorem ofOutputs_absent : OfOutputs (Outputs run) (Absent run) :=
  fun _ _ houtputs h path hpath => (houtputs path (.inr hpath)).symm.trans (h path hpath)

theorem Listed.of_outputs {report : Json} {f g : Files Path} (h : Listed run report f)
    (hallowlist : ∀ path ∈ run.allowlist, f path = g path) : Listed run report g := by
  refine ⟨h.1, fun path hpath => ?_⟩
  obtain ⟨entry, hentry, hfile⟩ := h.2 path hpath
  exact ⟨entry, hentry, (hallowlist path hpath).symm.trans hfile⟩

theorem ofOutputs_published : OfOutputs (Outputs run) (Published run) := by
  rintro f g houtputs ⟨gates, ranks, hprobe, hholds, hlisted⟩
  exact ⟨gates, ranks, hprobe, houtputs run.report (.inl rfl) ▸ hholds,
    hlisted.of_outputs fun path hpath => houtputs path (.inr hpath)⟩

/-! ## A failed report -/

/-- **A failed report is refused**, whatever it says otherwise. -/
theorem failedReport_refused (run : Run ε) (error : String) :
    validateCertificationReport run.decimal (failedReport run error) =
        .error (refuse "certification status is not passed") ∧
      allowlistEntry run.decimal (failedReport run error) =
        .error (refuse "certification status is not passed") := by
  have hvalidate : validateCertificationReport run.decimal (failedReport run error) =
      .error (refuse "certification status is not passed") := rfl
  refine ⟨hvalidate, ?_⟩
  rw [allowlistEntry, hvalidate]
  rfl

/-! ## One output replaced -/

/-- A temporary file is no output. -/
theorem fresh_outputs {calls : Calls Path ε}
    (hcalls : calls ∈ [run.reportCalls, run.allowlistCalls, run.failedCalls]) :
    ∀ files temporary, calls.create files = .ok temporary →
      files temporary = none ∧ ¬Outputs run temporary := by
  intro files temporary hcreate
  obtain ⟨hnone, hreport, hallowlist⟩ := run.fresh calls hcalls files temporary hcreate
  exact ⟨hnone, fun h => h.elim hreport hallowlist⟩

/-- A report is written: what held of the outputs still does, or what its content makes true. -/
theorem writeJson_ends {mkdir : Option ε} {calls : Calls Path ε}
    (hcalls : calls ∈ [run.reportCalls, run.allowlistCalls, run.failedCalls]) {value : Json}
    {disk : Disk Path} {P Q : Files Path → Prop} (hP : OfOutputs (Outputs run) P) (hstart : P disk.files)
    (hQ : ∀ bytes, run.encode value = .ok bytes →
      Q (replaced disk.files run.report (bytes ++ [10]) true)) :
    Ends (writeJsonAtomic run mkdir calls run.report value) disk
      (fun _ disk' => Q disk'.files ∧ Since disk (fun f => P f ∨ Q f) disk')
      (fun _ disk' => (mkdir ≠ none ∨ (∃ e, run.encode value = .error e) ∨ calls.Fails) ∧
        P disk'.files ∧ Since disk (fun f => P f ∨ Q f) disk') := by
  have hkept : P disk.files ∧ Since disk (fun f => P f ∨ Q f) disk := ⟨hstart, fun f hf => .inl hf⟩
  rw [writeJsonAtomic]
  refine Ends.bind_call (fun _ => Ends.bind_lift (fun bytes hbytes => ?_) fun e he =>
    ⟨.inr (.inl ⟨e, he⟩), hkept⟩) fun e he => ⟨.inl (he ▸ Option.some_ne_none e), hkept⟩
  have hweaken : ∀ f, P f ∨ f = replaced disk.files run.report (bytes ++ [10]) true → P f ∨ Q f := by
    rintro f (hf | rfl)
    exacts [.inl hf, .inr (hQ bytes hbytes)]
  refine (replaceOutput_ends (fresh_outputs hcalls) (.inl rfl) hP hstart).mono ?_ ?_
  · rintro _ disk' ⟨-, hfiles, hsince⟩
    exact ⟨hfiles ▸ hQ bytes hbytes, fun f hf => (hsince f hf).imp_right (hweaken f)⟩
  · rintro _ disk' ⟨hfails, hfiles, hsince⟩
    exact ⟨.inr (.inr hfails), hfiles, fun f hf => (hsince f hf).imp_right (hweaken f)⟩

/-- The allowlist is written last, beside the report it comes from. -/
theorem writeAllowlist_ends {gates : Json} {ranks : List Json} {path : Path}
    (hpath : run.allowlist = some path) (hprobe : run.probe = .ok (gates, ranks))
    (hvalid : validateCertificationReport run.decimal (passedReport run gates ranks) = .ok ())
    {disk : Disk Path} (habsent : Absent run disk.files)
    (hreport : Holds run (passedReport run gates ranks) (disk.files run.report)) :
    Ends (writeAllowlistAtomic run path (passedReport run gates ranks)) disk
      (fun _ disk' => Published run disk'.files ∧ Since disk (Vouched run) disk')
      (fun _ disk' => Absent run disk'.files ∧ Since disk (Vouched run) disk') := by
  have hkept : Absent run disk.files ∧ Since disk (Vouched run) disk :=
    ⟨habsent, fun f hf => .inl hf⟩
  rw [writeAllowlistAtomic]
  refine Ends.bind_call (fun _ => Ends.bind_lift (fun entry hentry => ?_) fun _ _ => hkept)
    fun _ _ => hkept
  rw [Except.mapError_eq_ok] at hentry
  have hne : run.report ≠ path := by
    rintro rfl
    exact run.distinct hpath
  have hpublished : Published run (replaced disk.files path (line entry) true) := by
    refine ⟨gates, ranks, hprobe, ?_, hvalid, fun other hother => ⟨entry, hentry, ?_⟩⟩
    · rwa [replaced, Function.update_of_ne hne]
    · obtain rfl : path = other := Option.some.inj (hpath.symm.trans hother)
      exact Function.update_self ..
  have hweaken : ∀ f, Absent run f ∨ f = replaced disk.files path (line entry) true →
      Vouched run f := by
    rintro f (hf | rfl)
    exacts [.inl hf, .inr (.inl hpublished)]
  refine (replaceOutput_ends (fresh_outputs (by simp)) (.inr hpath) ofOutputs_absent habsent).mono ?_ ?_
  · rintro _ disk' ⟨-, hfiles, hsince⟩
    exact ⟨hfiles ▸ hpublished, fun f hf => (hsince f hf).imp_right (hweaken f)⟩
  · rintro _ disk' ⟨-, hfiles, hsince⟩
    exact ⟨hfiles, fun f hf => (hsince f hf).imp_right (hweaken f)⟩

variable (run) in
/-- The report is there, and no allowlist. -/
def Reported (report : Json) (files : Files Path) : Prop :=
  Absent run files ∧ Holds run report (files run.report)

/-- Replacing the report leaves the allowlist what it is. -/
theorem absent_replaced {files : Files Path} (h : Absent run files) (content : List UInt8) :
    Absent run (replaced files run.report content true) := by
  intro path hpath
  have hne : path ≠ run.report := by
    rintro rfl
    exact run.distinct hpath
  rw [replaced, Function.update_of_ne hne]
  exact h path hpath

/-- The allowlist, if one was asked for, is written beside its report. -/
theorem list_ends {gates : Json} {ranks : List Json} (hprobe : run.probe = .ok (gates, ranks))
    (hvalid : validateCertificationReport run.decimal (passedReport run gates ranks) = .ok ())
    {disk : Disk Path} (habsent : Absent run disk.files)
    (hreport : Holds run (passedReport run gates ranks) (disk.files run.report)) :
    Ends (list run (passedReport run gates ranks)) disk
      (fun _ disk' => Published run disk'.files ∧ Since disk (Vouched run) disk')
      (fun _ disk' => Absent run disk'.files ∧ Since disk (Vouched run) disk') := by
  rw [list]
  split
  · next hnone =>
    refine Ends.pure ⟨⟨gates, ranks, hprobe, hreport, hvalid, fun path hpath => ?_⟩,
      fun f hf => .inl hf⟩
    exact nomatch hnone.symm.trans hpath
  · next path hpath => exact writeAllowlist_ends hpath hprobe hvalid habsent hreport

/-- **Publishing**: report first, allowlist second; at no point is there an allowlist without the
report that vouches for it. -/
theorem publish_ends {gates : Json} {ranks : List Json} (hprobe : run.probe = .ok (gates, ranks))
    {disk : Disk Path} (habsent : Absent run disk.files) :
    Ends (publish run (passedReport run gates ranks)) disk
      (fun _ disk' => Published run disk'.files ∧ Since disk (Vouched run) disk')
      (fun _ disk' => Interrupted run disk'.files ∧ Since disk (Vouched run) disk') := by
  have hkept : Interrupted run disk.files ∧ Since disk (Vouched run) disk :=
    ⟨.inl habsent, fun f hf => .inl hf⟩
  rw [publish]
  refine Ends.bind_lift (fun _ hvalid => ?_) fun _ _ => hkept
  rw [Except.mapError_eq_ok] at hvalid
  refine Ends.bind (Q := fun _ disk' => Reported run (passedReport run gates ranks)
    disk'.files ∧ Since disk (Vouched run) disk') ?_ ?_
  · refine (writeJson_ends (Q := Reported run (passedReport run gates ranks)) (by simp)
      ofOutputs_absent habsent fun bytes hbytes => ⟨absent_replaced habsent _, bytes, hbytes,
        Function.update_self ..⟩).mono ?_ ?_
    · rintro _ disk' ⟨hreported, hsince⟩
      exact ⟨hreported, hsince.trans (fun f hf => .inl hf) fun f hf => .inl (hf.elim id And.left)⟩
    · rintro _ disk' ⟨-, hfiles, hsince⟩
      exact ⟨.inl hfiles, hsince.trans (fun f hf => .inl hf) fun f hf => .inl (hf.elim id And.left)⟩
  · rintro _ reported ⟨⟨habsent', hreport⟩, hsince⟩
    refine ((list_ends hprobe hvalid habsent' hreport).mono (fun _ _ h => h) ?_).bind ?_
    · rintro _ disk' ⟨hfiles, hsince'⟩
      exact ⟨.inl hfiles, hsince'.trans hsince fun _ h => h⟩
    · rintro _ disk' ⟨hpublished, hsince'⟩
      have hall := hsince'.trans hsince fun _ h => h
      refine Ends.call (fun _ => ⟨hpublished, hall⟩) fun e he => ⟨.inr ⟨hpublished, ?_⟩, hall⟩
      rw [he]
      exact Option.some_ne_none e

/-- The handler replaces the report by a failed one. -/
theorem publishFailure_ends {error : ε} {disk : Disk Path} (h : Interrupted run disk.files) :
    Ends (publishFailure run error) disk
      (fun code disk' => (code = 1 ∧ Refused run disk'.files) ∧ Since disk (Vouched run) disk')
      (fun _ disk' => (Refused run disk'.files ∨ Unwritten run ∧ Interrupted run disk'.files) ∧
        Since disk (Vouched run) disk') := by
  have hstart : OfOutputs (Outputs run) (Interrupted run) := by
    rintro f g houtputs (hf | ⟨hf, hprint⟩)
    · exact .inl (ofOutputs_absent f g houtputs hf)
    · exact .inr ⟨ofOutputs_published f g houtputs hf, hprint⟩
  have hfailed : ∀ bytes, run.encode (failedReport run (run.traceback error)) = .ok bytes →
      Refused run (replaced disk.files run.report (bytes ++ [10]) true) := by
    intro bytes hbytes
    have hholds : ∃ text, Holds run (failedReport run text)
        (replaced disk.files run.report (bytes ++ [10]) true run.report) :=
      ⟨_, bytes, hbytes, Function.update_self ..⟩
    refine ⟨hholds, ?_⟩
    rcases h with habsent | ⟨⟨gates, ranks, hprobe, -, hlisted⟩, hprint⟩
    · exact .inl (absent_replaced habsent _)
    · refine .inr ⟨hprint, hholds, gates, ranks, hprobe, hlisted.of_outputs fun path hpath => ?_⟩
      rw [replaced, Function.update_of_ne]
      rintro rfl
      exact run.distinct hpath
  have hweaken : ∀ f, Interrupted run f ∨ Refused run f → Vouched run f := by
    rintro f ((hf | ⟨hf, -⟩) | ⟨-, hf | hf⟩)
    exacts [.inl hf, .inr (.inl hf), .inl hf, .inr (.inr hf)]
  rw [publishFailure]
  refine ((writeJson_ends (Q := Refused run) (by simp) hstart h hfailed).mono
    (fun _ _ h => h) ?_).bind ?_
  · rintro _ disk' ⟨hfails, hinterrupted, hsince⟩
    refine ⟨.inr ⟨?_, hinterrupted⟩, fun f hf => (hsince f hf).imp_right (hweaken f)⟩
    refine hfails.imp_right (Or.imp_left ?_)
    rintro ⟨e, he⟩
    exact ⟨_, e, he⟩
  · rintro _ disk' ⟨hrefused, hsince⟩
    have hall : Since disk (Vouched run) disk' := fun f hf => (hsince f hf).imp_right (hweaken f)
    exact Ends.bind_call (fun _ => Ends.pure ⟨⟨rfl, hrefused⟩, hall⟩) fun _ _ => ⟨.inl hrefused, hall⟩

/-- The stale allowlist is gone, or nothing has changed. -/
theorem removeStaleAllowlist_ends (disk : Disk Path) :
    Ends (removeStaleAllowlist run) disk
      (fun _ disk' => Absent run disk'.files ∧ Since disk (Vouched run) disk')
      (fun _ disk' => Unreported run disk.files disk'.files ∧ Since disk (Vouched run) disk') := by
  rw [removeStaleAllowlist]
  split
  · next hnone =>
    exact Ends.pure ⟨fun path hpath => (nomatch hnone.symm.trans hpath), fun f hf => .inl hf⟩
  · next path hpath =>
    refine Ends.bind_call (fun _ => Ends.update ?_) fun e he =>
      ⟨.stale (he ▸ Option.some_ne_none e) rfl, .refl⟩
    have habsent : Absent run (disk.put path none).files := by
      intro other hother
      obtain rfl : path = other := Option.some.inj (hpath.symm.trans hother)
      exact Function.update_self ..
    refine ⟨habsent, fun f hf => ?_⟩
    rcases Disk.saw_change.mp hf with rfl | hf
    exacts [.inr (.inl habsent), .inl hf]

/-- What `main` returns, or what is left when it raises. -/
theorem main_ends (run : Run ε) (disk : Disk Path) :
    Ends (main run) disk
      (fun code disk' => (code = 0 ∧ Published run disk'.files ∨ code = 1 ∧
        Refused run disk'.files) ∧ Since disk (Vouched run) disk')
      (fun _ disk' => (Refused run disk'.files ∨ Unreported run disk.files disk'.files) ∧
        Since disk (Vouched run) disk') := by
  rw [main]
  refine ((removeStaleAllowlist_ends disk).mono (fun _ _ h => h) fun _ _ h => ⟨.inr h.1, h.2⟩).bind
    fun _ removed ⟨habsent, hremoved⟩ => ?_
  refine Ends.bind_call (fun _ => ?_) fun e he =>
    ⟨.inr (.unprepared (he ▸ Option.some_ne_none e) habsent), hremoved⟩
  refine Ends.tryCatch (F := fun _ disk' => Interrupted run disk'.files ∧
    Since disk (Vouched run) disk') ?_ ?_
  · refine Ends.bind_lift (fun probed hprobe => ?_) fun _ _ => ⟨.inl habsent, hremoved⟩
    refine ((publish_ends hprobe habsent).mono (fun _ _ h => h) ?_).bind ?_
    · rintro _ disk' ⟨hinterrupted, hsince⟩
      exact ⟨hinterrupted, hsince.trans hremoved fun _ h => h⟩
    · rintro _ disk' ⟨hpublished, hsince⟩
      exact Ends.pure ⟨.inl ⟨rfl, hpublished⟩, hsince.trans hremoved fun _ h => h⟩
  · rintro error disk' ⟨hinterrupted, hsince⟩
    refine (publishFailure_ends hinterrupted).mono ?_ ?_
    · rintro code final ⟨hrefused, hfinal⟩
      exact ⟨.inr hrefused, hfinal.trans hsince fun _ h => h⟩
    · rintro _ final ⟨hleft, hfinal⟩
      exact ⟨hleft.imp_right fun h => .unwritten h.1 h.2, hfinal.trans hsince fun _ h => h⟩

/-- Two ranks pass, and no call fails. -/
def twoRankRun : Run String where
  decimal := asciiDecimal
  report := "report.json"
  allowlist := some "allowlist.txt"
  profile := probeProfile
  environment := probeEnvironment
  matrix := probeMatrix 2
  probe := .ok (probeGates, [writtenDigest, writtenDigest].mapIdx probeRank)
  available := []
  encode _ := .ok [123, 125]
  refused _ := "refused"
  traceback error := error
  unlinkStale := none
  prepare := none
  mkdirReport := none
  reportCalls := .quiet ".report.json.tmp" "exists"
  mkdirAllowlist := none
  allowlistCalls := .quiet ".allowlist.txt.tmp" "exists"
  printPassed := none
  mkdirFailed := none
  failedCalls := .quiet ".report.json.tmp" "exists"
  printFailed := none
  distinct := by decide
  fresh := by
    intro calls hcalls files temporary hcreate
    simp only [List.mem_cons, List.not_mem_nil, or_false] at hcalls
    rcases hcalls with rfl | rfl | rfl
    all_goals
      obtain ⟨hnone, rfl⟩ := Calls.create_quiet hcreate
      exact ⟨hnone, by decide, by decide⟩

/-- The outputs of an earlier run. -/
def earlier : Disk Path where
  files path := if path = "allowlist.txt" then some ⟨[49], true⟩ else none
  past := []

end Kapsl.Vllm.Publication
