import Kapsl.Lib.AtomicFile
import Kapsl.Ort.PackContract

/-!
# Ort/PackPublication — a pack is published in order

`create_pack` writes the archive of a CPU pack, reads it back, and then publishes the manifest, the
checksum and the signature, one file at a time.  Any call of the system may fail, and the process
may die between any two; what is in the output directory then is one of the states it went through.

* `signArtifact_eq_ok` — a signature is of the digest, by the key that was expected.
* `createPack_inOrder` — the four files are replaced in this order: a new manifest is there only
  beside an archive of exactly the entries, a new checksum only beside that manifest, and a new
  signature, or none, only beside that checksum.  When the pack is returned all four are new.
-/

namespace Kapsl.Ort.PackPublication

open Attempt AtomicFile PackArchive
open Vllm (Json)
open Except (raiseIf okOr)

/-! ## The signature -/

/-- The bytes of a text. -/
def textBytes (text : String) : List UInt8 := text.toUTF8.data.toList

/-- The signing key, `openssl` and `base64`. -/
structure Signing (ε : Type) where
  keyPath : String
  /-- `signing_key.is_file()`. -/
  isFile : Bool
  /-- `openssl pkey -in … -pubout -outform DER`. -/
  publicKeyDer : Except (Raised ε) (List UInt8)
  /-- `openssl pkeyutl -sign -rawin -inkey … -in …`, of this message. -/
  signTool : List UInt8 → Except (Raised ε) (List UInt8)
  /-- `base64.b64decode(text, validate=True)`, or the text of a `ValueError`. -/
  b64decode : String → Except String (List UInt8)
  /-- `base64.b64encode`. -/
  b64encode : List UInt8 → String

section

variable {ε : Type} (signing : Signing ε)

/-- `signing_public_key`. -/
def signingPublicKey : Except (Raised ε) String := do
  let output ← signing.publicKeyDer
  raiseIf (output.length ≠ 44) (.package "artifact signing key is not an Ed25519 private key")
  return signing.b64encode (output.drop (output.length - 32))

/-- `text.removeprefix(prefix)`. -/
def removePrefix (start text : String) : String :=
  if start.toList.isPrefixOf text.toList then String.ofList (text.toList.drop start.length) else text

/-- `ARTIFACT_DOMAIN + f"sha256:{digest}".encode("ascii")`. -/
def artifactMessage (digest : String) : List UInt8 :=
  textBytes "kapsl-backend-artifact-v1" ++ 0 :: textBytes ("sha256:" ++ digest)

/-- `sign_artifact`. -/
def signArtifact (expectedPublicKey digest : String) : Except (Raised ε) String := do
  raiseIf (signing.isFile = false)
    (.package ("artifact signing key is not a file: " ++ signing.keyPath))
  let expectedBytes ← (signing.b64decode (removePrefix "ed25519:" expectedPublicKey)).mapError
    fun text => .package ("expected Ed25519 public key is invalid: " ++ text)
  raiseIf (expectedBytes.length ≠ 32)
    (.package "expected Ed25519 public key must contain 32 bytes")
  let actualPublicKey ← signingPublicKey signing
  raiseIf (actualPublicKey ≠ signing.b64encode expectedBytes)
    (.package "artifact signing key does not match the expected public key")
  let signature ← signing.signTool (artifactMessage digest)
  raiseIf (signature.length ≠ 64) (.package ("OpenSSL emitted a " ++
    toString signature.length ++ " byte signature; expected 64"))
  return "ed25519:" ++ signing.b64encode signature

/-- **A signature of a digest** by the key that was expected. -/
structure IsSignature (expectedPublicKey digest signature : String) : Prop where
  key : ∃ expected der, signing.b64decode (removePrefix "ed25519:" expectedPublicKey) = .ok expected ∧
    expected.length = 32 ∧ signing.publicKeyDer = .ok der ∧ der.length = 44 ∧
    signing.b64encode (der.drop 12) = signing.b64encode expected
  signed : ∃ raw, signing.signTool (artifactMessage digest) = .ok raw ∧ raw.length = 64 ∧
    signature = "ed25519:" ++ signing.b64encode raw

variable {signing}

/-- **What is signed**, and by which key. -/
theorem signArtifact_eq_ok {expectedPublicKey digest signature : String} :
    signArtifact signing expectedPublicKey digest = .ok signature ↔
      signing.isFile = true ∧ IsSignature signing expectedPublicKey digest signature := by
  simp only [signArtifact, signingPublicKey, Except.bind_eq_ok, Except.raiseIf_eq_ok,
    Except.mapError_eq_ok, Except.pure_eq_ok, not_not, Bool.not_eq_false]
  constructor
  · rintro ⟨_, hfile, expected, hexpected, _, hlength, key, ⟨der, hder, _, hderLength, rfl⟩, _, hkey,
      raw, hraw, _, hrawLength, rfl⟩
    rw [hderLength] at hkey
    exact ⟨hfile, ⟨expected, der, hexpected, hlength, hder, hderLength, hkey⟩, raw, hraw, hrawLength,
      rfl⟩
  · rintro ⟨hfile, ⟨expected, der, hexpected, hlength, hder, hderLength, hkey⟩, raw, hraw, hrawLength,
      rfl⟩
    refine ⟨(), hfile, expected, hexpected, (), hlength, _, ⟨der, hder, (), hderLength, rfl⟩, (), ?_,
      raw, hraw, (), hrawLength, rfl⟩
    rw [hderLength]
    exact hkey

end

/-! ## The outputs -/

/-- The arguments that name the outputs. -/
structure Target where
  outputDir : String
  kapslVersion : String

namespace Target

variable (target : Target)

/-- The variable `filename`. -/
def filename : String :=
  "kapsl-backend-onnx-cpu-" ++ target.kapslVersion ++ "-" ++ platform ++ ".tar.gz"

/-- The variable `archive_path`. -/
def archivePath : String := target.outputDir ++ "/" ++ target.filename

/-- The variable `template_path`. -/
def templatePath : String := target.archivePath ++ ".manifest.json"

/-- The variable `checksum_path`. -/
def checksumPath : String := target.archivePath ++ ".sha256"

/-- The variable `signature_path`. -/
def signaturePath : String := target.archivePath ++ ".sig"

/-- All of them. -/
def outputs : List String :=
  [target.archivePath, target.templatePath, target.checksumPath, target.signaturePath]

theorem nodup_outputs : target.outputs.Nodup := by
  have hne : ∀ suffix : String, suffix ≠ "" → target.archivePath ≠ target.archivePath ++ suffix :=
    fun suffix hsuffix h => hsuffix (String.append_eq_left_iff.mp h.symm)
  simp [outputs, templatePath, checksumPath, signaturePath, hne, String.append_right_inj]

end Target

/-! ## The code -/

/-- What a run of `create_pack` meets: its arguments, the library, and the system's answers. -/
structure Run (ε : Type) extends Target where
  host : Host ε
  decode : List UInt8 → Except String String
  /-- `json_bytes`. -/
  jsonBytes : Json → List UInt8
  sourceCommit : String
  sourceDateEpoch : ℤ
  /-- What reading and hashing the inputs comes to. -/
  read : Except (Raised ε) Inputs
  /-- `tarfile` and `gzip`: the bytes they write, and the exception that stops them. -/
  pack : ℤ → List (Member ε) → List UInt8 × Option (Raised ε)
  /-- What opening an archive with these bytes and listing its members come to. -/
  unpack : List UInt8 → Except ε (List (Member ε))
  archiveCalls : Calls String (Raised ε)
  manifestCalls : Calls String (Raised ε)
  checksumCalls : Calls String (Raised ε)
  signatureCalls : Calls String (Raised ε)
  /-- `path.parent.mkdir(parents=True, exist_ok=True)`, for each of the outputs. -/
  mkdir : String → Option (Raised ε)
  /-- Opening the archive to hash it. -/
  hash : Option (Raised ε)
  unlinkSignature : Option (Raised ε)
  signing : Option (Signing ε)
  expectedPublicKey : Option String
  /-- `mkstemp` makes a new file, which is none of the outputs. -/
  fresh : ∀ calls ∈ [archiveCalls, manifestCalls, checksumCalls, signatureCalls],
    ∀ files temporary, calls.create files = .ok temporary →
      files temporary = none ∧ temporary ∉ toTarget.outputs

section

variable {ε : Type} (run : Run ε)

/-- The arguments of `build_entries`. -/
def builderInputs (inputs : Inputs) : Inputs :=
  { inputs with sourceCommit := run.sourceCommit, sourceDateEpoch := run.sourceDateEpoch }

/-- The archive of the entries, and the exception that stops writing it. -/
def packed (entries : Entries PlainEntry) : List UInt8 × Option (Raised ε) :=
  run.pack run.sourceDateEpoch (archiveMembers entries run.sourceDateEpoch)

/-- The calls of `write_archive`: what stops the archive stops the write. -/
def archiveCalls (entries : Entries PlainEntry) : Calls String (Raised ε) :=
  let stopped := (packed run entries).2.map fun e => (e, (packed run entries).1.length)
  { run.archiveCalls with write := stopped <|> run.archiveCalls.write }

/-- `write_archive`, onto the disk: the archive is never synchronized. -/
def writeArchiveFile (entries : Entries PlainEntry) : Attempt (Raised ε) (Disk String) Unit := do
  call (run.mkdir run.archivePath)
  replaceFile false (archiveCalls run entries) run.archivePath (packed run entries).1

/-- `atomic_write`; a mode that cannot be set is a write that fails before its first byte. -/
def atomicWrite (calls : Calls String (Raised ε)) (path : String) (payload : List UInt8) :
    Attempt (Raised ε) (Disk String) Unit := do
  call (run.mkdir path)
  replaceFile true calls path payload

/-- The bytes of the archive on the disk. -/
def archiveBytes (disk : Disk String) : List UInt8 :=
  (disk.files run.archivePath).elim [] File.content

/-- `validate_archive`, of the archive on the disk. -/
def validateArchiveFile (entries : Entries PlainEntry) (template : Json) :
    Attempt (Raised ε) (Disk String) Unit := do
  let bytes ← ask (archiveBytes run)
  lift (validateArchive run.host run.archivePath entries template run.sourceDateEpoch
    (run.unpack bytes))

/-- `sha256_file`, of the archive on the disk. -/
def hashArchive : Attempt (Raised ε) (Disk String) String := do
  call run.hash
  let bytes ← ask (archiveBytes run)
  return Sha256.hexdigest bytes

/-- `elif signature_path.exists(): signature_path.unlink()`. -/
def removeSignature (present : Bool) : Attempt (Raised ε) (Disk String) Unit :=
  if present then do
    call run.unlinkSignature
    update (·.put run.signaturePath none)
  else pure ()

/-- The end of `create_pack`: the signature, or the removal of an old one. -/
def publishSignature (digest : String) : Attempt (Raised ε) (Disk String) Unit :=
  match run.signing with
  | some signing => do
    let expected ← lift (okOr run.expectedPublicKey
      (.package "expected-public-key is required with signing-key"))
    let signature ← lift (signArtifact signing expected digest)
    atomicWrite run run.signatureCalls run.signaturePath (textBytes (signature ++ "\n"))
  | none => do
    let present ← ask fun disk => (disk.files run.signaturePath).isSome
    removeSignature run present

/-- The variable `result`. -/
def result : List (String × String) :=
  [("archive", run.archivePath), ("manifest", run.templatePath), ("checksum", run.checksumPath)] ++
    if run.signing.isSome then [("signature", run.signaturePath)] else []

/-- The text of the checksum file. -/
def checksumText (digest : String) : String := digest ++ "  " ++ run.filename ++ "\n"

/-- `create_pack`. -/
def createPack : Attempt (Raised ε) (Disk String) (List (String × String)) := do
  lift (checkArguments run.kapslVersion run.sourceCommit run.sourceDateEpoch)
  let inputs ← lift run.read
  let entries ← lift (buildEntries run.decode run.jsonBytes (builderInputs run inputs))
  let template ← lift (manifestTemplate entries run.kapslVersion)
  writeArchiveFile run entries
  validateArchiveFile run entries template
  atomicWrite run run.manifestCalls run.templatePath (run.jsonBytes template)
  let digest ← hashArchive run
  atomicWrite run run.checksumCalls run.checksumPath (textBytes (checksumText run digest))
  publishSignature run digest
  return result run

/-! ## The states of the outputs -/

/-- A path of the outputs. -/
def Outputs (path : String) : Prop := path ∈ run.outputs

/-- The same outputs. -/
def Same (f g : Files String) : Prop := ∀ path, Outputs run path → f path = g path

/-- The digest of the archive. -/
def archiveDigest (entries : Entries PlainEntry) : String := Sha256.hexdigest (packed run entries).1

/-- The new archive in place. -/
def archived (entries : Entries PlainEntry) (start : Files String) : Files String :=
  replaced start run.archivePath (packed run entries).1 false

/-- The new manifest beside it. -/
def described (entries : Entries PlainEntry) (template : Json) (start : Files String) :
    Files String :=
  replaced (archived run entries start) run.templatePath (run.jsonBytes template) true

/-- The new checksum beside both. -/
def summed (entries : Entries PlainEntry) (template : Json) (start : Files String) :
    Files String :=
  replaced (described run entries template start) run.checksumPath
    (textBytes (checksumText run (archiveDigest run entries))) true

/-- The arguments and the inputs give these entries and this manifest. -/
structure Prepared (entries : Entries PlainEntry) (template : Json) : Prop where
  arguments :
    checkArguments (ε := ε) run.kapslVersion run.sourceCommit run.sourceDateEpoch = .ok ()
  built : ∃ inputs, run.read = .ok inputs ∧
    buildEntries (ε := ε) run.decode run.jsonBytes (builderInputs run inputs) = .ok entries
  template : manifestTemplate (ε := ε) entries run.kapslVersion = .ok template

/-- **The archive was read back**, whole, and has exactly the entries. -/
structure Accepted (entries : Entries PlainEntry) : Prop where
  whole : (packed run entries).2 = none
  exact : ∃ members, run.unpack (packed run entries).1 = .ok members ∧
    Exact entries run.sourceDateEpoch members

/-- **The signature file**, of an archive with this digest; there is none without a signing key. -/
def SignatureFile (digest : String) (file : Option File) : Prop :=
  match run.signing with
  | none => file = none
  | some signing => ∃ expected signature, run.expectedPublicKey = some expected ∧
      IsSignature signing expected digest signature ∧
      file = some ⟨textBytes (signature ++ "\n"), true⟩

/-- **A published pack** — all four outputs are new. -/
def Complete (start files : Files String) : Prop :=
  ∃ entries template, Prepared run entries template ∧ Accepted run entries ∧
    ∃ file, SignatureFile run (archiveDigest run entries) file ∧
      Same run (Function.update (summed run entries template start) run.signaturePath file) files

/-- **How far a run has come**, from the files it started with. -/
inductive Stage (start files : Files String) : Prop
  | untouched (h : Same run start files)
  | archived (entries : Entries PlainEntry) (template : Json)
      (hprepared : Prepared run entries template) (h : Same run (archived run entries start) files)
  | described (entries : Entries PlainEntry) (template : Json)
      (hprepared : Prepared run entries template) (haccepted : Accepted run entries)
      (h : Same run (described run entries template start) files)
  | summed (entries : Entries PlainEntry) (template : Json)
      (hprepared : Prepared run entries template) (haccepted : Accepted run entries)
      (h : Same run (summed run entries template start) files)
  | complete (h : Complete run start files)

end

/-! ## One output -/

section

variable {ε : Type} {run : Run ε} {base start : Files String} {begin disk : Disk String}
  {P Q : Files String → Prop}

theorem ofOutputs_same : OfOutputs (Outputs run) (Same run base) :=
  fun _ _ houtputs h path hpath => (h path hpath).trans (houtputs path hpath)

/-- An output changes. -/
theorem Same.update {f : Files String} (h : Same run base f) (destination : String)
    (file : Option File) :
    Same run (Function.update base destination file) (Function.update f destination file) := by
  intro path hpath
  by_cases heq : path = destination
  · rw [heq, Function.update_self, Function.update_self]
  · rw [Function.update_of_ne heq, Function.update_of_ne heq]
    exact h path hpath

/-- **One output is replaced**, from a stage to the next one. -/
theorem replaceStage_ends {calls : Calls String (Raised ε)} {destination : String}
    {content : List UInt8} {durable : Bool}
    (hcalls : ∀ files temporary, calls.create files = .ok temporary →
      files temporary = none ∧ ¬Outputs run temporary)
    (hdestination : Outputs run destination) (hbase : Same run base disk.files)
    (hsince : Since begin P disk) (hP : ∀ f, Same run base f → P f)
    (hQ : ∀ f, Same run (replaced base destination content durable) f → P f) :
    Ends (replaceFile durable calls destination content) disk
      (fun _ disk' => calls.write = none ∧
        Same run (replaced base destination content durable) disk'.files ∧ Since begin P disk')
      (fun _ disk' => P disk'.files ∧ Since begin P disk') := by
  have hnew : Same run (replaced base destination content durable)
      (replaced disk.files destination content durable) := hbase.update destination _
  have hweaken : ∀ f, Same run base f ∨ f = replaced disk.files destination content durable →
      P f := by
    rintro f (hf | rfl)
    exacts [hP f hf, hQ _ hnew]
  refine (replaceOutput_ends hcalls hdestination ofOutputs_same hbase).mono ?_ ?_
  · rintro _ disk' ⟨hwrite, hfiles, hstep⟩
    exact ⟨hwrite, hfiles ▸ hnew, hstep.trans hsince hweaken⟩
  · rintro _ disk' ⟨-, hfiles, hstep⟩
    exact ⟨hP _ hfiles, hstep.trans hsince hweaken⟩

/-- `atomic_write` of an output. -/
theorem atomicWrite_ends {calls : Calls String (Raised ε)}
    (hcalls : calls ∈ [run.archiveCalls, run.manifestCalls, run.checksumCalls, run.signatureCalls])
    {destination : String} {payload : List UInt8} (hdestination : Outputs run destination)
    (hbase : Same run base disk.files) (hsince : Since begin P disk)
    (hP : ∀ f, Same run base f → P f)
    (hQ : ∀ f, Same run (replaced base destination payload true) f → P f) :
    Ends (atomicWrite run calls destination payload) disk
      (fun _ disk' => Same run (replaced base destination payload true) disk'.files ∧
        Since begin P disk')
      (fun _ disk' => P disk'.files ∧ Since begin P disk') := by
  rw [atomicWrite]
  refine Ends.bind_call (fun _ => ?_) fun _ _ => ⟨hP _ hbase, hsince⟩
  exact (replaceStage_ends (run.fresh calls hcalls) hdestination hbase hsince hP hQ).mono
    (fun _ _ h => h.2) fun _ _ h => h

/-- The archive is written; when the call returns, it is whole. -/
theorem writeArchiveFile_ends {entries : Entries PlainEntry} (hbase : Same run start disk.files)
    (hsince : Since begin P disk) (hP : ∀ f, Same run start f → P f)
    (hQ : ∀ f, Same run (archived run entries start) f → P f) :
    Ends (writeArchiveFile run entries) disk
      (fun _ disk' => (packed run entries).2 = none ∧
        Same run (archived run entries start) disk'.files ∧ Since begin P disk')
      (fun _ disk' => P disk'.files ∧ Since begin P disk') := by
  rw [writeArchiveFile]
  refine Ends.bind_call (fun _ => ?_) fun _ _ => ⟨hP _ hbase, hsince⟩
  have hcalls : ∀ files temporary, (archiveCalls run entries).create files = .ok temporary →
      files temporary = none ∧ ¬Outputs run temporary := run.fresh run.archiveCalls List.mem_cons_self
  refine (replaceStage_ends hcalls List.mem_cons_self hbase hsince hP hQ).mono ?_ fun _ _ h => h
  rintro _ disk' ⟨hwrite, hfiles⟩
  refine ⟨?_, hfiles⟩
  rcases hstopped : (packed run entries).2 with _ | e
  · rfl
  · rw [archiveCalls, hstopped] at hwrite
    exact nomatch hwrite

/-- The archive on the disk is the new one. -/
theorem archiveBytes_eq {entries : Entries PlainEntry} (template : Json)
    (h : Same run (archived run entries start) disk.files ∨
      Same run (described run entries template start) disk.files) :
    archiveBytes run disk = (packed run entries).1 := by
  have hmem : Outputs run run.archivePath := List.mem_cons_self
  have hne : run.archivePath ≠ run.templatePath := by
    have hnodup := run.nodup_outputs
    rw [Target.outputs, List.nodup_cons] at hnodup
    exact fun heq => hnodup.1 (heq ▸ List.mem_cons_self)
  have harchived : archived run entries start run.archivePath =
      some ⟨(packed run entries).1, false⟩ := Function.update_self ..
  have hfile : disk.files run.archivePath = some ⟨(packed run entries).1, false⟩ := by
    rcases h with h | h
    · rw [← h _ hmem, harchived]
    · rw [← h _ hmem, described, replaced, Function.update_of_ne hne, harchived]
  rw [archiveBytes, hfile]
  rfl

/-- What `validate_archive` accepts is exact. -/
theorem accepted_of_validate {entries : Entries PlainEntry} {template : Json}
    (hwhole : (packed run entries).2 = none)
    (h : validateArchive run.host run.archivePath entries template run.sourceDateEpoch
      (run.unpack (packed run entries).1) = .ok ()) : Accepted run entries := by
  rw [validateArchive, validate_eq_ok] at h
  obtain ⟨members, hmembers, hadmissible, hmatches, hnames, -⟩ := h
  exact ⟨hwhole, members, hmembers, exact_iff.mpr ⟨hadmissible, hmatches, hnames⟩⟩

/-! ## The signature file -/

/-- **The last step** — a signature is put in place, or an old one removed. -/
theorem publishSignature_ends {digest : String} (hbase : Same run base disk.files)
    (hsince : Since begin P disk) (hP : ∀ f, Same run base f → P f)
    (hQ : ∀ f file, SignatureFile run digest file →
      Same run (Function.update base run.signaturePath file) f → P f) :
    Ends (publishSignature run digest) disk
      (fun _ disk' => (∃ file, SignatureFile run digest file ∧
        Same run (Function.update base run.signaturePath file) disk'.files) ∧ Since begin P disk')
      (fun _ disk' => P disk'.files ∧ Since begin P disk') := by
  have hmem : Outputs run run.signaturePath := by simp [Outputs, Target.outputs]
  have hkept : P disk.files ∧ Since begin P disk := ⟨hP _ hbase, hsince⟩
  rw [publishSignature]
  split
  · next signing hsigning =>
    refine Ends.bind_lift (fun expected hexpected => ?_) fun _ _ => hkept
    refine Ends.bind_lift (fun signature hsignature => ?_) fun _ _ => hkept
    have hfile : SignatureFile run digest (some ⟨textBytes (signature ++ "\n"), true⟩) := by
      rw [SignatureFile, hsigning]
      exact ⟨expected, signature, Except.okOr_eq_ok.mp hexpected,
        (signArtifact_eq_ok.mp hsignature).2, rfl⟩
    refine (atomicWrite_ends (by simp) hmem hbase hsince hP fun f hf => hQ f _ hfile hf).mono ?_
      fun _ _ h => h
    exact fun _ disk' ⟨hfiles, hall⟩ => ⟨⟨_, hfile, hfiles⟩, hall⟩
  · next hsigning =>
    have hfile : SignatureFile run digest none := by
      rw [SignatureFile, hsigning]
    refine Ends.bind_ask ?_
    rw [removeSignature]
    split
    · refine Ends.bind_call (fun _ => Ends.update ?_) fun _ _ => hkept
      have hremoved : Same run (Function.update base run.signaturePath none)
          (disk.put run.signaturePath none).files := hbase.update _ _
      refine ⟨⟨none, hfile, hremoved⟩, fun f hf => ?_⟩
      rcases Disk.saw_change.mp hf with rfl | hf
      exacts [.inr (hQ _ none hfile hremoved), hsince f hf]
    · next habsent =>
      refine Ends.pure ⟨⟨none, hfile, fun path hpath => ?_⟩, hsince⟩
      by_cases heq : path = run.signaturePath
      · subst heq
        rw [Function.update_self]
        exact (Option.not_isSome_iff_eq_none.mp habsent).symm
      · rw [Function.update_of_ne heq]
        exact hbase path hpath

/-! ## The whole run -/

/-- **A pack is published in order**, whatever fails and wherever the process dies.

At every point the outputs are at one of the stages, from the untouched files to the complete pack;
and when the pack is returned, it is complete. -/
theorem createPack_inOrder (run : Run ε) (disk : Disk String) :
    Ends (createPack run) disk
      (fun paths disk' => (paths = result run ∧ Complete run disk.files disk'.files) ∧
        Since disk (Stage run disk.files) disk')
      (fun _ disk' => Stage run disk.files disk'.files ∧
        Since disk (Stage run disk.files) disk') := by
  have huntouched : Stage run disk.files disk.files := .untouched fun _ _ => rfl
  have hkept : Stage run disk.files disk.files ∧ Since disk (Stage run disk.files) disk :=
    ⟨huntouched, .refl⟩
  rw [createPack]
  refine Ends.bind_lift (fun _ harguments => ?_) fun _ _ => hkept
  refine Ends.bind_lift (fun inputs hinputs => ?_) fun _ _ => hkept
  refine Ends.bind_lift (fun entries hentries => ?_) fun _ _ => hkept
  refine Ends.bind_lift (fun template htemplate => ?_) fun _ _ => hkept
  have hprepared : Prepared run entries template :=
    ⟨harguments, ⟨inputs, hinputs, hentries⟩, htemplate⟩
  -- the archive
  refine (writeArchiveFile_ends (fun _ _ => rfl) .refl (fun _ => .untouched)
    fun _ => .archived entries template hprepared).bind ?_
  rintro _ disk₁ ⟨hwhole, harchived, hsince₁⟩
  rw [validateArchiveFile]
  refine Ends.bind (Q := fun _ disk' => Accepted run entries ∧ disk' = disk₁) ?_ ?_
  · refine Ends.bind_ask ?_
    rw [archiveBytes_eq template (.inl harchived)]
    refine ⟨fun _ disk' h => ?_, fun _ disk' h => ?_⟩
    · obtain ⟨hvalid, rfl⟩ := Prod.mk.inj h
      exact ⟨accepted_of_validate hwhole hvalid, rfl⟩
    · obtain ⟨-, rfl⟩ := Prod.mk.inj h
      exact ⟨.archived entries template hprepared harchived, hsince₁⟩
  rintro _ _ ⟨haccepted, rfl⟩
  -- the manifest
  have hstaged : ∀ f, Same run (described run entries template disk.files) f →
      Stage run disk.files f := fun _ => .described entries template hprepared haccepted
  refine (atomicWrite_ends (by simp) (by simp [Outputs, Target.outputs]) harchived hsince₁
    (fun _ => .archived entries template hprepared) hstaged).bind ?_
  rintro _ disk₂ ⟨hdescribed, hsince₂⟩
  refine Ends.bind (Q := fun digest disk' => digest = archiveDigest run entries ∧ disk' = disk₂)
    ?_ ?_
  · rw [hashArchive]
    refine Ends.bind_call (fun _ => Ends.bind_ask (Ends.pure ⟨?_, rfl⟩)) fun _ _ =>
      ⟨hstaged _ hdescribed, hsince₂⟩
    rw [archiveBytes_eq template (.inr hdescribed), archiveDigest]
  rintro _ _ ⟨rfl, rfl⟩
  -- the checksum
  have hstaged' : ∀ f, Same run (summed run entries template disk.files) f →
      Stage run disk.files f := fun _ => .summed entries template hprepared haccepted
  refine (atomicWrite_ends (by simp) (by simp [Outputs, Target.outputs]) hdescribed hsince₂ hstaged
    hstaged').bind ?_
  rintro _ disk₃ ⟨hsummed, hsince₃⟩
  -- the signature
  refine (publishSignature_ends hsummed hsince₃ hstaged' fun f file hfile hf =>
    .complete ⟨entries, template, hprepared, haccepted, file, hfile, hf⟩).bind ?_
  rintro _ disk₄ ⟨⟨file, hfile, hsame⟩, hsince₄⟩
  exact Ends.pure ⟨⟨rfl, entries, template, hprepared, haccepted, file, hfile, hsame⟩, hsince₄⟩

end

/-- The inputs are read, but the notices are none. -/
def noNotices : Inputs where
  library := [127]
  runtimeLibrary := [127]
  kapslLicense := [65]
  kapslNotice := [65]
  ortLicense := [65]
  ortNotices := []
  cargoNotices := [65]
  sourceCommit := ""
  sourceDateEpoch := 0
  cargoLockSha256 := ""
  rustToolchainSha256 := ""
  adapterInspection := ⟨[], "libkapsl_backend_ort.so", "2.17"⟩
  runtimeInspection := ⟨[], "libonnxruntime.so.1", "2.17"⟩

/-- No call fails. -/
def noNoticesRun : Run String where
  outputDir := "dist"
  kapslVersion := "1.4.0"
  host := { caught := some, loads := fun _ => .error "not JSON" }
  decode _ := .ok ""
  jsonBytes _ := [123, 125]
  sourceCommit := String.ofList (.replicate 40 'a')
  sourceDateEpoch := 1700000000
  read := .ok noNotices
  pack _ _ := ([31, 139], none)
  unpack _ := .error "not a gzip file"
  archiveCalls := .quiet "dist/.archive.tmp" (.library "exists")
  manifestCalls := .quiet "dist/.manifest.tmp" (.library "exists")
  checksumCalls := .quiet "dist/.checksum.tmp" (.library "exists")
  signatureCalls := .quiet "dist/.signature.tmp" (.library "exists")
  mkdir _ := none
  hash := none
  unlinkSignature := none
  signing := none
  expectedPublicKey := none
  fresh := by
    intro calls hcalls files temporary hcreate
    simp only [List.mem_cons, List.not_mem_nil, or_false] at hcalls
    rcases hcalls with rfl | rfl | rfl | rfl
    all_goals
      obtain ⟨hnone, rfl⟩ := Calls.create_quiet hcreate
      exact ⟨hnone, by decide⟩

/-- The archive of an earlier pack. -/
def earlier : Disk String where
  files path := if path = noNoticesRun.archivePath then some ⟨[49], true⟩ else none
  past := []

theorem createPack_inOrder_noNotices :
    ∃ e disk, exec (createPack noNoticesRun) earlier = (.error e, disk) ∧
      disk.files noNoticesRun.archivePath = some ⟨[49], true⟩ := by
  -- the digest of the notices is not the one that is pinned
  have hdigest : Sha256.hexdigest [] ≠ noticeSha256 := by decide +kernel
  have hunbuilt : ∀ entries template, ¬Prepared noNoticesRun entries template := by
    rintro entries template ⟨-, ⟨inputs, hinputs, hbuilt⟩, -⟩
    obtain rfl : noNotices = inputs := Except.ok.inj hinputs
    simp only [buildEntries, validateNotice, builderInputs, noNotices, Except.bind_eq_ok,
      Except.mapError_eq_ok, Except.raiseIf_eq_ok] at hbuilt
    obtain ⟨_, ⟨_, -, _, hpinned, -⟩, -⟩ := hbuilt
    exact Except.raiseIf_eq_ok.mp hpinned hdigest
  obtain ⟨hreturned, hraised⟩ := createPack_inOrder noNoticesRun earlier
  rcases hexec : exec (createPack noNoticesRun) earlier with ⟨e | paths, disk⟩
  · refine ⟨e, disk, rfl, ?_⟩
    have hkept : Same noNoticesRun earlier.files disk.files := by
      rcases (hraised e disk hexec).1 with h | ⟨_, _, h, -⟩ | ⟨_, _, h, -⟩ | ⟨_, _, h, -⟩ |
        ⟨_, _, h, -⟩
      exacts [h, absurd h (hunbuilt _ _), absurd h (hunbuilt _ _), absurd h (hunbuilt _ _),
        absurd h (hunbuilt _ _)]
    exact (hkept _ List.mem_cons_self).symm
  · obtain ⟨entries, template, h, -⟩ := (hreturned paths disk hexec).1.2
    exact absurd h (hunbuilt entries template)

end Kapsl.Ort.PackPublication
