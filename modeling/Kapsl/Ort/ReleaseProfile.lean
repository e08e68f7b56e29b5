import Kapsl.Ort.PackPublication
import Kapsl.Ort.ReleaseParts

/-!
# Ort/ReleaseProfile — the assets of a profile are made from its pack

`prepare_profile` takes the four files of a pack that was built and signed, the handoff, and makes the
assets of its release: the parts of the archive, the other three files, a catalog that describes them
all, and a signature of the catalog.  Every call of the system may fail, and leave its work half done.

* `verifySignature_eq_ok`, `checkHandoff_eq_ok` — what a handoff is that is taken.
* `prepareProfile_exact` — when the assets are made, and which they are; and that a signed catalog is
  there only beside all of them.
-/

namespace Kapsl.Ort.Release

open Attempt
open PackPublication (Signing signArtifact signArtifact_eq_ok IsSignature removePrefix artifactMessage
  textBytes)
open PackArchive (Raised isHexCommit)
open Vllm (Json strip)
open ReleaseParts (Archive Directory Record SplitError chunks partName records stored)
open Except (raiseIf okOr)

/-! ## Texts and signatures -/

/-- The library and `openssl`. -/
structure Tools (ε : Type) extends Signing ε where
  /-- `json.loads(path.read_text(encoding="utf-8"))`. -/
  loads : List UInt8 → Except ε Json
  /-- `json_bytes`. -/
  jsonBytes : Json → List UInt8
  /-- `repr(value)`. -/
  repr : Json → String
  /-- Whether `openssl pkeyutl -verify -rawin` accepts: a key, a message, a signature. -/
  verifyTool : List UInt8 → List UInt8 → List UInt8 → Bool
  unicodeDecodeError : ε
  valueError : String → ε
  fileExistsError : String → ε

/-- `0|[1-9][0-9]*`. -/
def isNumber : List Char → Bool
  | [] => false
  | c :: digits => c.isDigit && digits.all Char.isDigit && (c != '0' || digits.isEmpty)

/-- `re.fullmatch(VERSION, text)`. -/
def isVersion (text : String) : Bool :=
  let numbers := text.toList.splitOn '.'
  numbers.length == 3 && numbers.all isNumber

/-- `[A-Za-z0-9_.-]`. -/
def isPortableChar (c : Char) : Bool := c.isAlphanum || c == '_' || c == '.' || c == '-'

/-- `re.fullmatch(r"[A-Za-z0-9_.-]+", text)`. -/
def isPortable (text : List Char) : Bool := !text.isEmpty && text.all isPortableChar

/-- The test for an owner/name pair. -/
def isRepository (text : String) : Bool :=
  let names := text.toList.splitOn '/'
  names.length == 2 && names.all isPortable

/-- `PUBLIC_KEY_DER_PREFIX`. -/
def publicKeyDerPrefix : List UInt8 :=
  [0x30, 0x2a, 0x30, 0x05, 0x06, 0x03, 0x2b, 0x65, 0x70, 0x03, 0x21, 0x00]

section

variable {ε : Type} (tools : Tools ε)

/-- `path.read_text(encoding="ascii")`: ASCII is the part of UTF-8 below 128. -/
def readAscii (content : List UInt8) : Except (Raised ε) String :=
  match String.fromUTF8? ⟨content.toArray⟩ with
  | some text =>
    if text.toList.all fun c => c.toNat < 128 then
      .ok (.ofList (Notices.unixNewlines text.toList))
    else .error (.library tools.unicodeDecodeError)
  | none => .error (.library tools.unicodeDecodeError)

/-- `parse_signature`. -/
def parseSignature (path : String) (content : List UInt8) : Except (Raised ε) String := do
  let text ← readAscii tools content
  let value := strip text
  raiseIf ("ed25519:".toList.isPrefixOf value.toList = false)
    (.package ("artifact signature has an unsupported format: " ++ path))
  let decoded ← (tools.b64decode (removePrefix "ed25519:" value)).mapError fun _ =>
    .package ("artifact signature is invalid Base64: " ++ path)
  raiseIf (decoded.length ≠ 64) (.package ("artifact signature is not 64 bytes: " ++ path))
  return value

/-- `raw_public_key`. -/
def rawPublicKey (value : String) : Except (Raised ε) (List UInt8) := do
  let decoded ← (tools.b64decode (removePrefix "ed25519:" value)).mapError fun _ =>
    .package "expected signing public key is invalid Base64"
  raiseIf (decoded.length ≠ 32) (.package "expected signing public key is not 32 bytes")
  return decoded

/-- `verify_signature`. -/
def verifySignature (publicKey digest signature : String) : Except (Raised ε) Unit := do
  let key ← rawPublicKey tools publicKey
  let bytes ← (tools.b64decode (removePrefix "ed25519:" signature)).mapError fun text =>
    .library (tools.valueError text)
  raiseIf (tools.verifyTool (publicKeyDerPrefix ++ key) (artifactMessage digest) bytes = false)
    (.package "artifact signature does not match the release public key")

/-- `release_url`. -/
def releaseUrl (repository tag name : String) : Except (Raised ε) String := do
  raiseIf (isRepository repository = false)
    (.package "release repository must be an owner/name pair")
  raiseIf (isPortable name.toList = false)
    (.package ("release asset name is not portable: " ++ name))
  return "https://github.com/" ++ repository ++ "/releases/download/" ++ tag ++ "/" ++ name

end

/-! ## The arguments -/

/-- `PROFILES`. -/
def profiles : List String := ["cpu", "cuda12", "tensorrt10"]

/-- The arguments that both commands have. -/
structure Identity where
  adapterVersion : String
  kapslVersion : String
  releaseTag : String
  repository : String
  sourceCommit : String
  expectedPublicKey : String

namespace Identity

variable (identity : Identity)

/-- The variable `expected_tag`. -/
def expectedTag : String :=
  "kapsl-ort-packs-v" ++ identity.adapterVersion ++ "-kapsl-v" ++ identity.kapslVersion

/-- `validate_release_identity`. -/
def validate {ε : Type} : Except (Raised ε) Unit := do
  raiseIf (isVersion identity.adapterVersion = false)
    (.package "release adapter version is not stable semantic versioning")
  raiseIf (isVersion identity.kapslVersion = false)
    (.package "release Kapsl version is not stable semantic versioning")
  raiseIf (identity.releaseTag ≠ identity.expectedTag)
    (.package ("release identity requires exact tag " ++ identity.expectedTag))
  raiseIf (isHexCommit identity.sourceCommit = false)
    (.package "release source commit is not exact lowercase hexadecimal")

/-- **The identity of a release** that may be prepared and indexed. -/
structure Valid : Prop where
  adapterVersion : isVersion identity.adapterVersion = true
  kapslVersion : isVersion identity.kapslVersion = true
  releaseTag : identity.releaseTag = identity.expectedTag
  sourceCommit : isHexCommit identity.sourceCommit = true

variable {identity}

theorem validate_eq_ok {ε : Type} :
    identity.validate (ε := ε) = .ok () ↔ identity.Valid := by
  simp only [validate, Except.bind_eq_ok, Except.raiseIf_eq_ok, exists_const, not_not,
    Bool.not_eq_false]
  constructor
  · rintro ⟨hadapter, hkapsl, htag, hcommit⟩
    exact ⟨hadapter, hkapsl, htag, hcommit⟩
  · rintro ⟨hadapter, hkapsl, htag, hcommit⟩
    exact ⟨hadapter, hkapsl, htag, hcommit⟩

end Identity

/-- A file of the handoff. -/
structure HandoffFile where
  content : List UInt8
  symlink : Bool

/-- The files of the handoff, by their names. -/
abbrev Handoff := String → Option HandoffFile

/-- The bytes that reading a file comes to. -/
def Handoff.content (handoff : Handoff) (name : String) : List UInt8 :=
  (handoff name).elim [] HandoffFile.content

/-- The arguments of `prepare_profile`. -/
structure ProfileArgs extends Identity where
  profile : String
  directory : String
  outputDir : String
  partBytes : ℤ
  consumeArchive : Bool

namespace ProfileArgs

variable (args : ProfileArgs)

/-- The variable `filename`. -/
def filename : String :=
  "kapsl-backend-onnx-" ++ args.profile ++ "-" ++ args.kapslVersion ++ "-linux-x86_64.tar.gz"

theorem filename_eq : args.filename =
    "kapsl-backend-onnx-" ++ args.profile ++ "-" ++ args.kapslVersion ++ "-linux-x86_64.tar.gz" :=
  rfl

/-- `manifest_path.name`. -/
def manifestName : String := args.filename ++ ".manifest.json"

/-- `checksum_path.name`. -/
def checksumName : String := args.filename ++ ".sha256"

/-- `signature_path.name`. -/
def signatureName : String := args.filename ++ ".sig"

/-- The variable `catalog_name`. -/
def catalogName : String := args.filename ++ ".release.json"

/-- The name of the file with the signature of the catalog. -/
def catalogSignatureName : String := args.catalogName ++ ".sig"

/-- A path of the handoff. -/
def path (name : String) : String := args.directory ++ "/" ++ name

/-- The variable `expected_manifest`. -/
def expectedManifest : List (String × String) :=
  [("backend", "onnx"), ("profile", args.profile), ("pack_version", args.adapterVersion),
    ("compatible_kapsl", "=" ++ args.kapslVersion), ("platform", "linux-x86_64")]

/-- The argument `path` of `split_archive`. -/
def archive (handoff : Handoff) : Archive where
  path := args.path args.filename
  name := args.filename
  size := (handoff.content args.filename).length
  content := handoff.content args.filename

end ProfileArgs

/-! ## The catalog -/

/-- What a catalog says of an asset. -/
def asset (name : String) (content : List UInt8) : List (String × Json) :=
  [("name", .str name), ("sha256", .str (Sha256.hexdigest content)), ("size", .int content.length)]

/-- What a catalog says of a part. -/
def partAsset (record : Record) (url : String) : Json :=
  .obj [("name", .str record.name), ("sha256", .str record.sha256), ("size", .int record.size),
    ("url", .str url)]

/-- `catalog["archive"]`. -/
def archiveAsset (args : ProfileArgs) (handoff : Handoff) (signature : String)
    (parts : List Json) : Json :=
  let copied (name : String) : Json := .obj (asset name (handoff.content name))
  .obj (asset args.filename (handoff.content args.filename) ++ [
    ("signature", .str signature),
    ("signature_asset", copied args.signatureName),
    ("manifest", copied args.manifestName),
    ("checksum", copied args.checksumName),
    ("parts", .list parts)])

/-- The variable `catalog`. -/
def catalog (args : ProfileArgs) (handoff : Handoff) (signature : String) (parts : List Json) :
    Json :=
  .obj [
    ("schema_version", .int 1),
    ("release_tag", .str args.releaseTag),
    ("source_repository", .str ("https://github.com/" ++ args.repository)),
    ("source_commit", .str args.sourceCommit),
    ("backend", .str "onnx"),
    ("profile", .str args.profile),
    ("pack_version", .str args.adapterVersion),
    ("compatible_kapsl", .str ("=" ++ args.kapslVersion)),
    ("platform", .str "linux-x86_64"),
    ("archive", archiveAsset args handoff signature parts)]

/-! ## The system -/

/-- A call of the system; what is named is a file of the handoff or an asset. -/
inductive SystemCall
  /-- `output_dir.exists()`. -/
  | findOutput
  /-- `output_dir.mkdir(parents=True)`. -/
  | makeDirectory
  /-- `path.is_file()` and `path.is_symlink()`. -/
  | inspect (name : String)
  | read (name : String)
  /-- The temporary files of `verify_signature`. -/
  | verify
  | split
  /-- `shutil.copyfile`. -/
  | copy (name : String)
  /-- `stat` and `sha256_file`, for the catalog. -/
  | describe (name : String)
  /-- `atomic_write`, as far as `os.replace`. -/
  | write (name : String)
  /-- `atomic_write`, from there on. -/
  | tidy (name : String)
  | hashCatalog
  /-- `archive.unlink()`. -/
  | unlinkArchive
  deriving DecidableEq

/-- What the system answers: the calls that fail, and what is left of their work. -/
structure System (ε : Type) where
  fails : SystemCall → Option ε
  /-- The parts that were written, the last one as far as it was. -/
  leftParts : List (List UInt8)
  leftCopy : String → Option (List UInt8)
  /-- A temporary file that could not be removed: what `mkstemp` has put behind its name. -/
  leftTemporary : String → Option (String × List UInt8)

/-- The files of the handoff, and the output directory if there is one. -/
structure World where
  handoff : Handoff
  output : Option Directory

/-- A file of the output directory is written, or removed. -/
def World.put (world : World) (name : String) (content : Option (List UInt8)) : World :=
  { world with output := world.output.map fun files => Function.update files name content }

/-- A file of the output directory is written. -/
def World.write (world : World) (name : String) (content : List UInt8) : World :=
  world.put name (some content)

/-- The bytes of a file of the output directory. -/
def World.read (world : World) (name : String) : List UInt8 :=
  ((world.output.bind fun files => files name).getD [])

section

variable {ε : Type} (system : System ε)

/-- A call that changes nothing. -/
def call (c : SystemCall) : Except (Raised ε) Unit :=
  (system.fails c).elim (.ok ()) fun e => .error (.library e)

/-- A call that does its work, or leaves something else. -/
def change (c : SystemCall) (done left : World → World) : Attempt (Raised ε) World Unit :=
  match system.fails c with
  | none => update done
  | some e => do
    update left
    throw (.library e)

/-- `shutil.copyfile`, into the output directory. -/
def copyFile (handoff : Handoff) (name : String) : Attempt (Raised ε) World Unit :=
  change system (.copy name) (·.write name (handoff.content name)) (·.put name (system.leftCopy name))

/-- What an `atomic_write` leaves that fails. -/
def System.leave (name : String) (world : World) : World :=
  (system.leftTemporary name).elim world fun left =>
    world.write ("." ++ name ++ "." ++ left.1) left.2

/-- `atomic_write`, into the output directory. -/
def atomicWrite (name : String) (payload : List UInt8) : Attempt (Raised ε) World Unit := do
  change system (.write name) (·.write name payload) (system.leave name)
  lift (call system (.tidy name))

end

/-! ## The code -/

section

variable {ε : Type} (tools : Tools ε) (system : System ε) (args : ProfileArgs)

/-- The checks of a file of the handoff. -/
def checkRegular (handoff : Handoff) (name : String) : Except (Raised ε) Unit :=
  raiseIf ((handoff name).all fun file => file.symlink)
    (.package ("release handoff is missing regular file " ++ args.path name))

/-- The check of a field of the manifest. -/
def checkManifestField (manifest : Json) (field : String × String) : Except (Raised ε) Unit := do
  raiseIf (manifest.isMapping = false) .attributeError
  raiseIf ((manifest.get field.1).pyEq (.str field.2) = false)
    (.package ("release manifest " ++ field.1 ++ " is " ++ tools.repr (manifest.get field.1) ++
      "; expected " ++ tools.repr (.str field.2)))

/-- The checks of the handoff, and the signature of the archive. -/
def checkHandoff (handoff : Handoff) : Except (Raised ε) String := do
  [args.filename, args.manifestName, args.checksumName, args.signatureName].forM fun name => do
    call system (.inspect name)
    checkRegular args handoff name
  call system (.read args.filename)
  let archiveDigest := Sha256.hexdigest (handoff.content args.filename)
  call system (.read args.checksumName)
  let checksum ← readAscii tools (handoff.content args.checksumName)
  raiseIf (checksum ≠ archiveDigest ++ "  " ++ args.filename ++ "\n")
    (.package "release archive checksum handoff does not match its bytes")
  call system (.read args.signatureName)
  let signature ← parseSignature tools (args.path args.signatureName)
    (handoff.content args.signatureName)
  call system .verify
  verifySignature tools args.expectedPublicKey archiveDigest signature
  call system (.read args.manifestName)
  let manifest ← (tools.loads (handoff.content args.manifestName)).mapError .library
  args.expectedManifest.forM (checkManifestField tools manifest)
  return signature

/-- `split_archive`, into the output directory: it looks at the size of a part first. -/
def splitInto (handoff : Handoff) : Attempt (Raised ε) World (List Record) :=
  ExceptT.mk fun world =>
    let files := world.output.getD fun _ => none
    match if 0 < args.partBytes ∧ args.partBytes < 2 * 1024 * 1024 * 1024 then system.fails .split
      else none with
    | some e => (.error (.library e),
        { world with output := some (stored (args.archive handoff) 0 system.leftParts files) })
    | none =>
      let split := exec (ReleaseParts.splitArchive (args.archive handoff) args.partBytes) files
      (split.1.mapError fun
        | .package e => .package e.message
        | .fileExists name => .library (tools.fileExistsError (args.outputDir ++ "/" ++ name)),
        { world with output := some split.2 })

/-- The catalog and its signature are written. -/
def publishCatalog (payload : List UInt8) : Attempt (Raised ε) World Unit := do
  atomicWrite system args.catalogName payload
  lift (call system .hashCatalog)
  let written ← ask (·.read args.catalogName)
  let catalogSignature ← lift
    (signArtifact tools.toSigning args.expectedPublicKey (Sha256.hexdigest written))
  atomicWrite system args.catalogSignatureName (textBytes (catalogSignature ++ "\n"))

/-- `archive.unlink()`. -/
def World.consume (world : World) : World :=
  { world with handoff := Function.update world.handoff args.filename none }

/-- `if args.consume_archive: archive.unlink()`. -/
def consumeArchive : Attempt (Raised ε) World Unit :=
  if args.consumeArchive then change system .unlinkArchive (·.consume args) id else pure ()

/-- The assets are made, of a handoff that was checked. -/
def publish (handoff : Handoff) (signature : String) : Attempt (Raised ε) World Unit := do
  let parts ← splitInto tools system args handoff
  let items ← lift (parts.mapM fun record => do
    let url ← releaseUrl args.repository args.releaseTag record.name
    return partAsset record url)
  [args.manifestName, args.checksumName, args.signatureName].forM (copyFile system handoff)
  lift ([args.filename, args.signatureName, args.manifestName, args.checksumName].forM fun name =>
    call system (.describe name))
  publishCatalog tools system args (tools.jsonBytes (catalog args handoff signature items))
  consumeArchive system args

/-- `prepare_profile`. -/
def prepareProfile : Attempt (Raised ε) World Unit := do
  lift args.toIdentity.validate
  lift (raiseIf (args.profile ∉ profiles)
    (.package ("unknown ORT release profile " ++ args.profile)))
  lift (call system .findOutput)
  let present ← ask fun world => world.output.isSome
  lift (raiseIf present
    (.package ("profile release output already exists: " ++ args.outputDir)))
  change system .makeDirectory (fun world => { world with output := some fun _ => none }) id
  let handoff ← ask World.handoff
  let signature ← lift (checkHandoff tools system args handoff)
  publish tools system args handoff signature

end

/-! ## What is accepted -/

section

variable {ε : Type} {tools : Tools ε} {system : System ε} {args : ProfileArgs} {handoff : Handoff}
  {publicKey digest signature catalogSignature name : String}

variable (tools) in
/-- **A signature of a digest, verified** with a public key. -/
def Verified (publicKey digest signature : String) : Prop :=
  ∃ key bytes, tools.b64decode (removePrefix "ed25519:" publicKey) = .ok key ∧ key.length = 32 ∧
    tools.b64decode (removePrefix "ed25519:" signature) = .ok bytes ∧
    tools.verifyTool (publicKeyDerPrefix ++ key) (artifactMessage digest) bytes = true

variable (tools) in
/-- **A file with the text of a signature.** -/
structure SignatureFile (content : List UInt8) (signature : String) : Prop where
  text : ∃ text, readAscii tools content = .ok text ∧ strip text = signature
  marked : "ed25519:".toList.isPrefixOf signature.toList = true
  decoded : ∃ bytes, tools.b64decode (removePrefix "ed25519:" signature) = .ok bytes ∧
    bytes.length = 64

theorem verifySignature_eq_ok {u : Unit} :
    verifySignature tools publicKey digest signature = .ok u ↔
      Verified tools publicKey digest signature := by
  simp only [verifySignature, rawPublicKey, Except.bind_eq_ok, Except.mapError_eq_ok,
    Except.raiseIf_eq_ok, exists_const, Except.pure_eq_ok, not_not, Bool.not_eq_false]
  constructor
  · rintro ⟨_, ⟨key, hkey, hlength, rfl⟩, bytes, hbytes, hverified⟩
    exact ⟨key, bytes, hkey, hlength, hbytes, hverified⟩
  · rintro ⟨key, bytes, hkey, hlength, hbytes, hverified⟩
    exact ⟨key, ⟨key, hkey, hlength, rfl⟩, bytes, hbytes, hverified⟩

theorem parseSignature_eq_ok {path : String} {content : List UInt8} :
    parseSignature tools path content = .ok signature ↔ SignatureFile tools content signature := by
  simp only [parseSignature, Except.bind_eq_ok, Except.mapError_eq_ok, Except.raiseIf_eq_ok,
    exists_const, Except.pure_eq_ok, not_not, Bool.not_eq_false]
  constructor
  · rintro ⟨text, htext, hmarked, bytes, hbytes, hlength, rfl⟩
    exact ⟨⟨text, htext, rfl⟩, hmarked, bytes, hbytes, hlength⟩
  · rintro ⟨⟨text, htext, rfl⟩, hmarked, bytes, hbytes, hlength⟩
    exact ⟨text, htext, hmarked, bytes, hbytes, hlength, rfl⟩

variable (tools args) in
/-- **A handoff that is taken**: four regular files, of which the checksum and the signature are of
the archive, and the manifest of this profile. -/
structure Sound (handoff : Handoff) (signature : String) : Prop where
  regular : ∀ name ∈ [args.filename, args.manifestName, args.checksumName, args.signatureName],
    ∃ file ∈ handoff name, file.symlink = false
  checksum : readAscii tools (handoff.content args.checksumName) =
    .ok (Sha256.hexdigest (handoff.content args.filename) ++ "  " ++ args.filename ++ "\n")
  signed : SignatureFile tools (handoff.content args.signatureName) signature
  verified : Verified tools args.expectedPublicKey
    (Sha256.hexdigest (handoff.content args.filename)) signature
  manifest : ∃ manifest, tools.loads (handoff.content args.manifestName) = .ok manifest ∧
    manifest.isMapping = true ∧
    ∀ field ∈ args.expectedManifest, (manifest.get field.1).pyEq (.str field.2) = true

theorem checkRegular_eq_ok : checkRegular (ε := ε) args handoff name = .ok () ↔
    ∃ file ∈ handoff name, file.symlink = false := by
  rw [checkRegular, Except.raiseIf_eq_ok]
  rcases handoff name with _ | file <;> simp

theorem checkManifestFields_eq_ok {manifest : Json} :
    (∀ field ∈ args.expectedManifest, checkManifestField tools manifest field = .ok ()) ↔
      manifest.isMapping = true ∧
        ∀ field ∈ args.expectedManifest, (manifest.get field.1).pyEq (.str field.2) = true := by
  simp only [checkManifestField, Except.bind_eq_ok, Except.raiseIf_eq_ok,
    exists_const, Bool.not_eq_false]
  refine ⟨fun h => ⟨(h ("backend", "onnx") ?_).1, fun field hfield => (h field hfield).2⟩,
    fun h field hfield => ⟨h.1, h.2 field hfield⟩⟩
  exact List.mem_cons_self

variable (system) in
/-- None of these calls fails. -/
def System.Succeeds (calls : List SystemCall) : Prop := ∀ c ∈ calls, system.fails c = none

theorem call_eq_ok {c : SystemCall} {u : Unit} :
    call system c = .ok u ↔ system.fails c = none := by
  rw [call]
  rcases system.fails c with _ | e
  exacts [⟨fun _ => rfl, fun _ => rfl⟩, ⟨nofun, nofun⟩]

theorem fails_of_call {c : SystemCall} {e : Raised ε} (h : call system c = .error e) :
    system.fails c ≠ none := fun hnone =>
  nomatch h.symm.trans (call_eq_ok (u := ()).mpr hnone)

variable (args) in
/-- The calls that `prepare_profile` makes to check the handoff. -/
def handoffCalls : List SystemCall :=
  [args.filename, args.manifestName, args.checksumName, args.signatureName].map .inspect ++
    [.read args.filename, .read args.checksumName, .read args.signatureName, .verify,
      .read args.manifestName]

theorem succeeds_handoffCalls : system.Succeeds (handoffCalls args) ↔
    (∀ name ∈ [args.filename, args.manifestName, args.checksumName, args.signatureName],
      system.fails (.inspect name) = none) ∧
    system.fails (.read args.filename) = none ∧ system.fails (.read args.checksumName) = none ∧
    system.fails (.read args.signatureName) = none ∧ system.fails .verify = none ∧
    system.fails (.read args.manifestName) = none := by
  rw [System.Succeeds, handoffCalls, List.forall_mem_append, List.forall_mem_map]
  simp only [List.forall_mem_cons, List.not_mem_nil, false_implies, implies_true, and_true]

theorem checkHandoff_eq_ok : checkHandoff tools system args handoff = .ok signature ↔
    system.Succeeds (handoffCalls args) ∧ Sound tools args handoff signature := by
  rw [succeeds_handoffCalls]
  simp only [checkHandoff, Except.bind_eq_ok, Except.forM_eq_ok, call_eq_ok, checkRegular_eq_ok,
    Except.mapError_eq_ok, Except.raiseIf_eq_ok, exists_const, Except.pure_eq_ok, not_not,
    parseSignature_eq_ok, verifySignature_eq_ok, checkManifestFields_eq_ok]
  constructor
  · rintro ⟨hregular, harchive, htext, _, hchecksum, rfl, hfile, _, hsignature, hstart, hverified,
      hdescribed, manifest, hloads, hmanifest, rfl⟩
    exact ⟨⟨fun name h => (hregular name h).1, harchive, htext, hfile, hstart, hdescribed⟩,
      fun name h => (hregular name h).2, hchecksum, hsignature, hverified, manifest, hloads,
      hmanifest⟩
  · rintro ⟨⟨hinspected, harchive, htext, hfile, hstart, hdescribed⟩, hregular, hchecksum,
      hsignature, hverified, manifest, hloads, hmanifest⟩
    exact ⟨fun name h => ⟨hinspected name h, hregular name h⟩, harchive, htext, _, hchecksum, rfl,
      hfile, _, hsignature, hstart, hverified, hdescribed, manifest, hloads, hmanifest, rfl⟩

end

/-! ## The files of a directory -/

/-- **A directory has these files**, and no other. -/
structure Holds (files : Directory) (listed : List (String × List UInt8)) : Prop where
  distinct : (listed.map Prod.fst).Nodup
  exact : ∀ name content, files name = some content ↔ (name, content) ∈ listed

/-- The output directory has these files. -/
def World.Has (world : World) (listed : List (String × List UInt8)) : Prop :=
  ∃ files, world.output = some files ∧ Holds files listed

section

variable {files : Directory} {listed : List (String × List UInt8)}

theorem holds_empty : Holds (fun _ => none) [] := ⟨List.nodup_nil, by simp⟩

/-- A file is added. -/
theorem Holds.write (h : Holds files listed) {name : String} (hnew : name ∉ listed.map Prod.fst)
    (content : List UInt8) :
    Holds (Function.update files name (some content)) (listed ++ [(name, content)]) := by
  refine ⟨?_, fun other content' => ?_⟩
  · rw [List.map_append]
    exact List.nodup_append.mpr ⟨h.distinct, List.nodup_singleton name, fun a ha b hb =>
      fun hab => hnew ((hab.trans (List.mem_singleton.mp hb) : a = name) ▸ ha)⟩
  · rw [List.mem_append, List.mem_singleton, ← h.exact]
    by_cases hother : other = name
    · subst hother
      rw [Function.update_self, Option.some.injEq, Prod.mk.injEq]
      refine ⟨fun heq => .inr ⟨rfl, heq.symm⟩, fun hor => ?_⟩
      rcases hor with hold | ⟨-, heq⟩
      · exact absurd (List.mem_map_of_mem ((h.exact other content').mp hold)) hnew
      · exact heq.symm
    · rw [Function.update_of_ne hother, Prod.mk.injEq]
      exact ⟨.inl, fun hor => hor.resolve_right fun heq => hother heq.1⟩

end

/-! ## The assets of a profile -/

/-- The files of the parts of an archive, from an index on. -/
def partFiles (archive : Archive) (index : ℕ) (parts : List (List UInt8)) :
    List (String × List UInt8) :=
  (parts.zipIdx index).map fun part => (partName archive part.2, part.1)

/-- The list entry of a part. -/
def recordOf (part : String × List UInt8) : Record :=
  ⟨part.1, Sha256.hexdigest part.2, part.2.length⟩

theorem partFiles_cons (archive : Archive) (index : ℕ) (part : List UInt8)
    (parts : List (List UInt8)) : partFiles archive index (part :: parts) =
      (partName archive index, part) :: partFiles archive (index + 1) parts := rfl

theorem records_eq (archive : Archive) (index : ℕ) (parts : List (List UInt8)) :
    records archive index parts = (partFiles archive index parts).map recordOf := by
  induction parts generalizing index with
  | nil => rfl
  | cons part parts ih =>
    rw [records, partFiles_cons, List.map_cons, ih]
    rfl

/-- The parts are stored beside what is there. -/
theorem Holds.stored {archive : Archive} {files : Directory} {listed : List (String × List UInt8)}
    (h : Holds files listed) {index : ℕ} (parts : List (List UInt8))
    (hnew : ∀ i, index ≤ i → partName archive i ∉ listed.map Prod.fst) :
    Holds (stored archive index parts files) (listed ++ partFiles archive index parts) := by
  induction parts generalizing index files listed with
  | nil => simpa [ReleaseParts.stored, partFiles] using h
  | cons part parts ih =>
    rw [ReleaseParts.stored, partFiles_cons, List.append_cons]
    refine ih (h.write (hnew index le_rfl) part) fun i hi => ?_
    rw [List.map_append, List.mem_append]
    rintro (hmem | hmem)
    · exact hnew i (by omega) hmem
    · have hname := ReleaseParts.partName_injective archive (List.mem_singleton.mp hmem)
      omega

/-- `release_url`, where it returns. -/
def assetUrl (repository tag name : String) : String :=
  "https://github.com/" ++ repository ++ "/releases/download/" ++ tag ++ "/" ++ name

section

variable {ε : Type} (tools : Tools ε) (args : ProfileArgs) (handoff : Handoff)
  (signature catalogSignature : String)

/-- The parts of the archive. -/
def parts : List (String × List UInt8) :=
  partFiles (args.archive handoff) 0
    (chunks args.partBytes.toNat (handoff.content args.filename))

/-- The other files of the handoff. -/
def copies : List (String × List UInt8) :=
  [args.manifestName, args.checksumName, args.signatureName].map fun name =>
    (name, handoff.content name)

/-- The catalog of the profile. -/
def profileCatalog : Json :=
  catalog args handoff signature ((parts args handoff).map fun part =>
    partAsset (recordOf part) (assetUrl args.repository args.releaseTag part.1))

/-- The bytes of the catalog. -/
def catalogBytes : List UInt8 := tools.jsonBytes (profileCatalog args handoff signature)

/-- **The assets of a profile.** -/
def assets : List (String × List UInt8) :=
  parts args handoff ++ copies args handoff ++ [
    (args.catalogName, catalogBytes tools args handoff signature),
    (args.catalogSignatureName, textBytes (catalogSignature ++ "\n"))]

/-- What it takes for the archive to be split. -/
def Splits : Prop :=
  0 < args.partBytes ∧ args.partBytes < 2 * 1024 * 1024 * 1024 ∧ handoff.content args.filename ≠ []

/-- What it takes for the assets to be made of a handoff that was checked. -/
structure Makeable : Prop where
  splits : Splits args handoff
  repository : isRepository args.repository = true
  isFile : tools.isFile = true
  signed : IsSignature tools.toSigning args.expectedPublicKey
    (Sha256.hexdigest (catalogBytes tools args handoff signature)) catalogSignature

/-- **What it takes** for the assets to be made. -/
structure Ready (world : World) (signature catalogSignature : String) : Prop where
  valid : args.toIdentity.Valid
  profile : args.profile ∈ profiles
  fresh : world.output = none
  sound : Sound tools args world.handoff signature
  makeable : Makeable tools args world.handoff signature catalogSignature

/-- All assets are there, and the handoff is as it was. -/
structure Published (world world' : World) (signature catalogSignature : String) : Prop where
  handoff : world'.handoff = world.handoff
  output : world'.Has (assets tools args world.handoff signature catalogSignature)

/-- The assets were made, and the archive removed if it was to be. -/
structure Made (world world' : World) (signature catalogSignature : String) : Prop where
  handoff : world'.handoff = if args.consumeArchive then
    Function.update world.handoff args.filename none else world.handoff
  output : world'.Has (assets tools args world.handoff signature catalogSignature)

/-- The output directory has no signature of a catalog. -/
def World.Unsigned (world : World) : Prop :=
  ∃ files, world.output = some files ∧ files args.catalogSignatureName = none

/-- Nothing was promised: the handoff is as it was, and so is an output directory that was there;
one that was not has no signed catalog. -/
def Unsigned (world world' : World) : Prop :=
  world'.handoff = world.handoff ∧ (world'.output = world.output ∨
    world.output = none ∧ world'.Unsigned args)

/-- The calls that make the catalog and its signature. -/
def catalogCalls : List SystemCall :=
  [.write args.catalogName, .tidy args.catalogName, .hashCatalog, .write args.catalogSignatureName]

/-- The calls that make the assets. -/
def assetCalls : List SystemCall :=
  .split :: [args.manifestName, args.checksumName, args.signatureName].map .copy ++
    [args.filename, args.signatureName, args.manifestName, args.checksumName].map .describe ++
    catalogCalls args

/-- The calls after the last asset. -/
def lastCalls : List SystemCall :=
  .tidy args.catalogSignatureName :: if args.consumeArchive then [.unlinkArchive] else []

/-- The calls that `prepare_profile` makes until it returns. -/
def calls : List SystemCall :=
  [.findOutput, .makeDirectory] ++ handoffCalls args ++ assetCalls args ++ lastCalls args

end

/-! ## Names -/

section

variable {args : ProfileArgs} {handoff : Handoff}

theorem partName_archive (index : ℕ) : partName (args.archive handoff) index =
    args.filename ++ (".part-" ++ ReleaseParts.threeDigits index) := rfl

/-- No suffix is the start of a part's. -/
theorem append_ne_partName {suffix : String} (hsuffix : ¬".p".toList <+: suffix.toList)
    (index : ℕ) : args.filename ++ suffix ≠ partName (args.archive handoff) index := by
  rw [partName_archive, Ne, String.append_right_inj]
  rintro rfl
  exact hsuffix ⟨"art-".toList ++ (ReleaseParts.threeDigits index).toList, by simp⟩

theorem mem_parts {part : String × List UInt8} (h : part ∈ parts args handoff) :
    ∃ index, part.1 = partName (args.archive handoff) index := by
  obtain ⟨numbered, -, rfl⟩ := List.mem_map.mp h
  exact ⟨numbered.2, rfl⟩

theorem append_notMem_parts {suffix : String} (hsuffix : ¬".p".toList <+: suffix.toList) :
    args.filename ++ suffix ∉ (parts args handoff).map Prod.fst := by
  intro h
  obtain ⟨part, hpart, hname⟩ := List.mem_map.mp h
  obtain ⟨index, hindex⟩ := mem_parts hpart
  exact append_ne_partName hsuffix index (hname.symm.trans hindex)

end

/-- What the names of the other assets end in. -/
def suffixes : List String :=
  [".manifest.json", ".sha256", ".sig", ".release.json", ".release.json" ++ ".sig"]

theorem names_copied : (parts args handoff ++ copies args handoff).map Prod.fst ++
      [args.catalogName, args.catalogSignatureName] =
    (parts args handoff).map Prod.fst ++ suffixes.map (args.filename ++ ·) := by
  have hlast : args.catalogSignatureName = args.filename ++ (".release.json" ++ ".sig") :=
    String.append_assoc
  rw [List.map_append, List.append_assoc, suffixes, hlast]
  rfl

theorem not_isPrefix_of_mem_suffixes : ∀ suffix ∈ suffixes, ¬".p".toList <+: suffix.toList := by
  simp [suffixes]

theorem catalogSignatureName_ne_partName (args : ProfileArgs) (handoff : Handoff) (index : ℕ) :
    args.catalogSignatureName ≠ partName (args.archive handoff) index := by
  have hsuffix : args.catalogSignatureName = args.filename ++ (".release.json" ++ ".sig") :=
    String.append_assoc
  rw [hsuffix]
  exact append_ne_partName (not_isPrefix_of_mem_suffixes _ (by simp [suffixes])) index

theorem nodup_parts : ((parts args handoff).map Prod.fst).Nodup := by
  have hstored : Holds (stored (args.archive handoff) 0
      (chunks args.partBytes.toNat (handoff.content args.filename)) fun _ => none)
      ([] ++ parts args handoff) :=
    holds_empty.stored _ fun _ _ => List.not_mem_nil
  exact hstored.distinct

/-- **No two assets have one name.** -/
theorem nodup_copied : ((parts args handoff ++ copies args handoff).map Prod.fst ++
    [args.catalogName, args.catalogSignatureName]).Nodup := by
  rw [names_copied]
  have hsuffixes : suffixes.Nodup := by simp [suffixes]
  refine List.nodup_append.mpr ⟨nodup_parts, hsuffixes.map fun _ _ h =>
    (String.append_right_inj _).mp h, fun name hname other hother heq => ?_⟩
  obtain ⟨suffix, hsuffix, rfl⟩ := List.mem_map.mp hother
  exact append_notMem_parts (not_isPrefix_of_mem_suffixes suffix hsuffix) (heq ▸ hname)

theorem catalogName_notMem :
    args.catalogName ∉ (parts args handoff ++ copies args handoff).map Prod.fst := fun hmem =>
  List.disjoint_of_nodup_append nodup_copied hmem List.mem_cons_self

theorem catalogSignatureName_notMem (payload : List UInt8) : args.catalogSignatureName ∉
    (parts args handoff ++ copies args handoff ++ [(args.catalogName, payload)]).map Prod.fst := by
  have hnodup : ((parts args handoff ++ copies args handoff).map Prod.fst ++
      [args.catalogName] ++ [args.catalogSignatureName]).Nodup := by
    rw [← List.append_cons]
    exact nodup_copied
  rw [List.map_append]
  exact fun hmem => List.disjoint_of_nodup_append hnodup hmem (List.mem_singleton_self _)

theorem catalogSignatureName_notMem_parts :
    args.catalogSignatureName ∉ (parts args handoff).map Prod.fst := fun hmem =>
  catalogSignatureName_notMem [] (by
    rw [List.map_append, List.map_append]
    exact List.mem_append_left _ (List.mem_append_left _ hmem))

/-! ## Portable names -/

theorem mem_intercalate {α : Type*} {a b : α} {xss : List (List α)}
    (h : b ∈ [a].intercalate xss) : b = a ∨ ∃ xs ∈ xss, b ∈ xs := by
  induction xss with
  | nil => exact nomatch h
  | cons xs xss ih =>
    rcases xss with _ | ⟨ys, xss⟩
    · rw [List.intercalate_singleton] at h
      exact .inr ⟨xs, List.mem_singleton_self xs, h⟩
    · rw [List.intercalate_cons_cons, List.mem_append, List.mem_append, List.mem_singleton] at h
      rcases h with (h | rfl) | h
      · exact .inr ⟨xs, List.mem_cons_self, h⟩
      · exact .inl rfl
      · exact (ih h).imp_right fun ⟨zs, hzs, hb⟩ => ⟨zs, List.mem_cons_of_mem _ hzs, hb⟩

theorem isPortableChar_of_isDigit {c : Char} (h : c.isDigit = true) : isPortableChar c = true := by
  rw [isPortableChar, Char.isAlphanum, h]
  simp

/-- A version is digits and points. -/
theorem all_isPortableChar_of_isVersion {text : String} (h : isVersion text = true) :
    text.toList.all isPortableChar = true := by
  rw [isVersion, Bool.and_eq_true, List.all_eq_true] at h
  refine List.all_eq_true.mpr fun c hc => ?_
  have htext : ['.'].intercalate (text.toList.splitOn '.') = text.toList :=
    List.intercalate_splitOn '.'
  rw [← htext] at hc
  rcases mem_intercalate hc with rfl | ⟨number, hnumber, hc⟩
  · rfl
  · rcases number with _ | ⟨first, digits⟩
    · exact nomatch hc
    have hdigits := h.2 _ hnumber
    rw [isNumber, Bool.and_eq_true, Bool.and_eq_true, List.all_eq_true] at hdigits
    rcases List.mem_cons.mp hc with rfl | hc
    · exact isPortableChar_of_isDigit hdigits.1.1
    · exact isPortableChar_of_isDigit (hdigits.1.2 c hc)

theorem all_isPortableChar_of_mem_profiles {profile : String} (h : profile ∈ profiles) :
    profile.toList.all isPortableChar = true := by
  simp only [profiles, List.mem_cons, List.not_mem_nil, or_false] at h
  rcases h with rfl | rfl | rfl <;> decide

/-- **The name of an archive is portable**, and so is what starts with it. -/
theorem isPortable_filename {args : ProfileArgs} (hvalid : args.toIdentity.Valid)
    (hprofile : args.profile ∈ profiles) {suffix : String}
    (hsuffix : suffix.toList.all isPortableChar = true) :
    isPortable (args.filename ++ suffix).toList = true := by
  have hstart : "kapsl-backend-onnx-".toList.all isPortableChar = true := by
    rw [String.toList_ofList]
    decide
  have hdash : "-".toList.all isPortableChar = true := by
    rw [String.toList_ofList]
    decide
  have hend : "-linux-x86_64.tar.gz".toList.all isPortableChar = true := by
    rw [String.toList_ofList]
    decide
  have hall : (args.filename ++ suffix).toList.all isPortableChar = true := by
    simp only [ProfileArgs.filename_eq, String.toList_append, List.all_append, hstart, hdash, hend,
      hsuffix, all_isPortableChar_of_mem_profiles hprofile,
      all_isPortableChar_of_isVersion hvalid.kapslVersion, Bool.and_self]
  have hne : (args.filename ++ suffix).toList ≠ [] := by
    simp [ProfileArgs.filename_eq]
  simp only [isPortable, hall, Bool.and_true, Bool.not_eq_true', List.isEmpty_eq_false_iff]
  exact hne

/-- The names of the parts are portable. -/
theorem isPortable_partName {args : ProfileArgs} {handoff : Handoff} (hvalid : args.toIdentity.Valid)
    (hprofile : args.profile ∈ profiles) (index : ℕ) :
    isPortable (partName (args.archive handoff) index).toList = true := by
  refine isPortable_filename hvalid hprofile ?_
  have hpart : ".part-".toList.all isPortableChar = true := by
    rw [String.toList_ofList]
    decide
  rw [String.toList_append, List.all_append, hpart, Bool.true_and, ReleaseParts.threeDigits,
    String.toList_ofList, List.leftpad, List.all_append, Bool.and_eq_true]
  refine ⟨List.all_eq_true.mpr fun c hc => ?_, List.all_eq_true.mpr fun c hc => ?_⟩
  · rw [List.eq_of_mem_replicate hc]
    rfl
  · exact isPortableChar_of_isDigit (Nat.isDigit_of_mem_toDigits (by decide) (by decide) hc)

/-! ## The steps -/

section

variable {ε : Type} {tools : Tools ε} {system : System ε} {args : ProfileArgs} {handoff : Handoff}
  {signature catalogSignature : String} {world world' : World}

theorem parts_ne_nil (hsplits : Splits args handoff) : parts args handoff ≠ [] := by
  have hpart : 0 < args.partBytes.toNat := by have := hsplits.1; omega
  rw [parts, ReleaseParts.chunks_of_ne_nil hpart hsplits.2.2]
  exact List.cons_ne_nil _ _

theorem exec_splitLoop (hpart : 0 < args.partBytes.toNat) :
    exec (ReleaseParts.splitLoop (args.archive handoff) args.partBytes.toNat 0
      (args.archive handoff).size (args.archive handoff).content []) (fun _ => none) =
    (.ok ((parts args handoff).map recordOf), stored (args.archive handoff) 0
      (chunks args.partBytes.toNat (handoff.content args.filename)) fun _ => none) := by
  rw [parts, ← records_eq]
  exact ReleaseParts.splitLoop_exec (args.archive handoff) hpart _ 0 [] fun _ _ => rfl

/-- The parts are the whole archive. -/
theorem sum_size_parts (hpart : 0 < args.partBytes.toNat) :
    (((parts args handoff).map recordOf).map Record.size).sum = (args.archive handoff).size := by
  rw [parts, ← records_eq, ReleaseParts.sum_size_records, ReleaseParts.flatten_chunks hpart]
  rfl

/-- **The archive is split**, or nothing is written. -/
theorem split_cases (args : ProfileArgs) (handoff : Handoff) :
    (Splits args handoff ∧ ∃ files, exec (ReleaseParts.splitArchive (args.archive handoff) args.partBytes)
        (fun _ => none) = (.ok ((parts args handoff).map recordOf), files) ∧
        Holds files (parts args handoff)) ∨
    ¬Splits args handoff ∧ ∃ e, exec (ReleaseParts.splitArchive (args.archive handoff) args.partBytes)
        (fun _ => none) = (.error e, fun _ => none) := by
  rw [ReleaseParts.splitArchive]
  by_cases hbounds : args.partBytes ≤ 0 ∨ 2 * 1024 * 1024 * 1024 ≤ args.partBytes
  · rw [if_pos hbounds]
    exact .inr ⟨fun h => hbounds.elim (not_le_of_gt h.1) (not_le_of_gt h.2.1), _, rfl⟩
  rw [if_neg hbounds]
  have hpart : 0 < args.partBytes.toNat := by omega
  show _ ∨ _ ∧ ∃ e, exec (ReleaseParts.splitLoop _ _ _ _ _ _ >>= _) _ = _
  rw [exec_bind, exec_splitLoop hpart]
  by_cases hcontent : handoff.content args.filename = []
  · refine .inr ⟨fun h => h.2.2 hcontent, ?_⟩
    rw [parts, hcontent, ReleaseParts.chunks_nil]
    exact ⟨_, rfl⟩
  · have hsplits : Splits args handoff := ⟨by omega, by omega, hcontent⟩
    have hne : (parts args handoff).map recordOf ≠ [] := fun h =>
      parts_ne_nil hsplits (List.map_eq_nil_iff.mp h)
    refine .inl ⟨hsplits, _, ?_,
      holds_empty.stored (chunks _ _) fun _ _ => List.not_mem_nil⟩
    have hkept : ¬((parts args handoff).map recordOf = [] ∨
        (((parts args handoff).map recordOf).map Record.size).sum ≠
          (args.archive handoff).size) := not_or.mpr ⟨hne, not_not.mpr (sum_size_parts hpart)⟩
    show exec (ite _ _ _) _ = _
    rw [if_neg hkept]
    rfl

/-- The archive is split into an empty directory, or there is no split, or it fails. -/
theorem splitInto_ends (houtput : world.output = some fun _ => none) :
    Ends (splitInto tools system args handoff) world
      (fun records world' => system.fails .split = none ∧ Splits args handoff ∧
        records = (parts args handoff).map recordOf ∧ world'.handoff = world.handoff ∧
        world'.Has (parts args handoff))
      (fun _ world' => ¬(system.fails .split = none ∧ Splits args handoff) ∧
        world'.handoff = world.handoff ∧ world'.Unsigned args) := by
  obtain ⟨handoff', output⟩ := world
  obtain rfl : output = some fun _ => none := houtput
  by_cases hcalled : (0 < args.partBytes ∧ args.partBytes < 2 * 1024 * 1024 * 1024) ∧
      system.fails .split ≠ none
  · obtain ⟨hbounds, hfails⟩ := hcalled
    obtain ⟨e, he⟩ := Option.ne_none_iff_exists'.mp hfails
    refine ends_of_exec_error (e := .library e) (v := ⟨handoff', some (stored (args.archive handoff) 0
      system.leftParts fun _ => none)⟩) ?_ ⟨fun h => hfails h.1, rfl, _, rfl, ?_⟩
    · show (match if 0 < args.partBytes ∧ _ then system.fails .split else none with
        | some e => _
        | none => _) = _
      rw [if_pos hbounds, he]
      rfl
    · exact ReleaseParts.stored_of_ne fun i _ => catalogSignatureName_ne_partName args handoff i
  have hnone : (if 0 < args.partBytes ∧ args.partBytes < 2 * 1024 * 1024 * 1024 then
      system.fails .split else none) = none := by
    split
    · next hbounds => exact not_not.mp fun h => hcalled ⟨hbounds, h⟩
    · rfl
  have hexec : exec (splitInto tools system args handoff) ⟨handoff', some fun _ => none⟩ =
      ((exec (ReleaseParts.splitArchive (args.archive handoff) args.partBytes)
          fun _ => none).1.mapError fun
        | .package e => .package e.message
        | .fileExists name => .library (tools.fileExistsError (args.outputDir ++ "/" ++ name)),
        ⟨handoff', some (exec (ReleaseParts.splitArchive (args.archive handoff) args.partBytes)
          fun _ => none).2⟩) := by
    show (match if 0 < args.partBytes ∧ _ then system.fails .split else none with
      | some e => _
      | none => _) = _
    rw [hnone]
    rfl
  rcases split_cases args handoff with ⟨hsplits, files, hsplit, hholds⟩ | ⟨hsplits, e, hsplit⟩
  · rw [hsplit] at hexec
    rw [if_pos ⟨hsplits.1, hsplits.2.1⟩] at hnone
    exact ends_of_exec_ok hexec ⟨hnone, hsplits, rfl, rfl, files, rfl, hholds⟩
  · rw [hsplit] at hexec
    exact ends_of_exec_error hexec ⟨fun h => hsplits h.2, rfl, _, rfl, rfl⟩

theorem releaseUrl_eq_ok {repository tag name url : String} :
    releaseUrl (ε := ε) repository tag name = .ok url ↔ isRepository repository = true ∧
      isPortable name.toList = true ∧ url = assetUrl repository tag name := by
  simp only [releaseUrl, Except.bind_eq_ok, Except.raiseIf_eq_ok, exists_const, Except.pure_eq_ok,
    Bool.not_eq_false]
  exact and_congr_right fun _ => and_congr_right fun _ => eq_comm

/-- What the catalog says of a part. -/
def partItem (args : ProfileArgs) (part : String × List UInt8) : Json :=
  partAsset (recordOf part) (assetUrl args.repository args.releaseTag part.1)

/-- The parts are given their URLs. -/
theorem partItems_eq_ok {items : List Json} (hvalid : args.toIdentity.Valid)
    (hprofile : args.profile ∈ profiles) (hsplits : Splits args handoff) :
    (((parts args handoff).map recordOf).mapM fun record => do
      let url ← releaseUrl (ε := ε) args.repository args.releaseTag record.name
      return partAsset record url) = .ok items ↔
    isRepository args.repository = true ∧ items = (parts args handoff).map (partItem args) := by
  have hportable : ∀ part ∈ parts args handoff, isPortable part.1.toList = true := by
    intro part hpart
    obtain ⟨index, hindex⟩ := mem_parts hpart
    exact hindex ▸ isPortable_partName hvalid hprofile index
  rw [Except.mapM_eq_ok, List.forall₂_map_left_iff]
  simp only [Except.bind_eq_ok, releaseUrl_eq_ok, Except.pure_eq_ok]
  constructor
  · intro h
    have hitems : List.Forall₂ (· = ·) ((parts args handoff).map (partItem args)) items :=
      List.forall₂_map_left_iff.mpr (h.imp fun _ _ ⟨_, ⟨_, _, hurl⟩, hitem⟩ =>
        (congrArg (partAsset _) hurl).symm.trans hitem)
    rw [List.forall₂_eq_eq_eq] at hitems
    obtain ⟨part, rest, hparts⟩ := List.exists_cons_of_ne_nil (parts_ne_nil hsplits)
    rw [hparts] at h
    obtain ⟨_, _, ⟨_, ⟨hrepository, -⟩, -⟩, -⟩ := List.forall₂_cons_left_iff.mp h
    exact ⟨hrepository, hitems.symm⟩
  · rintro ⟨hrepository, rfl⟩
    rw [List.forall₂_map_right_iff, List.forall₂_same]
    exact fun part hpart => ⟨_, ⟨hrepository, hportable part hpart, rfl⟩, rfl⟩

/-! ## The calls -/

section

variable {c : SystemCall} {done left : World → World} {E : Raised ε → World → Prop}

/-- A call does its work, or leaves something else. -/
theorem change_ends {Q : Unit → World → Prop} (hdone : system.fails c = none → Q () (done world))
    (hleft : ∀ e, system.fails c ≠ none → E e (left world)) :
    Ends (change system c done left) world Q E := by
  rw [change]
  rcases h : system.fails c with _ | e
  · exact Ends.update (hdone h)
  · exact Ends.bind_update (Ends.throw (hleft _ (h ▸ Option.some_ne_none e)))

end

theorem World.Has.unsigned {listed : List (String × List UInt8)} (h : world.Has listed)
    (hname : args.catalogSignatureName ∉ listed.map Prod.fst) : world.Unsigned args := by
  obtain ⟨files, houtput, hholds⟩ := h
  refine ⟨files, houtput, Option.eq_none_iff_forall_ne_some.mpr fun content hcontent => hname ?_⟩
  exact List.mem_map_of_mem ((hholds.exact _ content).mp hcontent)

/-- Another file does not sign the catalog. -/
theorem World.Unsigned.put (h : world.Unsigned args) {name : String}
    (hname : name ≠ args.catalogSignatureName) (content : Option (List UInt8)) :
    (world.put name content).Unsigned args := by
  obtain ⟨files, houtput, hnone⟩ := h
  refine ⟨Function.update files name content, ?_, ?_⟩
  · rw [World.put, houtput]
    rfl
  · rw [Function.update_of_ne hname.symm, hnone]

/-- A temporary file is no asset: its name starts with a point. -/
theorem temporary_ne (args : ProfileArgs) (name suffix : String) :
    "." ++ name ++ "." ++ suffix ≠ args.catalogSignatureName := by
  have hpoint : ("." ++ name ++ "." ++ suffix).toList.head? = some '.' := by
    rw [String.append_assoc, String.append_assoc, String.toList_append, String.toList_ofList]
    rfl
  have hletter : ∀ rest : String, ("kapsl-backend-onnx-" ++ rest).toList.head? = some 'k' := by
    intro rest
    rw [String.toList_append, String.toList_ofList]
    rfl
  have hname : ∃ rest, args.catalogSignatureName = "kapsl-backend-onnx-" ++ rest := by
    rw [ProfileArgs.catalogSignatureName, ProfileArgs.catalogName, ProfileArgs.filename_eq]
    simp only [String.append_assoc, String.append_right_inj, exists_eq']
  obtain ⟨rest, hrest⟩ := hname
  intro h
  rw [h, hrest, hletter] at hpoint
  exact absurd (Option.some.inj hpoint) (by decide)

theorem handoff_leave (system : System ε) (name : String) :
    (system.leave name world).handoff = world.handoff := by
  rw [System.leave]
  rcases system.leftTemporary name with _ | left
  exacts [rfl, rfl]

theorem World.Unsigned.leave (h : world.Unsigned args) (system : System ε) (name : String) :
    (system.leave name world).Unsigned args := by
  rw [System.leave]
  rcases system.leftTemporary name with _ | left
  · exact h
  · exact h.put (temporary_ne args name left.1) _

/-! ## The assets are made -/

/-- A file is written beside the others. -/
theorem World.Has.write {listed : List (String × List UInt8)} (h : world.Has listed) {name : String}
    (hnew : name ∉ listed.map Prod.fst) (content : List UInt8) :
    (world.write name content).Has (listed ++ [(name, content)]) ∧
      (world.write name content).read name = content := by
  obtain ⟨files, houtput, hholds⟩ := h
  refine ⟨⟨_, ?_, hholds.write hnew content⟩, ?_⟩
  · rw [World.write, World.put, houtput]
    rfl
  · simp [World.read, World.write, World.put, houtput]

/-- Files of the handoff are copied beside those that are there. -/
theorem copyFiles_ends {names : List String} {listed : List (String × List UInt8)}
    (h : world.Has listed)
    (hnodup : ((listed ++ names.map fun name => (name, handoff.content name)).map Prod.fst).Nodup)
    (hunsigned : args.catalogSignatureName ∉
      (listed ++ names.map fun name => (name, handoff.content name)).map Prod.fst) :
    Ends (names.forM (copyFile system handoff)) world
      (fun _ world' => system.Succeeds (names.map .copy) ∧ world'.handoff = world.handoff ∧
        world'.Has (listed ++ names.map fun name => (name, handoff.content name)))
      (fun _ world' => ¬system.Succeeds (names.map .copy) ∧ world'.handoff = world.handoff ∧
        world'.Unsigned args) := by
  induction names generalizing world listed with
  | nil => exact Ends.pure ⟨fun _ hc => absurd hc List.not_mem_nil, rfl, by simpa using h⟩
  | cons name names ih =>
    rw [List.map_cons, List.append_cons] at hnodup hunsigned
    have hnew : name ∉ listed.map Prod.fst := fun hmem => by
      rw [List.map_append, List.map_append] at hnodup
      exact List.disjoint_of_nodup_append (List.nodup_append.mp hnodup).1 hmem
        (List.mem_singleton_self name)
    have hne : name ≠ args.catalogSignatureName := fun heq => hunsigned (heq ▸ by simp)
    have hlisted : args.catalogSignatureName ∉ listed.map Prod.fst := fun hmem =>
      hunsigned (by rw [List.map_append, List.map_append]; simp [hmem])
    rw [List.forM]
    refine Ends.bind (change_ends (Q := fun _ world' => system.fails (.copy name) = none ∧
      world' = world.write name (handoff.content name)) (fun hfails => ⟨hfails, rfl⟩)
      fun e hfails => ⟨fun hall => hfails (hall _ List.mem_cons_self), rfl,
        (h.unsigned hlisted).put hne _⟩) ?_
    rintro _ _ ⟨hfails, rfl⟩
    refine (ih (h.write hnew (handoff.content name)).1 hnodup hunsigned).mono ?_ ?_
    · rintro _ world' ⟨hall, hhandoff, hhas⟩
      rw [List.map_cons, List.map_cons, List.append_cons]
      exact ⟨List.forall_mem_cons.mpr ⟨hfails, hall⟩, hhandoff, hhas⟩
    · rintro _ world' ⟨hall, hhandoff, hnone⟩
      exact ⟨fun h => hall fun c hc => h c (List.mem_cons_of_mem _ hc), hhandoff, hnone⟩

/-- An asset is written; where that fails, it is there only if it was put in its place. -/
theorem atomicWrite_ends {listed : List (String × List UInt8)} {name : String}
    {payload : List UInt8} (h : world.Has listed)
    (hunsigned : args.catalogSignatureName ∉ listed.map Prod.fst) :
    Ends (atomicWrite system name payload) world
      (fun _ world' => system.fails (.write name) = none ∧ system.fails (.tidy name) = none ∧
        world' = world.write name payload)
      (fun _ world' => (system.fails (.write name) ≠ none ∧ world'.handoff = world.handoff ∧
          world'.Unsigned args) ∨
        system.fails (.write name) = none ∧ system.fails (.tidy name) ≠ none ∧
          world' = world.write name payload) := by
  rw [atomicWrite]
  refine Ends.bind (change_ends (Q := fun _ world' => system.fails (.write name) = none ∧
    world' = world.write name payload) (fun hfails => ⟨hfails, rfl⟩)
    fun e hfails => .inl ⟨hfails, handoff_leave system name, (h.unsigned hunsigned).leave system name⟩) ?_
  rintro _ _ ⟨hwrite, rfl⟩
  rcases hcall : call system (.tidy name) with e | u
  · exact ends_of_exec_error (e := e) rfl (.inr ⟨hwrite, fails_of_call hcall, rfl⟩)
  · exact ends_of_exec_ok (a := u) rfl ⟨hwrite, call_eq_ok.mp hcall, rfl⟩

/-- **The catalog is published**: with its signature, or without; or what fails comes after both. -/
theorem publishCatalog_ends {listed : List (String × List UInt8)} {payload : List UInt8}
    (h : world.Has listed) (hcatalog : args.catalogName ∉ listed.map Prod.fst)
    (hlisted : args.catalogSignatureName ∉ listed.map Prod.fst)
    (hsignature : args.catalogSignatureName ∉
      (listed ++ [(args.catalogName, payload)]).map Prod.fst) :
    Ends (publishCatalog tools system args payload) world
      (fun _ world' => (system.Succeeds (catalogCalls args) ∧
          system.fails (.tidy args.catalogSignatureName) = none) ∧
        world'.handoff = world.handoff ∧ ∃ catalogSignature, (tools.isFile = true ∧
          IsSignature tools.toSigning args.expectedPublicKey (Sha256.hexdigest payload)
            catalogSignature) ∧
        world'.Has (listed ++ [(args.catalogName, payload), (args.catalogSignatureName,
          textBytes (catalogSignature ++ "\n"))]))
      (fun _ world' => world'.handoff = world.handoff ∧
        ((¬(system.Succeeds (catalogCalls args) ∧ ∃ catalogSignature, tools.isFile = true ∧
            IsSignature tools.toSigning args.expectedPublicKey (Sha256.hexdigest payload)
              catalogSignature) ∧ world'.Unsigned args) ∨
          system.fails (.tidy args.catalogSignatureName) ≠ none ∧
          ∃ catalogSignature, (tools.isFile = true ∧
            IsSignature tools.toSigning args.expectedPublicKey (Sha256.hexdigest payload)
              catalogSignature) ∧
          world'.Has (listed ++ [(args.catalogName, payload), (args.catalogSignatureName,
            textBytes (catalogSignature ++ "\n"))]))) := by
  obtain ⟨hhas, hread⟩ := h.write hcatalog payload
  have hunsigned : (world.write args.catalogName payload).Unsigned args := hhas.unsigned hsignature
  rw [publishCatalog]
  refine Ends.bind ((atomicWrite_ends h hlisted).mono (fun _ _ h => h) ?_) ?_
  · rintro _ world' (⟨hfails, hhandoff, hnone⟩ | ⟨-, hfails, rfl⟩)
    · exact ⟨hhandoff, .inl ⟨fun h => hfails (h.1 _ (by simp [catalogCalls])), hnone⟩⟩
    · exact ⟨rfl, .inl ⟨fun h => hfails (h.1 _ (by simp [catalogCalls])), hunsigned⟩⟩
  rintro _ _ ⟨hwrite, htidy, rfl⟩
  refine Ends.bind_lift (fun _ hhash => Ends.bind_ask ?_) fun e hhash =>
    ⟨rfl, .inl ⟨fun h => fails_of_call hhash (h.1 _ (by simp [catalogCalls])), hunsigned⟩⟩
  rw [hread]
  refine Ends.bind_lift (fun catalogSignature hsigned => ?_) fun e herror =>
    ⟨rfl, .inl ⟨fun ⟨_, _, hsigned⟩ => ?_, hunsigned⟩⟩
  swap
  · exact nomatch herror.symm.trans (signArtifact_eq_ok.mpr hsigned)
  replace hsigned := signArtifact_eq_ok.mp hsigned
  have hwritten := (hhas.write hsignature (textBytes (catalogSignature ++ "\n"))).1
  rw [List.append_assoc] at hwritten
  refine (atomicWrite_ends hhas hsignature).mono ?_ ?_
  · rintro _ _ ⟨hlast, hafter, rfl⟩
    refine ⟨⟨?_, hafter⟩, rfl, catalogSignature, hsigned, hwritten⟩
    simp [System.Succeeds, catalogCalls, hwrite, htidy, call_eq_ok.mp hhash, hlast]
  · rintro _ world' (⟨hfails, hhandoff, hnone⟩ | ⟨-, hfails, rfl⟩)
    · exact ⟨hhandoff, .inl ⟨fun h => hfails (h.1 _ (by simp [catalogCalls])), hnone⟩⟩
    · exact ⟨rfl, .inr ⟨hfails, catalogSignature, hsigned, hwritten⟩⟩

/-- The archive is removed if it was to be, or it stays. -/
theorem consumeArchive_ends :
    Ends (consumeArchive system args) world
      (fun _ world' => (args.consumeArchive = true → system.fails .unlinkArchive = none) ∧
        world'.handoff = (if args.consumeArchive then
          Function.update world.handoff args.filename none else world.handoff) ∧
        world'.output = world.output)
      (fun _ world' => (args.consumeArchive = true ∧ system.fails .unlinkArchive ≠ none) ∧
        world' = world) := by
  rw [consumeArchive]
  split
  · next hconsume =>
    exact change_ends (fun hfails => ⟨fun _ => hfails, rfl, rfl⟩) fun e hfails =>
      ⟨⟨hconsume, hfails⟩, rfl⟩
  · next hconsume => exact Ends.pure ⟨fun h => absurd h hconsume, rfl, rfl⟩

theorem succeeds_lastCalls : system.Succeeds (lastCalls args) ↔
    system.fails (.tidy args.catalogSignatureName) = none ∧
      (args.consumeArchive = true → system.fails .unlinkArchive = none) := by
  rw [System.Succeeds, lastCalls, List.forall_mem_cons]
  split
  · next hconsume => simp [hconsume]
  · next hconsume => simp [hconsume]

theorem succeeds_assetCalls : system.Succeeds (assetCalls args) ↔ system.fails .split = none ∧
    system.Succeeds ([args.manifestName, args.checksumName, args.signatureName].map .copy) ∧
    (∀ name ∈ [args.filename, args.signatureName, args.manifestName, args.checksumName],
      system.fails (.describe name) = none) ∧ system.Succeeds (catalogCalls args) := by
  rw [System.Succeeds, assetCalls, List.cons_append, List.cons_append, List.forall_mem_cons,
    List.forall_mem_append, List.forall_mem_append]
  simp only [System.Succeeds, List.forall_mem_map, and_assoc]

/-- **The assets are made**, or not; or what fails comes after all of them. -/
theorem publish_ends (houtput : world.output = some fun _ => none)
    (hvalid : args.toIdentity.Valid) (hprofile : args.profile ∈ profiles) :
    Ends (publish tools system args handoff signature) world
      (fun _ world' => (system.Succeeds (assetCalls args) ∧ system.Succeeds (lastCalls args)) ∧
        ∃ catalogSignature, Makeable tools args handoff signature catalogSignature ∧
          world'.handoff = (if args.consumeArchive then
            Function.update world.handoff args.filename none else world.handoff) ∧
          world'.Has (assets tools args handoff signature catalogSignature))
      (fun _ world' => world'.handoff = world.handoff ∧
        ((¬(system.Succeeds (assetCalls args) ∧
            ∃ catalogSignature, Makeable tools args handoff signature catalogSignature) ∧
          world'.Unsigned args) ∨
        ¬system.Succeeds (lastCalls args) ∧
          ∃ catalogSignature, Makeable tools args handoff signature catalogSignature ∧
            world'.Has (assets tools args handoff signature catalogSignature))) := by
  rw [publish, succeeds_assetCalls, succeeds_lastCalls]
  refine Ends.bind ((splitInto_ends houtput).mono (fun _ _ h => h) ?_) ?_
  · rintro _ world' ⟨hfails, hhandoff, hnone⟩
    exact ⟨hhandoff, .inl ⟨fun ⟨hcalls, _, hmake⟩ => hfails ⟨hcalls.1, hmake.splits⟩, hnone⟩⟩
  rintro _ world₁ ⟨hsplit, hsplits, rfl, hhandoff₁, hparts⟩
  refine Ends.bind_lift (fun items hitems => ?_) fun _ herror =>
    ⟨hhandoff₁, .inl ⟨fun ⟨_, _, hmake⟩ => ?_, hparts.unsigned catalogSignatureName_notMem_parts⟩⟩
  swap
  · exact nomatch herror.symm.trans
      ((partItems_eq_ok hvalid hprofile hsplits).mpr ⟨hmake.repository, rfl⟩)
  obtain ⟨hrepository, rfl⟩ := (partItems_eq_ok hvalid hprofile hsplits).mp hitems
  have hlisted : args.catalogSignatureName ∉
      (parts args handoff ++ copies args handoff).map Prod.fst := fun hmem =>
    catalogSignatureName_notMem [] (by rw [List.map_append]; exact List.mem_append_left _ hmem)
  refine Ends.bind ((copyFiles_ends hparts (List.nodup_append.mp nodup_copied).1 hlisted).mono
    (fun _ _ h => h) ?_) ?_
  · rintro _ world' ⟨hfails, hhandoff, hnone⟩
    exact ⟨hhandoff.trans hhandoff₁, .inl ⟨fun h => hfails h.1.2.1, hnone⟩⟩
  rintro _ world₂ ⟨hcopy, hhandoff₂, hcopied⟩
  refine Ends.bind_lift (fun _ hdescribed => ?_) fun _ herror => ⟨hhandoff₂.trans hhandoff₁,
    .inl ⟨fun h => ?_, hcopied.unsigned hlisted⟩⟩
  swap
  · have hnone : ∀ name ∈ [args.filename, args.signatureName, args.manifestName, args.checksumName],
        call system (.describe name) = .ok () := fun name hname => call_eq_ok.mpr (h.1.2.2.1 name hname)
    exact nomatch herror.symm.trans ((Except.forM_eq_ok (u := ())).mpr hnone)
  replace hdescribed : ∀ name ∈ [args.filename, args.signatureName, args.manifestName,
      args.checksumName], system.fails (.describe name) = none := fun name hname =>
    call_eq_ok.mp (Except.forM_eq_ok.mp hdescribed name hname)
  refine Ends.bind ((publishCatalog_ends hcopied catalogName_notMem hlisted
    (catalogSignatureName_notMem _)).mono (fun _ _ h => h) ?_) ?_
  · rintro _ world' ⟨hhandoff, ⟨hfails, hnone⟩ | ⟨hfails, catalogSignature, ⟨hfile, hsigned⟩, hhas⟩⟩
    · exact ⟨hhandoff.trans (hhandoff₂.trans hhandoff₁), .inl ⟨fun ⟨hcalls, _, hmake⟩ =>
        hfails ⟨hcalls.2.2.2, _, hmake.isFile, hmake.signed⟩, hnone⟩⟩
    · exact ⟨hhandoff.trans (hhandoff₂.trans hhandoff₁), .inr ⟨fun h => hfails h.1,
        catalogSignature, ⟨hsplits, hrepository, hfile, hsigned⟩, hhas⟩⟩
  rintro _ world₃ ⟨⟨hcalls, htidy⟩, hhandoff₃, catalogSignature, ⟨hfile, hsigned⟩, hhas⟩
  have hhandoff : world₃.handoff = world.handoff := hhandoff₃.trans (hhandoff₂.trans hhandoff₁)
  have hmake : Makeable tools args handoff signature catalogSignature :=
    ⟨hsplits, hrepository, hfile, hsigned⟩
  refine consumeArchive_ends.mono ?_ ?_
  · rintro _ world' ⟨hunlink, hhandoff', houtput'⟩
    obtain ⟨files, hfiles, hholds⟩ := hhas
    rw [hhandoff] at hhandoff'
    exact ⟨⟨⟨hsplit, hcopy, hdescribed, hcalls⟩, htidy, hunlink⟩, catalogSignature, hmake, hhandoff',
      files, houtput'.trans hfiles, hholds⟩
  · rintro _ _ ⟨⟨hconsume, hfails⟩, rfl⟩
    exact ⟨hhandoff, .inr ⟨fun h => hfails (h.2 hconsume), catalogSignature, hmake, hhas⟩⟩

/-! ## The whole run -/

theorem succeeds_calls : system.Succeeds (calls args) ↔
    (system.fails .findOutput = none ∧ system.fails .makeDirectory = none) ∧
      system.Succeeds (handoffCalls args) ∧ system.Succeeds (assetCalls args) ∧
      system.Succeeds (lastCalls args) := by
  rw [System.Succeeds, calls, List.forall_mem_append, List.forall_mem_append,
    List.forall_mem_append]
  simp only [List.forall_mem_cons, List.not_mem_nil, false_implies, implies_true, and_true,
    System.Succeeds, and_assoc]

theorem prepareProfile_ends (tools : Tools ε) (system : System ε) (args : ProfileArgs)
    (world : World) :
    Ends (prepareProfile tools system args) world
      (fun _ world' => system.Succeeds (calls args) ∧ ∃ signature catalogSignature,
        Ready tools args world signature catalogSignature ∧
        Made tools args world world' signature catalogSignature)
      (fun _ world' => (¬(system.Succeeds (calls args) ∧ ∃ signature catalogSignature,
          Ready tools args world signature catalogSignature)) ∧
        (Unsigned args world world' ∨
          ¬system.Succeeds (lastCalls args) ∧ ∃ signature catalogSignature,
            Ready tools args world signature catalogSignature ∧
            Published tools args world world' signature catalogSignature)) := by
  have hkept : Unsigned args world world := ⟨rfl, .inl rfl⟩
  rw [prepareProfile, succeeds_calls]
  refine Ends.bind_lift (fun _ hvalid => ?_) fun _ herror => ⟨fun ⟨_, _, _, h⟩ =>
    (nomatch herror.symm.trans (Identity.validate_eq_ok.mpr h.valid)), .inl hkept⟩
  replace hvalid := Identity.validate_eq_ok.mp hvalid
  refine Ends.bind_lift (fun _ hprofile => ?_) fun _ herror =>
    ⟨fun ⟨_, _, _, h⟩ => (Except.raiseIf_eq_error.mp herror).1 h.profile, .inl hkept⟩
  replace hprofile := not_not.mp (Except.raiseIf_eq_ok.mp hprofile)
  refine Ends.bind_lift (fun _ hfind => Ends.bind_ask ?_) fun _ herror =>
    ⟨fun h => fails_of_call herror h.1.1.1, .inl hkept⟩
  refine Ends.bind_lift (fun _ hfresh => ?_) fun _ herror => ⟨fun ⟨_, _, _, h⟩ => ?_, .inl hkept⟩
  swap
  · have hpresent := (Except.raiseIf_eq_error.mp herror).1
    rw [h.fresh] at hpresent
    exact nomatch hpresent
  replace hfresh : world.output = none := by simpa using Except.raiseIf_eq_ok.mp hfresh
  refine Ends.bind (change_ends (Q := fun _ world' => system.fails .makeDirectory = none ∧
    world' = { world with output := some fun _ => none }) (fun hmake => ⟨hmake, rfl⟩)
    fun e hfails => ⟨fun h => hfails h.1.1.2, .inl hkept⟩) ?_
  rintro _ _ ⟨hmake, rfl⟩
  refine Ends.bind_ask (Ends.bind_lift (fun signature hsound => ?_) fun _ herror =>
    ⟨fun ⟨hcalls, _, _, h⟩ => ?_, .inl ⟨rfl, .inr ⟨hfresh, _, rfl, rfl⟩⟩⟩)
  swap
  · exact nomatch herror.symm.trans (checkHandoff_eq_ok.mpr ⟨hcalls.2.1, h.sound⟩)
  obtain ⟨hchecked, hsound'⟩ := checkHandoff_eq_ok.mp hsound
  refine (publish_ends rfl hvalid hprofile).mono ?_ ?_
  · rintro _ world' ⟨⟨hassets, hlast⟩, catalogSignature, hmakeable, hhandoff, hhas⟩
    exact ⟨⟨⟨call_eq_ok.mp hfind, hmake⟩, hchecked, hassets, hlast⟩, signature, catalogSignature,
      ⟨hvalid, hprofile, hfresh, hsound', hmakeable⟩, hhandoff, hhas⟩
  · rintro _ world' ⟨hhandoff, ⟨hfails, hnone⟩ | ⟨hfails, catalogSignature, hmakeable, hhas⟩⟩
    · refine ⟨fun ⟨hcalls, signature', catalogSignature, h⟩ => ?_,
        .inl ⟨hhandoff, .inr ⟨hfresh, hnone⟩⟩⟩
      obtain rfl : signature = signature' :=
        Except.ok.inj (hsound.symm.trans (checkHandoff_eq_ok.mpr ⟨hchecked, h.sound⟩))
      exact hfails ⟨hcalls.2.2.1, catalogSignature, h.makeable⟩
    · exact ⟨fun h => hfails h.1.2.2.2, .inr ⟨hfails, signature, catalogSignature,
        ⟨hvalid, hprofile, hfresh, hsound', hmakeable⟩, hhandoff, hhas⟩⟩

/-- **The assets of a profile**: they are made exactly when the profile is ready and no call of the
system fails, each of them and no other.  Where they are not, the handoff and an output directory
that was there are as they were; and a new one has no signed catalog, unless what failed came after
the last asset, when all of them are there. -/
theorem prepareProfile_exact (tools : Tools ε) (system : System ε) (args : ProfileArgs)
    (world : World) :
    ((exec (prepareProfile tools system args) world).1 = .ok () ↔
      system.Succeeds (calls args) ∧ ∃ signature catalogSignature,
        Ready tools args world signature catalogSignature) ∧
    Ends (prepareProfile tools system args) world
      (fun _ world' => ∃ signature catalogSignature,
        Ready tools args world signature catalogSignature ∧
        Made tools args world world' signature catalogSignature)
      (fun _ world' => Unsigned args world world' ∨
        ¬system.Succeeds (lastCalls args) ∧ ∃ signature catalogSignature,
          Ready tools args world signature catalogSignature ∧
          Published tools args world world' signature catalogSignature) := by
  have hends := prepareProfile_ends tools system args world
  refine ⟨?_, hends.mono (fun _ _ h => h.2) fun _ _ h => h.2⟩
  rcases hexec : exec (prepareProfile tools system args) world with ⟨e | u, world'⟩
  · exact ⟨fun h => (nomatch h), fun h => absurd h (hends.2 e world' hexec).1⟩
  · obtain ⟨hcalls, signature, catalogSignature, hready, -⟩ := hends.1 u world' hexec
    exact ⟨fun _ => ⟨hcalls, signature, catalogSignature, hready⟩, fun _ => rfl⟩

end

end Kapsl.Ort.Release
