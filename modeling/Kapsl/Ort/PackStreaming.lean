import Kapsl.Ort.PackArchive

/-!
# Ort/PackStreaming — the archive of an accelerator pack is compared by digests

The entries of an accelerator pack are too large to keep: an entry is a file, or in memory, with its
size and its digest.  `validate_streaming_archive` reads a member block by block and compares its
length and its digest.

* `readBlocks_eq` — the blocks are the stream.
* `validateStreamingArchive_agrees` — the streaming validation accepts what the plain one does; it
  accepts nothing else, unless a member has the length and the digest of its entry and other
  content.
-/

namespace Kapsl.Ort.PackArchive

open Vllm (Json)
open Except (raiseIf okOr)
open Notices (Path)

/-! ## The code -/

/-- An entry of an accelerator pack. -/
structure PackEntry where
  mode : ℤ
  size : ℕ
  sha256 : String
  path : Option Path
  payload : Option (List UInt8)

section

variable {ε : Type} (host : Host ε)

/-- The loop over the blocks of a stream: how much was read, and what `digest` was updated with. -/
def readBlocks (size : ℕ) (digest stream : List UInt8) : ℕ × List UInt8 :=
  let block := stream.take (1024 * 1024)
  if _h : block = [] then (size, digest)
  else readBlocks (size + block.length) (digest ++ block) (stream.drop (1024 * 1024))
termination_by stream.length
decreasing_by
  have hpos : 0 < (stream.take (1024 * 1024)).length := List.length_pos_of_ne_nil _h
  rw [List.length_take] at hpos
  rw [List.length_drop]
  omega

/-- The comparison of `validate_streaming_archive`. -/
def compareStreamed (expected : PackEntry) (member : Member ε) : Except (Raised ε) Unit := do
  raiseIf (member.info.mode ≠ expected.mode ∨ member.info.size ≠ expected.size)
    (.package ("archive metadata differs from input: " ++ member.info.name))
  let stream ← readMember member
  let (observedSize, digest) := readBlocks 0 [] stream
  raiseIf (observedSize ≠ expected.size ∨ Sha256.hexdigest digest ≠ expected.sha256)
    (.package ("archive file differs from signed input: " ++ member.info.name))

/-- `payload_entry.payload`. -/
def metadataPayload (entry : PackEntry) : Except (Raised ε) (List UInt8) :=
  okOr entry.payload (.package "backend-pack.json must be an in-memory metadata entry")

/-- `validate_streaming_archive`. -/
def validateStreamingArchive (archivePath : String) (entries : Entries PackEntry) (template : Json)
    (epoch : ℤ) (archive : Except ε (List (Member ε))) : Except (Raised ε) Unit :=
  validate host compareStreamed metadataPayload (·.sha256) archivePath entries template epoch
    archive

end

/-! ## The streaming validation -/

section

variable {ε : Type}

theorem readBlocks_eq (size : ℕ) (digest stream : List UInt8) :
    readBlocks size digest stream = (size + stream.length, digest ++ stream) := by
  fun_induction readBlocks size digest stream with
  | case1 size digest stream block hblock =>
    have hnil : stream = [] := by
      rcases List.take_eq_nil_iff.mp hblock with h | h
      · exact nomatch h
      · exact h
    rw [hnil, List.length_nil, Nat.add_zero, List.append_nil]
  | case2 size digest stream block hblock ih =>
    have hwhole : block ++ stream.drop (1024 * 1024) = stream := List.take_append_drop ..
    have hlength := congrArg List.length hwhole
    rw [List.length_append] at hlength
    rw [ih, List.append_assoc, hwhole, Nat.add_assoc, hlength]

/-- **The streamed comparison** is one of the length and the digest. -/
theorem compareStreamed_eq_ok {expected : PackEntry} {member : Member ε} :
    compareStreamed expected member = .ok () ↔ member.info.mode = expected.mode ∧
      ∃ data, member.content = .ok (some data) ∧ data.length = expected.size ∧
        Sha256.hexdigest data = expected.sha256 := by
  simp only [compareStreamed, Except.bind_eq_ok, readMember_eq_ok, Except.raiseIf_eq_ok, not_or,
    not_not, readBlocks_eq, Nat.zero_add, List.nil_append]
  constructor
  · rintro ⟨_, ⟨hmode, _⟩, data, hdata, hlength, hdigest⟩
    exact ⟨hmode, data, hdata, hlength, hdigest⟩
  · rintro ⟨hmode, data, hdata, hlength, hdigest⟩
    exact ⟨(), ⟨hmode, (member.size_eq data hdata).trans hlength⟩, data, hdata, hlength, hdigest⟩

/-- `PackEntry.from_bytes`. -/
def PackEntry.fromBytes (payload : List UInt8) (mode : ℤ) : PackEntry where
  mode
  size := payload.length
  sha256 := Sha256.hexdigest payload
  path := none
  payload := some payload

/-- `PackEntry.from_path`, for a file with this content. -/
def PackEntry.fromPath (path : Path) (content : List UInt8) (mode : ℤ) : PackEntry where
  mode
  size := content.length
  sha256 := Sha256.hexdigest content
  path := some path
  payload := none

/-- The entry of an accelerator pack, which is a file or in memory. -/
def stage (onDisk : String → Option Path) (name : String) (entry : PlainEntry) : PackEntry :=
  (onDisk name).elim (.fromBytes entry.1 entry.2) fun path => .fromPath path entry.1 entry.2

/-- The entries as those of an accelerator pack. -/
def stageAll (onDisk : String → Option Path) (entries : Entries PlainEntry) : Entries PackEntry where
  entries := entries.entries.map (Sigma.map id (stage onDisk))
  nodupKeys := by
    have hkeys := entries.nodupKeys
    rw [List.NodupKeys, List.keys] at *
    rwa [List.map_map]

variable {host : Host ε} {onDisk : String → Option Path} {entries : Entries PlainEntry} {epoch : ℤ}
  {archivePath : String} {template : Json} {archive : Except ε (List (Member ε))}

theorem lookup_stageAll (name : String) :
    (stageAll onDisk entries).lookup name = (entries.lookup name).map (stage onDisk name) :=
  List.dlookup_map₂ name

theorem keys_stageAll : (stageAll onDisk entries).keys = entries.keys := by
  show List.keys (List.map _ _) = List.keys _
  rw [List.keys, List.map_map]
  rfl

/-- What an entry is compared by does not depend on where it is. -/
theorem stage_eq (onDisk : String → Option Path) (name : String) (entry : PlainEntry) :
    (stage onDisk name entry).mode = entry.2 ∧ (stage onDisk name entry).size = entry.1.length ∧
      (stage onDisk name entry).sha256 = Sha256.hexdigest entry.1 := by
  rw [stage]
  rcases onDisk name with _ | path
  exacts [⟨rfl, rfl, rfl⟩, ⟨rfl, rfl, rfl⟩]

/-- Other content with the length and the digest of an entry. -/
def Collides (entries : Entries PlainEntry) (member : Member ε) : Prop :=
  ∃ entry ∈ entries.lookup member.info.name, ∃ data, member.content = .ok (some data) ∧
    data ≠ entry.1 ∧ data.length = entry.1.length ∧
      Sha256.hexdigest data = Sha256.hexdigest entry.1

/-- A member matches its staged entry when it matches the plain one, or collides with it. -/
theorem matches_stageAll {member : Member ε} :
    (Matches comparePlain entries member → Matches compareStreamed (stageAll onDisk entries) member) ∧
      (Matches compareStreamed (stageAll onDisk entries) member →
        Matches comparePlain entries member ∨ Collides entries member) := by
  constructor
  · rintro ⟨entry, hentry, hcompare⟩
    obtain ⟨hcontent, hmode⟩ := comparePlain_eq_ok.mp hcompare
    obtain ⟨hstagedMode, hsize, hdigest⟩ := stage_eq onDisk member.info.name entry
    refine ⟨stage onDisk member.info.name entry, ?_, compareStreamed_eq_ok.mpr
      ⟨hmode.trans hstagedMode.symm, entry.1, hcontent, hsize.symm, hdigest.symm⟩⟩
    rw [lookup_stageAll, Option.mem_def.mp hentry, Option.map_some, Option.mem_some_iff]
  · rintro ⟨staged, hstaged, hcompare⟩
    rw [lookup_stageAll, Option.mem_def, Option.map_eq_some_iff] at hstaged
    obtain ⟨entry, hentry, rfl⟩ := hstaged
    obtain ⟨hmode, data, hcontent, hlength, hdata⟩ := compareStreamed_eq_ok.mp hcompare
    obtain ⟨hstagedMode, hsize, hdigest⟩ := stage_eq onDisk member.info.name entry
    by_cases heq : data = entry.1
    · exact .inl ⟨entry, hentry, comparePlain_eq_ok.mpr
        ⟨heq ▸ hcontent, hmode.trans hstagedMode⟩⟩
    · exact .inr ⟨entry, hentry, data, hcontent, heq, hlength.trans hsize, hdata.trans hdigest⟩

theorem sortedItems_stageAll : sortedItems (stageAll onDisk entries) =
    (sortedItems entries).map fun item => (item.1, stage onDisk item.1 item.2) := by
  have hitems : items (stageAll onDisk entries) =
      (items entries).map fun item => (item.1, stage onDisk item.1 item.2) := by
    show (List.map _ (List.map _ _)) = List.map _ (List.map _ _)
    rw [List.map_map, List.map_map]
    rfl
  rw [sortedItems, hitems]
  exact (List.map_insertionSort (fun a b : String × PlainEntry => a.1 ≤ b.1)
    (fun a b : String × PackEntry => a.1 ≤ b.1)
    (fun item => (item.1, stage onDisk item.1 item.2)) (items entries) fun _ _ _ _ => Iff.rfl).symm

/-- The template of an accelerator pack has the digests that of a CPU pack has. -/
theorem digests_stageAll :
    ((sortedItems (stageAll onDisk entries)).map fun item => (item.1, item.2.sha256)) =
      (sortedItems entries).map fun item => (item.1, Sha256.hexdigest item.2.1) := by
  rw [sortedItems_stageAll, List.map_map]
  exact List.map_congr_left fun item _ => congrArg (Prod.mk item.1) (stage_eq onDisk item.1 item.2).2.2

theorem checkManifest_stageAll :
    checkManifest host metadataPayload (·.sha256) (stageAll onDisk entries) template = .ok () ↔
      onDisk "backend-pack.json" = none ∧ PlainManifest host entries template := by
  rw [checkManifest_eq_ok, digests_stageAll, lookup_stageAll]
  simp only [Option.mem_def, Option.map_eq_some_iff, metadataPayload, Except.okOr_eq_ok, stage]
  constructor
  · rintro ⟨_, ⟨entry, hentry, rfl⟩, text, htext, hagrees⟩
    rcases hdisk : onDisk "backend-pack.json" with _ | path
    · rw [hdisk] at htext
      exact ⟨rfl, entry, hentry, Option.some.inj htext ▸ hagrees⟩
    · rw [hdisk] at htext
      cases htext
  · rintro ⟨hdisk, entry, hentry, hagrees⟩
    refine ⟨_, ⟨entry, hentry, rfl⟩, entry.1, ?_, hagrees⟩
    rw [hdisk]
    rfl

/-- **The streaming validation agrees with the plain one**, unless a digest collides. -/
theorem validateStreamingArchive_agrees :
    (validateArchive host archivePath entries template epoch archive = .ok () →
        onDisk "backend-pack.json" = none →
        validateStreamingArchive host archivePath (stageAll onDisk entries) template epoch archive =
          .ok ()) ∧
      (validateStreamingArchive host archivePath (stageAll onDisk entries) template epoch archive =
          .ok () →
        onDisk "backend-pack.json" = none ∧
          (validateArchive host archivePath entries template epoch archive = .ok () ∨
            ∃ members, archive = .ok members ∧ ∃ member ∈ members, Collides entries member)) := by
  rw [validateArchive, validateStreamingArchive, validate_eq_ok, validate_eq_ok,
    checkManifest_plain, checkManifest_stageAll, keys_stageAll]
  constructor
  · rintro ⟨members, harchive, hadmissible, hmatch, hperm, hmanifest⟩ hdisk
    exact ⟨members, harchive, hadmissible, fun m h => matches_stageAll.1 (hmatch m h), hperm, hdisk,
      hmanifest⟩
  · rintro ⟨members, harchive, hadmissible, hmatch, hperm, hdisk, hmanifest⟩
    refine ⟨hdisk, ?_⟩
    by_cases hcollides : ∃ member ∈ members, Collides entries member
    · exact .inr ⟨members, harchive, hcollides⟩
    · refine .inl ⟨members, harchive, hadmissible, fun member h => ?_, hperm, hmanifest⟩
      exact (matches_stageAll.2 (hmatch member h)).resolve_right fun hcollide =>
        hcollides ⟨member, (mem_files.mp h).1, hcollide⟩

end

end Kapsl.Ort.PackArchive
