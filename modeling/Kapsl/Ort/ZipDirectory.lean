import Mathlib.Algebra.Order.Ring.Int
import Kapsl.Lib.Except
import Kapsl.Lib.Fields

/-!
# Ort/ZipDirectory — the central directory of a wheel

`parse_central_directory` finds the end record of a ZIP archive from behind, reads the central
directory it points at, and walks over the members by the lengths that their headers give.  Every
offset comes from the archive.  A buffer is read through `unpackFrom` and `slice`, which fail with
`ZipError.outside` where the bytes asked for are not all in the buffer, so that this is a failure
the parser can be shown not to have.
-/

namespace Kapsl.Ort.Zip

open Except (raiseIf)

/-- How the parser fails. -/
inductive ZipError
  /-- `TensorRtFetchError`. -/
  | fetch (message : String)
  /-- A read outside the buffer. -/
  | outside
  deriving DecidableEq

/-! ## Buffers -/

/-- `struct.unpack_from`, for fields of the given widths; a `4s` is read as a number. -/
def unpackFrom (widths : List ℕ) (buffer : List UInt8) (offset : ℕ) : Except ZipError (List ℕ) :=
  if offset + widths.sum ≤ buffer.length then .ok (Fields.unpack widths (buffer.drop offset))
  else .error .outside

/-- `buffer[start:stop]`. -/
def slice (buffer : List UInt8) (start stop : ℕ) : Except ZipError (List UInt8) :=
  if start ≤ stop ∧ stop ≤ buffer.length then .ok ((buffer.take stop).drop start)
  else .error .outside

/-- `buffer.rfind(pattern)`. -/
def rfind (pattern : List UInt8) : List UInt8 → Option ℕ
  | [] => if pattern = [] then some 0 else none
  | byte :: buffer =>
    match rfind pattern buffer with
    | some offset => some (offset + 1)
    | none => if pattern.isPrefixOf (byte :: buffer) then some 0 else none

/-- `MemoryRangeSource.open_range`, and what the stream holds. -/
def openRange (payload : List UInt8) (start stop : ℤ) : Except ZipError (List UInt8) := do
  raiseIf (start < 0 ∨ stop < start ∨ payload.length ≤ stop)
    (.fetch s!"invalid fixture byte range {start}-{stop}")
  slice payload start.toNat (stop + 1).toNat

/-- `read_exact_range`. -/
def readExactRange (payload : List UInt8) (start stop : ℤ) : Except ZipError (List UInt8) := do
  let expected := stop - start + 1
  let stream ← openRange payload start stop
  let bytes := stream.take (expected + 1).toNat
  raiseIf (bytes.length ≠ expected)
    (.fetch s!"TensorRT range {start}-{stop} contains {bytes.length} bytes; expected {expected}")
  return bytes

/-! ## Records of the format -/

/-- `MAX_CENTRAL_DIRECTORY_BYTES`. -/
def maxCentralDirectoryBytes : ℕ := 4 * 1024 * 1024

/-- `EOCD`. -/
def endWidths : List ℕ := [4, 2, 2, 2, 2, 4, 4, 2]

/-- `CENTRAL_HEADER`. -/
def centralWidths : List ℕ := [4, 2, 2, 2, 2, 2, 2, 4, 4, 4, 2, 2, 2, 2, 2, 4, 4]

/-- `EXTRA_HEADER`. -/
def extraWidths : List ℕ := [2, 2]

/-- `b"PK\x05\x06"`. -/
def endSignature : List UInt8 := [0x50, 0x4b, 0x05, 0x06]

/-- `b"PK\x01\x02"`. -/
def centralSignature : List UInt8 := [0x50, 0x4b, 0x01, 0x02]

/-- What the parser takes of the end record. -/
structure EndRecord where
  signature : ℕ
  disk : ℕ
  centralDisk : ℕ
  diskEntries : ℕ
  totalEntries : ℕ
  centralSize : ℕ
  centralOffset : ℕ
  commentSize : ℕ

/-- What the parser takes of a central header. -/
structure CentralHeader where
  signature : ℕ
  flags : ℕ
  compression : ℕ
  crc32 : ℕ
  compressedSize : ℕ
  size : ℕ
  nameSize : ℕ
  extraSize : ℕ
  commentSize : ℕ
  disk : ℕ
  localHeaderOffset : ℕ

/-- `EOCD.unpack_from`. -/
def unpackEnd (buffer : List UInt8) (offset : ℕ) : Except ZipError EndRecord := do
  match ← unpackFrom endWidths buffer offset with
  | [signature, disk, centralDisk, diskEntries, totalEntries, centralSize, centralOffset,
      commentSize] =>
    return ⟨signature, disk, centralDisk, diskEntries, totalEntries, centralSize, centralOffset,
      commentSize⟩
  | _ => throw .outside

/-- `CENTRAL_HEADER.unpack_from`. -/
def unpackCentral (buffer : List UInt8) (offset : ℕ) : Except ZipError CentralHeader := do
  match ← unpackFrom centralWidths buffer offset with
  | [signature, _, _, flags, compression, _, _, crc32, compressedSize, size, nameSize, extraSize,
      commentSize, disk, _, _, localHeaderOffset] =>
    return ⟨signature, flags, compression, crc32, compressedSize, size, nameSize, extraSize,
      commentSize, disk, localHeaderOffset⟩
  | _ => throw .outside

/-- `EXTRA_HEADER.unpack_from`. -/
def unpackExtra (buffer : List UInt8) (offset : ℕ) : Except ZipError (ℕ × ℕ) := do
  match ← unpackFrom extraWidths buffer offset with
  | [kind, length] => return (kind, length)
  | _ => throw .outside

/-! ## ZIP64 -/

/-- The loop of `resolve_zip64_fields` over the extra records. -/
def findZip64 (name : String) (extra : List UInt8) (offset : ℕ) (zip64 : Option (List UInt8)) :
    Except ZipError (Option (List UInt8)) :=
  if _hoffset : offset < extra.length then do
    raiseIf (extra.length < offset + 4) (.fetch s!"{name} has truncated ZIP extra metadata")
    let (kind, length) ← unpackExtra extra offset
    raiseIf (extra.length < offset + 4 + length)
      (.fetch s!"{name} has malformed ZIP extra metadata")
    if kind = 1 then
      raiseIf zip64.isSome (.fetch s!"{name} has duplicate ZIP64 metadata")
      let found ← slice extra (offset + 4) (offset + 4 + length)
      findZip64 name extra (offset + 4 + length) (some found)
    else
      findZip64 name extra (offset + 4 + length) zip64
  else return zip64
termination_by extra.length - offset

/-- The loop of `resolve_zip64_fields` over the values, each with what stands for it when it is in
the ZIP64 record, and its width there. -/
def takeValues (name : String) (zip64 : List UInt8) :
    List (ℕ × ℕ × ℕ) → ℕ → Except ZipError (List ℕ × ℕ)
  | [], cursor => return ([], cursor)
  | (value, sentinel, width) :: fields, cursor =>
    if value = sentinel then do
      raiseIf (zip64.length < cursor + width) (.fetch s!"{name} has truncated ZIP64 values")
      let bytes ← slice zip64 cursor (cursor + width)
      let (values, cursor) ← takeValues name zip64 fields (cursor + width)
      return (Fields.value bytes :: values, cursor)
    else do
      let (values, cursor) ← takeValues name zip64 fields cursor
      return (value :: values, cursor)

/-- `resolve_zip64_fields`. -/
def resolveZip64Fields (name : String) (size compressedSize localHeaderOffset disk : ℕ)
    (extra : List UInt8) : Except ZipError (ℕ × ℕ × ℕ × ℕ) :=
  if size ≠ 0xFFFFFFFF ∧ compressedSize ≠ 0xFFFFFFFF ∧ localHeaderOffset ≠ 0xFFFFFFFF ∧
      disk ≠ 0xFFFF then
    return (size, compressedSize, localHeaderOffset, disk)
  else do
    match ← findZip64 name extra 0 none with
    | none => throw (.fetch s!"{name} is missing required ZIP64 metadata")
    | some zip64 =>
      let (values, cursor) ← takeValues name zip64 [(size, 0xFFFFFFFF, 8),
        (compressedSize, 0xFFFFFFFF, 8), (localHeaderOffset, 0xFFFFFFFF, 8), (disk, 0xFFFF, 4)] 0
      raiseIf (cursor ≠ zip64.length) (.fetch s!"{name} has unexpected ZIP64 values")
      match values with
      | [size, compressedSize, localHeaderOffset, disk] =>
        return (size, compressedSize, localHeaderOffset, disk)
      | _ => throw .outside

/-! ## The directory -/

structure ZipMember where
  name : String
  flags : ℕ
  compression : ℕ
  crc32 : ℕ
  compressedSize : ℕ
  size : ℕ
  localHeaderOffset : ℕ
  deriving DecidableEq

/-- The dictionary of the members, in the order they were read. -/
abbrev Members := List (String × ZipMember)

/-- `name_bytes.decode("utf-8" if flags & 0x800 else "ascii")`. -/
def decodeName (flags : ℕ) (bytes : List UInt8) : Option String :=
  if flags &&& 0x800 ≠ 0 then String.fromUTF8? ⟨bytes.toArray⟩
  else if bytes.all (· < 128) then some (.ofList (bytes.map fun byte => Char.ofNat byte.toNat))
  else none

/-- One turn of the loop over the members: where the next one starts, and what was read. -/
def readMember (payload : List UInt8) (offset : ℕ) (result : Members) :
    Except ZipError (ℕ × Members) := do
  raiseIf (payload.length < offset + 46)
    (.fetch "TensorRT wheel central directory is truncated")
  let header ← unpackCentral payload offset
  raiseIf (header.signature ≠ Fields.value centralSignature)
    (.fetch "TensorRT wheel central directory is malformed")
  let stop := offset + 46 + header.nameSize + header.extraSize + header.commentSize
  raiseIf (payload.length < stop) (.fetch "TensorRT wheel member metadata is truncated")
  let nameBytes ← slice payload (offset + 46) (offset + 46 + header.nameSize)
  let extraStart := offset + 46 + header.nameSize
  let extra ← slice payload extraStart (extraStart + header.extraSize)
  match decodeName header.flags nameBytes with
  | none => throw (.fetch "TensorRT wheel has a non-portable member name")
  | some name =>
    raiseIf (header.flags &&& 1 ≠ 0) (.fetch s!"TensorRT wheel member is encrypted: {name}")
    raiseIf (name ∈ result.map Prod.fst) (.fetch s!"TensorRT wheel has duplicate member {name}")
    let (size, compressedSize, localHeaderOffset, disk) ← resolveZip64Fields name header.size
      header.compressedSize header.localHeaderOffset header.disk extra
    raiseIf (disk ≠ 0) (.fetch s!"TensorRT wheel member is on another disk: {name}")
    return (stop, result ++ [(name,
      { name := name
        flags := header.flags
        compression := header.compression
        crc32 := header.crc32
        compressedSize := compressedSize
        size := size
        localHeaderOffset := localHeaderOffset })])

/-- The loop over the members. -/
def readMembers (payload : List UInt8) : ℕ → ℕ → Members → Except ZipError (ℕ × Members)
  | 0, offset, result => return (offset, result)
  | count + 1, offset, result => do
    let (offset, result) ← readMember payload offset result
    readMembers payload count offset result

/-- The checks of the end record, and of where the directory is. -/
def checkEnd (record : EndRecord) (tailOffset endOffset tailLength : ℕ) :
    Except ZipError Unit := do
  raiseIf (record.signature ≠ Fields.value endSignature ∨ record.disk ≠ 0 ∨ record.centralDisk ≠ 0)
    (.fetch "TensorRT wheel uses unsupported multi-disk ZIP data")
  raiseIf (record.diskEntries ≠ record.totalEntries ∨ record.totalEntries = 0)
    (.fetch "TensorRT wheel has an invalid ZIP member count")
  raiseIf (endOffset + 22 + record.commentSize ≠ tailLength)
    (.fetch "TensorRT wheel has trailing or malformed ZIP data")
  raiseIf (record.totalEntries = 0xFFFF ∨ record.centralSize = 0xFFFFFFFF ∨
      record.centralOffset = 0xFFFFFFFF)
    (.fetch "TensorRT wheel unexpectedly requires ZIP64 metadata")
  raiseIf (record.centralSize = 0 ∨ maxCentralDirectoryBytes < record.centralSize)
    (.fetch "TensorRT wheel central directory exceeds its bound")
  raiseIf (tailOffset + endOffset < record.centralOffset + record.centralSize)
    (.fetch "TensorRT wheel central directory overlaps its end record")

/-- `parse_central_directory`, of a source in memory. -/
def parseCentralDirectory (source : List UInt8) : Except ZipError Members := do
  let tailSize := min source.length (65535 + 22)
  let tailOffset := source.length - tailSize
  let tail ← readExactRange source tailOffset (source.length - 1)
  match rfind endSignature tail with
  | none => throw (.fetch "TensorRT wheel has no valid ZIP end record")
  | some endOffset =>
    raiseIf (tail.length < endOffset + 22)
      (.fetch "TensorRT wheel has no valid ZIP end record")
    let record ← unpackEnd tail endOffset
    checkEnd record tailOffset endOffset tail.length
    let payload ← readExactRange source record.centralOffset
      (record.centralOffset + record.centralSize - 1)
    let (offset, result) ← readMembers payload record.totalEntries 0 []
    raiseIf (offset ≠ payload.length) (.fetch "TensorRT wheel central directory has extra data")
    return result

end Kapsl.Ort.Zip
