import Kapsl.Ort.ZipDirectory

/-!
# Ort/ZipFormat — the archives that the parser is for

The byte layout of a ZIP archive from its members: central headers, ZIP64 records and the end
record.  `Entry` and `Archive` carry the limits of the format as fields, so that what cannot be
written cannot be stated either.

* a size or an offset of `0xFFFFFFFF` or more, and no other, stands in the ZIP64 record;
* the ZIP64 record stands anywhere among the other extra records of its member;
* nothing is asked of the bytes before the directory, nor of those between it and the end record.
-/

namespace Kapsl.Ort.Zip

/-! ## Extra records -/

/-- A record of the extra data. -/
def encodeRecord (kind : ℕ) (data : List UInt8) : List UInt8 :=
  Fields.pack extraWidths [kind, data.length] ++ data

/-- An extra record other than ZIP64. -/
structure OtherRecord where
  kind : UInt16
  data : List UInt8
  kind_ne : kind.toNat ≠ 1
  data_lt : data.length < 2 ^ 16

def OtherRecord.encode (record : OtherRecord) : List UInt8 :=
  encodeRecord record.kind.toNat record.data

/-- What stands for a value in its field of 32 bits. -/
def narrow (n : ℕ) : ℕ := min n 0xFFFFFFFF

/-- The values that do not fit their fields, in so many bytes each. -/
def zip64Data (values : List ℕ) : List UInt8 :=
  (values.filter fun n => 0xFFFFFFFF ≤ n).flatMap (Fields.spell 8)

/-- The ZIP64 record, where there is one. -/
def encodeZip64 (values : List ℕ) : List UInt8 :=
  if zip64Data values = [] then [] else encodeRecord 1 (zip64Data values)

/-- The extra data of a member. -/
def encodeExtra (before : List OtherRecord) (values : List ℕ) (after : List OtherRecord) :
    List UInt8 :=
  before.flatMap OtherRecord.encode ++ (encodeZip64 values ++ after.flatMap OtherRecord.encode)

/-! ## Members -/

/-- A member of an archive. -/
structure Entry where
  name : String
  nameBytes : List UInt8
  versionMadeBy : UInt16
  versionNeeded : UInt16
  flags : UInt16
  compression : UInt16
  time : UInt16
  date : UInt16
  crc32 : UInt32
  compressedSize : UInt64
  size : UInt64
  internalAttributes : UInt16
  externalAttributes : UInt32
  localHeaderOffset : UInt64
  extraBefore : List OtherRecord
  extraAfter : List OtherRecord
  comment : List UInt8
  decodes : decodeName flags.toNat nameBytes = some name
  unencrypted : flags.toNat &&& 1 = 0
  nameBytes_lt : nameBytes.length < 2 ^ 16
  extra_lt : (encodeExtra extraBefore
    [size.toNat, compressedSize.toNat, localHeaderOffset.toNat] extraAfter).length < 2 ^ 16
  comment_lt : comment.length < 2 ^ 16

namespace Entry

/-- The extra data of the member. -/
def extra (entry : Entry) : List UInt8 :=
  encodeExtra entry.extraBefore
    [entry.size.toNat, entry.compressedSize.toNat, entry.localHeaderOffset.toNat] entry.extraAfter

/-- The values of the member's central header. -/
def header (entry : Entry) : List ℕ :=
  [Fields.value centralSignature, entry.versionMadeBy.toNat, entry.versionNeeded.toNat,
    entry.flags.toNat, entry.compression.toNat, entry.time.toNat, entry.date.toNat,
    entry.crc32.toNat, narrow entry.compressedSize.toNat, narrow entry.size.toNat,
    entry.nameBytes.length, entry.extra.length, entry.comment.length, 0,
    entry.internalAttributes.toNat, entry.externalAttributes.toNat,
    narrow entry.localHeaderOffset.toNat]

/-- The member in the central directory. -/
def encode (entry : Entry) : List UInt8 :=
  Fields.pack centralWidths entry.header ++ (entry.nameBytes ++ (entry.extra ++ entry.comment))

/-- What the parser is to return of the member. -/
def member (entry : Entry) : ZipMember where
  name := entry.name
  flags := entry.flags.toNat
  compression := entry.compression.toNat
  crc32 := entry.crc32.toNat
  compressedSize := entry.compressedSize.toNat
  size := entry.size.toNat
  localHeaderOffset := entry.localHeaderOffset.toNat

end Entry

/-! ## Archives -/

/-- The end record, with the comment of the archive. -/
def encodeEnd (count centralSize centralOffset : ℕ) (comment : List UInt8) : List UInt8 :=
  Fields.pack endWidths [Fields.value endSignature, 0, 0, count, count, centralSize,
    centralOffset, comment.length] ++ comment

/-- The central directory of some members. -/
def encodeCentral (entries : List Entry) : List UInt8 := entries.flatMap Entry.encode

/-- An archive on one disk. -/
structure Archive where
  body : List UInt8
  entries : List Entry
  gap : List UInt8
  comment : List UInt8
  entries_ne : entries ≠ []
  entries_lt : entries.length < 0xFFFF
  names_nodup : (entries.map Entry.name).Nodup
  body_lt : body.length < 0xFFFFFFFF
  central_le : (encodeCentral entries).length ≤ maxCentralDirectoryBytes
  comment_lt : comment.length < 2 ^ 16
  /-- The signature of the end record does not occur again after its start. -/
  signature_last : ¬endSignature <:+:
    (encodeEnd entries.length (encodeCentral entries).length body.length comment).tail

namespace Archive

/-- The end record of the archive. -/
def endRecord (archive : Archive) : List UInt8 :=
  encodeEnd archive.entries.length (encodeCentral archive.entries).length archive.body.length
    archive.comment

def encode (archive : Archive) : List UInt8 :=
  archive.body ++ (encodeCentral archive.entries ++ (archive.gap ++ archive.endRecord))

/-- What the parser is to return of the archive. -/
def members (archive : Archive) : Members :=
  archive.entries.map fun entry => (entry.name, entry.member)

end Archive

end Kapsl.Ort.Zip
