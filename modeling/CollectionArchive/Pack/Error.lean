import CollectionArchive.Glob.Reading
import CollectionArchive.Text.Quoted

/-!
# Errors of archives

* `PackError`: why an operation on an archive fails.
* `Corruption`: what is wrong with the bytes of a pack.
-/

namespace CollectionArchive

/-- What is wrong with the bytes of a pack. -/
inductive Corruption where
  | tooShort
  | varintOverflow
  | varintTruncated
  | pathBeyondEnd
  | pathNotText
  | crcTruncated
  | dataBeyondEnd
  | duplicatePath
  | trailingBytes
  | sizeMismatch (expected found : Nat)
deriving DecidableEq

/-- The wording of a corruption. -/
def Corruption.message : Corruption → String
  | tooShort => "pack data too short"
  | varintOverflow => "varint overflow"
  | varintTruncated => "truncated varint"
  | pathBeyondEnd => "path extends beyond pack"
  | pathNotText => "path is not UTF-8"
  | crcTruncated => "truncated CRC"
  | dataBeyondEnd => "compressed data extends beyond pack"
  | duplicatePath => "duplicate entry path"
  | trailingBytes => "trailing bytes after last entry"
  | sizeMismatch expected found => s!"size mismatch: expected {expected}, got {found}"

/-- Why an operation on an archive fails. -/
inductive PackError where
  | invalidMagic (found : Bytes)
  | unsupportedVersion (version : Nat)
  | checksumMismatch
  | corruptEntry (offset : Nat) (reason : Corruption)
  | crcMismatch (path : String)
  | entryNotFound (path : String)
  | invalidPath (path : String)
  | invalidPattern (pattern : String) (fault : Glob.Fault)
  | closed
  | decompressionFailed
  | compressionFailed
  /-- A file cannot be read or written. -/
  | unreadable
deriving DecidableEq

namespace PackError

/-- The four bytes that a pack starts with. -/
def magic : String := "KBNP"

/-- The wording of an error. -/
def message : PackError → String
  | invalidMagic found =>
    "invalid pack magic: expected " ++ magic ++ ", got " ++ Bytes.textLossy found
  | unsupportedVersion version => s!"unsupported pack version: {version}"
  | checksumMismatch => "pack checksum mismatch"
  | corruptEntry offset reason => s!"corrupt pack entry at offset {offset}: " ++ reason.message
  | crcMismatch path => "CRC32 mismatch for entry " ++ path
  | entryNotFound path => "entry not found in archive: " ++ path
  | invalidPath path => "invalid entry path " ++ Text.quoted path
  | invalidPattern pattern fault =>
    "invalid entry pattern: error parsing glob '" ++ pattern ++ "': " ++ fault.message
  | closed => "archive is closed"
  | decompressionFailed => "decompression failed"
  | compressionFailed => "compression failed"
  | unreadable => "I/O error"

end PackError

end CollectionArchive
