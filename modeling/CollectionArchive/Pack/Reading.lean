import CollectionArchive.Pack.Codec
import CollectionArchive.Pack.Varint

/-!
# Reading packs

A pack is checked as a whole when it is opened, and each entry when its data is read.

* `Pack`: the entries of a pack as they are stored, and its hash.
* `Pack.decode`: opens a pack.
* `Pack.read`: the data under a path.
-/

namespace CollectionArchive

/-- An entry as it lies in a pack. -/
structure StoredEntry where
  /-- Where the entry starts in the pack. -/
  offset : Nat
  path : String
  /-- The number of bytes of the data. -/
  size : Nat
  /-- The check value of what is stored. -/
  crc : Nat
  stored : Bytes

/-- A pack that has been opened. -/
structure Pack where
  entries : List StoredEntry
  checksum : Bytes

namespace Pack

/-- The number of bytes before the first entry. -/
def headerSize : Nat := 12

/-- The number of bytes after the last entry. -/
def checksumSize : Nat := 32

/-! ## Fields -/

/-- A number of variable length. Where it stands is not told. -/
def takeNumber (bs : Bytes) : Except PackError (Nat × Bytes) :=
  (Varint.decode bs).mapError (.corruptEntry 0)

/-- So many bytes, if there are as many. -/
def takeBytes (offset : Nat) (missing : Corruption) (count : Nat) (bs : Bytes) :
    Except PackError (Bytes × Bytes) :=
  if count ≤ bs.length then .ok (bs.splitAt count) else .error (.corruptEntry offset missing)

/-- The path that bytes write. -/
def pathOf (offset : Nat) (bs : Bytes) : Except PackError String :=
  (Bytes.text? bs).elim (.error (.corruptEntry offset .pathNotText)) .ok

/-- The entry that bytes start with, and the bytes after it. -/
def takeEntry (offset : Nat) (bs : Bytes) : Except PackError (StoredEntry × Bytes) := do
  let (pathSize, bs) ← takeNumber bs
  let (pathBytes, bs) ← takeBytes offset .pathBeyondEnd pathSize bs
  let path ← pathOf offset pathBytes
  let (size, bs) ← takeNumber bs
  let (storedSize, bs) ← takeNumber bs
  let (crc, bs) ← takeBytes offset .crcTruncated 4 bs
  let (stored, bs) ← takeBytes offset .dataBeyondEnd storedSize bs
  return (⟨offset, path, size, Bytes.toNat crc, stored⟩, bs)

/-- So many entries, where the bytes end at `ending`. Those before them are given, the last one
first; no two entries have one path. -/
def takeEntries (ending : Nat) : (count : Nat) → (before : List StoredEntry) → Bytes →
    Except PackError (List StoredEntry)
  | 0, before, [] => .ok before.reverse
  | 0, _, b :: bs => .error (.corruptEntry (ending - (b :: bs).length) .trailingBytes)
  | count + 1, before, bs => do
    let (e, rest) ← takeEntry (ending - bs.length) bs
    if before.any fun f => f.path == e.path then .error (.corruptEntry e.offset .duplicatePath)
    else takeEntries ending count (e :: before) rest

/-! ## Packs -/

/-- The four bytes at a place, as a number. -/
def word (bs : Bytes) (start : Nat) : Nat :=
  Bytes.toNat ((bs.drop start).take 4)

variable [Codec]

/-- Opens a pack. It is checked for its length, its name, its version, its hash and its entries, in
this order. -/
def decode (bs : Bytes) : Except PackError Pack :=
  if bs.length < headerSize + checksumSize then .error (.corruptEntry 0 .tooShort)
  else if bs.take 4 ≠ Bytes.ofText PackError.magic then .error (.invalidMagic (bs.take 4))
  else if word bs 4 ≠ 1 then .error (.unsupportedVersion (word bs 4))
  else
    let (body, checksum) := bs.splitAt (bs.length - checksumSize)
    if (Codec.hash body).val ≠ checksum then .error .checksumMismatch
    else do
      let entries ← takeEntries body.length (word bs 8) [] (body.drop headerSize)
      return ⟨entries, checksum⟩

/-- The paths in the order of the pack. -/
def paths (p : Pack) : List String :=
  p.entries.map StoredEntry.path

/-- The entry of a path. -/
def find? (p : Pack) (path : String) : Option StoredEntry :=
  p.entries.find? fun e => e.path == path

/-- Whether there is an entry of a path. -/
def has (p : Pack) (path : String) : Bool :=
  (p.find? path).isSome

/-- The data of an entry, if what is stored is intact. -/
def dataOf (e : StoredEntry) : Except PackError Bytes :=
  if (Codec.crc e.stored).toNat ≠ e.crc then .error (.crcMismatch e.path)
  else
    match Codec.decompress? e.stored with
    | none => .error .decompressionFailed
    | some data =>
      if data.length ≠ e.size then
        .error (.corruptEntry e.offset (.sizeMismatch e.size data.length))
      else .ok data

/-- The data under a path, if there is any. -/
def read (p : Pack) (path : String) : Except PackError (Option Bytes) :=
  match p.find? path with
  | none => .ok none
  | some e => some <$> dataOf e

end Pack

end CollectionArchive
