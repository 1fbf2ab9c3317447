import CollectionArchive.Pack.Path
import CollectionArchive.Text.Order

/-!
# Archives

An archive holds data under paths. It takes new data until it is closed.

* `Archive`: the operations that all archives share.
* `Entry.matching`: the paths that a pattern matches.
-/

namespace CollectionArchive

/-- What holds data under paths. An operation that fails leaves the archive as it is, but for
closing. -/
class Archive (σ : Type) where
  /-- The archive with data under a path, in place of what was there. -/
  write : σ → (path : String) → Bytes → Except PackError σ
  /-- The data under a path. -/
  read : σ → (path : String) → Except PackError Bytes
  /-- Whether there is data under a path. -/
  has : σ → (path : String) → Bool
  /-- The paths that a pattern matches, in ascending order. -/
  list : σ → (pattern : String) → Except PackError (List String)
  /-- Ends writing. -/
  close : σ → Except PackError Unit × σ

namespace Entry

/-- The paths that a pattern matches, in ascending order. -/
def matching (paths : List String) (pattern : String) : Except PackError (List String) := do
  let glob ← (Glob.parse pattern).mapError (.invalidPattern pattern)
  return Text.sort (paths.filter fun p => Glob.matchesAll glob (Bytes.ofText p))

/-- The data that was found under a path. -/
def orMissing (path : String) (data : Option Bytes) : Except PackError Bytes :=
  data.elim (.error (.entryNotFound path)) .ok

end Entry

end CollectionArchive
