import CollectionArchive.Address.Label
import CollectionArchive.Text.Utf8

/-!
# Domains

* `Domain.ascii?`: the domain of a host name in any script, written in ASCII.
-/

namespace CollectionArchive.Address.Domain

/-- The characters of ASCII that no domain has. -/
def isForbidden (c : Char) : Bool :=
  c.toNat ≤ 0x20 || c.toNat == 0x7F ||
    ['%', '#', '/', ':', '<', '>', '?', '@', '[', '\\', ']', '^', '|'].contains c

/-- The labels of a mapped and composed name. -/
def labels? (cs : List Char) : Option (List (List Char)) :=
  (cs.splitOn '.').mapM Label.ofMapped?

/-- Whether labels may stand together: if one of them runs from right to left, they all have to
follow the rules for mixed directions. -/
def isOrderly (labels : List (List Char)) : Bool :=
  !(labels.any fun cs => cs.any Label.isRightToLeft) || labels.all Label.isOrderly

/-- The domain that a name is written as in ASCII, unless it is no valid one. -/
def ascii? (cs : List Char) : Option (List Char) := do
  let mapped ← mapChars? cs
  let labels ← labels? (Text.composed mapped)
  let domain := ['.'].intercalate (labels.map Label.ascii)
  if isOrderly labels && !domain.any isForbidden then return domain else none

end CollectionArchive.Address.Domain
