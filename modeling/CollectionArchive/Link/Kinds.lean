import CollectionArchive.Link.Basic

/-!
# Kinds of links

* `LinkKinds`: the kinds to which links resolve, by the identifiers of the links.
* `LinkKinds.ofSchemata`: resolves all links of schemata, or finds the first that leads nowhere.
-/

namespace CollectionArchive

/-- The kinds to which links resolve, by the identifiers of the links. -/
abbrev LinkKinds := Table Identifier Kind

namespace LinkKinds

/-- Resolves links in their order. Of two links with one identifier the later counts. -/
def addAll (s : Schemata) : LinkKinds → List OutboundLink → Except UnresolvedLink LinkKinds
  | kinds, [] => .ok kinds
  | kinds, l :: ls => do
    let kind ← l.targetKind s
    addAll s (kinds.insert l.property kind) ls

/-- Resolves all links of schemata. -/
def ofSchemata (s : Schemata) : Except UnresolvedLink LinkKinds :=
  addAll s [] s.outboundLinks

end LinkKinds

end CollectionArchive
