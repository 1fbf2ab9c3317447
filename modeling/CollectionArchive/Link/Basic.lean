import CollectionArchive.Schema.Basic

/-!
# Links between collections

A link is a property whose values refer to nodes of another collection, or of the same one. It
declares the collection and the property of it that is referred to, or the title.

* `OutboundLink`, `outboundLinks`: the links that schemata declare.
* `linkGraph`: the collections to which each collection leads.
* `OutboundLink.targetKind`: the kind of what is referred to.
* `UnresolvedLink`: a link that leads nowhere.
-/

namespace CollectionArchive

/-- The schemata of collections, by name. -/
abbrev Schemata := Table String Schema

/-- A link that the schema of a collection declares. -/
structure OutboundLink where
  source : String
  property : Identifier
  target : LinkTarget
deriving DecidableEq

/-- The link that a property declares. -/
def OutboundLink.ofProperty? (source : String) (p : Property) : Option OutboundLink := do
  let property ← p.ident?
  let target ← p.linkTarget?
  return ⟨source, property, target⟩

/-- The links that a schema declares, in the order of its leaves. -/
def Schema.outboundLinks (source : String) (s : Schema) : List OutboundLink :=
  s.main.walk.toList.filterMap (OutboundLink.ofProperty? source)

namespace Schemata

/-- The links of all schemata, in the order of the collections. -/
def outboundLinks (s : Schemata) : List OutboundLink :=
  s.flatMap fun (source, schema) => schema.outboundLinks source

/-- The collections to which a collection leads, once for each of its links; no entry for those
without links. -/
def linkGraph (s : Schemata) : Table String (List String) :=
  s.filterMap fun (source, schema) =>
    let targets := (schema.outboundLinks source).map fun l => l.target.tag
    if targets.isEmpty then none else some (source, targets)

end Schemata

/-! ## Resolution -/

/-- Why a link leads nowhere. -/
inductive LinkFault where
  | unknownCollection
  | unknownProperty
  /-- There are no single values of the kind to refer to. -/
  | unselectable (kind : Kind)
deriving DecidableEq

/-- A link that leads nowhere, and why. -/
structure UnresolvedLink where
  link : OutboundLink
  fault : LinkFault
deriving DecidableEq

/-- The wording of the error. -/
def UnresolvedLink.message (e : UnresolvedLink) : String :=
  let tag := Text.quoted e.link.target.tag
  let ident := Text.quoted e.link.target.ident
  "link " ++ e.link.property.text ++ " in collection " ++ Text.quoted e.link.source ++
    " targets " ++
    match e.fault with
    | .unknownCollection => "unregistered collection " ++ tag
    | .unknownProperty => "unknown property " ++ ident ++ " of collection " ++ tag
    | .unselectable kind =>
      "property " ++ ident ++ " of collection " ++ tag ++ ", whose kind " ++ kind.name ++
        " cannot be selected"

/-- The kind of a property of a schema to which links may lead; a title is a string. -/
def Schema.targetKind (s : Schema) (t : LinkTarget) : Except LinkFault Kind :=
  if t.isTitle then .ok .string
  else
    match s.findText t.ident with
    | .error _ => .error .unknownProperty
    | .ok p => if p.kind.isSelectable then .ok p.kind else .error (.unselectable p.kind)

/-- The kind of what a link refers to. -/
def OutboundLink.targetKind (s : Schemata) (l : OutboundLink) : Except UnresolvedLink Kind :=
  ((s.get? l.target.tag).elim (.error .unknownCollection) fun schema =>
    schema.targetKind l.target).mapError fun fault => ⟨l, fault⟩

end CollectionArchive
