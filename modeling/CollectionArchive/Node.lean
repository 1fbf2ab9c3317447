import CollectionArchive.Identifier.Basic
import CollectionArchive.Value.Basic

/-!
# Nodes

A node is one record of a collection: a title, the addresses of its cover images, and values under
the identifiers of properties.

* `Node`: the type; `Node.ofTitle` has no values yet.
* `Node.insert?`: a value for a property that has none.
* `Node.chars`: the text that an archive holds.
-/

namespace CollectionArchive

/-- A record of a collection. -/
structure Node where
  title : String
  coverImages : List String
  properties : Table Identifier PropertyValue
  ascending : Table.Ascending properties

namespace Node

/-- The node of a title and cover images, without values. -/
def ofTitle (title : String) (coverImages : List String) : Node :=
  ⟨title, coverImages, [], .nil⟩

/-- The value of a property. -/
def get? (n : Node) (i : Identifier) : Option PropertyValue :=
  n.properties.get? i

/-- Whether a property has a value. -/
def has (n : Node) (i : Identifier) : Bool :=
  n.properties.has i

/-- The node with a value for a property. A value that is there already is never replaced. -/
def insert? (n : Node) (i : Identifier) (v : PropertyValue) : Option Node :=
  if n.has i then none
  else some
    { n with
      properties := n.properties.insert i v
      ascending := Table.ascending_insert n.ascending i v }

/-- The text of a node: its title, its cover images, and its values by identifier. -/
def chars (n : Node) : List Char :=
  Json.braced
    (("title", Json.quotedChars n.title) ::
      ("coverImages", PropertyValue.textsChars n.coverImages) ::
      n.properties.map fun e => (e.1.text, e.2.chars))

/-- The text of a node. -/
def json (n : Node) : String :=
  String.ofList n.chars

end Node

end CollectionArchive
