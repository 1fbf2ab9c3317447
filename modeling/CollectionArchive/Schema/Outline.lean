import CollectionArchive.Schema.Property

/-!
# Outlines of properties

* `Property.outline`: a property and those in it, a line each, indented by a tab a level.
-/

namespace CollectionArchive.Property

/-- The line of a property: its title, its kind and where it leads. -/
def outlineLine (depth : Nat) (p : Property) : String :=
  let target := (p.linkTarget?.map fun t => " -> " ++ t.tag).getD ""
  String.ofList (List.replicate depth '\t') ++ "◦ " ++ p.title ++ "   [ " ++ p.kind.name ++
    target ++ " ]\n"

mutual

/-- The lines of a property at a depth. -/
def outlineAt (depth : Nat) : Property → String
  | leaf t i k c h => outlineLine depth (leaf t i k c h)
  | box t c h cs => outlineLine depth (box t c h cs) ++ outlineOf (depth + 1) cs

def outlineOf (depth : Nat) : List Property → String
  | [] => ""
  | p :: ps => outlineAt depth p ++ outlineOf depth ps

end

/-- A property and those in it, a line each. -/
def outline (p : Property) : String :=
  outlineAt 0 p

end CollectionArchive.Property
