import CollectionArchive.Link.Kinds
import CollectionArchive.Node
import CollectionArchive.Registry.Error
import CollectionArchive.Value.Input

/-!
# Assignments

What a caller assigns to a property of a node is cast as the schema of the collection declares. A
node that has a value for the property keeps it.

* `Assignment.selector`, `Assignment.leaf`: casting for links and for other properties.
* `Assignment.assign`: one assignment to a node.
* `Assignment.assignAll`: several, up to the first that fails.
-/

namespace CollectionArchive

open Json (Value)

/-- The values in JSON that are assigned to a link: those of an array, or one. -/
def Input.items : Input → List Value
  | .typed (.selector _ values) => values.map PropertyValue.toJson
  | v =>
    match v.toJson with
    | .array items => items
    | item => [item]

namespace Assignment

/-- The selector for a link, or none if it would have no values. All values are cast to the kind to
which the link resolves. -/
def selector (kinds : LinkKinds) (link : Identifier) (v : Input) :
    Except AssignmentFault (Option PropertyValue) :=
  match v.items with
  | [] => .ok none
  | items => do
    let kind ← (kinds.get? link).elim (.error .linkTargetUnresolved) .ok
    let values ← items.mapM fun item => (Cast.value kind item).mapError (.castFailure item kind)
    match PropertyValue.selector? kind values with
    | none => .error (.misfit .mixedSelector (.kind kind))
    | some s => return some s

/-- The value for a property that is no link. A value of the property's kind is kept as it is. -/
def leaf (p : Property) (v : Input) : Except AssignmentFault PropertyValue :=
  let cast (json : Value) : Except AssignmentFault PropertyValue :=
    (Cast.forProperty p json).mapError (.castFailure json p.kind)
  match v with
  | .typed value => if value.kind? = some p.kind then .ok value else cast value.toJson
  | v => cast v.toJson

/-- The value for a property; none for a link that would have no values. -/
def value (kinds : LinkKinds) (property : Identifier) (p : Property) (v : Input) :
    Except AssignmentFault (Option PropertyValue) :=
  match p.kind.assignment with
  | .selector => selector kinds property v
  | .kind _ => some <$> leaf p v

/-- The node with a value for a property of a schema. -/
def assignIn (schema : Schema) (kinds : LinkKinds) (property : Identifier) (n : Node) (v : Input) :
    Except AssignmentFault Node := do
  let p ← (schema.find property).mapError fun _ => .propertyNotFound
  match ← value kinds property p v with
  | none => return n
  | some found =>
    if found.assignment ≠ p.kind.assignment then
      .error (.misfit (.of found.assignment) p.kind.assignment)
    else (n.insert? property found).elim (.error (.duplicateProperty n.title)) .ok

/-- The node with a value for a property of a collection. Null is no value: the node stays as it is,
unless nulls are rejected. -/
def assign (schemata : Schemata) (kinds : LinkKinds) (collection : String) (rejectNull : Bool)
    (property : Identifier) (n : Node) (v : Input) : Except RegistryError Node :=
  let refuse (fault : AssignmentFault) : RegistryError := .assignment collection property fault
  if v.isNull then if rejectNull then .error (refuse .unexpectedNull) else .ok n
  else
    match schemata.get? collection with
    | none => .error (.unknownCollection collection)
    | some schema => (assignIn schema kinds property n v).mapError refuse

/-- The node with a value for a property whose identifier is written out. -/
def assignText (schemata : Schemata) (kinds : LinkKinds) (collection : String) (rejectNull : Bool)
    (n : Node) (property : String) (v : Input) : Except RegistryError Node := do
  let i ← (Identifier.parse property).mapError .identifier
  assign schemata kinds collection rejectNull i n v

/-- Several assignments in their order, up to the first that fails. Those before it are done. -/
def assignAll (schemata : Schemata) (kinds : LinkKinds) (collection : String) (rejectNull : Bool) :
    Node → List (String × Input) → Except RegistryError Unit × Node
  | n, [] => (.ok (), n)
  | n, (property, v) :: rest =>
    match assignText schemata kinds collection rejectNull n property v with
    | .error e => (.error e, n)
    | .ok n => assignAll schemata kinds collection rejectNull n rest

end Assignment

end CollectionArchive
