import CollectionArchive.Link.Basic
import CollectionArchive.Pack.Error
import CollectionArchive.Value.Cast

/-!
# Errors of registries

* `RegistryError`: why a registry refuses something.
* `RegistryError.message`: its wording.
-/

namespace CollectionArchive

/-- What a value is that does not fit its property. -/
inductive MisfitValue where
  | of (found : Kind.Assignment)
  /-- A selector of values that are not all of one kind. -/
  | mixedSelector
deriving DecidableEq

/-- The name of what a value is. -/
def MisfitValue.name : MisfitValue → String
  | of found => found.name
  | mixedSelector => "mixed selector"

/-- Why a value is not assigned to a property of a collection. -/
inductive AssignmentFault where
  | propertyNotFound
  | linkTargetUnresolved
  | castFailure (value : Json.Value) (expected : Kind) (reason : CastError)
  | misfit (found : MisfitValue) (expected : Kind.Assignment)
  /-- The node of the given title has a value for the property. -/
  | duplicateProperty (title : String)
  | unexpectedNull

/-- The wording of a fault. -/
def AssignmentFault.message (collection : String) (property : Identifier) :
    AssignmentFault → String
  | propertyNotFound =>
    "property " ++ property.text ++ " not found in schema of collection " ++ Text.quoted collection
  | linkTargetUnresolved =>
    "link " ++ property.text ++ " in collection " ++ Text.quoted collection ++
      " has no resolved target; does it declare one?"
  | castFailure value expected reason =>
    "cannot cast " ++ value.compact ++ " to " ++ expected.name ++ " for property " ++
      property.text ++ " in collection " ++ Text.quoted collection ++ ": " ++ reason.message
  | misfit found expected =>
    "value for property " ++ property.text ++ " in collection " ++ Text.quoted collection ++
      " has type " ++ found.name ++ ", expected " ++ expected.name
  | duplicateProperty title =>
    "property " ++ property.text ++ " is already set on node " ++ Text.quoted title ++
      " in collection " ++ Text.quoted collection
  | unexpectedNull =>
    "null value for property " ++ property.text ++ " in collection " ++ Text.quoted collection ++
      " while nulls are rejected"

/-- Why a registry refuses something. -/
inductive RegistryError where
  | unresolvedLink (e : UnresolvedLink)
  /-- The schemata have not been checked yet. -/
  | notReady
  | unknownCollection (name : String)
  | assignment (collection : String) (property : Identifier) (fault : AssignmentFault)
  | alreadyFinalized
  /-- The name is taken by a collection with another schema. -/
  | duplicateCollection (name : String)
  | identifier (e : Identifier.Invalid)
  | archive (e : PackError)
  /-- A temporary file cannot be used, as the system tells. -/
  | io (reason : String)
  /-- Something cannot be written as JSON. -/
  | serialization (reason : String)

/-- The wording of an error. -/
def RegistryError.message : RegistryError → String
  | unresolvedLink e => e.message
  | notReady => "schemata are not checked; call check_schemata after registering all schemata"
  | unknownCollection name => "unknown collection: " ++ Text.quoted name
  | assignment collection property fault => fault.message collection property
  | alreadyFinalized => "confector is finalized already"
  | duplicateCollection name =>
    "collection " ++ Text.quoted name ++ " is already registered with a different schema"
  | identifier e => e.message
  | archive e => "archive error: " ++ e.message
  | io reason => "I/O error: " ++ reason
  | serialization reason => "serialization error: " ++ reason

end CollectionArchive
