import CollectionArchive.Identifier.Basic
import CollectionArchive.Json.Reader
import CollectionArchive.Json.Writer
import CollectionArchive.Schema.Shape

/-!
# Errors of schemata

* `SchemaError`: what is wrong with a schema or with a question to one.
* `SchemaError.message`: its wording.
-/

namespace CollectionArchive

/-- Why the identifier of a definition does not fit its kind. -/
inductive IdentifierFault where
  | onBox
  | missing (kind : Kind)
deriving DecidableEq

/-- The wording of the fault. -/
def IdentifierFault.message : IdentifierFault → String
  | onBox => "a box must not carry an identifier"
  | missing kind => kind.name ++ " property requires an identifier"

/-- What is wrong with the structure of a definition. -/
inductive DefinitionFault where
  | twoKinds
  | noKind
  /-- A name that is no box is given as the type. -/
  | typeOfLeaf (name : String)
  /-- A box is given as the type of a leaf. -/
  | leafTypeOfBox (name : String)
  | boxWithoutChildren
  | rootNotBox
deriving DecidableEq

/-- The wording of the fault. -/
def DefinitionFault.message : DefinitionFault → String
  | twoKinds => "both 'type' and 'prop_type' are set"
  | noKind => "one of 'type' or 'prop_type' is required"
  | typeOfLeaf name =>
    "'type' is reserved for " ++ Kind.box.name ++ ", declare " ++ name ++ " with 'prop_type'"
  | leafTypeOfBox name => name ++ " must be declared with 'type'"
  | boxWithoutChildren => "a box needs a list of child properties as its value"
  | rootNotBox => "schema roots must be boxes"

/-- What is wrong with a schema, or with a question to one. -/
inductive SchemaError where
  | unknownKind (name : String)
  | missingParameter (property parameter : String)
  | invalidParameter (property parameter : String) (found : Json.Value) (expected : Shape)
  | identifierRule (property : String) (fault : IdentifierFault)
  | propertyNotFound (ident : Identifier)
  | invalidDefinition (property : String) (fault : DefinitionFault)
  | duplicateIdentifier (ident : Identifier) (first second : String)
  | identifier (e : Identifier.Invalid)
  | json (fault : Json.Fault)

namespace SchemaError

/-- The wording of an error. A fault of the JSON text is only named. -/
def message : SchemaError → String
  | unknownKind name => "unknown value kind: " ++ name
  | missingParameter property parameter =>
    "config of property " ++ Text.quoted property ++ " is missing parameter " ++
      Text.quoted parameter
  | invalidParameter property parameter found expected =>
    "config of property " ++ Text.quoted property ++ " has invalid parameter " ++
      Text.quoted parameter ++ ": found " ++ found.compact ++ ", expected " ++ expected.description
  | identifierRule property fault => "property " ++ Text.quoted property ++ ": " ++ fault.message
  | propertyNotFound ident => "property not found in schema: " ++ ident.text
  | invalidDefinition property fault =>
    "invalid definition of property " ++ Text.quoted property ++ ": " ++ fault.message
  | duplicateIdentifier ident first second =>
    "identifier " ++ ident.text ++ " is used by more than one property (" ++ Text.quoted first ++
      ", " ++ Text.quoted second ++ ")"
  | identifier e => e.message
  | json _ => "JSON error"

end SchemaError

end CollectionArchive
