import CollectionArchive.Json.Value
import CollectionArchive.Schema.Kind

/-!
# Shapes of config values

* `Shape`: what a value of a config may have to look like.
* `Shape.accepts`: whether a value does.
* `Shape.description`: the shape in messages.
-/

namespace CollectionArchive

open Json (Value)

/-- What the value of a parameter has to look like. -/
inductive Shape where
  | string
  | bool
  | stringList
  /-- A list whose elements are strings or null. -/
  | optionalStringList
  | dateFormat
  /-- An object with a collection and a property to which a link leads. -/
  | linkTarget
  | kindName
  | object
deriving DecidableEq

namespace Shape

/-- The ways in which dates may be shown. -/
def dateFormats : List String :=
  ["MonthSlashYear", "DayDotMonthDotYear", "Year"]

/-- All shapes. -/
def all : List Shape :=
  [string, bool, stringList, optionalStringList, dateFormat, linkTarget, kindName, object]

/-- Whether a member of an object is there and is a text. -/
def hasText (o : Json.Object) (key : String) : Bool :=
  (o.get? key).any Value.isText

/-- Whether a value has the shape. -/
def accepts : Shape → Value → Bool
  | string, v => v.isText
  | bool, v => v.isBool
  | stringList, v => v.array?.any fun items => items.all Value.isText
  | optionalStringList, v => v.array?.any fun items => items.all fun i => i.isText || i.isNull
  | dateFormat, v => v.text?.any dateFormats.contains
  | linkTarget, v => v.object?.any fun o => hasText o "target_tag" && hasText o "target_ident"
  | kindName, v => v.text?.any fun s => (Kind.ofName? s).isSome
  | object, v => v.isObject

/-- The shape in messages. -/
def description : Shape → String
  | string => "string"
  | bool => "boolean"
  | stringList => "list of strings"
  | optionalStringList => "list of strings or nulls"
  | dateFormat => "one of " ++ ", ".intercalate dateFormats
  | linkTarget => "object with string target_tag and target_ident"
  | kindName => "value kind name"
  | object => "object"

end Shape

end CollectionArchive
