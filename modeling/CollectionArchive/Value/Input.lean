import CollectionArchive.Value.Basic

/-!
# Inputs to assignments

* `Input`: what a caller may assign to a property.
* `Input.ofJson`, `Input.ofFloat`: inputs from JSON and from numbers.
* `Input.toJson`: the JSON form, which is what is cast.
-/

namespace CollectionArchive

open Json (Value)

/-- What a caller may assign to a property. -/
inductive Input where
  | null
  | json (v : Value)
  | typed (v : PropertyValue)

namespace Input

/-- Whether nothing is assigned: null, or null in JSON. -/
def isNull : Input → Bool
  | null => true
  | json v => v.isNull
  | typed _ => false

/-- The JSON form. -/
def toJson : Input → Value
  | null => .null
  | json v => v
  | typed v => v.toJson

/-- A JSON value as input. -/
def ofJson (v : Value) : Input :=
  if v.isNull then null else json v

/-- The name of a number that JSON has no number for. -/
def floatName : (negative : Option Bool) → String
  | none => "NaN"
  | some false => "inf"
  | some true => "-inf"

/-- A number as input. One that JSON has no number for becomes its name, so that casting reports it
and does not take it for null. -/
def ofFloat : Binary64 → Input
  | .finite x => json (.number (.double x))
  | .infinite negative => json (.text (floatName (some negative)))
  | .nan => json (.text (floatName none))

end Input

end CollectionArchive
