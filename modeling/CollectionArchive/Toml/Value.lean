import CollectionArchive.Json.Value

/-!
# TOML values

* `Toml.Value`: the values, with what may still be added to each table.
* `Toml.Value.toJson`: a value in JSON.
-/

namespace CollectionArchive.Toml

/-- How a table has come into being, which tells what may be added to it. -/
inductive TableOrigin where
  /-- By a header of its own. -/
  | header
  /-- As a part of the header of another table. -/
  | implied
  /-- By a key with dots. -/
  | dotted
  /-- Between braces, after which it is complete. -/
  | inline
deriving DecidableEq

/-- A TOML value. -/
inductive Value where
  | text (s : String)
  | integer (i : Int)
  | float (x : Binary64)
  | boolean (b : Bool)
  /-- A date, a time or both, in its normal form. -/
  | moment (text : String)
  | array (items : List Value)
  | table (origin : TableOrigin) (members : List (String × Value))
  /-- Tables that each have a header of their own. -/
  | tables (elements : List (List (String × Value)))

/-- The members of a table. -/
abbrev Members := Table String Value

namespace Value

def text? : Value → Option String
  | text s => some s
  | _ => none

def boolean? : Value → Option Bool
  | boolean b => some b
  | _ => none

/-- The key under which dates and times stand in JSON. -/
def momentKey : String := "$__toml_private_datetime"

/-- A number in JSON; null for what JSON has no number for. -/
def floatJson (x : Binary64) : Json.Value :=
  (x.finite?.map fun x => Json.Value.number (.double x)).getD .null

mutual

/-- A value in JSON. -/
def toJson : Value → Json.Value
  | text s => .text s
  | integer i => .int i
  | float x => floatJson x
  | boolean b => .bool b
  | moment s => .object [(momentKey, .text s)]
  | array items => .array (itemsJson items)
  | table _ members => .object (membersJson members)
  | tables elements => .array (elementsJson elements)

def itemsJson : List Value → List Json.Value
  | [] => []
  | v :: vs => toJson v :: itemsJson vs

def membersJson : List (String × Value) → List (String × Json.Value)
  | [] => []
  | (k, v) :: ms => (k, toJson v) :: membersJson ms

def elementsJson : List (List (String × Value)) → List Json.Value
  | [] => []
  | ms :: rest => .object (membersJson ms) :: elementsJson rest

end

end Value

end CollectionArchive.Toml
