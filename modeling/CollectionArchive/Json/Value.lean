import CollectionArchive.Json.Number
import CollectionArchive.Table

/-!
# JSON values

An object is a list of members in ascending order of their keys, each key once.

* `Json.Value`, `Json.Object`: the values.
* `Value.equal`: equality up to the sign of a zero.
-/

namespace CollectionArchive.Json

/-- A JSON value. -/
inductive Value where
  | null
  | bool (b : Bool)
  | number (n : Number)
  | text (s : String)
  | array (items : List Value)
  | object (members : List (String × Value))

/-- The members of an object, in ascending order of their keys. -/
abbrev Object := Table String Value

namespace Value

/-- An integer. -/
def int (i : Int) : Value :=
  number (.integer i)

/-- The number of elements of something. -/
def nat (n : Nat) : Value :=
  int n

/-- A list of texts. -/
def texts (ss : List String) : Value :=
  array (ss.map text)

def isNull : Value → Bool
  | null => true
  | _ => false

def isBool : Value → Bool
  | bool _ => true
  | _ => false

def isText : Value → Bool
  | text _ => true
  | _ => false

def isObject : Value → Bool
  | object _ => true
  | _ => false

def text? : Value → Option String
  | text s => some s
  | _ => none

def array? : Value → Option (List Value)
  | array items => some items
  | _ => none

def object? : Value → Option Object
  | object members => some members
  | _ => none

mutual

/-- Equality up to the sign of a zero. -/
def equal : Value → Value → Bool
  | null, null => true
  | bool a, bool b => a == b
  | number a, number b => a.equal b
  | text a, text b => a == b
  | array a, array b => equalItems a b
  | object a, object b => equalMembers a b
  | _, _ => false

def equalItems : List Value → List Value → Bool
  | [], [] => true
  | a :: as, b :: bs => equal a b && equalItems as bs
  | _, _ => false

def equalMembers : List (String × Value) → List (String × Value) → Bool
  | [], [] => true
  | (k, a) :: as, (l, b) :: bs => k == l && equal a b && equalMembers as bs
  | _, _ => false

end

end Value

/-- Equality of objects up to the sign of a zero. -/
def Object.equal (a b : Object) : Bool :=
  Value.equalMembers a b

end CollectionArchive.Json
