import CollectionArchive.Address.Reading
import CollectionArchive.Instant.Basic
import CollectionArchive.Json.Writer
import CollectionArchive.Schema.Kind

/-!
# Values of properties

* `PropertyValue`: the values, each of one kind but for selectors, which are the values of links.
* `PropertyValue.selector?`: a selector of one or more values of the kind of its link's target.
* `PropertyValue.toJson`: the JSON form that an archive holds.
* `PropertyValue.chars`: the text of that form, written without building it.
* `PropertyValue.equal`: equality up to the sign of zeros; what is no number equals nothing.
-/

namespace CollectionArchive

open Json (Value)

/-- The integers of 64 bits. -/
abbrev Integer := { i : Int // -0x8000000000000000 ≤ i ∧ i < 0x8000000000000000 }

/-- An integer, if it fits 64 bits. -/
def Integer.ofInt? (i : Int) : Option Integer :=
  if h : -0x8000000000000000 ≤ i ∧ i < 0x8000000000000000 then some ⟨i, h⟩ else none

/-- The value of a property. -/
inductive PropertyValue where
  | integer (i : Integer)
  | float (x : Binary64)
  | string (s : String)
  | boolean (b : Bool)
  | enumeration (s : String)
  | date (d : Instant)
  /-- Values of one kind, that of the property to which a link leads. -/
  | selector (kind : Kind) (values : List PropertyValue)
  | list (items : List PropertyValue)
  | featureList (flags : List Bool)
  | url (a : Address)
  | textArea (s : String)
  | tags (names : List String)
  | hierarchies (paths : List (List String))
  | location (o : Json.Object)

namespace PropertyValue

/-- The kind of a value; none for a selector. -/
def kind? : PropertyValue → Option Kind
  | integer _ => some .integer
  | float _ => some .float
  | string _ => some .string
  | boolean _ => some .boolean
  | enumeration _ => some .enumeration
  | date _ => some .date
  | selector _ _ => none
  | list _ => some .list
  | featureList _ => some .featureList
  | url _ => some .url
  | textArea _ => some .textArea
  | tags _ => some .tags
  | hierarchies _ => some .hierarchies
  | location _ => some .location

/-- What kind of property may hold the value. -/
def assignment (v : PropertyValue) : Kind.Assignment :=
  v.kind?.elim .selector .kind

/-- A selector of values, if there are any and all are of the kind. -/
def selector? (kind : Kind) (values : List PropertyValue) : Option PropertyValue :=
  if !values.isEmpty && values.all fun v => v.kind? == some kind then some (selector kind values)
  else none

/-! ## JSON -/

/-- A number in JSON; null for what JSON has no number for. -/
def floatJson (x : Binary64) : Value :=
  (x.finite?.map fun x => Value.number (.double x)).getD .null

/-- An element of a selector in JSON. -/
def elementJson (kind : Kind) (value : Value) : Value :=
  .object [("type", .text kind.name), ("value", value)]

mutual

/-- The JSON form of a value. -/
def toJson : PropertyValue → Value
  | integer i => .int i
  | float x => floatJson x
  | string s => .text s
  | boolean b => .bool b
  | enumeration s => .text s
  | date d => .int d.seconds
  | selector kind values => .array (elementsJson kind values)
  | list items => .array (itemsJson items)
  | featureList flags => .array (flags.map .bool)
  | url a => .text a.text
  | textArea s => .text s
  | tags names => .texts names
  | hierarchies paths => .array (paths.map .texts)
  | location o => .object o

def itemsJson : List PropertyValue → List Value
  | [] => []
  | v :: vs => toJson v :: itemsJson vs

def elementsJson (kind : Kind) : List PropertyValue → List Value
  | [] => []
  | v :: vs => elementJson kind (toJson v) :: elementsJson kind vs

end

/-! ## Text -/

/-- The text of a number. -/
def floatChars : Binary64 → List Char
  | .finite x => Json.Number.layout.chars x
  | _ => Value.null.chars

/-- The text of a list of texts. -/
def textsChars (ss : List String) : List Char :=
  Json.bracketed (ss.map Json.quotedChars)

mutual

/-- The text of the JSON form. -/
def chars : PropertyValue → List Char
  | integer i => Decimal.intChars i
  | float x => floatChars x
  | string s => Json.quotedChars s
  | boolean b => Json.boolChars b
  | enumeration s => Json.quotedChars s
  | date d => Decimal.intChars d.seconds
  | selector kind values => Json.bracketed (elementsChars kind values)
  | list items => Json.bracketed (itemsChars items)
  | featureList flags => Json.bracketed (flags.map Json.boolChars)
  | url a => Json.quotedChars a.text
  | textArea s => Json.quotedChars s
  | tags names => textsChars names
  | hierarchies paths => Json.bracketed (paths.map textsChars)
  | location o => (Value.object o).chars

def itemsChars : List PropertyValue → List (List Char)
  | [] => []
  | v :: vs => chars v :: itemsChars vs

def elementsChars (kind : Kind) : List PropertyValue → List (List Char)
  | [] => []
  | v :: vs =>
    Json.braced [("type", Json.quotedChars kind.name), ("value", chars v)] :: elementsChars kind vs

end

/-! ## Equality -/

mutual

/-- Equality up to the sign of zeros; what is no number equals nothing. -/
def equal : PropertyValue → PropertyValue → Bool
  | integer i, integer j => i == j
  | float x, float y => x.equal y
  | string s, string t => s == t
  | boolean b, boolean c => b == c
  | enumeration s, enumeration t => s == t
  | date d, date e => d == e
  | selector k vs, selector l ws => k == l && equalItems vs ws
  | list vs, list ws => equalItems vs ws
  | featureList bs, featureList cs => bs == cs
  | url a, url b => a == b
  | textArea s, textArea t => s == t
  | tags ss, tags ts => ss == ts
  | hierarchies ps, hierarchies qs => ps == qs
  | location o, location p => Json.Object.equal o p
  | _, _ => false

def equalItems : List PropertyValue → List PropertyValue → Bool
  | [], [] => true
  | v :: vs, w :: ws => equal v w && equalItems vs ws
  | _, _ => false

end

end PropertyValue

end CollectionArchive
