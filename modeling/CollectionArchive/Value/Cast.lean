import CollectionArchive.Decimal.Reading
import CollectionArchive.Instant.Reading
import CollectionArchive.Schema.Property
import CollectionArchive.Value.Basic

/-!
# Casting

JSON is cast to the kind that a property declares. Each kind has its own rule.

* `Cast.value`: casts to a kind that stands alone.
* `Cast.list`: casts an array to a list of elements of one kind.
* `Cast.forProperty`: casts to the kind of a property, and to the kind that its config declares for
  the elements of a list.
* `CastError`: why a value cannot be cast.
-/

namespace CollectionArchive

open Binary64 (Finite)
open Json (Number Value)

/-- What a cast expects to find. -/
inductive Expectation where
  | integer
  | number
  | string
  | enumeration
  | boolean
  | timestamp
  | url
  | object
  | array
  | strings
  | booleans
  | paths
deriving DecidableEq

/-- The wording of an expectation. -/
def Expectation.description : Expectation → String
  | integer => "an integer"
  | number => "a number"
  | string => "a string"
  | enumeration => "an enum variant"
  | boolean => "a boolean"
  | timestamp => "a timestamp"
  | url => "a URL string"
  | object => "an object"
  | array => "an array"
  | strings => "an array of strings"
  | booleans => "an array of booleans"
  | paths => "an array of paths"

/-- What kind of JSON a value is, in messages. -/
def Json.Value.description : Value → String
  | .null => "null"
  | .bool _ => "a boolean"
  | .number _ => "a number"
  | .text _ => "a string"
  | .array _ => "an array"
  | .object _ => "an object"

/-- Why a value of the right kind of JSON cannot be cast. -/
inductive CastFlaw where
  | noIntegerInRange (n : Number)
  | noInteger (s : String)
  | noFloat (n : Number)
  | noFiniteNumber (s : String)
  | neitherZeroNorOne (n : Number)
  | noBoolean (s : String)
  | dateOutOfRange (n : Number)
  | noDate (s : String) (fault : Instant.Fault)
  | noUrl (s : String) (fault : Address.Fault)
  /-- Lists do not have elements of this kind. -/
  | elementKind (k : Kind)
deriving DecidableEq

/-- The wording of a flaw. -/
def CastFlaw.message : CastFlaw → String
  | noIntegerInRange n => n.text ++ " is not an integer in range"
  | noInteger s => Text.quoted s ++ " is not an integer"
  | noFloat n => n.text ++ " is not representable as float"
  | noFiniteNumber s => Text.quoted s ++ " is not a finite number"
  | neitherZeroNorOne n => n.text ++ " is neither 0 nor 1"
  | noBoolean s => Text.quoted s ++ " is not a boolean"
  | dateOutOfRange n => n.text ++ " is out of range for a date"
  | noDate s fault => Text.quoted s ++ " is not an RFC 3339 date: " ++ fault.message
  | noUrl s fault => Text.quoted s ++ " is not a URL: " ++ fault.message
  | elementKind k => k.name ++ " cannot be a list element kind"

/-- Why a value cannot be cast. -/
inductive CastError where
  /-- The value is another kind of JSON. -/
  | mismatch (expected : Expectation) (found : String)
  | invalid (flaw : CastFlaw)
  /-- Properties of the kind hold no value. -/
  | notAssignable (k : Kind)
  /-- The kind of the elements of a list is not known. -/
  | missingSubtype
deriving DecidableEq

/-- The wording of an error. -/
def CastError.message : CastError → String
  | mismatch expected found => "expected " ++ expected.description ++ ", found " ++ found
  | invalid flaw => flaw.message
  | notAssignable k => k.name ++ " values are never assigned directly"
  | missingSubtype => "list property has no valid subtype"

namespace Cast

/-- What there is, or a flaw in its place. -/
def orFlaw {α : Type} (flaw : CastFlaw) (x : Option α) : Except CastError α :=
  x.elim (.error (.invalid flaw)) .ok

/-- The error of a value that is another kind of JSON. -/
def mismatch {α : Type} (expected : Expectation) (found : Value) : Except CastError α :=
  .error (.mismatch expected found.description)

/-! ## Single values -/

/-- The integer of 64 bits that a number is. -/
def integerOf? : Number → Option Integer
  | .integer i => Integer.ofInt? i
  | .double x => if x.isWhole then Integer.ofInt? x.truncate else none

/-- An integer: a number without fraction, or a text of one. -/
def integer : Value → Except CastError Integer
  | .number n => orFlaw (.noIntegerInRange n) (integerOf? n)
  | .text s =>
    orFlaw (.noInteger s) (Decimal.readInt? (Text.trim s).toList >>= Integer.ofInt?)
  | v => mismatch .integer v

/-- A finite number, or a text of one. -/
def float : Value → Except CastError Finite
  | .number n => orFlaw (.noFloat n) n.toDouble?
  | .text s => orFlaw (.noFiniteNumber s) (Decimal.readFinite? (Text.trim s).toList)
  | v => mismatch .number v

/-- A text; numbers and truth values are taken as their texts. -/
def text (expected : Expectation) : Value → Except CastError String
  | .text s => .ok s
  | .number n => .ok n.text
  | .bool b => .ok (String.ofList (Json.boolChars b))
  | v => mismatch expected v

/-- The truth value that a number stands for. -/
def boolOfNumber? (n : Number) : Option Bool := do
  let x ← n.toDouble?
  if x.equal (Finite.zero false) then some false
  else if (Finite.ofNat? 1).any x.equal then some true
  else none

/-- The truth value that a text stands for; case and blanks around it do not matter. -/
def boolOfText? (s : String) : Option Bool :=
  let name := String.ofList ((Text.trim s).toList.map Char.toLower)
  if ["true", "1"].contains name then some true
  else if ["false", "0"].contains name then some false
  else none

/-- A truth value, or a number or text that stands for one. -/
def boolean : Value → Except CastError Bool
  | .bool b => .ok b
  | .number n => orFlaw (.neitherZeroNorOne n) (boolOfNumber? n)
  | .text s => orFlaw (.noBoolean s) (boolOfText? s)
  | v => mismatch .boolean v

/-- The instant so many seconds after the start of 1970. -/
def instantOf? : Number → Option Instant
  | .integer i => Instant.ofSeconds? i
  | .double x => Instant.ofDouble? x

/-- A date: seconds since the start of 1970, or a text in RFC 3339. -/
def date : Value → Except CastError Instant
  | .number n => orFlaw (.dateOutOfRange n) (instantOf? n)
  | .text s => (Instant.parse (Text.trim s)).mapError fun fault => .invalid (.noDate s fault)
  | v => mismatch .timestamp v

/-- The address that a text writes. -/
def url : Value → Except CastError Address
  | .text s => (Address.parse (Text.trim s)).mapError fun fault => .invalid (.noUrl s fault)
  | v => mismatch .url v

/-! ## Lists -/

/-- A text as it is. -/
def plainText : Value → Except CastError String
  | .text s => .ok s
  | v => mismatch .string v

/-- A truth value as it is. -/
def plainBool : Value → Except CastError Bool
  | .bool b => .ok b
  | v => mismatch .boolean v

/-- An array of things of one sort. -/
def array {α : Type} (expected : Expectation) (item : Value → Except CastError α) :
    Value → Except CastError (List α)
  | .array items => items.mapM item
  | v => mismatch expected v

/-- An array of texts. -/
def texts : Value → Except CastError (List String) :=
  array .strings plainText

/-! ## Kinds -/

/-- Casts to a kind that stands alone. -/
def value (kind : Kind) (v : Value) : Except CastError PropertyValue :=
  match kind with
  | .integer => .integer <$> integer v
  | .float => (fun x => .float (.finite x)) <$> float v
  | .string => .string <$> text .string v
  | .textArea => .textArea <$> text .string v
  | .enumeration => .enumeration <$> text .enumeration v
  | .boolean => .boolean <$> boolean v
  | .date => .date <$> date v
  | .url => .url <$> url v
  | .tags => .tags <$> texts v
  | .featureList => .featureList <$> array .booleans plainBool v
  | .hierarchies => .hierarchies <$> array .paths texts v
  | .location =>
    match v with
    | .object o => .ok (.location o)
    | _ => mismatch .object v
  | .list => .error .missingSubtype
  | .box => .error (.notAssignable .box)
  | .link => .error (.notAssignable .link)

/-- Casts an array to a list of elements of one kind. -/
def list (subtype : Kind) (v : Value) : Except CastError PropertyValue :=
  if subtype.isSelectable then .list <$> array .array (value subtype) v
  else .error (.invalid (.elementKind subtype))

/-- The kind of the elements of a list property. -/
def subtype (p : Property) : Except CastError Kind :=
  (p.configValue? "subtype" >>= Value.text? >>= Kind.ofName?).elim (.error .missingSubtype) .ok

/-- Casts to the kind of a property. -/
def forProperty (p : Property) (v : Value) : Except CastError PropertyValue :=
  match p.kind with
  | .list => do list (← subtype p) v
  | kind => value kind v

end Cast

end CollectionArchive
