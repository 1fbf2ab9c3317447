import CollectionArchive.Schema.Error

/-!
# Grammars of configs

Each kind declares which parameters the config of a property may have, which of them it must have,
and the shapes of their values. A parameter that is null counts as missing, and one that is not
declared is accepted.

* `Parameter.namesUnique`: compares the names at all pairs of positions. There is no answer if a
  position is looked up that is not there.
* `Grammar`: parameters with different names.
* `Grammar.validate`: checks a config; the first parameter at fault, in the order of the grammar,
  is reported.
* `Kind.grammar`: the grammar of each kind.
-/

namespace CollectionArchive

open Json (Value)

/-- A parameter of a config. -/
structure Parameter where
  name : String
  shape : Shape
  isOptional : Bool
deriving DecidableEq

namespace Parameter

def required (name : String) (shape : Shape) : Parameter :=
  ⟨name, shape, false⟩

def optional (name : String) (shape : Shape) : Parameter :=
  ⟨name, shape, true⟩

/-- Whether a check holds at every position from `i` up to `n`. They are visited in turn, up to the
first at which it does not hold. -/
def allFrom (n : Nat) (check : Nat → Option Bool) (i : Nat) : Option Bool := do
  if i < n then
    unless ← check i do return false
    allFrom n check (i + 1)
  else
    return true
termination_by n - i

/-- Whether two sequences of bytes have the same byte at a position. -/
def sameByte (a b : Bytes) (k : Nat) : Option Bool := do
  return (← a[k]?) == (← b[k]?)

/-- Whether two sequences of bytes have the same length and agree at every position. -/
def sameBytes (a b : Bytes) : Option Bool :=
  if a.length == b.length then allFrom a.length (sameByte a b) 0 else some false

/-- Whether two parameters have the same name. -/
def sameName (p q : Parameter) : Option Bool :=
  sameBytes (Bytes.ofText p.name) (Bytes.ofText q.name)

/-- Whether the parameters at two positions have different names. -/
def differ (ps : List Parameter) (i j : Nat) : Option Bool := do
  return !(← (← ps[i]?).sameName (← ps[j]?))

/-- Whether no two of the parameters have the same name: each is compared with all behind it. -/
def namesUnique (ps : List Parameter) : Option Bool :=
  allFrom ps.length (fun i => allFrom ps.length (differ ps i) (i + 1)) 0

end Parameter

/-- Parameters in an order, with different names. -/
structure Grammar where
  parameters : List Parameter
  unique : Parameter.namesUnique parameters = some true

namespace Grammar

/-- The grammar of given parameters, if their names differ. -/
def ofList? (ps : List Parameter) : Option Grammar :=
  if h : Parameter.namesUnique ps = some true then some ⟨ps, h⟩ else none

/-- The parameter of a name. -/
def parameter? (g : Grammar) (name : String) : Option Parameter :=
  g.parameters.find? fun p => p.name == name

/-- The value of a config under a key; null is no value. -/
def present? (config : Json.Object) (key : String) : Option Value :=
  (config.get? key).filter fun v => !v.isNull

/-- Checks one parameter of the config of a property. -/
def checkParameter (config : Json.Object) (property : String) (p : Parameter) :
    Except SchemaError Unit :=
  match present? config p.name with
  | none => if p.isOptional then .ok () else .error (.missingParameter property p.name)
  | some v =>
    if p.shape.accepts v then .ok () else .error (.invalidParameter property p.name v p.shape)

/-- Checks the config of a property. -/
def validate (g : Grammar) (config : Json.Object) (property : String) : Except SchemaError Unit :=
  g.parameters.forM (checkParameter config property)

/-- No parameters. -/
def empty : Grammar :=
  ⟨[], by decide +kernel⟩

def numeric : Grammar where
  parameters := [.optional "suffix" .string]
  unique := by decide +kernel

def enumeration : Grammar where
  parameters :=
    [.required "variants" .stringList, .optional "ordered" .bool,
      .optional "logos" .optionalStringList]
  unique := by decide +kernel

def date : Grammar where
  parameters := [.optional "format" .dateFormat]
  unique := by decide +kernel

def link : Grammar where
  parameters :=
    [.optional "navigate" .bool, .optional "target" .linkTarget, .optional "reverse_ident" .string,
      .optional "show_cover" .bool]
  unique := by decide +kernel

def list : Grammar where
  parameters := [.required "subtype" .kindName, .optional "subconfig" .object]
  unique := by decide +kernel

def url : Grammar where
  parameters := [.optional "show_favicon" .bool, .optional "as_button" .bool]
  unique := by decide +kernel

def hierarchies : Grammar where
  parameters := [.required "structure" .object]
  unique := by decide +kernel

end Grammar

/-- The grammar of the configs of a kind. -/
def Kind.grammar : Kind → Grammar
  | integer | float => Grammar.numeric
  | enumeration | featureList => Grammar.enumeration
  | date => Grammar.date
  | link => Grammar.link
  | list => Grammar.list
  | url => Grammar.url
  | hierarchies => Grammar.hierarchies
  | string | boolean | box | textArea | tags | location => Grammar.empty

end CollectionArchive
