import CollectionArchive.Schema.Definition
import CollectionArchive.Schema.Grammar

/-!
# Properties

A property is a leaf, which has an identifier, or a box around other properties.

* `Property`: the tree.
* `Property.leaf?`, `Property.boxed`, `Property.hide`, `Property.ofDefinition`: the ways to build
  one; the config of a leaf is checked against the grammar of its kind.
* `Property.definition`: back to the declarative form.
* `Property.leaves`: the leaves, in the order of the definition.
* `Property.linkTarget?`: where a link leads.
-/

namespace CollectionArchive

open Json (Value)

/-- The kinds of leaves. -/
abbrev LeafKind := { k : Kind // k.isBox = false }

/-- A property of a schema. -/
inductive Property where
  | leaf (title : String) (ident : Identifier) (kind : LeafKind) (config : Option Json.Object)
      (hidden : Bool)
  | box (title : String) (config : Option Json.Object) (hidden : Bool) (children : List Property)

/-- The collection and the property to which a link leads. -/
structure LinkTarget where
  tag : String
  ident : String
deriving DecidableEq

namespace LinkTarget

/-- The name under which links lead to the title of nodes. -/
def titleIdent : String := "title"

/-- Whether the link leads to the title. -/
def isTitle (t : LinkTarget) : Bool :=
  t.ident == titleIdent

end LinkTarget

namespace Property

/-! ## Parts -/

def title : Property → String
  | leaf t _ _ _ _ => t
  | box t _ _ _ => t

def ident? : Property → Option Identifier
  | leaf _ i _ _ _ => some i
  | box _ _ _ _ => none

def kind : Property → Kind
  | leaf _ _ k _ _ => k
  | box _ _ _ _ => .box

def config? : Property → Option Json.Object
  | leaf _ _ _ c _ => c
  | box _ c _ _ => c

def isHidden : Property → Bool
  | leaf _ _ _ _ h => h
  | box _ _ h _ => h

def children : Property → List Property
  | leaf _ _ _ _ _ => []
  | box _ _ _ cs => cs

def isBox (p : Property) : Bool :=
  p.kind.isBox

/-- A value of the config; null is no value. -/
def configValue? (p : Property) (key : String) : Option Value :=
  p.config?.bind fun c => Grammar.present? c key

/-- Whether the property is a link that declares where it leads. -/
def isOutboundLink (p : Property) : Bool :=
  p.kind.isLink && (p.configValue? "target").isSome

/-- The target that a value describes. -/
def readTarget? (v : Value) : Option LinkTarget := do
  let o ← v.object?
  let tag ← o.get? "target_tag" >>= Value.text?
  let ident ← o.get? "target_ident" >>= Value.text?
  return ⟨tag, ident⟩

/-- Where the property leads, if it is a link that declares it. -/
def linkTarget? (p : Property) : Option LinkTarget :=
  if p.isOutboundLink then p.configValue? "target" >>= readTarget? else none

/-! ## Building -/

/-- Checks a config against the grammar of a kind. A config that is missing is empty. -/
def checkConfig (title : String) (kind : Kind) (config : Option Json.Object) :
    Except SchemaError Unit :=
  kind.grammar.validate (config.getD []) title

/-- A leaf of any kind but the box. -/
def leaf? (title : String) (ident : Identifier) (kind : Kind) (config : Option Json.Object) :
    Except SchemaError Property :=
  if h : kind.isBox = false then do
    checkConfig title kind config
    return leaf title ident ⟨kind, h⟩ config false
  else .error (.identifierRule title .onBox)

/-- A box around properties. -/
def boxed (title : String) (children : List Property) : Property :=
  box title none false children

/-- The property, hidden. -/
def hide : Property → Property
  | leaf t i k c _ => leaf t i k c true
  | box t c _ cs => box t c true cs

/-- The kind of a name. -/
def resolveKind (name : String) : Except SchemaError Kind :=
  (Kind.ofName? name).elim (.error (.unknownKind name)) .ok

/-- The kind that a definition names: a box as its type, any other as its type of property. -/
def definedKind (title : String) (type propType : Option String) : Except SchemaError Kind :=
  match type, propType with
  | some _, some _ => .error (.invalidDefinition title .twoKinds)
  | none, none => .error (.invalidDefinition title .noKind)
  | some name, none => do
    let kind ← resolveKind name
    if kind.isBox then return kind else .error (.invalidDefinition title (.typeOfLeaf name))
  | none, some name => do
    let kind ← resolveKind name
    if kind.isBox then .error (.invalidDefinition title (.leafTypeOfBox name)) else return kind

/-- The leaf of a definition. -/
def leafOfDefinition (title : String) (ident : Option String) (kind : LeafKind)
    (config : Option Json.Object) (hidden : Option Bool) : Except SchemaError Property := do
  match ident with
  | none => .error (.identifierRule title (.missing kind))
  | some s =>
    let i ← (Identifier.parse s).mapError SchemaError.identifier
    checkConfig title kind config
    return leaf title i kind config (hidden.getD false)

mutual

/-- The property of a definition. -/
def ofDefinition : Definition → Except SchemaError Property
  | ⟨title, ident, children, config, hidden, type, propType⟩ => do
    let kind ← definedKind title type propType
    if h : kind.isBox = false then leafOfDefinition title ident ⟨kind, h⟩ config hidden
    else if ident.isSome then .error (.identifierRule title .onBox)
    else
      let built ← ofChildren title children
      checkConfig title kind config
      return box title config (hidden.getD false) built

/-- The children of a box. -/
def ofChildren (title : String) : Option (List Definition) → Except SchemaError (List Property)
  | none => .error (.invalidDefinition title .boxWithoutChildren)
  | some ds => ofDefinitions ds

def ofDefinitions : List Definition → Except SchemaError (List Property)
  | [] => .ok []
  | d :: ds => do
    let p ← ofDefinition d
    let ps ← ofDefinitions ds
    return p :: ps

end

mutual

/-- The declarative form, with all fields. -/
def definition : Property → Definition
  | leaf title ident kind config hidden =>
    ⟨title, some ident.text, none, config, some hidden, none, some kind.val.name⟩
  | box title config hidden children =>
    ⟨title, none, some (definitions children), config, some hidden, some Kind.box.name, none⟩

def definitions : List Property → List Definition
  | [] => []
  | p :: ps => definition p :: definitions ps

end

mutual

/-- Equality up to the sign of zeros in configs. -/
def equal : Property → Property → Bool
  | leaf t i k c h, leaf t' i' k' c' h' =>
    t == t' && i == i' && k == k' && equalConfig c c' && h == h'
  | box t c h ps, box t' c' h' qs => t == t' && equalConfig c c' && h == h' && equalList ps qs
  | _, _ => false

def equalList : List Property → List Property → Bool
  | [], [] => true
  | p :: ps, q :: qs => equal p q && equalList ps qs
  | _, _ => false

/-- Equality of configs up to the sign of zeros. -/
def equalConfig : Option Json.Object → Option Json.Object → Bool
  | none, none => true
  | some a, some b => Json.Object.equal a b
  | _, _ => false

end

/-! ## Leaves -/

mutual

/-- The leaves, each before those that follow it in the definition. -/
def leaves : Property → List Property
  | leaf t i k c h => [leaf t i k c h]
  | box _ _ _ cs => leavesOf cs

def leavesOf : List Property → List Property
  | [] => []
  | p :: ps => leaves p ++ leavesOf ps

end

end Property

end CollectionArchive
