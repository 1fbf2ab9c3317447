import CollectionArchive.Identifier.Uuid
import CollectionArchive.Text.Order
import CollectionArchive.Text.Quoted

/-!
# Identifiers

An identifier is the key of a property: a random UUID, that is, one of version 4 in the layout of
RFC 4122. It has one written form.

* `Identifier.parse`, `Identifier.ofUuid`: the two ways to check one.
* `Identifier.text`: the written form.
* `Identifier.precedes`: the order of the bytes.
-/

namespace CollectionArchive

/-- The key of a property. -/
structure Identifier where
  uuid : Uuid
  version : uuid.version = 4
  standard : uuid.isStandard = true
deriving DecidableEq

namespace Identifier

/-- Why something is no identifier. -/
inductive Cause where
  /-- The text is no UUID. -/
  | form (fault : Uuid.Fault)
  /-- The text is another spelling of a UUID. -/
  | spelling
  /-- The text is a UUID that is not random. -/
  | version (found : Nat)
  /-- The UUID is not random. -/
  | notRandom (found : Nat)
deriving DecidableEq

/-- The wording of a cause. -/
def Cause.message : Cause → String
  | form fault => fault.message
  | spelling => "expected the lowercase hyphenated UUID form"
  | version found => s!"expected UUID version 4, got version {found}"
  | notRandom found => s!"expected RFC 4122 UUID version 4, got version {found}"

/-- A value that is no identifier, and why. -/
structure Invalid where
  value : String
  cause : Cause
deriving DecidableEq

/-- The wording of the error. -/
def Invalid.message (e : Invalid) : String :=
  "invalid identifier " ++ Text.quoted e.value ++ ": " ++ e.cause.message

/-- The identifier that a UUID is, if it is random. -/
def ofUuid? (u : Uuid) : Option Identifier :=
  if h : u.version = 4 ∧ u.isStandard = true then some ⟨u, h.1, h.2⟩ else none

/-- Checks that a UUID is random. -/
def ofUuid (u : Uuid) : Except Invalid Identifier :=
  (ofUuid? u).elim (.error ⟨u.text, .notRandom u.version⟩) .ok

/-- Reads an identifier in its written form, and no other. -/
def parse (s : String) : Except Invalid Identifier :=
  match Uuid.parse s.toList with
  | .error fault => .error ⟨s, .form fault⟩
  | .ok u =>
    if u.chars != s.toList then .error ⟨s, .spelling⟩
    else (ofUuid? u).elim (.error ⟨s, .version u.version⟩) .ok

/-- The written form. -/
def text (i : Identifier) : String :=
  i.uuid.text

/-- Whether an identifier comes before another in the order of their bytes. -/
def precedes (a b : Identifier) : Bool :=
  Text.lexPrecedes UInt8.toNat a.uuid.bytes b.uuid.bytes

instance : Ordered Identifier where
  precedes := precedes
  irrefl _ := Text.lexPrecedes_irrefl _ _
  trans := Text.lexPrecedes_trans _
  total {a b} h := Text.lexPrecedes_total _ (fun _ _ => UInt8.toNat_inj.mp) fun e => h <| by
    rcases a with ⟨⟨_, _⟩, _, _⟩
    rcases b with ⟨⟨_, _⟩, _, _⟩
    cases e
    rfl

/-- The random UUID of sixteen bytes: the bits for version and layout are set, the others kept. -/
def stamp (bs : Bytes) : Bytes :=
  bs.mapIdx fun i b =>
    if i == 6 then 0x40 + b % 16 else if i == 8 then 0x80 + b % 64 else b

/-- The identifier made from sixteen random bytes. -/
def ofRandom? (bs : Bytes) : Option Identifier :=
  Uuid.ofBytes? (stamp bs) >>= ofUuid?

end Identifier

end CollectionArchive
