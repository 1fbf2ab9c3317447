import CollectionArchive.Address.Domain
import CollectionArchive.Address.Ipv4
import CollectionArchive.Address.Ipv6
import CollectionArchive.Address.Percent

/-!
# Hosts

* `Address.Host`: a domain or the number of a machine.
* `Host.parse`: the host of an address of a well-known scheme.
* `Host.parseOpaque`: the host of any other address, which is kept as it is.
* `Host.text`: the written form.
-/

namespace CollectionArchive.Address

/-- What is wrong with a text that is no address. -/
inductive Fault where
  /-- The text does not start with a scheme. -/
  | relative
  | emptyHost
  | port
  | ipv4
  | ipv6
  /-- A host has a character that no host may have. -/
  | hostCharacter
  /-- A host is no valid domain. -/
  | domain
deriving DecidableEq

/-- The wording of a fault. -/
def Fault.message : Fault → String
  | relative => "relative URL without a base"
  | emptyHost => "empty host"
  | port => "invalid port number"
  | ipv4 => "invalid IPv4 address"
  | ipv6 => "invalid IPv6 address"
  | hostCharacter => "invalid domain character"
  | domain => "invalid international domain name"

/-- A host. An address without one has the empty domain. -/
inductive Host where
  | domain (name : String)
  | ipv4 (number : Nat)
  | ipv6 (pieces : List Nat)
deriving DecidableEq

namespace Host

/-- No host. -/
def none : Host :=
  domain ""

/-- The written form. -/
def text : Host → String
  | domain name => name
  | ipv4 number => String.ofList (Ipv4.chars number)
  | ipv6 pieces => String.ofList ('[' :: Ipv6.chars pieces ++ [']'])

/-- The host between brackets. -/
def parseBracketed (cs : List Char) : Except Fault Host :=
  if cs.getLast? == some ']' then
    (Ipv6.parse? (cs.drop 1).dropLast).elim (.error .ipv6) fun pieces => .ok (ipv6 pieces)
  else .error .ipv6

/-- The host that a domain in ASCII is. -/
def ofDomain (cs : List Char) : Except Fault Host :=
  if cs.isEmpty then .error .emptyHost
  else if Ipv4.isMeant cs then (Ipv4.parse? cs).elim (.error .ipv4) fun n => .ok (ipv4 n)
  else .ok (domain (String.ofList cs))

/-- A host with its encoded places decoded. -/
def decoded (cs : List Char) : List Char :=
  Bytes.charsLossy (decodeBytes (Bytes.ofText (String.ofList cs)))

/-- The host of an address of a well-known scheme. -/
def parse (cs : List Char) : Except Fault Host :=
  if cs.head? == some '[' then parseBracketed cs
  else (Domain.ascii? (decoded cs)).elim (.error .domain) ofDomain

/-- The characters that no host has. -/
def isForbidden (c : Char) : Bool :=
  ['\x00', '\t', '\n', '\r', ' ', '#', '/', ':', '<', '>', '?', '@', '[', '\\', ']', '^',
    '|'].contains c

/-- The host of an address of another scheme. -/
def parseOpaque (cs : List Char) : Except Fault Host :=
  if cs.head? == some '[' then parseBracketed cs
  else if cs.any isForbidden then .error .hostCharacter
  else .ok (domain (String.ofList (encode isControl cs)))

end Host

end CollectionArchive.Address
