import CollectionArchive.Address.Host
import CollectionArchive.Address.Path

/-!
# Addresses

The address of something on the web, known as a URL: a scheme, the host and user that are asked,
a path, a query and a fragment.

* `Address`: the parts of an address, encoded as they are written.
* `Address.text`: the written form.
* `Scheme`: what is known about schemes.
-/

namespace CollectionArchive

namespace Address

/-- Who is asked: a user at a host. -/
structure Authority where
  userInfo : String
  host : Host
  port : Option Nat
deriving DecidableEq

/-- The written form, without the slashes before it. -/
def Authority.text (a : Authority) : String :=
  let user := if a.userInfo.isEmpty then "" else a.userInfo ++ "@"
  let port := (a.port.map fun n => ":" ++ String.ofList (Decimal.natChars n)).getD ""
  user ++ a.host.text ++ port

end Address

/-- The address of something on the web. -/
structure Address where
  scheme : String
  authority : Option Address.Authority
  path : Address.Path
  query : Option String
  fragment : Option String
deriving DecidableEq

namespace Address

/-- The written form. A path that starts with two slashes must not look like a host. -/
def text (a : Address) : String :=
  let authority :=
    match a.authority with
    | some authority => "//" ++ authority.text
    | none => if a.path.startsEmpty then "/." else ""
  a.scheme ++ ":" ++ authority ++ a.path.text ++ (a.query.map ("?" ++ ·)).getD "" ++
    (a.fragment.map ("#" ++ ·)).getD ""

namespace Scheme

/-- The well-known schemes with a host, and the port that each uses if none is given. -/
def defaultPorts : List (String × Nat) :=
  [("http", 80), ("https", 443), ("ws", 80), ("wss", 443), ("ftp", 21)]

/-- The port that a scheme uses if none is given. -/
def defaultPort? (scheme : String) : Option Nat :=
  (defaultPorts.find? fun p => p.1 == scheme).map Prod.snd

/-- Whether a scheme is that of files. -/
def isFile (scheme : String) : Bool :=
  scheme == "file"

/-- Whether a scheme is well known. -/
def isSpecial (scheme : String) : Bool :=
  (defaultPort? scheme).isSome || isFile scheme

end Scheme

end Address

end CollectionArchive
