import CollectionArchive.Address.Basic
import CollectionArchive.Text.Blank

/-!
# Reading addresses

Addresses are read as browsers do: much that is not quite right is put right.

* `Address.parse`: the address that a text writes.
-/

namespace CollectionArchive.Address

/-! ## Scheme, query and fragment -/

/-- The characters of an address: controls and blanks around it do not count, nor do tabs and line
breaks within it. -/
def significant (s : String) : List Char :=
  (Text.trimBoth (fun c => c.toNat ≤ 0x20) s.toList).filter fun c =>
    c != '\t' && c != '\n' && c != '\r'

/-- The characters of schemes. -/
def isSchemeChar (c : Char) : Bool :=
  c.isAlphanum || c == '+' || c == '-' || c == '.'

/-- The scheme of an address, and what follows its colon. -/
def splitScheme? (cs : List Char) : Option (String × List Char) :=
  let (name, rest) := cs.span isSchemeChar
  match rest with
  | ':' :: body =>
    if name.head?.any Char.isAlpha then some (String.ofList (name.map Char.toLower), body) else none
  | _ => none

/-- The text before a mark, and what follows it if it is there. -/
def cut (mark : Char) (cs : List Char) : List Char × Option (List Char) :=
  let (before, rest) := cs.span (· != mark)
  match rest with
  | [] => (before, none)
  | _ :: after => (before, some after)

/-! ## User, host and port -/

/-- Whether a character separates parts of a path. -/
def isSlash (special : Bool) (c : Char) : Bool :=
  c == '/' || (special && c == '\\')

/-- A name and a password. A password that is empty is left out, and so is the colon. -/
def userInfo (cs : List Char) : List Char :=
  let (name, password) := cut ':' cs
  let secret :=
    match password.getD [] with
    | [] => []
    | c :: more => ':' :: encode inUserInfo (c :: more)
  encode inUserInfo name ++ secret

/-- The text before the last `@`, and the text after it. -/
def splitUser (cs : List Char) : Option (List Char) × List Char :=
  let host := (cs.reverse.takeWhile (· != '@')).reverse
  if host.length == cs.length then (none, cs)
  else (some (cs.take (cs.length - host.length - 1)), host)

/-- The text before the first colon that is not between brackets, and the rest. -/
def splitPort (bracketed : Bool) : List Char → List Char × List Char
  | [] => ([], [])
  | c :: cs =>
    if c == ':' && !bracketed then ([], c :: cs)
    else
      let inside := c == '[' || (bracketed && c != ']')
      let (host, rest) := splitPort inside cs
      (c :: host, rest)

/-- A port after its colon, and what follows it. The port that the scheme uses anyway is left
out. -/
def readPort (scheme : String) (cs : List Char) : Except Fault (Option Nat × List Char) :=
  let (digits, rest) := Decimal.spanDigits cs
  let port := Decimal.ofDigits digits
  if 65535 < port || !rest.head?.all (['/', '\\'].contains ·) then .error .port
  else
    let isHidden := digits.isEmpty || Scheme.defaultPort? scheme == some port
    let shown := if isHidden then none else some port
    .ok (shown, rest)

/-- What can follow an authority: the rest of the text, and whether the text goes on at all. -/
structure Following where
  path : List Char
  more : Bool

/-- The authority of an address, and the path after it. -/
def readAuthority (scheme : String) (cs : List Char) (next : Following) :
    Except Fault (Authority × List Char) := do
  let special := Scheme.isSpecial scheme
  let (user, place) := splitUser cs
  if user == some [] && place.isEmpty && next.more then throw .emptyHost
  let info := userInfo (user.getD [])
  let (name, rest) := splitPort false place
  if special && name.isEmpty then throw .emptyHost
  let host ← if special then Host.parse name else Host.parseOpaque name
  if host == Host.none && !rest.isEmpty then throw .emptyHost
  let (port, left) ← readPort scheme (rest.drop 1)
  if host == Host.none && !info.isEmpty then throw .emptyHost
  return (⟨String.ofList info, host, port⟩, left ++ next.path)

/-! ## Paths -/

/-- The pieces between slashes. -/
def pieces (special : Bool) (cs : List Char) : List (List Char) :=
  cs.splitOnP (isSlash special)

/-- The path after an authority. Addresses of well-known schemes always have one. -/
def pathAfter (scheme : String) (cs : List Char) : Path :=
  let special := Scheme.isSpecial scheme
  match cs with
  | [] => if special then .segments [""] else .segments []
  | c :: rest =>
    let after := if isSlash special c then rest else c :: rest
    Path.ofPieces (Scheme.isFile scheme) (pieces special after)

/-- The authority, if there is any, and the path of an address. -/
abbrev Location := Option Authority × Path

/-- The place of a file on a machine, after two slashes. -/
def readFileHost (cs : List Char) : Except Fault Location := do
  let (name, rest) := cs.span fun c => !isSlash true c
  let here : Authority := ⟨"", Host.none, none⟩
  if Path.isDrive name then return (some here, Path.ofPieces true (pieces true cs))
  else if name.isEmpty then return (some here, Path.ofPieces true (pieces true rest))
  else
    let host ← Host.parse name
    if host == .domain "localhost" then
      return (some here, Path.ofPieces true (pieces true rest))
    else
      let path := pathAfter "file" rest
      let dropped := Path.namesDrive [] ((pieces true (rest.drop 1)).map (encode inPath))
      return (some (if dropped then here else ⟨"", host, none⟩), path)

/-- The place of a file. -/
def readFile (cs : List Char) : Except Fault Location :=
  match cs with
  | a :: b :: rest =>
    if isSlash true a && isSlash true b then readFileHost rest
    else .ok (some ⟨"", Host.none, none⟩, pathAfter "file" cs)
  | _ => .ok (some ⟨"", Host.none, none⟩, pathAfter "file" cs)

/-- The authority and the path of an address, given whether a query or fragment follows. -/
def readLocation (scheme : String) (cs : List Char) (more : Bool) : Except Fault Location := do
  let special := Scheme.isSpecial scheme
  let hosted (body : List Char) : Except Fault Location := do
    let (authority, path) := body.span fun c => !isSlash special c
    let (found, rest) ← readAuthority scheme authority ⟨path, more || !path.isEmpty⟩
    return (some found, pathAfter scheme rest)
  if Scheme.isFile scheme then readFile cs
  else if special then hosted (cs.dropWhile (isSlash true))
  else
    match cs with
    | '/' :: '/' :: body => hosted body
    | '/' :: body => return (none, Path.ofPieces false (pieces false body))
    | _ => return (none, .whole (String.ofList (encode isControl cs)))

/-! ## Addresses -/

/-- The address that a text writes. -/
def parse (s : String) : Except Fault Address := do
  match splitScheme? (significant s) with
  | none => .error .relative
  | some (scheme, rest) =>
    let (before, fragment) := cut '#' rest
    let (body, query) := cut '?' before
    let (authority, path) ← readLocation scheme body (query.isSome || fragment.isSome)
    let querySet := if Scheme.isSpecial scheme then inSpecialQuery else inQuery
    return ⟨scheme, authority, path, query.map fun cs => String.ofList (encode querySet cs),
      fragment.map fun cs => String.ofList (encode inFragment cs)⟩

end CollectionArchive.Address
