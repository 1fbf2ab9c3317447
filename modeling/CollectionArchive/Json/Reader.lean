import CollectionArchive.Json.Tree
import CollectionArchive.Json.Value

/-!
# Reading shapes from JSON text

A reader knows what a text should hold. It reads the tree of the text in the order of the text, so
the first fault in that order is the one that is reported.

* `Json.Reader`: a reader of one shape; `Reader.value`, `Reader.text`, `Reader.list`, … are readers.
* `Json.Record`, `Record.reader`: records, written as objects or as arrays of their fields.
* `Reader.parse`: reading a whole text.
-/

namespace CollectionArchive.Json

/-- A reader of a shape, at a place where so many levels of brackets may still be opened. -/
abbrev Reader (α : Type) := (room : Nat) → Tree → Except Fault α

namespace Tree

/-- The room inside a bracket. -/
def enter : (room : Nat) → Except Fault Nat
  | 0 => .error .malformed
  | room + 1 => .ok room

/-- The end of an array or object that is read. -/
def finish : (ending : Option Flaw) → Except Fault Unit
  | none => .ok ()
  | some f => .error f.read

/-- The content of a string. -/
def content : Option String → Except Fault String
  | some s => .ok s
  | none => .error .malformed

mutual

/-- A value that nothing is read from need only be well formed. Its numbers may be too large, its
brackets too deep and its strings may hold half a surrogate pair. -/
def skip : Tree → Except Fault Unit
  | .broken f => .error f.skipped
  | .array items ending => do skipItems items; finishSkipped ending
  | .object members ending => do skipMembers members; finishSkipped ending
  | _ => .ok ()

def skipItems : List Tree → Except Fault Unit
  | [] => .ok ()
  | t :: ts => do skip t; skipItems ts

def skipMembers : List (Option String × Tree) → Except Fault Unit
  | [] => .ok ()
  | (_, t) :: ms => do skip t; skipMembers ms

/-- The end of an array or object that nothing is read from. -/
def finishSkipped : (ending : Option Flaw) → Except Fault Unit
  | none => .ok ()
  | some f => .error f.skipped

end

mutual

/-- Any value. -/
def value (room : Nat) : Tree → Except Fault Value
  | .null => .ok .null
  | .bool b => .ok (.bool b)
  | .number l => (l.number?.map Value.number).elim (.error .malformed) .ok
  | .text s => return .text (← content s)
  | .array items ending => do
    let read ← itemValues (← enter room) items
    finish ending
    return .array read
  | .object members ending => do
    let read ← memberValues (← enter room) members
    finish ending
    return .object (Table.ofList read)
  | .broken f => .error f.read

def itemValues (room : Nat) : List Tree → Except Fault (List Value)
  | [] => .ok []
  | t :: ts => return (← value room t) :: (← itemValues room ts)

/-- Members of any value, in the order of the text. -/
def memberValues (room : Nat) : List (Option String × Tree) → Except Fault (List (String × Value))
  | [] => .ok []
  | (k, t) :: ms => do
    let key ← content k
    let v ← value room t
    return (key, v) :: (← memberValues room ms)

end

/-- The fault of a value that is of another shape. A string, number or word is read before it is
found to be another; an array or object is not. -/
def mismatch (t : Tree) : Fault :=
  match t with
  | .broken f => f.read
  | .number l => if l.number?.isNone then .malformed else .misshapen
  | .text none => .malformed
  | _ => .misshapen

end Tree

namespace Reader

/-- Any value. -/
def value : Reader Value :=
  Tree.value

/-- A text. -/
def text : Reader String := fun _ t =>
  match t with
  | .text s => Tree.content s
  | _ => .error t.mismatch

/-- A truth value. -/
def bool : Reader Bool := fun _ t =>
  match t with
  | .bool b => .ok b
  | _ => .error t.mismatch

/-- An integer between two bounds, both included. -/
def integer (low high : Int) : Reader Int := fun _ t =>
  match t with
  | .number l =>
    match l.number? with
    | some (.integer i) => if low ≤ i && i ≤ high then .ok i else .error .misshapen
    | some (.double _) => .error .misshapen
    | none => .error .malformed
  | _ => .error t.mismatch

/-- Something, or null in its place. -/
def optional {α : Type} (read : Reader α) : Reader (Option α) := fun room t =>
  match t with
  | .null => .ok none
  | _ => some <$> read room t

/-- A list of things of one shape. -/
def list {α : Type} (read : Reader α) : Reader (List α) := fun room t =>
  match t with
  | .array items ending => do
    let found ← items.mapM (read (← Tree.enter room))
    Tree.finish ending
    return found
  | _ => .error t.mismatch

/-- The members of an object, in the order of the text. -/
def members : Reader (List (String × Value)) := fun room t =>
  match t with
  | .object members ending => do
    let read ← Tree.memberValues (← Tree.enter room) members
    Tree.finish ending
    return read
  | _ => .error t.mismatch

/-- An object with any values. -/
def object : Reader Object := fun room t =>
  Table.ofList <$> members room t

end Reader

/-- A field of a record that is collected in a state `σ`. -/
structure Field (σ : Type) where
  name : String
  fill : σ → Reader σ

/-- A record: its fields in their order, the state before any is read, and the record that a state
makes, if no required field is missing in it. -/
structure Record (σ α : Type) where
  fields : List (Field σ)
  start : σ
  build? : σ → Option α

namespace Record

variable {σ α : Type}

/-- The record that a state makes. -/
def finish (r : Record σ α) (s : σ) : Except Fault α :=
  (r.build? s).elim (.error .misshapen) .ok

/-- The members of an object in the order of the text. A field may be given once; what is no field
is skipped, or collected by `other`. -/
def readMembers (r : Record σ α) (other : String → σ → Reader σ) (room : Nat) :
    (seen : List String) → σ → List (Option String × Tree) → Except Fault σ
  | _, s, [] => .ok s
  | seen, s, (k, t) :: rest => do
    let key ← Tree.content k
    match r.fields.find? fun f => f.name == key with
    | none => readMembers r other room seen (← other key s room t) rest
    | some f =>
      if seen.contains key then .error .misshapen
      else readMembers r other room (key :: seen) (← f.fill s room t) rest

/-- The fields in their order, from the items of an array. More items than fields are no record. -/
def readItems (room : Nat) (ending : Option Flaw) : σ → List (Field σ) → List Tree → Except Fault σ
  | s, _, [] => do Tree.finish ending; return s
  | _, [], _ :: _ => .error .malformed
  | s, f :: fs, t :: ts => do readItems room ending (← f.fill s room t) fs ts

/-- A record with members of other names, each given to `other`; objects only. -/
def openReader (r : Record σ α) (other : String → σ → Reader σ) : Reader α := fun room t =>
  match t with
  | .object members ending => do
    let s ← r.readMembers other (← Tree.enter room) [] r.start members
    Tree.finish ending
    r.finish s
  | _ => .error t.mismatch

/-- A record, written as an object or as an array of its fields. -/
def reader (r : Record σ α) : Reader α := fun room t =>
  match t with
  | .array items ending => do
    r.finish (← readItems (← Tree.enter room) ending r.start r.fields items)
  | _ => r.openReader (fun _ s _ t => do Tree.skip t; return s) room t

end Record

namespace Reader

/-- So many levels of brackets may be open at once. -/
def maxDepth : Nat := 127

/-- The thing that a whole text holds. -/
def parse {α : Type} (read : Reader α) (s : String) : Except Fault α := do
  let (tree, more) := Tree.ofText s
  let found ← read maxDepth tree
  if more then .error .malformed else return found

end Reader

/-- The value that a text holds. -/
def parse (s : String) : Except Fault Value :=
  Reader.value.parse s

end CollectionArchive.Json
