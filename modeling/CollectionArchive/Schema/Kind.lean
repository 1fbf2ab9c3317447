/-!
# Kinds of properties

* `Kind`: the fifteen kinds, each with a name on the wire.
* `Kind.ofName?`: the kind of a name.
* `Kind.Assignment`: what a property of a kind holds: a value of the kind or, for a link, a
  selector.
-/

namespace CollectionArchive

/-- The kinds of properties that a schema may declare. -/
inductive Kind where
  | integer
  | float
  | string
  | boolean
  | enumeration
  | date
  /-- A container of other properties; it holds no value. -/
  | box
  /-- A reference into another collection. -/
  | link
  | list
  | featureList
  | url
  | textArea
  | tags
  | hierarchies
  | location
deriving DecidableEq

namespace Kind

/-- All kinds, in the order of their table. -/
def all : List Kind :=
  [integer, float, string, boolean, enumeration, date, box, link, list, featureList, url, textArea,
    tags, hierarchies, location]

/-- The name of a kind in schemata and selectors. -/
def name : Kind → String
  | integer => "KubunInt"
  | float => "KubunFloat"
  | string => "KubunString"
  | boolean => "KubunBool"
  | enumeration => "KubunEnum"
  | date => "KubunDate"
  | box => "KubunBox"
  | link => "KubunLink"
  | list => "KubunList"
  | featureList => "KubunFeatureList"
  | url => "KubunURL"
  | textArea => "KubunTextArea"
  | tags => "KubunTags"
  | hierarchies => "KubunHierarchies"
  | location => "KubunLocation"

/-- The kind of a name. -/
def ofName? (s : String) : Option Kind :=
  all.find? fun k => k.name == s

/-- Whether the kind is the container. -/
def isBox (k : Kind) : Bool :=
  k == box

/-- Whether the kind refers to another collection. -/
def isLink (k : Kind) : Bool :=
  k == link

/-- Whether a single value can be cast to the kind: lists need the kind of their elements, boxes
and links hold no value. -/
def isSelectable (k : Kind) : Bool :=
  k != box && k != link && k != list

/-- What a property holds. -/
inductive Assignment where
  | kind (k : Kind)
  /-- One or more values of the kind that a link leads to. -/
  | selector
deriving DecidableEq

/-- The name of what a property holds. -/
def Assignment.name : Assignment → String
  | kind k => k.name
  | selector => "KubunSelector"

/-- What a property of a kind holds. -/
def assignment (k : Kind) : Assignment :=
  if k.isLink then .selector else .kind k

end Kind

end CollectionArchive
