import CollectionArchive.Address.Mapping
import CollectionArchive.Address.Punycode
import CollectionArchive.Text.Composed
import CollectionArchive.Text.Direction
import CollectionArchive.Text.Joining
import CollectionArchive.Text.Mark

/-!
# Labels of host names

A host name is made of labels with points between them. A label with other characters than ASCII is
written in Punycode.

* `Label.ofMapped?`: the label that a part of a mapped name writes, if it is a valid one.
* `Label.isOrderly`: the rules for labels in names of mixed directions.
* `Label.ascii`: the written form of a label.
-/

namespace CollectionArchive.Address.Label

open Text (Direction direction)

/-- The start of a label in Punycode. -/
def encodedStart : List Char :=
  "xn--".toList

def isAscii (c : Char) : Bool :=
  c.toNat < 0x80

/-! ## Joiners -/

/-- Whether a joiner may stand between `before`, the last character first, and `after`: it follows
a consonant without vowel, or, if it keeps letters apart, letters that would join. -/
def joinerFits (before : List Char) (joiner : Char) (after : List Char) : Bool :=
  before.head?.any (fun c => Text.combiningClass c == Text.viramaClass) ||
    (joiner.toNat == 0x200C &&
      (before.dropWhile Text.isTransparent).head?.any Text.joinsAfter &&
      (after.dropWhile Text.isTransparent).head?.any Text.joinsBefore)

/-- Whether all joiners of a text may stand where they do. -/
def joinersFit : (before after : List Char) → Bool
  | _, [] => true
  | before, c :: cs =>
    (!(c.toNat == 0x200C || c.toNat == 0x200D) || joinerFits before c cs) &&
      joinersFit (c :: before) cs

/-! ## Directions -/

/-- The directions that make a name one of mixed directions. -/
def isRightToLeft (c : Char) : Bool :=
  let d := direction c
  d == .rightToLeft || d == .arabicLetter || d == .arabicNumber

/-- The directions of all characters in labels that run from right to left. -/
def rightToLeftInner : List Direction :=
  [.rightToLeft, .arabicLetter, .arabicNumber, .europeanNumber, .europeanSeparator,
    .commonSeparator, .europeanTerminator, .otherNeutral, .boundaryNeutral, .nonspacing]

/-- The directions that end a label that runs from right to left. -/
def rightToLeftLast : List Direction :=
  [.rightToLeft, .arabicLetter, .europeanNumber, .arabicNumber]

/-- The directions of all characters in labels that run from left to right. -/
def leftToRightInner : List Direction :=
  [.leftToRight, .europeanNumber, .europeanSeparator, .commonSeparator, .europeanTerminator,
    .otherNeutral, .boundaryNeutral, .nonspacing]

/-- The directions that end a label that runs from left to right. -/
def leftToRightLast : List Direction :=
  [.leftToRight, .europeanNumber]

/-- Whether the last direction but for marks is one of those given. -/
def endsIn (last : List Direction) (ds : List Direction) : Bool :=
  (ds.reverse.dropWhile (· == .nonspacing)).head?.any last.contains

/-- Whether a label may stand in a name of mixed directions: it runs in one direction, and has
digits of one kind only. -/
def isOrderly (cs : List Char) : Bool :=
  let ds := cs.map direction
  match ds with
  | [] => true
  | .leftToRight :: _ => ds.all leftToRightInner.contains && endsIn leftToRightLast ds
  | first :: _ =>
    (first == .rightToLeft || first == .arabicLetter) && ds.all rightToLeftInner.contains &&
      endsIn rightToLeftLast ds && !(ds.contains .europeanNumber && ds.contains .arabicNumber)

/-! ## Labels -/

/-- Whether a text may be a label: it does not start with a mark and its joiners fit. -/
def isValid (cs : List Char) : Bool :=
  !cs.head?.any Text.isMark && joinersFit [] cs

/-- Whether a text stays as it is when it is mapped and composed. -/
def isMapped (cs : List Char) : Bool :=
  (mapChars? cs).map Text.composed == some cs

/-- The label that Punycode writes. Another label than one with other characters than ASCII is not
written so. -/
def ofEncoded? (cs : List Char) : Option (List Char) := do
  let label ← Punycode.decode? cs
  if label.all isAscii || encodedStart.isPrefixOf label then none
  else if isMapped label && isValid label then return label
  else none

/-- The label that a part of a mapped and composed name writes. -/
def ofMapped? (cs : List Char) : Option (List Char) :=
  if encodedStart.isPrefixOf cs then
    if cs.all isAscii then ofEncoded? (cs.drop encodedStart.length) else none
  else if isValid cs then some cs
  else none

/-- The written form of a label. -/
def ascii (label : List Char) : List Char :=
  if label.all isAscii then label else encodedStart ++ Punycode.encode label

end CollectionArchive.Address.Label
