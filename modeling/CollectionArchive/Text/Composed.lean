import CollectionArchive.Text.Combining
import CollectionArchive.Text.Composition

/-!
# Composed texts

Texts that look alike have one composed form: its characters are taken apart, the marks on a
character are put in the order of their classes, and what can be composed is composed.

* `Text.decomposed`: the characters of a text, taken apart and put in order.
* `Text.composed`: the composed form, known as NFC.
-/

namespace CollectionArchive.Text

/-! ## Korean syllables -/

/-- The first of the syllables that are composed of two or three letters. -/
def syllableBase : Nat := 0xAC00

/-- The letters of a syllable, by its place among them. -/
def syllableLetters (place : Nat) : List Char :=
  let leading := Char.ofNat (0x1100 + place / 588)
  let vowel := Char.ofNat (0x1161 + place % 588 / 28)
  if place % 28 == 0 then [leading, vowel] else [leading, vowel, Char.ofNat (0x11A7 + place % 28)]

/-- The letters of a syllable. -/
def syllable? (c : Char) : Option (List Char) :=
  let n := c.toNat
  if syllableBase ≤ n && n < syllableBase + 11172 then some (syllableLetters (n - syllableBase))
  else none

/-- The syllable of two letters, or of a syllable without a last letter and that letter. -/
def joinSyllable? (a b : Char) : Option Char :=
  let m := a.toNat
  let n := b.toNat
  if 0x1100 ≤ m && m < 0x1113 && 0x1161 ≤ n && n < 0x1176 then
    some (Char.ofNat (syllableBase + ((m - 0x1100) * 21 + (n - 0x1161)) * 28))
  else if syllableBase ≤ m && m < syllableBase + 11172 && (m - syllableBase) % 28 == 0 &&
      0x11A7 < n && n < 0x11C3 then
    some (Char.ofNat (m + (n - 0x11A7)))
  else none

/-! ## Taking apart -/

/-- The characters that a character is made of. No character is made in more than four steps. -/
def parts : (steps : Nat) → Char → List Char
  | 0, c => [c]
  | steps + 1, c =>
    match (syllable? c).or (variants.get? c) with
    | some cs => cs
    | none =>
      match composites.get? c with
      | some (base :: marks) => parts steps base ++ marks
      | _ => [c]

/-- Puts a mark before those that follow it, but after those of a lower class. -/
def insertMark (c : Char) (k : Nat) : List (Char × Nat) → List (Char × Nat)
  | [] => [(c, k)]
  | (d, l) :: rest => if k ≤ l then (c, k) :: (d, l) :: rest else (d, l) :: insertMark c k rest

/-- The marks, in order, that stand before the next character that starts anew, and all that is
from there on. -/
def ordered : List Char → List (Char × Nat) × List Char
  | [] => ([], [])
  | c :: cs =>
    let (marks, rest) := ordered cs
    let k := combiningClass c
    if k == 0 then ([], c :: (marks.map Prod.fst ++ rest)) else (insertMark c k marks, rest)

/-- The characters of a text, taken apart and put in order. -/
def decomposed (cs : List Char) : List Char :=
  let (marks, rest) := ordered (cs.flatMap (parts 4))
  marks.map Prod.fst ++ rest

/-! ## Composing -/

/-- The pairs of characters that compose, with what they compose to. -/
def pairs : Array (Nat × Nat × Nat) :=
  (composites.entries.filterMap fun e =>
    match e.target with
    | [a, b] => some (a, b, e.first)
    | _ => none).qsort fun x y => x.1 < y.1 || (x.1 == y.1 && x.2.1 < y.2.1)

/-- Bisection among pairs. -/
def searchPair (pairs : Array (Nat × Nat × Nat)) (a b low high : Nat) : Option Nat :=
  if _h : low < high then
    let middle := (low + high) / 2
    match pairs[middle]? with
    | none => none
    | some (x, y, c) =>
      if a < x || (a == x && b < y) then searchPair pairs a b low middle
      else if x < a || y < b then searchPair pairs a b (middle + 1) high
      else some c
  else none
termination_by high - low
decreasing_by all_goals omega

/-- What two characters compose to. -/
def compose? (a b : Char) : Option Char :=
  (joinSyllable? a b).or ((searchPair pairs a.toNat b.toNat 0 pairs.size).map Char.ofNat)

/-- Composes `base` with what follows it. `kept` are the marks since then that did not compose, the
last one first, and `last` is the class of that one. A mark is blocked from the base by one of its
own class or a character that starts anew. -/
def composeFrom (base : Char) (kept : List Char) (last : Nat) : List Char → List Char
  | [] => base :: kept.reverse
  | c :: cs =>
    let k := combiningClass c
    let free := kept.isEmpty || last < k
    match if free then compose? base c else none with
    | some joined => composeFrom joined kept last cs
    | none =>
      if k == 0 then base :: kept.reverse ++ composeFrom c [] 0 cs
      else composeFrom base (c :: kept) k cs

/-- Characters, composed where they can be. -/
def composeAll : List Char → List Char
  | [] => []
  | c :: cs => if combiningClass c == 0 then composeFrom c [] 0 cs else c :: composeAll cs

/-- The composed form of a text. -/
def composed (cs : List Char) : List Char :=
  if cs.all fun c => c.toNat < 0x300 then cs else composeAll (decomposed cs)

end CollectionArchive.Text
