/-!
# Punycode

Other characters than ASCII are inserted one by one into the ASCII characters of a text. How far it
is from one insertion to the next is written with digits of 36 values, whose weights adapt.

* `Punycode.encode`, `Punycode.decode?`: the written form and its reading.
-/

namespace CollectionArchive.Punycode

/-- The number of values of a digit. -/
def base : Nat := 36

/-- A digit below the threshold is the last of its number. -/
def threshold (k bias : Nat) : Nat :=
  if k ≤ bias then 1 else min (k - bias) 26

theorem threshold_pos (k bias : Nat) : 0 < threshold k bias := by
  unfold threshold; split <;> omega

/-- Divides a distance down to the range of one digit; the thresholds move by as many positions. -/
def settle (k delta : Nat) : Nat :=
  if 455 < delta then settle (k + base) (delta / 35) else k + base * delta / (delta + 38)
termination_by delta
decreasing_by omega

/-- The bias after a distance was written, with so many characters then in the text. -/
def adapt (delta count : Nat) (first : Bool) : Nat :=
  let scaled := if first then delta / 700 else delta / 2
  settle 0 (scaled + scaled / count)

/-- The bias at the start. -/
def startBias : Nat := 72

/-- The code points of ASCII are below this one. -/
def startPoint : Nat := 128

/-! ## Writing -/

/-- The character of a digit. -/
def digitChar (d : Nat) : Char :=
  Char.ofNat (if d < 26 then 97 + d else 22 + d)

/-- The digits of a distance. -/
def writeDistance (bias k q : Nat) : List Char :=
  let t := threshold k bias
  if _h : q < t then [digitChar q]
  else digitChar (t + (q - t) % (base - t)) :: writeDistance bias (k + base) ((q - t) / (base - t))
termination_by q
decreasing_by
  have := threshold_pos k bias
  exact Nat.lt_of_le_of_lt (Nat.div_le_self _ _) (by omega)

/-- Where the writer stands: the distance since the last insertion, the bias, and how many
characters are written. -/
structure Progress where
  delta : Nat
  bias : Nat
  written : Nat
  basics : Nat

/-- Passes over one character of the text while `point` is being inserted. -/
def passOver (point : Nat) (acc : List Char × Progress) (c : Char) : List Char × Progress :=
  let (out, p) := acc
  if c.toNat < point then (out, { p with delta := p.delta + 1 })
  else if c.toNat == point then
    let bias := adapt p.delta (p.written + 1) (p.written == p.basics)
    (out ++ writeDistance p.bias base p.delta,
      { p with delta := 0, bias, written := p.written + 1 })
  else (out, p)

/-- The insertions of the characters in `points`, which ascend, when those below `next` are done. -/
def writeInsertions (cs : List Char) : (next : Nat) → (points : List Nat) → Progress → List Char
  | _, [], _ => []
  | next, point :: points, p =>
    let start := { p with delta := p.delta + (point - next) * (p.written + 1) }
    let (out, after) := cs.foldl (passOver point) ([], start)
    out ++ writeInsertions cs (point + 1) points { after with delta := after.delta + 1 }

/-- Ascending numbers, each once. -/
def ascending (ns : List Nat) : List Nat :=
  (ns.mergeSort (· ≤ ·)).eraseReps

/-- The written form of a text. -/
def encode (cs : List Char) : List Char :=
  let basic := cs.filter fun c => c.toNat < startPoint
  let points := ascending ((cs.map Char.toNat).filter fun n => startPoint ≤ n)
  let head := if basic.isEmpty then [] else basic ++ ['-']
  head ++ writeInsertions cs startPoint points ⟨0, startBias, basic.length, basic.length⟩

/-! ## Reading -/

/-- The value of a digit. -/
def digit? (c : Char) : Option Nat :=
  let n := c.toNat
  if 97 ≤ n && n ≤ 122 then some (n - 97)
  else if 65 ≤ n && n ≤ 90 then some (n - 65)
  else if 48 ≤ n && n ≤ 57 then some (n - 22)
  else none

/-- Distances are below this number. -/
def bound : Nat := 0x100000000

/-- A distance from its digits, and the digits after it. -/
def readDistance (bias : Nat) : (k weight sum : Nat) → List Nat → Option (Nat × List Nat)
  | _, _, _, [] => none
  | k, weight, sum, d :: ds =>
    let t := threshold k bias
    let total := sum + d * weight
    if bound ≤ total then none
    else if d < t then some (total, ds)
    else readDistance bias (k + base) (weight * (base - t)) total ds

theorem length_lt_of_readDistance {bias : Nat} {ds rest : List Nat} :
    ∀ {k weight sum n : Nat}, readDistance bias k weight sum ds = some (n, rest) →
      rest.length < ds.length := by
  induction ds with
  | nil => intro k weight sum n h; simp [readDistance] at h
  | cons d ds ih =>
    intro k weight sum n h
    simp only [readDistance] at h
    split at h
    · simp at h
    · split at h
      · simp only [Option.some.injEq, Prod.mk.injEq] at h
        simp [h.2]
      · have := ih h
        simp only [List.length_cons]
        omega

/-- The character of a code point, if it is one and not ASCII. -/
def charOf? (n : Nat) : Option Char :=
  if n.isValidChar then some (Char.ofNat n) else none

/-- Inserts characters into `out` as the digits tell. The last insertion was at `place`, of the code
point `point`. -/
def readInsertions (point place bias : Nat) (first : Bool) (out : List Char) (digits : List Nat) :
    Option (List Char) :=
  match _h : digits with
  | [] => some out
  | d :: ds =>
    match _hr : readDistance bias base 1 0 (d :: ds) with
    | none => none
    | some (distance, rest) =>
      let count := out.length + 1
      let total := place + distance
      let next := point + total / count
      match charOf? next with
      | none => none
      | some c =>
        let spot := total % count
        readInsertions next (spot + 1) (adapt distance count first) false
          (out.take spot ++ c :: out.drop spot) rest
termination_by digits.length
decreasing_by
  have := length_lt_of_readDistance _hr
  simpa using this

/-- A written form, at its last hyphen: the ASCII characters before, and the digits after it. A
hyphen at the start separates nothing. -/
def splitBasic (cs : List Char) : List Char × List Char :=
  let tail := (cs.reverse.takeWhile (· != '-')).reverse
  if cs.length ≤ tail.length + 1 then ([], cs)
  else (cs.take (cs.length - tail.length - 1), tail)

/-- The text of a written form. -/
def decode? (cs : List Char) : Option (List Char) := do
  let (basic, tail) := splitBasic cs
  let digits ← tail.mapM digit?
  readInsertions startPoint 0 startBias true basic digits

end CollectionArchive.Punycode
