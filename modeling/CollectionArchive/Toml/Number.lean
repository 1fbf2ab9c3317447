import CollectionArchive.Decimal.Reading
import CollectionArchive.Instant.Reading
import CollectionArchive.Text.Padding
import CollectionArchive.Toml.Text

/-!
# Numbers, dates and times in TOML

* `Toml.Scanner.integer`, `Toml.Scanner.float`: numbers, with underscores between digits.
* `Toml.Scanner.moment`: a date, a time or both, in its normal form.
-/

namespace CollectionArchive.Toml.Scanner

/-! ## Numbers -/

/-- Digits; an underscore may stand between two of them. -/
def digits (isDigit : Char → Bool) : Scanner (List Char) := do
  let cs ← run fun c => isDigit c || c == '_'
  let groups := cs.splitOn '_'
  if groups.any List.isEmpty then failure else return groups.flatten

/-- A sign, if there is one. -/
def sign : Scanner (List Char) := do
  return ((← optional (char fun c => c == '+' || c == '-')).toList)

/-- Decimal digits without zeros in front, and a sign if there is one. -/
def decimal : Scanner (List Char) := do
  let s ← sign
  let ds ← digits Char.isDigit
  if 1 < ds.length && ds.head? == some '0' then failure else return s ++ ds

/-- The integer that digits of a base write. -/
def ofBase? (base : Nat) (ds : List Char) : Option Int := do
  let values ← ds.mapM hexDigit?
  if values.all (· < base) then return (values.foldl (fun n d => n * base + d) 0 : Nat) else none

/-- Digits of a base after its mark. -/
def based (mark : String) (base : Nat) : Scanner Int := do
  word mark
  let ds ← digits fun c => (hexDigit? c).any (· < base)
  (ofBase? base ds).elim failure pure

/-- An integer in decimal digits. -/
def decimalInteger : Scanner Int := do
  (Decimal.readInt? (← decimal)).elim failure pure

/-- An integer of 64 bits. -/
def integer : Scanner Int := do
  let i ← based "0x" 16 <|> based "0o" 8 <|> based "0b" 2 <|> decimalInteger
  if -0x8000000000000000 ≤ i && i < 0x8000000000000000 then return i else failure

/-- Digits after a point. -/
def fraction : Scanner (List Char) := do
  mark '.'
  return '.' :: (← digits Char.isDigit)

/-- An exponent after its mark. -/
def exponent : Scanner (List Char) := do
  let _ ← char fun c => c == 'e' || c == 'E'
  let s ← sign
  return 'e' :: s ++ (← digits Char.isDigit)

/-- Digits after a point, an exponent, or both. -/
def scale : Scanner (List Char) :=
  exponent <|> do return (← fraction) ++ ((← optional exponent).getD [])

/-- The number of a decimal text. What is below all numbers is negative infinity, but nothing is
above them. -/
def ofDecimal? (cs : List Char) : Option Binary64 :=
  match Decimal.readFinite? cs with
  | some x => some (.finite x)
  | none => if cs.head? == some '-' then some (.infinite true) else none

/-- A number with a point or an exponent. -/
def decimalFloat : Scanner Binary64 := do
  let cs := (← decimal) ++ (← scale)
  (ofDecimal? cs).elim failure pure

/-- The names of what is no finite number. -/
def specialFloat : Scanner Binary64 := do
  let s ← sign
  (do word "inf"; return .infinite (s == ['-'])) <|> (do word "nan"; return .nan)

/-- A number that is no integer. -/
def float : Scanner Binary64 :=
  decimalFloat <|> specialFloat

/-! ## Dates and times -/

/-- So many digits. -/
def fixed : (count : Nat) → Scanner (List Char)
  | 0 => pure []
  | count + 1 => do return (← char Char.isDigit) :: (← fixed count)

/-- A number of so many digits, between two bounds. -/
def bounded (count low high : Nat) : Scanner Nat := do
  let n := (← fixed count).foldl (fun n c => n * 10 + (c.toNat - 48)) 0
  if low ≤ n && n ≤ high then return n else failure

/-- A number filled up with zeros to so many digits. -/
def zeroPadded (count n : Nat) : List Char :=
  let ds := Decimal.natChars n
  List.replicate (count - ds.length) '0' ++ ds

/-- A date that exists. -/
def date : Scanner (List Char) := do
  let year ← bounded 4 0 9999
  mark '-'
  let month ← bounded 2 1 12
  mark '-'
  let day ← bounded 2 1 31
  if ((Instant.monthLengths year)[month - 1]?).any (day ≤ ·) then
    return zeroPadded 4 year ++ '-' :: zeroPadded 2 month ++ '-' :: zeroPadded 2 day
  else failure

/-- The digits after the point of a second. No more than nine count, and none of the zeros at the
end. -/
def secondFraction : Scanner (List Char) := do
  mark '.'
  let ds ← run Char.isDigit
  if ds.isEmpty then failure
  let kept := ((ds.take 9).reverse.dropWhile (· == '0')).reverse
  return if kept.isEmpty then [] else '.' :: kept

/-- A time of day. -/
def time : Scanner (List Char) := do
  let hour ← bounded 2 0 23
  mark ':'
  let minute ← bounded 2 0 59
  mark ':'
  let second ← bounded 2 0 60
  let rest := (← optional secondFraction).getD []
  return zeroPadded 2 hour ++ ':' :: zeroPadded 2 minute ++ ':' :: zeroPadded 2 second ++ rest

/-- The distance of local time from UTC. None at all has a plus sign. -/
def distance : Scanner (List Char) := do
  let c ← char fun c => c == '+' || c == '-'
  let hours ← bounded 2 0 23
  mark ':'
  let minutes ← bounded 2 0 59
  let shown := if hours == 0 && minutes == 0 then '+' else c
  return shown :: zeroPadded 2 hours ++ ':' :: zeroPadded 2 minutes

/-- The offset of local time. -/
def offset : Scanner (List Char) :=
  (do let _ ← char (fun c => c == 'Z' || c == 'z'); return ['Z']) <|> distance

/-- A time of day after a date, and its offset if there is one. -/
def timeAfterDate : Scanner (List Char) := do
  let _ ← char fun c => c == 'T' || c == 't' || c == ' '
  let t ← time
  return 'T' :: t ++ ((← optional offset).getD [])

/-- A date, a time or both. -/
def moment : Scanner String :=
  (do
    let d ← date
    return String.ofList (d ++ ((← optional timeAfterDate).getD []))) <|>
  String.ofList <$> time

end CollectionArchive.Toml.Scanner
