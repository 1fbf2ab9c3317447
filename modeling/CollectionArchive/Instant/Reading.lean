import CollectionArchive.Instant.Basic
import CollectionArchive.Text.Utf8

/-!
# Instants in RFC 3339

A date, a time of day and the offset of the local time from UTC: `2020-09-13T12:26:40.5+05:30`.

* `Instant.dayNumber?`: the days since the start of 1970, for dates that exist.
* `Instant.parse`: reads the text form.
* `Instant.Fault`: what is wrong with a text; the first fault in reading order is reported.
-/

namespace CollectionArchive.Instant

/-! ## The calendar -/

/-- Every fourth year is a leap year, but of the centuries only every fourth. -/
def isLeapYear (year : Nat) : Bool :=
  year % 4 == 0 && (year % 100 != 0 || year % 400 == 0)

/-- The lengths of the months. -/
def monthLengths (year : Nat) : List Nat :=
  [31, if isLeapYear year then 29 else 28, 31, 30, 31, 30, 31, 31, 30, 31, 30, 31]

/-- The days between the start of the year 0 and that of another. -/
def daysBeforeYear (year : Nat) : Nat :=
  365 * year + (year + 3) / 4 - (year + 99) / 100 + (year + 399) / 400

/-- The days since the start of 1970 of a date that exists. -/
def dayNumber? (year month day : Nat) : Option Int :=
  match (monthLengths year)[month - 1]? with
  | none => none
  | some length =>
    if 1 ≤ month && 1 ≤ day && day ≤ length then
      let before := ((monthLengths year).take (month - 1)).foldl (· + ·) 0
      some ((daysBeforeYear year + before + (day - 1) : Nat) - (daysBeforeYear 1970 : Int))
    else none

/-! ## Reading -/

/-- What is wrong with a text that is no instant. -/
inductive Fault where
  /-- The text ends early. -/
  | premature
  | malformed
  /-- The date, the time or the offset does not exist. -/
  | outOfRange
  /-- The text goes on after the offset. -/
  | trailing
deriving DecidableEq

/-- The wording of a fault. -/
def Fault.message : Fault → String
  | premature => "premature end of input"
  | malformed => "input contains invalid characters"
  | outOfRange => "input is out of range"
  | trailing => "trailing input"

/-- A reader of some of the next bytes. -/
abbrev Scanner := StateT Bytes (Except Fault)

/-- The value of a digit. -/
def digit? (b : UInt8) : Option Nat :=
  if 48 ≤ b && b ≤ 57 then some (b.toNat - 48) else none

/-- Something that exists. -/
def existing {α : Type} (x : Option α) : Scanner α := fun bs =>
  x.elim (.error .outOfRange) fun a => .ok (a, bs)

/-- The next byte, which has to be one that `accepts` allows. -/
def expect (accepts : UInt8 → Bool) : Scanner Unit
  | [] => .error .premature
  | b :: bs => if accepts b then .ok ((), bs) else .error .malformed

/-- The next character, which has to be a given one. -/
def mark (c : Char) : Scanner Unit :=
  expect (· == c.toUInt8)

/-- Two digits. -/
def pair : Scanner Nat
  | a :: b :: bs =>
    match digit? a, digit? b with
    | some high, some low => .ok (high * 10 + low, bs)
    | _, _ => .error .malformed
  | _ => .error .premature

/-- The days of a date. -/
def scanDate : Scanner Int := do
  let century ← pair
  let year ← pair
  mark '-'
  let month ← pair
  mark '-'
  let day ← pair
  existing (dayNumber? (century * 100 + year) month day)

/-- The nanoseconds that digits after a point write, the first of them given. Digits after the ninth
are skipped. -/
def nanosOf (digits : Bytes) : Nat :=
  let ds := (digits.take 9).filterMap digit?
  (ds ++ List.replicate (9 - ds.length) 0).foldl (fun n d => n * 10 + d) 0

/-- The nanoseconds after the seconds, if there is a point. -/
def scanFraction : Scanner Nat
  | 46 :: bs =>
    let (digits, rest) := bs.span fun b => (digit? b).isSome
    match digits, rest with
    | [], [] => .error .premature
    | [], _ :: _ => .error .malformed
    | _ :: _, _ => .ok (nanosOf digits, rest)
  | bs => .ok (0, bs)

/-- The seconds since midnight and the nanoseconds of a time of day that exists. The second 60 is
the second 59 with a billion more nanoseconds. -/
def timeOfDay? (hour minute second nanos : Nat) : Option (Nat × Nat) :=
  if hour < 24 && minute < 60 && second ≤ 60 then
    let start := hour * 3600 + minute * 60
    if second == 60 then some (start + 59, nanos + billion) else some (start + second, nanos)
  else none

/-- A time of day: its seconds since midnight and its nanoseconds. -/
def scanTime : Scanner (Nat × Nat) := do
  let hour ← pair
  mark ':'
  let minute ← pair
  mark ':'
  let second ← pair
  let nanos ← scanFraction
  existing (timeOfDay? hour minute second nanos)

/-- The minutes of an offset. -/
def scanMinutes : Scanner Nat := do
  let minutes ← pair
  existing (if minutes < 60 then some minutes else none)

/-- Whether local time is behind UTC. The minus sign may be U+2212. -/
def scanSign : Scanner Bool
  | [] => .error .premature
  | 0xE2 :: 0x88 :: 0x92 :: bs => .ok (true, bs)
  | b :: bs =>
    if b == '+'.toUInt8 then .ok (false, bs)
    else if b == '-'.toUInt8 then .ok (true, bs)
    else .error .malformed

/-- The seconds by which local time is ahead of UTC, written as hours and minutes. -/
def scanDistance : Scanner Int := do
  let behind ← scanSign
  let hours ← pair
  mark ':'
  let minutes ← scanMinutes
  let seconds : Int := (hours * 3600 + minutes * 60 : Nat)
  return if behind then -seconds else seconds

/-- The seconds by which local time is ahead of UTC. -/
def scanOffset : Scanner Int
  | [] => .error .premature
  | b :: bs =>
    if b == 'Z'.toUInt8 || b == 'z'.toUInt8 then .ok (0, bs) else scanDistance (b :: bs)

/-- The end of the text. -/
def scanEnd : Scanner Unit
  | [] => .ok ((), [])
  | _ :: _ => .error .trailing

/-- An instant, and nothing after it. Offsets are less than a day. -/
def scan : Scanner Instant := do
  let days ← scanDate
  expect fun b => b == 'T'.toUInt8 || b == 't'.toUInt8 || b == ' '.toUInt8
  let (seconds, nanos) ← scanTime
  let offset ← scanOffset
  scanEnd
  if offset.natAbs < 86400 then existing (ofParts? (days * 86400 + seconds - offset) nanos)
  else throw .outOfRange

/-- Reads an instant. A date and a time have at least 19 bytes. -/
def parse (s : String) : Except Fault Instant :=
  let bytes := Bytes.ofText s
  if bytes.length < 19 then .error .premature else (scan bytes).map Prod.fst

end CollectionArchive.Instant
