import CollectionArchive.Decimal.Binary64

/-!
# Instants

A point in time, as whole seconds since the start of 1970 in UTC and nanoseconds within the second.

* `Instant`: the instants of the supported years. A leap second is the second before it with more
  than a billion nanoseconds.
* `Instant.ofParts?`, `Instant.ofSeconds?`, `Instant.ofDouble?`: instants from numbers.
-/

namespace CollectionArchive

open Binary64 (Finite)

namespace Instant

/-- The first second of the years in use. -/
def earliest : Int := -8334601228800

/-- The last second of the years in use. -/
def latest : Int := 8210266876799

/-- The nanoseconds of a second. -/
def billion : Nat := 1000000000

/-- The seconds in use, and the nanoseconds within one of them. Only the last second of a minute
may be a leap second. -/
def Valid (seconds : Int) (nanos : Nat) : Prop :=
  earliest ≤ seconds ∧ seconds ≤ latest ∧ nanos < 2 * billion ∧
    (nanos < billion ∨ seconds % 60 = 59)

instance (seconds : Int) (nanos : Nat) : Decidable (Valid seconds nanos) :=
  inferInstanceAs (Decidable (_ ∧ _))

end Instant

/-- A point in time. -/
structure Instant where
  seconds : Int
  nanos : Nat
  valid : Instant.Valid seconds nanos
deriving DecidableEq

namespace Instant

/-- The instant of given parts, if they are in use. -/
def ofParts? (seconds : Int) (nanos : Nat) : Option Instant :=
  if h : Valid seconds nanos then some ⟨seconds, nanos, h⟩ else none

/-- The start of a second. -/
def ofSeconds? (seconds : Int) : Option Instant :=
  ofParts? seconds 0

/-- The nanoseconds of a number of seconds after its whole seconds: the difference is rounded, then
its billionfold, and the digits after the point are dropped. A difference that was rounded to a full
second stays below it. -/
def nanosOfDouble? (x : Finite) : Option Nat := do
  let fraction ← x.fraction?
  let scaled ← fraction.mul? (← Finite.ofNat? billion)
  return min scaled.truncate.toNat (billion - 1)

/-- The instant of a number of seconds, whose whole seconds are those below it. -/
def ofDouble? (x : Finite) : Option Instant := do
  ofParts? x.floor (← nanosOfDouble? x)

end Instant

end CollectionArchive
