import Geofencing.Instant.Calendar

/-!
# Instants

An instant is a civil second and the nanoseconds within it. A leap second is counted as more than
one thousand million nanoseconds within the second before it. Instants reach from the year
`-262143` to the year `262142`.
-/

namespace Geofencing

/-- A point in time. -/
structure Instant where
  /-- Seconds since 1970-01-01T00:00:00Z, leap seconds not counted. -/
  seconds : Int
  /-- Nanoseconds since the start of the second; a leap second continues beyond `10 ^ 9`. -/
  nanos : Nat
  deriving DecidableEq, Repr

namespace Instant

/-- The start of 1970. -/
def epoch : Instant := ⟨0, 0⟩

/-- The first second of the year `-262143`. -/
def minSeconds : Int := -8334601228800

/-- The last second of the year `262142`. -/
def maxSeconds : Int := 8210266876799

/-- Whether a second lies within the years that instants reach. -/
def inRange (seconds : Int) : Bool :=
  minSeconds ≤ seconds && seconds ≤ maxSeconds

/-- Whether one instant lies before another. -/
def before (a b : Instant) : Bool :=
  a.seconds < b.seconds || (a.seconds == b.seconds && a.nanos < b.nanos)

/-- Whether one instant lies before another or is the same. -/
def notAfter (a b : Instant) : Bool := !before b a

/-- The instant a number of milliseconds after the epoch, if it is within reach. -/
def ofMillis? (millis : Int) : Option Instant :=
  let seconds := millis / 1000
  if inRange seconds then some ⟨seconds, (millis % 1000).toNat * 1000000⟩ else none

/-- Whole milliseconds since the epoch. -/
def toMillis (t : Instant) : Int :=
  t.seconds * 1000 + t.nanos / 1000000

/-- The instant a number of seconds later, if it is within reach. -/
def addSeconds? (t : Instant) (seconds : Int) : Option Instant :=
  if inRange (t.seconds + seconds) then some ⟨t.seconds + seconds, t.nanos⟩ else none

/-- The same instant without a leap second: what lies in a leap second lies as far in the second
after it. -/
def settle (t : Instant) : Instant :=
  if 1000000000 ≤ t.nanos then ⟨t.seconds + 1, t.nanos - 1000000000⟩ else t

/-- The instant a number of days earlier, if it is within reach. A leap second has no counterpart on
another day. -/
def subDays? (t : Instant) (days : Nat) : Option Instant :=
  if days = 0 then t.addSeconds? 0
  else t.settle.addSeconds? (-(86400 * (days : Int)))

/-- The calendar date of an instant. -/
def date (t : Instant) : Date :=
  Date.ofDays (t.seconds / 86400)

/-- The seconds since midnight. -/
def secondOfDay (t : Instant) : Nat :=
  (t.seconds % 86400).toNat

end Instant

end Geofencing
