import Geofencing.Instant.Basic
import Geofencing.Json.Decode
import Geofencing.Number.Integer
import Geofencing.Text

/-!
# Written instants

Instants are written as an RFC 3339 timestamp in UTC with as few groups of three fraction digits as
suffice, and read from timestamps with any offset, also with single digit fields and blanks between
the parts.
-/

namespace Geofencing.Instant

/-- A number with at least `width` digits. -/
def padded (width n : Nat) : List Char :=
  let ds := Nat.toDigits 10 n
  List.replicate (width - ds.length) '0' ++ ds

/-- A year: four digits up to 9999, else a sign and at least four digits. -/
def yearChars (year : Int) : List Char :=
  if year < 0 then '-' :: padded 4 year.natAbs
  else if 9999 < year then '+' :: padded 4 year.natAbs
  else padded 4 year.natAbs

/-- The fraction of a second: nothing, or three, six or nine digits. -/
def fractionChars (nanos : Nat) : List Char :=
  if nanos = 0 then []
  else if nanos % 1000000 = 0 then '.' :: padded 3 (nanos / 1000000)
  else if nanos % 1000 = 0 then '.' :: padded 6 (nanos / 1000)
  else '.' :: padded 9 nanos

/-- The characters of the timestamp of an instant in UTC. -/
def chars (t : Instant) : List Char :=
  let d := t.date
  let s := t.secondOfDay
  let leap := if t.nanos < 1000000000 then 0 else 1
  yearChars d.year ++ '-' :: (padded 2 d.month ++ '-' :: (padded 2 d.day ++ 'T' ::
    (padded 2 (s / 3600) ++ ':' :: (padded 2 (s / 60 % 60) ++ ':' :: (padded 2 (s % 60 + leap) ++
      (fractionChars (t.nanos - leap * 1000000000) ++ ['Z']))))))

/-- The timestamp of an instant in UTC. -/
def toText (t : Instant) : String :=
  String.ofList t.chars

/-- The number that digits spell. -/
def spell (ds : List Nat) : Nat :=
  ds.foldl (fun acc d => acc * 10 + d) 0

/-- A number of at least one and at most `width` digits, after blanks. -/
def number? (width : Nat) (cs : List Char) : Option (Nat × List Char) :=
  let cs := Text.trimFront cs
  let ds := (Json.Reader.digits cs).1.take width
  if ds.isEmpty then none else some (spell ds, cs.drop ds.length)

/-- A year: at most four digits, or a sign and any number of digits. -/
def year? (cs : List Char) : Option (Int × List Char) :=
  let cs := Text.trimFront cs
  let long (cs : List Char) : Option (Nat × List Char) :=
    let (ds, rest) := Json.Reader.digits cs
    if ds.isEmpty then none else some (spell ds, rest)
  match cs with
  | '-' :: rest => (long rest).map fun (n, tail) => (-(n : Int), tail)
  | '+' :: rest => (long rest).map fun (n, tail) => ((n : Int), tail)
  | cs => (number? 4 cs).map fun (n, tail) => ((n : Int), tail)

/-- A given character after blanks. -/
def mark? (c : Char) (cs : List Char) : Option (List Char) :=
  match Text.trimFront cs with
  | d :: rest => if c = d then some rest else none
  | [] => none

/-- The optional fraction of a second in nanoseconds; digits beyond the ninth are ignored. -/
def fraction? : List Char → Option (Nat × List Char)
  | '.' :: rest =>
    let (ds, tail) := Json.Reader.digits rest
    if ds.isEmpty then none
    else
      let kept := ds.take 9
      some (spell kept * tenTo (9 - kept.length), tail)
  | cs => some (0, cs)

/-- Two digits right at the front. -/
def twoDigits? : List Char → Option (Nat × List Char)
  | a :: b :: rest => do
    let a ← Json.Reader.digit? a
    let b ← Json.Reader.digit? b
    return (a * 10 + b, rest)
  | _ => none

/-- Hours and minutes of an offset after its sign, in seconds. -/
def hoursMinutes? (cs : List Char) : Option (Nat × List Char) := do
  let (hours, rest) ← twoDigits? cs
  let (minutes, rest) ← twoDigits? (rest.dropWhile fun c => c == ':' || Text.isBlank c)
  if minutes < 60 then some (hours * 3600 + minutes * 60, rest) else none

/-- The offset from UTC in seconds: `Z`, `UTC`, or a sign with hours and minutes. -/
def offset? (cs : List Char) : Option (Int × List Char) :=
  let cs := Text.trimFront cs
  if (cs.take 3).map Char.toUpper = ['U', 'T', 'C'] then some (0, cs.drop 3)
  else
    match cs with
    | 'Z' :: rest | 'z' :: rest => some (0, rest)
    | '+' :: rest => (hoursMinutes? rest).map fun (n, tail) => ((n : Int), tail)
    | '-' :: rest | '−' :: rest => (hoursMinutes? rest).map fun (n, tail) => (-(n : Int), tail)
    | _ => none

/-- The fields of a timestamp. -/
structure Fields where
  /-- The local date. -/
  date : Date
  /-- The local hour. -/
  hour : Nat
  /-- The local minute. -/
  minute : Nat
  /-- The second, 60 for a leap second. -/
  second : Nat
  /-- The fraction of the second in nanoseconds. -/
  nanos : Nat
  /-- The offset from UTC in seconds. -/
  offset : Int

/-- The fields of a timestamp that fills the whole text. -/
def fields? (cs : List Char) : Option Fields := do
  let (year, rest) ← year? cs
  let rest ← mark? '-' rest
  let (month, rest) ← number? 2 rest
  let rest ← mark? '-' rest
  let (day, rest) ← number? 2 rest
  let rest ← match rest with
    | 'T' :: r | 't' :: r | ' ' :: r => some r
    | _ => none
  let (hour, rest) ← number? 2 rest
  let rest ← mark? ':' rest
  let (minute, rest) ← number? 2 rest
  let rest ← mark? ':' rest
  let (second, rest) ← number? 2 rest
  let (nanos, rest) ← fraction? rest
  let (offset, rest) ← offset? rest
  if (Text.trimFront rest).isEmpty then
    some ⟨⟨year, month, day⟩, hour, minute, second, nanos, offset⟩
  else none

/-- The instant that the fields describe, if the date and time exist and are within reach. -/
def Fields.instant? (f : Fields) : Option Instant :=
  let wall := f.date.toDays * 86400 + (f.hour * 3600 + f.minute * 60 + min f.second 59 : Nat)
  if f.date.exists? && f.hour < 24 && f.minute < 60 && f.second ≤ 60 && f.offset.natAbs < 86400 &&
      inRange wall && inRange (wall - f.offset) then
    some ⟨wall - f.offset, f.nanos + (if f.second = 60 then 1000000000 else 0)⟩
  else none

/-- Read a timestamp. -/
def parse? (s : String) : Option Instant :=
  (fields? s.toList).bind Fields.instant?

/-- An instant in JSON. -/
def toJson (t : Instant) : Json := .str t.toText

/-- Decode an instant. -/
def decoder : Json.Decoder Instant := Json.Decoder.parsed parse?

end Geofencing.Instant
