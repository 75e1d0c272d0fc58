import Geofencing.Number.Integer

/-!
# Socket addresses

An address to listen on: four decimal bytes, or eight hexadecimal groups in square brackets, each
followed by a port.
-/

namespace Geofencing

/-- A socket address. -/
inductive SocketAddress where
  /-- Four bytes and a port. -/
  | v4 (bytes : List Nat) (port : Nat)
  /-- Eight groups of 16 bits, a zone and a port. -/
  | v6 (groups : List Nat) (zone port : Nat)
  deriving DecidableEq, Repr

namespace SocketAddress

/-- The value of a digit in a base up to sixteen. -/
def digit? (base : Nat) (c : Char) : Option Nat :=
  (Hex.digit? c).filter fun d => d < base

/-- The digits in front, and what follows them. -/
def spanDigits (base : Nat) : List Char → List Nat × List Char
  | [] => ([], [])
  | c :: rest =>
    match digit? base c with
    | some d => (d :: (spanDigits base rest).1, (spanDigits base rest).2)
    | none => ([], c :: rest)

/-- The number that digits spell. -/
def ofDigits (base : Nat) (ds : List Nat) : Nat :=
  ds.foldl (fun acc d => acc * base + d) 0

/-- One byte: up to three decimal digits, without a leading zero. -/
def byte? (cs : List Char) : Option (Nat × List Char) :=
  let (ds, rest) := spanDigits 10 cs
  if ds.isEmpty || 3 < ds.length || (ds.head? == some 0 && 1 < ds.length) then none
  else if ofDigits 10 ds < 256 then some (ofDigits 10 ds, rest)
  else none

/-- Skip one given character. -/
def skip? (c : Char) : List Char → Option (List Char)
  | [] => none
  | d :: rest => if c = d then some rest else none

/-- Four bytes separated by points. -/
def bytes? (cs : List Char) : Option (List Nat × List Char) := do
  let (a, cs) ← byte? cs
  let (b, cs) ← byte? (← skip? '.' cs)
  let (c, cs) ← byte? (← skip? '.' cs)
  let (d, cs) ← byte? (← skip? '.' cs)
  return ([a, b, c, d], cs)

/-- One group: one to four hexadecimal digits. -/
def group? (cs : List Char) : Option (Nat × List Char) :=
  let (ds, rest) := spanDigits 16 cs
  if ds.isEmpty || 4 < ds.length then none else some (ofDigits 16 ds, rest)

/-- The colon in front of every group but the first. -/
def separated? (first : Bool) (cs : List Char) : Option (List Char) :=
  if first then some cs else skip? ':' cs

/-- Up to `limit` groups separated by colons; the last two may be written as four bytes, which
ends them. Whether they were is part of the answer. -/
def groups (first : Bool) : (limit : Nat) → List Char → List Nat × Bool × List Char
  | 0, cs => ([], false, cs)
  | limit + 1, cs =>
    let embedded := if 0 < limit then (separated? first cs).bind bytes? else none
    match embedded with
    | some ([a, b, c, d], rest) => ([a * 256 + b, c * 256 + d], true, rest)
    | _ =>
      match (separated? first cs).bind group? with
      | none => ([], false, cs)
      | some (g, rest) =>
        let (gs, ended, rest) := groups false limit rest
        (g :: gs, ended, rest)

/-- Eight groups, where two colons stand for one or more groups of zero. -/
def eight? (cs : List Char) : Option (List Nat × List Char) :=
  let (head, ended, rest) := groups true 8 cs
  if head.length = 8 then some (head, rest)
  else if ended then none
  else do
    let rest ← skip? ':' (← skip? ':' rest)
    let (tail, _, rest) := groups true (7 - head.length) rest
    return (head ++ List.replicate (8 - head.length - tail.length) 0 ++ tail, rest)

/-- A decimal number below a limit, at the end or before anything else. -/
def number? (limit : Nat) (cs : List Char) : Option (Nat × List Char) :=
  let (ds, rest) := spanDigits 10 cs
  if !ds.isEmpty && ofDigits 10 ds < limit then some (ofDigits 10 ds, rest) else none

/-- A port at the end. -/
def port? (cs : List Char) : Option Nat := do
  let (port, rest) ← number? 65536 (← skip? ':' cs)
  if rest.isEmpty then some port else none

/-- A zone, zero if there is none. -/
def zone (cs : List Char) : Nat × List Char :=
  match (skip? '%' cs).bind (number? 4294967296) with
  | some r => r
  | none => (0, cs)

/-- The address that characters spell. -/
def ofChars? (cs : List Char) : Option SocketAddress :=
  let short : Option SocketAddress := do
    let (bytes, rest) ← bytes? cs
    return .v4 bytes (← port? rest)
  let long : Option SocketAddress := do
    let (groups, rest) ← eight? (← skip? '[' cs)
    let (zone, rest) := zone rest
    return .v6 groups zone (← port? (← skip? ']' rest))
  short.orElse fun _ => long

/-- The address that a text spells. -/
def parse? (s : String) : Option SocketAddress :=
  ofChars? s.toList

/-- Texts joined by a separator. -/
def joined (separator : String) (texts : List String) : String :=
  separator.intercalate texts

/-- The text of four bytes. -/
def bytesText (bytes : List Nat) : String :=
  joined "." (bytes.map toString)

/-- The text of groups. -/
def groupsText (groups : List Nat) : String :=
  joined ":" (groups.map fun g => String.ofList (Nat.toDigits 16 g))

/-- The length of the run of zeros in front. -/
def zeroRun (groups : List Nat) : Nat :=
  (groups.takeWhile (· == 0)).length

/-- Where the first longest run of zeros starts, and its length. -/
def longestRun (groups : List Nat) : Nat × Nat :=
  (List.range groups.length).foldl
    (fun best i =>
      let n := zeroRun (groups.drop i)
      if best.2 < n then (i, n) else best)
    (0, 0)

/-- The text of eight groups: a mapped four-byte address shows its bytes, and the first longest run
of two zeros or more is left out. -/
def eightText (groups : List Nat) : String :=
  match groups with
  | [0, 0, 0, 0, 0, 0xffff, a, b] =>
    "::ffff:" ++ bytesText [a / 256, a % 256, b / 256, b % 256]
  | groups =>
    let (start, length) := longestRun groups
    if 1 < length then
      groupsText (groups.take start) ++ "::" ++ groupsText (groups.drop (start + length))
    else groupsText groups

/-- The text of an address. -/
def toText : SocketAddress → String
  | .v4 bytes port => bytesText bytes ++ ":" ++ toString port
  | .v6 groups zone port =>
    "[" ++ eightText groups ++ (if zone = 0 then "" else "%" ++ toString zone) ++ "]:" ++
      toString port

end SocketAddress

end Geofencing
