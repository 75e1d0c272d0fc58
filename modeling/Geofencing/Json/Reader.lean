import Geofencing.Json.Tree
import Geofencing.Text

/-!
# Reading JSON text

`Reader.value` turns the bytes of a text into a `Tree` and returns what follows it. It never fails:
where the text is no JSON the tree says so. Each byte is looked at as the character with its number;
only within quotes may there be others than ASCII characters, and there the bytes are put together
to characters at the closing quote.
-/

namespace Geofencing.Json.Reader

/-- Drop blanks, tabs and line ends. -/
def skip (cs : List Char) : List Char :=
  cs.dropWhile fun c => c = ' ' || c = '\n' || c = '\t' || c = '\r'

/-- The value of a decimal digit. -/
def digit? (c : Char) : Option Nat :=
  if '0' ≤ c ∧ c ≤ '9' then some (c.toNat - '0'.toNat) else none

/-- The digits at the front of a text and what follows them. -/
def digits : List Char → List Nat × List Char
  | [] => ([], [])
  | c :: rest =>
    match digit? c with
    | some d => let (ds, tail) := digits rest; (d :: ds, tail)
    | none => ([], c :: rest)

/-- One element of a quoted text: a byte, or a 16-bit unit given by an escape. -/
inductive Element where
  /-- A byte. -/
  | byte (value : UInt8)
  /-- The unit of a `\u` escape. -/
  | unit (value : Nat)

/-- The character that a one-letter escape stands for. -/
def escaped? : Char → Option Char
  | '"' => some '"'
  | '\\' => some '\\'
  | '/' => some '/'
  | 'b' => some '\x08'
  | 'f' => some '\x0c'
  | 'n' => some '\n'
  | 'r' => some '\r'
  | 't' => some '\t'
  | _ => none

/-- The elements of a quoted text up to its closing quote, and what follows it. Control characters
and unknown escapes are refused. -/
def elements : List Char → Option (List Element × List Char)
  | [] => none
  | '"' :: rest => some ([], rest)
  | '\\' :: 'u' :: a :: b :: c :: d :: rest => do
    let a ← Hex.digit? a
    let b ← Hex.digit? b
    let c ← Hex.digit? c
    let d ← Hex.digit? d
    let (es, tail) ← elements rest
    return (.unit (((a * 16 + b) * 16 + c) * 16 + d) :: es, tail)
  | '\\' :: c :: rest => do
    let c ← escaped? c
    let (es, tail) ← elements rest
    return (.byte c.toUInt8 :: es, tail)
  | c :: rest =>
    if c.toNat < 32 || c == '\\' then none
    else do
      let (es, tail) ← elements rest
      return (.byte c.toUInt8 :: es, tail)

/-- Whether a unit is the leading half of a surrogate pair. -/
def isLeading (u : Nat) : Bool := 0xD800 ≤ u && u < 0xDC00

/-- Whether a unit is the trailing half of a surrogate pair. -/
def isTrailing (u : Nat) : Bool := 0xDC00 ≤ u && u < 0xE000

/-- The character of a surrogate pair. -/
def pairChar (u v : Nat) : Char :=
  Char.ofNat (0x10000 + (u - 0xD800) * 0x400 + (v - 0xDC00))

/-- Join the elements of a quoted text; a unit of a surrogate pair needs its other half. If it is
missing, the result tells whether that shows only at the closing quote. -/
def join : List Element → Except Bool (List UInt8)
  | [] => .ok []
  | .byte b :: rest => (join rest).map (b :: ·)
  | .unit u :: rest =>
    if isTrailing u then .error false
    else if isLeading u then
      match rest with
      | .unit v :: rest' =>
        if isTrailing v then (join rest').map (String.utf8EncodeChar (pairChar u v) ++ ·)
        else .error false
      | _ => .error rest.isEmpty
    else (join rest).map (String.utf8EncodeChar (Char.ofNat u) ++ ·)

/-- What the elements of a quoted text stand for. -/
def textOf (es : List Element) : Tree :=
  match join es with
  | .error ended => .garbled ended
  | .ok bytes => (Utf8.decode? bytes).elim (.garbled true) .text

/-- The name that the elements of a quoted text stand for. -/
def nameOf (es : List Element) : Option String :=
  (join es).toOption.bind Utf8.decode?

/-- The exponent part of a numeral: `none` if it is malformed, an absent part is `some none`. -/
def exponentPart : List Char → Option (Option (Bool × List Nat) × List Char)
  | c :: rest =>
    if c = 'e' ∨ c = 'E' then
      let (negative, rest) :=
        match rest with
        | '-' :: r => (true, r)
        | '+' :: r => (false, r)
        | r => (false, r)
      match digits rest with
      | ([], _) => none
      | (ds, tail) => some (some (negative, ds), tail)
    else some (none, c :: rest)
  | [] => some (none, [])

/-- The fraction part of a numeral: `none` if it is malformed, an absent part is `some none`. -/
def fractionPart : List Char → Option (Option (List Nat) × List Char)
  | '.' :: rest =>
    match digits rest with
    | ([], _) => none
    | (ds, tail) => some (some ds, tail)
  | cs => some (none, cs)

/-- A numeral without sign: an integer part without leading zeros, a fraction and an exponent. -/
def unsigned (negative : Bool) (cs : List Char) : Option (Numeral × List Char) := do
  let (whole, rest) := digits cs
  if whole.isEmpty || (whole.head? == some 0 && 1 < whole.length) then none
  else
    let (fraction, rest) ← fractionPart rest
    let (exponent, rest) ← exponentPart rest
    return (⟨negative, whole, fraction, exponent⟩, rest)

/-- A numeral. -/
def numeral : List Char → Option (Numeral × List Char)
  | '-' :: rest => unsigned true rest
  | cs => unsigned false cs

/-- What a numeral stands for. -/
def numberOf (n : Numeral) : Tree :=
  n.value?.elim (.excessive n.readToEnd) .number

/-- The tree at the front of a text, and what follows it unless a fault was met. -/
abbrev Result := Tree × Option (List Char)

/-- A value that is no container, starting at its first character. -/
def scalar : List Char → Result
  | 'n' :: 'u' :: 'l' :: 'l' :: rest => (.null, some rest)
  | 't' :: 'r' :: 'u' :: 'e' :: rest => (.bool true, some rest)
  | 'f' :: 'a' :: 'l' :: 's' :: 'e' :: rest => (.bool false, some rest)
  | '"' :: rest =>
    match elements rest with
    | some (es, tail) => (textOf es, some tail)
    | none => (.fault, none)
  | cs =>
    match numeral cs with
    | some (n, tail) => (numberOf n, some tail)
    | none => (.fault, none)

mutual

/-- The value at the front of a text. -/
def value : (fuel : Nat) → List Char → Result
  | 0, _ => (.fault, none)
  | fuel + 1, cs =>
    match skip cs with
    | '[' :: rest =>
      let ((ts, closed), tail) := items fuel true rest
      (.array ts closed, tail)
    | '\x7b' :: rest =>
      let ((ms, closed), tail) := members fuel true rest
      (.object ms closed, tail)
    | cs => scalar cs

/-- The items of an array and its end; `first` if no item has been read yet. -/
def items : (fuel : Nat) → (first : Bool) → List Char → (List Tree × Bool) × Option (List Char)
  | 0, _, _ => (([], false), none)
  | fuel + 1, first, cs =>
    match skip cs with
    | ']' :: rest => if first then (([], true), some rest) else (([], false), none)
    | cs =>
      match value fuel cs with
      | (t, none) => (([t], false), none)
      | (t, some rest) =>
        match skip rest with
        | ',' :: rest =>
          let ((ts, closed), tail) := items fuel false rest
          ((t :: ts, closed), tail)
        | ']' :: rest => (([t], true), some rest)
        | _ => (([t], false), none)

/-- The members of an object and its end; `first` if no member has been read yet. -/
def members : (fuel : Nat) → (first : Bool) → List Char →
    (List (Option String × Tree) × Bool) × Option (List Char)
  | 0, _, _ => (([], false), none)
  | fuel + 1, first, cs =>
    match skip cs with
    | '\x7d' :: rest => if first then (([], true), some rest) else (([], false), none)
    | '"' :: rest =>
      match elements rest with
      | none => (([], false), none)
      | some (es, rest) =>
        let key := nameOf es
        match skip rest with
        | ':' :: rest =>
          match value fuel rest with
          | (t, none) => (([(key, t)], false), none)
          | (t, some rest) =>
            match skip rest with
            | ',' :: rest =>
              let ((ms, closed), tail) := members fuel false rest
              (((key, t) :: ms, closed), tail)
            | '\x7d' :: rest => (([(key, t)], true), some rest)
            | _ => (([(key, t)], false), none)
        | _ => (([(key, .fault)], false), none)
    | _ => (([], false), none)

end

/-- Enough steps for every value that a text of `n` bytes can hold. -/
def steps (n : Nat) : Nat := 2 * n + 2

/-- The tree of a whole text given as bytes, and what follows its value. -/
def read (bytes : List UInt8) : Result :=
  value (steps bytes.length) (bytes.map fun b => Char.ofNat b.toNat)

end Geofencing.Json.Reader
