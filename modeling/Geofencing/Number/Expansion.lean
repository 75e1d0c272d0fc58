/-!
# Sums of binary64 numbers without loss

Rounding takes something away from a sum, a difference or a product, and what it takes away is
again a binary64 number as long as nothing overflows or underflows. A number can therefore be kept
as an *expansion*: a list of binary64 numbers, from the smallest to the largest, whose exact sum is
the number. Its last component has the sign of the whole.

The operations are defined on all numbers. Beyond the range of binary64 the components become
infinite or NaN, and then so does what is computed from them.
-/

namespace Geofencing.Expansion

/-- A rounded result together with what rounding took away from it. -/
structure Rounded where
  /-- The rounded result. -/
  value : Float
  /-- The exact result less the rounded one. -/
  error : Float

/-- What rounding takes away from the difference `x` of `a` and `b`. -/
def differenceError (a b x : Float) : Float :=
  let subtracted := a - x
  let kept := x + subtracted
  (a - kept) + (subtracted - b)

/-- The difference of two numbers. -/
def difference (a b : Float) : Rounded :=
  ⟨a - b, differenceError a b (a - b)⟩

/-- The sum of two numbers. -/
def sum (a b : Float) : Rounded :=
  let x := a + b
  let added := x - a
  let kept := x - added
  ⟨x, (a - kept) + (b - added)⟩

/-- The sum of two numbers of which the first is not the smaller one in magnitude. -/
def sumOrdered (a b : Float) : Rounded :=
  let x := a + b
  ⟨x, b - (x - a)⟩

/-- A number as the sum of a leading and a trailing half, each with at most 26 significant bits. -/
def halves (a : Float) : Float × Float :=
  let c := 134217729.0 * a
  let leading := c - (c - a)
  (leading, a - leading)

/-- The product of two numbers. -/
def product (a b : Float) : Rounded :=
  let x := a * b
  let (aHigh, aLow) := halves a
  let (bHigh, bLow) := halves b
  ⟨x, aLow * bLow - (((x - aHigh * bHigh) - aLow * bHigh) - aHigh * bLow)⟩

/-- The difference `p - q` of two rounded results, errors included. -/
def ofDifference (p q : Rounded) : List Float :=
  let lowest := difference p.error q.error
  let low := sum p.value lowest.value
  let middle := difference low.error q.value
  let high := sum low.value middle.value
  [lowest.error, middle.error, high.error, high.value]

/-- The determinant `a * d - b * c`. -/
def determinant (a b c d : Float) : List Float :=
  ofDifference (product a d) (product b c)

/-- Add a list of numbers to a running sum, from the smallest to the largest; components that are
zero are left out, unless nothing else is left. -/
def sweep (running : Float) (components : List Float) : List Float → List Float
  | [] =>
    if running != 0.0 || components.isEmpty then (running :: components).reverse
    else components.reverse
  | x :: rest =>
    let s := sum running x
    sweep s.value (if s.error != 0.0 then s.error :: components else components) rest

/-- Whether a component is to be added before another one because it is not larger. -/
def comesFirst (x y : Float) : Bool :=
  decide (y > x) == decide (y > -x)

/-- The sum of two expansions. The first two components are added in the order of their size when
both expansions have more to come. -/
def add (e f : List Float) : List Float :=
  match e, f with
  | [], f => f
  | e, [] => e
  | x :: e', y :: f' =>
    let first := comesFirst x y
    match List.merge (x :: e') (y :: f') comesFirst with
    | smallest :: next :: rest =>
      if (first && !e'.isEmpty) || (!first && !f'.isEmpty) then
        let s := sumOrdered next smallest
        sweep s.value (if s.error != 0.0 then [s.error] else []) rest
      else sweep smallest [] (next :: rest)
    | few => few

/-- The rounded value of an expansion. -/
def estimate : List Float → Float
  | [] => 0.0
  | x :: rest => rest.foldl (· + ·) x

/-- The largest component, which has the sign of the whole. -/
def largest (e : List Float) : Float :=
  e.getLastD 0.0

end Geofencing.Expansion
