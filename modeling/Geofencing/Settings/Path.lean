import Geofencing.Number.Integer

/-!
# Paths of settings

The name of a setting may be a path: a first name, then steps into a table, `.name`, or into a
list, `[number]`. Names consist of ASCII letters, digits, blanks, underscores and hyphens. A number
below zero counts from the end of the list. A name that spells no path stands for itself.
-/

namespace Geofencing.Settings

/-- One step of a path. -/
inductive Step where
  /-- Into the entry of a table. -/
  | entry (name : String)
  /-- To the item of a list. -/
  | item (index : Int)
  deriving DecidableEq, Repr

namespace Path

/-- Whether a character may stand in a name. -/
def isNameChar (c : Char) : Bool :=
  c.isAlphanum || c == ' ' || c == '_' || c == '-'

/-- Whether a character may stand around the number of an item. -/
def isPad (c : Char) : Bool :=
  c == ' ' || c == '\t'

/-- The name at the front of a text, which is not empty, and what follows it. -/
def name? (cs : List Char) : Option (String × List Char) :=
  match cs.takeWhile isNameChar with
  | [] => none
  | name => some (String.ofList name, cs.dropWhile isNameChar)

/-- The number of an item, its closing bracket included, and what follows it. -/
def index? (cs : List Char) : Option (Int × List Char) :=
  let cs := cs.dropWhile isPad
  let sign := if cs.head? = some '-' then ['-'] else []
  let cs := cs.drop sign.length
  match (cs.dropWhile Char.isDigit).dropWhile isPad with
  | ']' :: rest =>
    if cs.head?.any Char.isDigit then
      (Integer.read? Width.int64Min Width.int64Max (sign ++ cs.takeWhile Char.isDigit)).map (·, rest)
    else none
  | _ => none

/-- The steps after the first name of a path. Every step takes up at least one character, so as many
steps as there are characters suffice. -/
def steps? : (fuel : Nat) → List Char → Option (List Step)
  | _, [] => some []
  | fuel + 1, '.' :: rest => do
    let (name, rest) ← name? rest
    return .entry name :: (← steps? fuel rest)
  | fuel + 1, '[' :: rest => do
    let (index, rest) ← index? rest
    return .item index :: (← steps? fuel rest)
  | _, _ => none

end Path

/-- The path that a name spells, or else the name itself as a single step. -/
def path (name : String) : List Step :=
  let spelled := do
    let (first, rest) ← Path.name? name.toList
    return Step.entry first :: (← Path.steps? rest.length rest)
  spelled.getD [.entry name]

end Geofencing.Settings
