import Geofencing.Json.Value
import Geofencing.Settings.Path
import Geofencing.Text

/-!
# Layers of settings

Settings come in layers, each of which overrides the ones below it. Tables are merged entry by
entry; any other value, lists included, replaces what it covers. Names count in any case, except
within lists, which are kept as they are. The names of a layer may be paths, and then only what the
path leads to is overridden.
-/

namespace Geofencing.Settings

/-- The entries of a table; anything else has none. -/
def entries : Json → List (String × Json)
  | .obj members => members
  | _ => []

/-- The items of a list; anything else has none. -/
def items : Json → List Json
  | .arr items => items
  | _ => []

mutual

/-- Lay a value over another one. A table without entries changes nothing. -/
def overlay (under : Json) : Json → Json
  | .obj members => overlayEntries under members
  | v => v

/-- Lay the entries of a table over a value; what is no table gives way to one. -/
def overlayEntries (under : Json) : List (String × Json) → Json
  | [] => under
  | (name, value) :: rest =>
    let name := Text.inSmall name
    let covered := ((entries under).lookup name).getD (.obj [])
    overlayEntries (.obj (Json.insertMember name (overlay covered value) (entries under))) rest

end

/-- A list has to have fewer items than this. -/
def maxItems : Nat := twoTo 56

/-- The place of an item in a list of a given length. A place before the first one does not exist,
nor does one that no list can reach. -/
def place? (index : Int) (length : Nat) : Option Nat :=
  if 0 ≤ index then some index.toNat |>.filter (· < maxItems)
  else if index.natAbs ≤ length then some (length - index.natAbs)
  else none

/-- Put an item in its place, filling up with empty items before it. -/
def putItem (place : Nat) (value : Json) (list : List Json) : List Json :=
  (list ++ List.replicate (place + 1 - list.length) Json.null).set place value

/-- Set what a path leads to. A step into a table makes a table of anything else, and a step into a
list a list. An entry at the end of a path is laid over what was there before, an item replaces it
as it is. It fails on an item that cannot exist. -/
def assign (value : Json) : List Step → Json → Option Json
  | [], under => some (overlay under value)
  | .entry name :: rest, under =>
    (assign value rest (((entries under).lookup name).getD (.obj []))).map fun v =>
      .obj (Json.insertMember name v (entries under))
  | .item index :: rest, under => do
    let place ← place? index (items under).length
    let v ←
      if rest.isEmpty then some value else assign value rest ((items under).getD place .null)
    return .arr (putItem place v (items under))

/-- A layer of settings: paths and what they are set to. -/
abbrev Layer := List (List Step × Json)

/-- The layer of a file, whose root has to be a table. -/
def fileLayer? (file : Json) : Option Layer :=
  match file with
  | .obj members => some (members.map fun m => (path (Text.inSmall m.1), m.2))
  | _ => none

/-- What the names of all variables of the service start with. -/
def variableStart : List Char := ['g', 'f', '_', '_']

/-- Read two underscores in a row as a point. -/
def joinLevels : List Char → List Char
  | '_' :: '_' :: rest => '.' :: joinLevels rest
  | c :: rest => c :: joinLevels rest
  | [] => []

/-- The layer of one environment variable, if it is one of the service. Its name counts in any
case, and two underscores separate the levels. -/
def variableLayer? (name value : String) : Option (List Step × Json) :=
  let cs := (Text.inSmall name).toList
  if variableStart.isPrefixOf cs then
    some (path (String.ofList (joinLevels (cs.drop variableStart.length))), .str value)
  else none

/-- Lay a layer over settings. -/
def Layer.over (layer : Layer) (under : Json) : Option Json :=
  layer.foldlM (fun under (steps, value) => assign value steps under) under

end Geofencing.Settings
