import Geofencing.Json.Value

/-!
# Trees of JSON text

The tree of a text shows its members and items in the order in which they stand and remembers the
first place where the text stops being JSON. What reads a tree from left to right therefore meets
the same first fault as a reader of the text itself.
-/

namespace Geofencing.Json

/-- What a JSON text looks like up to its first fault. A numeral is excessive when it is well formed
but lies beyond the largest number, and a quoted text is garbled when it stands for no text: it has
half of a surrogate pair in it, or bytes that make up no character. A member
whose name is garbled has none. -/
inductive Tree where
  /-- No value stands here. -/
  | fault
  /-- The word `null`. -/
  | null
  /-- The words `true` and `false`. -/
  | bool (value : Bool)
  /-- A numeral. -/
  | number (value : Number)
  /-- A numeral that is too large for any number; `ended` if that shows only at its last digit. -/
  | excessive (ended : Bool)
  /-- A quoted text. -/
  | text (value : String)
  /-- A quoted text that stands for none; `ended` if that shows only at its closing quote. -/
  | garbled (ended : Bool)
  /-- An array; `closed` is false if no further item or end follows the items that were read. -/
  | array (items : List Tree) (closed : Bool)
  /-- An object; `closed` is false if no further member or end follows the members that were
  read. -/
  | object (members : List (Option String × Tree)) (closed : Bool)

namespace Tree

mutual

/-- The tree of a value's own written form. -/
def ofJson : Json → Tree
  | .null => .null
  | .bool b => .bool b
  | .num n => .number n
  | .str s => .text s
  | .arr items => .array (ofItems items) true
  | .obj members => .object (ofMembers members) true

/-- The trees of array items. -/
def ofItems : List Json → List Tree
  | [] => []
  | j :: rest => ofJson j :: ofItems rest

/-- The trees of object members. -/
def ofMembers : List (String × Json) → List (Option String × Tree)
  | [] => []
  | (k, v) :: rest => (some k, ofJson v) :: ofMembers rest

end

mutual

/-- Whether the text of a tree is JSON throughout, whatever its leaves stand for. -/
def wellFormed : Tree → Bool
  | .fault => false
  | .null | .bool _ | .number _ | .excessive _ | .text _ | .garbled _ => true
  | .array items closed => itemsWellFormed items && closed
  | .object members closed => membersWellFormed members && closed

/-- Whether all items are JSON throughout. -/
def itemsWellFormed : List Tree → Bool
  | [] => true
  | t :: rest => wellFormed t && itemsWellFormed rest

/-- Whether all members are JSON throughout. -/
def membersWellFormed : List (Option String × Tree) → Bool
  | [] => true
  | (_, t) :: rest => wellFormed t && membersWellFormed rest

end

end Tree

end Geofencing.Json
