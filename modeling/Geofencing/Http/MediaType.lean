import Geofencing.Http.Message

/-!
# Media types

Which media types announce a JSON body: `application/json`, and any application type whose name
ends in `+json`. Parameters may follow, and they have to be well formed.
-/

namespace Geofencing.Http.MediaType

/-- Whether a character may stand between quotes. -/
def isQuotable (c : Char) : Bool :=
  31 < c.toNat && c.toNat != 127

/-- Where the reading of parameters stands. -/
inductive Place where
  /-- Before the name of a parameter. -/
  | start
  /-- In the name of a parameter. -/
  | name
  /-- Before the value of a parameter. -/
  | equals
  /-- In a value without quotes. -/
  | value
  /-- Right after an opening quote. -/
  | opened
  /-- In a quoted value. -/
  | quoted
  /-- After a quoted value. -/
  | closed
  deriving DecidableEq, Repr

namespace Place

/-- Read on by one character. A quoted value has at least one character, which may be a quote. -/
def next (c : Char) : Place → Option Place
  | .start => if c = ' ' then some .start else if isToken c then some .name else none
  | .name => if c = '=' then some .equals else if isToken c then some .name else none
  | .equals => if c = '"' then some .opened else if isToken c then some .value else none
  | .value => if c = ';' then some .start else if isToken c then some .value else none
  | .opened => if isQuotable c then some .quoted else none
  | .quoted => if c = '"' then some .closed else if isQuotable c then some .quoted else none
  | .closed => if c = ';' then some .start else if c = ' ' then some .closed else none

/-- Whether parameters may end here. -/
def mayEnd : Place → Bool
  | .start | .equals | .value | .closed => true
  | .name | .opened | .quoted => false

/-- Whether the rest of the parameters is well formed. -/
def accepts : Place → List Char → Bool
  | p, [] => p.mayEnd
  | p, c :: rest =>
    match p.next c with
    | some p' => p'.accepts rest
    | none => false

end Place

/-- Whether what follows the type is well formed: nothing, or parameters after a semicolon. -/
def goodEnd : List Char → Bool
  | [] => true
  | c :: rest => c == ';' && Place.start.accepts rest

/-- The subtype before its last plus sign and the suffix after it; a plus sign in front does not
count. -/
def subtypeParts (subtype : List Char) : List Char × Option (List Char) :=
  let suffix := (subtype.reverse.takeWhile (· != '+')).reverse
  if suffix.length + 1 < subtype.length then
    (subtype.take (subtype.length - suffix.length - 1), some suffix)
  else (subtype, none)

/-- Whether a subtype announces JSON. -/
def isJsonSubtype (subtype : List Char) : Bool :=
  let (main, suffix) := subtypeParts (subtype.map Text.small)
  main == "json".toList || suffix == some "json".toList

/-- Whether a media type announces a JSON body. -/
def isJson (cs : List Char) : Bool :=
  match Text.cut '/' cs with
  | (_, none) => false
  | (main, some rest) =>
    main.map Text.small == "application".toList &&
      isJsonSubtype (rest.takeWhile isToken) && goodEnd (rest.dropWhile isToken)

end Geofencing.Http.MediaType
