import Geofencing.Text
import Geofencing.Token.Base64

/-!
# Keys as text

A key is handed around as a block of text: its bytes in the standard base64 alphabet between a
`BEGIN` and an `END` line that bear the same label. Header lines may stand before the bytes, and an
empty line ends them.
-/

namespace Geofencing.Pem

open Base64 (Bytes)

/-- Look for a mark, of which `wanted` is still to come; `seen` is what was read so far, the last
character first. Each character is looked at once: one that breaks off a match does not start
another, so a mark is not found at the end of a longer run of its first character. -/
def readUntil (mark : List Char) : (wanted seen : List Char) → List Char →
    Option (List Char × List Char)
  | [], seen, rest => some ((seen.drop mark.length).reverse, rest)
  | _ :: _, _, [] => none
  | w :: wanted, seen, c :: rest =>
    readUntil mark (if c = w then wanted else mark) (c :: seen) rest

/-- The text before a mark and the text after it. -/
def splitAt? (mark : String) (cs : List Char) : Option (List Char × List Char) :=
  readUntil mark.toList mark.toList [] cs

/-- Whether a character is skipped after the first line. -/
def isLineBlank (c : Char) : Bool := c == ' ' || c == '\t' || c == '\n' || c == '\r'

/-- The header lines of a block and what follows them. -/
def splitHeaders (body : List Char) : List Char × List Char :=
  match splitAt? "\n\n" body with
  | some r => r
  | none => (splitAt? "\r\n\r\n" body).getD ([], body)

/-- Whether all header lines have a name, which ends with a colon. -/
def goodHeaders (headers : List Char) : Bool :=
  let lines := Text.splitOn '\n' headers
  let lines := if lines.getLastD [] = [] then lines.dropLast else lines
  lines.all fun line => line.contains ':'

/-- A block of text. -/
structure Block where
  /-- What the block is said to hold. -/
  label : String
  /-- The bytes. -/
  content : Bytes
  deriving DecidableEq

/-- The first block of a text. -/
def parse? (text : String) : Option Block := do
  let (_, rest) ← splitAt? "-----BEGIN " text.toList
  let (label, rest) ← splitAt? "-----" rest
  let (body, rest) ← splitAt? "-----END " (rest.dropWhile isLineBlank)
  let (closing, _) ← splitAt? "-----" rest
  let (headers, data) := splitHeaders body
  if label.isEmpty || label != closing || !goodHeaders headers then none
  else
    let content ← Base64.decodePadded (data.filter fun c => !Text.isBlank c)
    return ⟨String.ofList label, content⟩

end Geofencing.Pem
