/-!
# Texts and their characters

What is done with text before it means anything: encoding it as bytes, trimming blanks, writing it
in small letters or capitals, escaping it between quotes, and cutting it at separators.
-/

namespace Geofencing

/-! ## Bytes -/

namespace Utf8

/-- The bytes of characters. -/
def encode (cs : List Char) : List UInt8 :=
  cs.flatMap String.utf8EncodeChar

/-- The text of bytes, if they encode one. -/
def decode? (bytes : List UInt8) : Option String :=
  String.fromUTF8? (ByteArray.mk bytes.toArray)

end Utf8

namespace Text

/-! ## Blanks -/

/-- Whether a character has the Unicode property White_Space: the controls from tab to carriage
return, next line, and all space, line and paragraph separators. -/
def isBlank (c : Char) : Bool :=
  let n := c.toNat
  (9 ≤ n && n ≤ 13) || n == 0x20 || n == 0x85 || n == 0xA0 || n == 0x1680 ||
    (0x2000 ≤ n && n ≤ 0x200A) || n == 0x2028 || n == 0x2029 || n == 0x202F || n == 0x205F ||
    n == 0x3000

/-- The characters without the blanks in front. -/
def trimFront (cs : List Char) : List Char :=
  cs.dropWhile isBlank

/-- The characters without the blanks at either end. -/
def trimChars (cs : List Char) : List Char :=
  (trimFront (trimFront cs).reverse).reverse

/-- The text without the blanks at either end. -/
def trim (s : String) : String :=
  String.ofList (trimChars s.toList)

/-! ## Small letters and capitals

Only ASCII letters matter where cases are folded. Outside of ASCII a few characters turn into them
all the same.
-/

/-- The small form of a character, as far as it is an ASCII letter; any other character stands for
itself. -/
def small (c : Char) : Char :=
  -- The sign for the unit kelvin is the one character beyond ASCII with an ASCII small form.
  if c.toNat = 0x212A then 'k' else c.toLower

/-- A text in small letters, exact wherever the small letters are ASCII letters. -/
def inSmall (s : String) : String :=
  String.ofList (s.toList.map small)

/-- The capital form of a character, as far as it consists of ASCII letters; any other character
stands for itself. -/
def capital (c : Char) : List Char :=
  match c with
  | 'ı' => ['I']
  | 'ſ' => ['S']
  | 'ß' => ['S', 'S']
  | 'ﬀ' => ['F', 'F']
  | 'ﬁ' => ['F', 'I']
  | 'ﬂ' => ['F', 'L']
  | 'ﬃ' => ['F', 'F', 'I']
  | 'ﬄ' => ['F', 'F', 'L']
  | 'ﬅ' => ['S', 'T']
  | 'ﬆ' => ['S', 'T']
  | c => [c.toUpper]

/-- A text in capitals, exact wherever the capitals are ASCII letters. -/
def capitals (s : String) : String :=
  String.ofList (s.toList.flatMap capital)

/-! ## Values of labels -/

/-- A backslash, escaped by another one. -/
def escapedBackslash : List Char := ['\\', '\\']

/-- Escape the characters of a value. A backslash is held back until it is known what follows it;
`held` if there is such a one. -/
def labelChars (held : Bool) : List Char → List Char
  | [] => if held then escapedBackslash else []
  | c :: rest =>
    if c = '\n' then '\\' :: 'n' :: labelChars held rest
    else if c = '"' then '\\' :: '"' :: labelChars false rest
    else
      -- A backslash before a quote or another backslash is taken for an escape already.
      let before := if held then escapedBackslash else []
      if c = '\\' then before ++ labelChars (!held) rest else before ++ c :: labelChars false rest

/-- The value of a label as it is written between quotes: quotes, backslashes and line ends are
escaped. -/
def label (s : String) : String :=
  String.ofList (labelChars false s.toList)

/-! ## Parts -/

/-- The parts between the separators; without a separator there is one part. -/
def splitOn (separator : Char) : List Char → List (List Char)
  | [] => [[]]
  | c :: rest =>
    match splitOn separator rest with
    | [] => [[c]]
    | part :: parts => if c = separator then [] :: part :: parts else (c :: part) :: parts

/-- There is at least one part. -/
theorem splitOn_ne_nil (separator : Char) (cs : List Char) : splitOn separator cs ≠ [] := by
  fun_cases splitOn separator cs <;> simp

/-- The characters before the first separator, and those after it if there is one. -/
def cut (separator : Char) : List Char → List Char × Option (List Char)
  | [] => ([], none)
  | c :: rest =>
    if c = separator then ([], some rest)
    else (c :: (cut separator rest).1, (cut separator rest).2)

end Text

end Geofencing
