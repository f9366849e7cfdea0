/-!
# White space and line ends

White space is what Unicode gives the property `White_Space`, together with the four information
separators U+001C to U+001F. A line of a text that is split into lines ends at any of ten characters,
or at a carriage return with a line feed; a text that is read from a file has line feeds only.
-/

namespace RandomC.Text

/-- White space. -/
def isBlank (c : Char) : Bool :=
  let n := c.toNat
  (0x9 ≤ n && n ≤ 0xD) || (0x1C ≤ n && n ≤ 0x20) || n == 0x85 || n == 0xA0 || n == 0x1680 ||
  (0x2000 ≤ n && n ≤ 0x200A) || n == 0x2028 || n == 0x2029 || n == 0x202F || n == 0x205F || n == 0x3000

/-- Characters that end a line. -/
def isLineEnd (c : Char) : Bool :=
  let n := c.toNat
  (0xA ≤ n && n ≤ 0xD) || (0x1C ≤ n && n ≤ 0x1E) || n == 0x85 || n == 0x2028 || n == 0x2029

/-- Characters without the white space they end with. -/
def trimEnd (cs : List Char) : List Char := (cs.reverse.dropWhile isBlank).reverse

/-- Characters without the white space around them. -/
def trim (cs : List Char) : List Char := trimEnd (cs.dropWhile isBlank)

/-- A text without the white space around it. -/
def strip (text : String) : String := String.ofList (trim text.toList)

/-- A text without the white space at its end. -/
def stripEnd (text : String) : String := String.ofList (trimEnd text.toList)

/-- The lines of a text, without their ends; `line` holds the characters of the unfinished line, last
character first. A text that ends with a line end has no line after it. -/
def linesFrom (line : List Char) : List Char → List (List Char)
  | [] => if line.isEmpty then [] else [line.reverse]
  | '\r' :: '\n' :: rest => line.reverse :: linesFrom [] rest
  | c :: rest => if isLineEnd c then line.reverse :: linesFrom [] rest else linesFrom (c :: line) rest

/-- The lines of a text, without their ends. -/
def splitLines (text : String) : List String := (linesFrom [] text.toList).map String.ofList

/-- Line ends become line feeds, as they do when a file is read. -/
def lineFeeds : List Char → List Char
  | [] => []
  | '\r' :: '\n' :: rest => '\n' :: lineFeeds rest
  | c :: rest => (if c = '\r' then '\n' else c) :: lineFeeds rest

/-- A text with line feeds for all its line ends. -/
def normalizeLineEnds (text : String) : String := String.ofList (lineFeeds text.toList)

end RandomC.Text
