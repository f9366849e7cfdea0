/-!
# Removing a common margin

The margin of a text is the longest run of blanks and tabs with which every line begins that holds
anything else. Lines end at a line feed only.
-/

namespace RandomC.Text

/-- A blank or a tab: what a margin consists of. -/
def isMarginChar (c : Char) : Bool := c == ' ' || c == '\t'

/-- The blanks and tabs with which a line begins. -/
def leading (line : List Char) : List Char := line.takeWhile isMarginChar

/-- The longest list with which both lists begin. -/
def commonStart : List Char → List Char → List Char
  | a :: as, b :: bs => if a = b then a :: commonStart as bs else []
  | _, _ => []

/-- The margin of a text's lines. Lines of nothing but blanks and tabs have no say. -/
def margin (lines : List (List Char)) : List Char :=
  match (lines.filter (! ·.all isMarginChar)).map leading with
  | [] => []
  | first :: others => others.foldl commonStart first

/-- A line without the first `width` characters; a line of nothing but blanks and tabs becomes empty. -/
def dropMargin (width : Nat) (line : List Char) : List Char :=
  if line.all isMarginChar then [] else line.drop width

/-- A text without its margin. -/
def dedent (text : List Char) : List Char :=
  let lines := text.splitOn '\n'
  ['\n'].intercalate (lines.map (dropMargin (margin lines).length))

end RandomC.Text
