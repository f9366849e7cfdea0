/-!
# Filling lines

Words are put on lines as long as they fit, one blank between two of them.
-/

namespace RandomC.Text

/-- Goes on filling with the words, given the line in progress. A word that is longer than a line has a
line of its own. -/
def fillFrom (width : Nat) (line : String) : List String → List String
  | [] => [line]
  | word :: rest =>
    if line.length + 1 + word.length ≤ width then fillFrom width (line ++ " " ++ word) rest
    else line :: fillFrom width word rest

/-- Lines of a width filled with words. -/
def fill (width : Nat) : List String → List String
  | [] => []
  | word :: rest => fillFrom width word rest

/-- A text, filled up with blanks to a width. -/
def padEnd (width : Nat) (text : String) : String :=
  text ++ String.ofList (List.replicate (width - text.length) ' ')

/-- A run of blanks. -/
def blanks (count : Nat) : String := String.ofList (List.replicate count ' ')

end RandomC.Text
