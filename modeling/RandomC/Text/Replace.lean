/-!
# Replacing

The occurrences of a pattern in a text are found from left to right, and do not overlap.
-/

namespace RandomC.Text

/-- The pieces of a text between the occurrences of a separator, which are found from left to right. The
first `skip` characters still belong to an occurrence, and `piece` holds the piece in progress, last
character first. -/
def pieces (separator : List Char) : (skip : Nat) → (piece : List Char) → List Char → List (List Char)
  | _, piece, [] => [piece.reverse]
  | skip + 1, piece, _ :: rest => pieces separator skip piece rest
  | 0, piece, c :: rest =>
    if separator.isPrefixOf (c :: rest) then
      piece.reverse :: pieces separator (separator.length - 1) [] rest
    else pieces separator 0 (c :: piece) rest

/-- A text with another one in place of every occurrence of a pattern. -/
def replace (pattern replacement text : String) : String :=
  String.ofList (replacement.toList.intercalate (pieces pattern.toList 0 [] text.toList))

end RandomC.Text
