/-!
# Paths

A path is a text: names between slashes. Empty names and single dots stand for nothing, except that a path
that begins with a slash is absolute.
-/

namespace RandomC.Files

/-- The slashes that the path begins with, as far as they count: exactly two count as two, any other
number as one. -/
def pathRoot (path : String) : String :=
  match (path.toList.takeWhile (· == '/')).length with
  | 0 => ""
  | 2 => "//"
  | _ => "/"

/-- What stands between the slashes of a path. -/
def pathParts (path : String) : List String := (path.toList.splitOn '/').map String.ofList

/-- The names that a path consists of. -/
def pathNames (path : String) : List String :=
  (pathParts path).filter fun name => name != "" && name != "."

/-- A path from its root and its names; without both it is the working directory. -/
def pathOf (root : String) (names : List String) : String :=
  let path := root ++ "/".intercalate names
  if path.isEmpty then "." else path

/-- The path without what stands for nothing. -/
def plainPath (path : String) : String := pathOf (pathRoot path) (pathNames path)

/-- The last name of a path, empty if there is none. -/
def fileName (path : String) : String := (pathNames path).getLast?.getD ""

/-- The path without its last name. -/
def parentPath (path : String) : String := pathOf (pathRoot path) (pathNames path).dropLast

/-- A path taken relative to a directory. -/
def joinPath (directory path : String) : String :=
  if path.startsWith "/" then path
  else if directory.isEmpty || directory.endsWith "/" then directory ++ path
  else directory ++ "/" ++ path

end RandomC.Files
