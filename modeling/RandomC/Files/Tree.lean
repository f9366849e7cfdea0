import RandomC.Files.Path
import RandomC.Files.System

/-!
# Files in memory

A tree of files is a list of files with the names on the way to them. A directory exists as long as there
is a file below it; the working directory, at the root of the tree, always exists. Of what lies outside the
tree only some directories are known, and a device that holds nothing and takes everything.
-/

namespace RandomC.Files

/-- A tree of files. -/
structure FileTree where
  files : List (List String × Content)

/-- Where a path leads. -/
inductive Position where
  /-- To the end of a way into the tree. -/
  | inside (way : List String)
  /-- To a directory outside the tree. -/
  | outside
  /-- To the device that holds nothing. -/
  | device
  deriving DecidableEq, Repr

/-- The directories outside the tree that are known by their absolute paths. -/
def outsideDirectories : List (List String) :=
  [[], ["bin"], ["dev"], ["etc"], ["home"], ["proc"], ["root"], ["tmp"], ["usr"], ["usr", "bin"], ["var"]]

/-- Names have at most so many bytes. -/
def maxNameSize : Nat := 255

/-- Paths have fewer bytes than this. -/
def pathSizeLimit : Nat := 4096

namespace FileTree

/-- No files. -/
def empty : FileTree := ⟨[]⟩

/-- The file at the end of a way. -/
def file? (tree : FileTree) (way : List String) : Option Content := tree.files.lookup way

/-- There is a directory at the end of a way. -/
def hasDirectory (tree : FileTree) (way : List String) : Bool :=
  way.isEmpty || tree.files.any fun (other, _) => way.isPrefixOf other && way.length < other.length

/-- Puts a file at the end of a way. -/
def put (way : List String) (content : Content) (tree : FileTree) : FileTree :=
  if (tree.file? way).isSome then
    ⟨tree.files.map fun entry => if entry.1 == way then (way, content) else entry⟩
  else ⟨tree.files ++ [(way, content)]⟩

/-- One name further. The failure is to be completed with the path. -/
def step (tree : FileTree) (here : Position) (name : String) : Except (String → FileError) Position :=
  match here with
  | .inside way =>
    if tree.hasDirectory way then
      if name = "." then .ok here
      else if name = ".." then .ok (if way.isEmpty then .outside else .inside way.dropLast)
      else if maxNameSize < name.utf8ByteSize then .error .nameTooLong
      else .ok (.inside (way ++ [name]))
    else .error (if (tree.file? way).isSome then .notDirectory else .notFound)
  | .outside => if name = "." || name = ".." then .ok .outside else .error .notFound
  | .device => .error .notDirectory

/-- Where an absolute path with the given names leads. -/
def locateOutside (names : List String) : Except (String → FileError) Position :=
  if names = ["dev", "null"] then .ok .device
  else if outsideDirectories.contains names then .ok .outside
  else .error .notFound

/-- Where a path leads. -/
def locate (tree : FileTree) (path : String) : Except FileError Position :=
  if path.toList.contains (Char.ofNat 0) then .error .nullCharacter
  else if path.isEmpty then .error (.notFound path)
  else if pathSizeLimit ≤ path.utf8ByteSize then .error (.nameTooLong path)
  else
    let position :=
      if path.startsWith "/" then locateOutside (pathNames path)
      else ((pathParts path).filter (! ·.isEmpty)).foldlM tree.step (.inside [])
    position.mapError (· path)

/-- What there is at a path: a file with its content, or a directory. -/
def lookUp (tree : FileTree) (path : String) : Except FileError (Option Content) := do
  match ← tree.locate path with
  | .outside => return none
  | .device => return some (.text "")
  | .inside way =>
    match tree.file? way with
    | some content =>
      if path.endsWith "/" then
        throw (.notDirectory path)
      return some content
    | none =>
      if tree.hasDirectory way then
        return none
      throw (.notFound path)

/-- The content of the file at a path. -/
def read (tree : FileTree) (path : String) : Except FileError Content := do
  match ← tree.lookUp path with
  | some content => return content
  | none => throw (.isDirectory path)

/-- The tree with a text as the content of the file at a path. A path that ends with a slash stands for a
directory. -/
def write (tree : FileTree) (path text : String) : Except FileError FileTree := do
  match ← tree.locate path with
  | .outside => throw (.isDirectory path)
  | .device => return tree
  | .inside way =>
    if tree.hasDirectory way then
      throw (.isDirectory path)
    if (tree.file? way).isNone && ! tree.hasDirectory way.dropLast then
      throw (if (tree.file? way.dropLast).isSome then .notDirectory path else .notFound path)
    if path.endsWith "/" then
      throw (.isDirectory path)
    return tree.put way (.text text)

/-- The operations on a tree of files. -/
def system : FileSystem (StateM FileTree) where
  find path := return ((← get).lookUp path).map fun _ => ()
  read path := return (← get).read path
  write path text := do
    match (← get).write path text with
    | .ok tree =>
      set tree
      return .ok ()
    | .error failure => return .error failure

end FileTree

end RandomC.Files
