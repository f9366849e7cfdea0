import RandomC.Ini.Document
import RandomC.Text.Blank

/-!
# Reading documents

A document is read line by line. A line in brackets begins a group; a line with `=` or `:` gives a key its
value; a line that is indented deeper than the line of the key goes on with the value; and a line that
begins with `#` or `;` is a comment. A group or a key may not be given twice. Lines that are none of this
are collected, and reported at the end.
-/

namespace RandomC.Ini

/-- A key with the lines of its value. -/
structure RawEntry where
  key : String
  lines : List String

/-- A group as far as it has been read. -/
structure RawGroup where
  name : String
  entries : List RawEntry

/-- The state of the reader after some lines. -/
structure Reading where
  shared : RawGroup
  groups : List RawGroup
  /-- The last line that began a group began the one of shared values. -/
  inShared : Bool
  /-- A line that is indented deep enough goes on with the value of the last key of the group. -/
  continuing : Bool
  /-- The indentation of the line that began the last group or key. -/
  indent : Nat
  malformed : List (Nat × String)

namespace Reading

/-- The state before the first line. -/
def initial : Reading := ⟨⟨sharedName, []⟩, [], false, false, 0, []⟩

/-- The group to which the next key belongs. -/
def current? (reading : Reading) : Option RawGroup :=
  if reading.inShared then some reading.shared else reading.groups.getLast?

/-- Changes the group to which the next key belongs. -/
def modifyCurrent (f : RawGroup → RawGroup) (reading : Reading) : Reading :=
  if reading.inShared then { reading with shared := f reading.shared }
  else { reading with groups := reading.groups.modify (reading.groups.length - 1) f }

/-- Adds a line to the value of the last key of the current group. -/
def addLine (line : String) (reading : Reading) : Reading :=
  reading.modifyCurrent fun group =>
    { group with
      entries := group.entries.modify (group.entries.length - 1) fun entry =>
        { entry with lines := entry.lines ++ [line] } }

/-- Adds a key with the first line of its value. Lines that follow belong to the value unless the key is
empty. -/
def addEntry (key line : String) (reading : Reading) : Reading :=
  { reading.modifyCurrent fun group => { group with entries := group.entries ++ [⟨key, [line]⟩] } with
    continuing := ! key.isEmpty }

end Reading

/-- The name of the group that a line begins: what stands between its first character, a bracket, and the
last closing bracket in it. -/
def headerName? (line : List Char) : Option String :=
  match line with
  | '[' :: rest =>
    match rest.reverse.dropWhile (· != ']') with
    | ']' :: name => if name.isEmpty then none else some (String.ofList name.reverse)
    | _ => none
  | _ => none

/-- A character between a key and its value. -/
def isDelimiter (c : Char) : Bool := c == '=' || c == ':'

/-- The key and the value that a line gives. -/
def keyValue? (line : List Char) : Option (String × String) :=
  match line.dropWhile (! isDelimiter ·) with
  | [] => none
  | _ :: value =>
    some (Text.lower (String.ofList (Text.trimEnd (line.takeWhile (! isDelimiter ·)))),
      String.ofList (Text.trim value))

/-- Reads a line that is neither empty nor goes on with a value. -/
def readEntry (source : String) (number : Nat) (line : String) (reading : Reading) :
    Except Error Reading := do
  let content := Text.trim line.toList
  match headerName? content with
  | some name =>
    if reading.groups.any (·.name == name) then
      throw (.duplicateGroup source number name)
    let reading := { reading with continuing := false }
    if name = sharedName then
      return { reading with inShared := true }
    return { reading with inShared := false, groups := reading.groups ++ [⟨name, []⟩] }
  | none =>
    match reading.current? with
    | none => throw (.noHeader source number line)
    | some group =>
      match keyValue? content with
      | none => return { reading with malformed := reading.malformed ++ [(number, line)] }
      | some (key, value) =>
        let reading :=
          if key.isEmpty then { reading with malformed := reading.malformed ++ [(number, line)] }
          else reading
        if group.entries.any (·.key == key) then
          throw (.duplicateKey source number group.name key)
        return reading.addEntry key value

/-- Reads a line. A line without content belongs to the value before it, unless it is a comment. -/
def readLine (source : String) (number : Nat) (line : String) (reading : Reading) :
    Except Error Reading :=
  let content := Text.trim line.toList
  let indent := (line.toList.takeWhile Text.isBlank).length
  match content with
  | [] => .ok (if reading.continuing then reading.addLine "" else reading)
  | '#' :: _ | ';' :: _ => .ok reading
  | _ =>
    if reading.continuing && reading.indent < indent then .ok (reading.addLine (String.ofList content))
    else readEntry source number line { reading with indent }

/-- Reads lines, the first of which has the given number. -/
def readLines (source : String) : (number : Nat) → List String → Reading → Except Error Reading
  | _, [], reading => .ok reading
  | number, line :: rest, reading => do readLines source (number + 1) rest (← readLine source number line reading)

/-- The lines of a text with their line feeds; `line` holds the characters of the unfinished line, last
character first. -/
def linesWithEnds (line : List Char) : List Char → List String
  | [] => if line.isEmpty then [] else [String.ofList line.reverse]
  | '\n' :: rest => String.ofList ('\n' :: line).reverse :: linesWithEnds [] rest
  | c :: rest => linesWithEnds (c :: line) rest

/-- The entries of a group, each value in one piece. -/
def RawGroup.values (group : RawGroup) : Entries :=
  group.entries.map fun entry => (entry.key, Text.stripEnd ("\n".intercalate entry.lines))

/-- The document that was read, or the error that the malformed lines are. -/
def Reading.finish (source : String) (reading : Reading) : Except Error Document :=
  if reading.malformed.isEmpty then
    .ok ⟨reading.shared.values, reading.groups.map fun group => (group.name, group.values)⟩
  else .error (.malformed source reading.malformed)

/-- Reads a text as far as it goes; `source` is the name of the file in errors. -/
def read (source text : String) : Except Error Reading :=
  readLines source 1 (linesWithEnds [] text.toList) .initial

/-- Reads a document. -/
def Document.read (source text : String) : Except Error Document := do
  (← Ini.read source text).finish source

end RandomC.Ini
