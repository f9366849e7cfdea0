/-!
# Indented sheets

A sheet is a text under construction: entries, one below the other, each at an indentation level. The
sheet has a level of its own to which the level of every new entry is relative. What the entries are is
left open, so that a sheet of declarations can be inspected before it becomes text.
-/

namespace RandomC.Text

/-- What stands on a sheet. -/
inductive Entry (α : Type) where
  /-- An entry at an absolute level. -/
  | item (level : Int) (content : α)
  /-- An empty line. -/
  | blank
  /-- Text that has been laid out already. -/
  | raw (text : String)
  deriving Repr

/-- The text of an entry, given how its content at a level is laid out. -/
def Entry.text {α : Type} (layout : Int → α → String) : Entry α → String
  | item level content => layout level content
  | blank => "\n"
  | raw text => text

/-- Entries in the order in which they were written, and the level of the next one. -/
structure Sheet (α : Type) where
  level : Int
  entries : Array (Entry α)
  deriving Repr

/-- Why a level cannot be taken: it lies left of the margin. -/
inductive LevelError where
  /-- A shift went left of the margin. -/
  | shifted
  /-- A level left of the margin was to be restored. -/
  | restored
  deriving DecidableEq, Repr

/-- The blanks in front of a line at a level: four for each, and none left of the margin. -/
def indentation (level : Int) : String := String.ofList (List.replicate (4 * level.toNat) ' ')

/-- A line of text at a level, with its line end. -/
def indentedLine (level : Int) (text : String) : String := indentation level ++ text ++ "\n"

namespace Sheet

variable {α : Type}

/-- A sheet without entries, at the margin. -/
def empty : Sheet α := ⟨0, #[]⟩

/-- Adds an entry `offset` levels right of the level of the sheet. -/
def write (offset : Int) (content : α) (sheet : Sheet α) : Sheet α :=
  { sheet with entries := sheet.entries.push (.item (sheet.level + offset) content) }

/-- Adds an empty line. -/
def blankLine (sheet : Sheet α) : Sheet α := { sheet with entries := sheet.entries.push .blank }

/-- Adds text that has been laid out already. -/
def writeRaw (text : String) (sheet : Sheet α) : Sheet α :=
  { sheet with entries := sheet.entries.push (.raw text) }

/-- Moves the level and gives the level before. The level is moved even when it ends up left of the
margin, which is reported. -/
def shift (delta : Int) (sheet : Sheet α) : Except LevelError Int × Sheet α :=
  let moved := { sheet with level := sheet.level + delta }
  (if moved.level < 0 then .error .shifted else .ok sheet.level, moved)

/-- Sets the level, unless it lies left of the margin. -/
def restore (level : Int) (sheet : Sheet α) : Except LevelError Unit × Sheet α :=
  if level < 0 then (.error .restored, sheet) else (.ok (), { sheet with level })

/-- The text of a sheet, given how an entry at a level is laid out. -/
def text (layout : Int → α → String) (sheet : Sheet α) : String :=
  String.join (sheet.entries.toList.map (Entry.text layout))

end Sheet

/-- What is reported about a refused level. -/
def LevelError.message : LevelError → String
  | .shifted => "Negative indentation level in addLevel()"
  | .restored => "Negative indentation level in restoreLevel()"

end RandomC.Text
