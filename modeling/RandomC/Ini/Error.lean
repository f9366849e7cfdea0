import RandomC.Text.Quoted

/-!
# What can be wrong with stored values

Errors of a document that is read name the file and the line; errors of the references inside a value name
the value.
-/

namespace RandomC.Ini

/-- References are followed through at most so many values. -/
def maxReferenceDepth : Nat := 10

/-- What can be wrong with a document or with a value in it. -/
inductive Error where
  /-- There is something in a line before the first group. -/
  | noHeader (source : String) (line : Nat) (content : String)
  /-- A line begins a group a second time. -/
  | duplicateGroup (source : String) (line : Nat) (group : String)
  /-- A line gives a key a second time. -/
  | duplicateKey (source : String) (line : Nat) (group key : String)
  /-- Lines, by number, that are not what a document consists of. -/
  | malformed (source : String) (lines : List (Nat × String))
  /-- A reference names a key that does not exist. -/
  | missingKey (group key raw reference : String)
  | tooDeep (group key raw : String)
  /-- A reference is not complete. -/
  | brokenReference (rest : String)
  /-- A percent sign stands alone. -/
  | lonePercent (rest : String)
  /-- A value cannot be stored, since a percent sign stands alone at a position when what is correct is
  left out. -/
  | unstorable (value : String) (position : Nat)
  deriving DecidableEq, Repr

namespace Error

/-- The name under which an error is reported. -/
def kind : Error → String
  | noHeader .. => "MissingSectionHeaderError"
  | duplicateGroup .. => "DuplicateSectionError"
  | duplicateKey .. => "DuplicateOptionError"
  | malformed .. => "ParsingError"
  | missingKey .. => "InterpolationMissingOptionError"
  | tooDeep .. => "InterpolationDepthError"
  | brokenReference _ | lonePercent _ => "InterpolationSyntaxError"
  | unstorable .. => "ValueError"

/-- A line number in two places at least. -/
def lineNumber (line : Nat) : String := (if line < 10 then " " else "") ++ toString line

open Text (quoted) in
/-- What is reported about an error. -/
def message : Error → String
  | noHeader source line content =>
    s!"File contains no section headers.\nfile: {quoted source}, line: {line}\n{quoted content}"
  | duplicateGroup source line group =>
    s!"While reading from {quoted source} [line {lineNumber line}]: section {quoted group} already exists"
  | duplicateKey source line group key =>
    s!"While reading from {quoted source} [line {lineNumber line}]: option {quoted key} " ++
      s!"in section {quoted group} already exists"
  | malformed source lines =>
    s!"Source contains parsing errors: {quoted source}" ++
      String.join (lines.map fun (line, content) => s!"\n\t[line {lineNumber line}]: {quoted content}")
  | missingKey group key raw reference =>
    s!"Bad value substitution: option {quoted key} in section {quoted group} contains an interpolation key " ++
      s!"{quoted reference} which is not a valid option name. Raw value: {quoted raw}"
  | tooDeep group key raw =>
    s!"Recursion limit exceeded in value substitution: option {quoted key} in section {quoted group} " ++
      s!"contains an interpolation key which cannot be substituted in {maxReferenceDepth} steps. " ++
      s!"Raw value: {quoted raw}"
  | brokenReference rest => s!"bad interpolation variable reference {quoted rest}"
  | lonePercent rest => s!"'%' must be followed by '%' or '(', found: {quoted rest}"
  | unstorable value position => s!"invalid interpolation syntax in {quoted value} at position {position}"

end Error

end RandomC.Ini
