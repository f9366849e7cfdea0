import RandomC.CommandLine.Option
import RandomC.Text.Lower
import RandomC.Text.Wrap

/-!
# The help text

Options are listed with their spellings on the left and what they do on the right, from a fixed column on.
Spellings that reach into that column have a line of their own.
-/

namespace RandomC.CommandLine

/-- The column from which on the help stands. -/
def helpColumn : Nat := 24

/-- The width of a line. -/
def lineWidth : Nat := 78

/-- The line that shows how the program is called. -/
def usageLine : String := s!"Usage: {programName} [options]\n"

/-- An option as it is spelled, with what stands for its value. -/
def OptionSpec.spelling (option : OptionSpec) : String :=
  let value := option.placeholder.getD option.key.toUpper
  let (short, long) := if option.action.takesValue then (" " ++ value, "=" ++ value) else ("", "")
  (match option.letter with
    | some letter => s!"-{letter}{short}, "
    | none => "") ++ s!"--{option.name}{long}"

/-- An option in the help. -/
def OptionSpec.helpText (indent : Nat) (option : OptionSpec) : String :=
  let width := helpColumn - indent - 2
  let lines := Text.fill (lineWidth - helpColumn) (option.help.splitOn " ")
  let start :=
    if width < option.spelling.length then
      Text.blanks indent ++ option.spelling ++ "\n" ++ Text.blanks helpColumn
    else Text.blanks indent ++ Text.padEnd width option.spelling ++ "  "
  start ++ ("\n" ++ Text.blanks helpColumn).intercalate lines ++ "\n"

/-- Options in the help. -/
def optionsHelp (indent : Nat) (options : List OptionSpec) : String :=
  String.join (options.map (OptionSpec.helpText indent))

/-- The help. -/
def helpText : String :=
  usageLine ++ "\nOptions:\n" ++ optionsHelp 2 generalOptions ++
    String.join (groups.map fun group => s!"\n  {group.title}:\n" ++ optionsHelp 4 group.options)

/-- The name of the group in which the values of options are shown. -/
def OptionGroup.sectionName (group : OptionGroup) : String := Text.lower group.title

/-- The keys of all options in groups, with the names of the groups. -/
def keyGroups : List (String × String) :=
  groups.flatMap fun group => group.options.map fun option => (option.key, group.sectionName)

end RandomC.CommandLine
