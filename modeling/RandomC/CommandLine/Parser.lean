import RandomC.CommandLine.Help
import RandomC.Settings.Store

/-!
# Reading the command line

Options and other arguments may be mixed; after `--` nothing is an option. The name of an option may be cut
off as long as it can be told from the others, and its value may follow behind `=`. Letters may be put
together behind one hyphen; what follows a letter that takes a value is the value.
-/

namespace RandomC.CommandLine

open Settings (Value)

/-- What is wrong with a command line. -/
inductive UsageError where
  | noSuchOption (option : String)
  | ambiguous (option : String) (candidates : List String)
  | valueMissing (option : String)
  | valueUnwanted (option : String)
  | notInteger (option value : String)
  deriving DecidableEq, Repr

/-- What is reported about a command line. -/
def UsageError.message : UsageError → String
  | noSuchOption option => s!"no such option: {option}"
  | ambiguous option candidates => s!"ambiguous option: {option} (" ++ ", ".intercalate candidates ++ "?)"
  | valueMissing option => s!"{option} option requires 1 argument"
  | valueUnwanted option => s!"{option} option does not take a value"
  | notInteger option value => s!"option {option}: invalid integer value: {Text.quoted value}"

/-- Why a command line is not read to its end. -/
inductive ParseStop where
  /-- The help is asked for. -/
  | help
  | usage (error : UsageError)
  deriving DecidableEq, Repr

/-- A command line that has been read: recorded values, and the arguments that are no options. -/
structure Parsed where
  values : Values
  rest : List String
  deriving DecidableEq, Repr

/-- Reads a number. A zero in front makes it octal, `0x` hexadecimal and `0b` binary. -/
def readNumber? (text : String) : Option Int :=
  let read (base : Nat) (text : String) := (Text.readInteger base text).toOption
  match text.toList with
  | '0' :: c :: rest =>
    if c = 'x' || c = 'X' then read 16 text
    else if c = 'b' || c = 'B' then read 2 (if rest.isEmpty then "0" else String.ofList rest)
    else read 8 text
  | ['0'] => read 8 text
  | _ => read 10 text

/-- The option that a long name stands for, written with its hyphens: the one with that name, or the only
one with a name that begins so. -/
def findLong (name : String) : Except ParseStop OptionSpec :=
  let spelled (option : OptionSpec) := "--" ++ option.name
  match options.find? (spelled · == name) with
  | some option => .ok option
  | none =>
    match options.filter fun option => (spelled option).startsWith name with
    | [option] => .ok option
    | [] => .error (.usage (.noSuchOption name))
    | candidates =>
      .error (.usage (.ambiguous name ((candidates.map spelled).mergeSort fun a b => decide (a ≤ b))))

/-- The option that a letter stands for. -/
def findLetter (letter : Char) : Except ParseStop OptionSpec :=
  match options.find? (·.letter == some letter) with
  | some option => .ok option
  | none => .error (.usage (.noSuchOption s!"-{letter}"))

/-- Records the value that follows an option; `spelled` is how the option was spelled. -/
def recordValue (option : OptionSpec) (spelled value : String) (values : Values) : Except ParseStop Values :=
  match option.action with
  | .number =>
    match readNumber? value with
    | some number => .ok (values.record option.key (.number number))
    | none => .error (.usage (.notInteger spelled value))
  | _ => .ok (values.record option.key (.words value))

/-- Carries out an option that takes no value. -/
def recordSwitch (option : OptionSpec) (values : Values) : Except ParseStop Values :=
  match option.action with
  | .switch value => .ok (values.record option.key (.flag value))
  | _ => .error .help

/-- Reads letters. When the last one takes a value, the next argument has to be it, and the option is part
of the answer. -/
def readLetters (values : Values) : List Char → Except ParseStop (Values × Option (OptionSpec × String))
  | [] => .ok (values, none)
  | letter :: rest => do
    let option ← findLetter letter
    let spelled := s!"-{letter}"
    if ! option.action.takesValue then
      readLetters (← recordSwitch option values) rest
    else if rest.isEmpty then
      return (values, some (option, spelled))
    else
      return (← recordValue option spelled (String.ofList rest) values, none)

/-- Reads a long option. When a value has to follow, the option is part of the answer. -/
def readLong (values : Values) (argument : String) :
    Except ParseStop (Values × Option (OptionSpec × String)) := do
  let name := String.ofList (argument.toList.takeWhile (· != '='))
  let option ← findLong name
  let spelled := "--" ++ option.name
  match argument.toList.drop name.length with
  | _ :: value =>
    if option.action.takesValue then
      return (← recordValue option spelled (String.ofList value) values, none)
    throw (.usage (.valueUnwanted spelled))
  | [] =>
    if option.action.takesValue then
      return (values, some (option, spelled))
    return (← recordSwitch option values, none)

/-- Reads an option, whatever it is written with; any other argument is no option. -/
def readOption (values : Values) (argument : String) :
    Option (Except ParseStop (Values × Option (OptionSpec × String))) :=
  match argument.toList with
  | '-' :: '-' :: _ => some (readLong values argument)
  | '-' :: letter :: letters => some (readLetters values (letter :: letters))
  | _ => none

/-- Reads arguments; `others` are those met so far that are no options, last one first. -/
def readArguments (values : Values) (others : List String) : List String → Except ParseStop Parsed
  | [] => .ok ⟨values, others.reverse⟩
  | argument :: rest =>
    if argument = "--" then .ok ⟨values, others.reverse ++ rest⟩
    else match readOption values argument with
      | none => readArguments values (argument :: others) rest
      | some (.error stop) => .error stop
      | some (.ok (values, none)) => readArguments values others rest
      | some (.ok (values, some (option, spelled))) =>
        match rest with
        | [] => .error (.usage (.valueMissing spelled))
        | value :: rest =>
          match recordValue option spelled value values with
          | .error stop => .error stop
          | .ok values => readArguments values others rest

/-- Reads a command line. -/
def parse (arguments : List String) : Except ParseStop Parsed := readArguments initialValues [] arguments

/-- What is written about a command line that cannot be read. -/
def usageText (error : UsageError) : String :=
  usageLine ++ s!"\n{programName}: error: {error.message}\n"

/-- The recorded values as a document. -/
def Values.toDocument (values : Values) : Except Problem Ini.Document :=
  keyGroups.foldlM (fun document (key, group) =>
    match values.lookup key with
    | some value => value.store group key document
    | none => .ok document) .empty

end RandomC.CommandLine
