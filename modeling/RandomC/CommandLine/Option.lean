import RandomC.Settings.Table
import RandomC.Text.Replace

/-!
# The options of the command line

Every option has a long name, possibly a letter, and the key under which its value is recorded. The
switches come from the table of settings: a setting that is on has an option to turn it off, and the other
way round.
-/

namespace RandomC.CommandLine

open Settings (Value)

/-- What an option does. -/
inductive Action where
  /-- Shows the help. -/
  | help
  /-- Records the number that follows. -/
  | number
  /-- Records the text that follows. -/
  | words
  /-- Records a fixed value. -/
  | switch (value : Bool)
  deriving DecidableEq, Repr

/-- A value has to follow. -/
def Action.takesValue : Action → Bool
  | number | words => true
  | help | switch _ => false

/-- An option. -/
structure OptionSpec where
  letter : Option Char
  name : String
  key : String
  action : Action
  /-- What stands for the value in the help, if not the key. -/
  placeholder : Option String
  help : String
  deriving DecidableEq, Repr

/-- Options under a title. Their values are shown in a group of that title in lower case. -/
structure OptionGroup where
  title : String
  options : List OptionSpec
  deriving DecidableEq, Repr

/-- The option name of a key: hyphens take the place of underscores. -/
def optionName (key : String) : String := Text.replace "_" "-" key

/-- The name of the program. -/
def programName : String := "cfuzz"

/-- The version of the program. -/
def programVersion : String := "0.1.0"

/-- The options outside all groups. -/
def generalOptions : List OptionSpec :=
  [⟨some 'h', "help", "help", .help, none, "show this help message and exit"⟩,
   ⟨none, "version", "version", .switch true, none, s!"Display {programName} version ({programVersion}) and exit"⟩]

/-- The default of the setting with a key, as it is written. -/
def defaultText (key : String) : String :=
  match Settings.find? key with
  | some setting => (setting.get {}).text
  | none => ""

/-- The options that say what to generate. -/
def generalGroup : OptionGroup where
  title := "General"
  options :=
    [⟨some 's', "seed", "seed", .number, none, "Seed of the random generator (default: current time)"⟩,
     ⟨none, "nomain", "no_main", .switch true, none, "Do not generate main()"⟩,
     ⟨none, "platform-info", "platform_info", .words, none,
      "Path of the platform.info descriptor (default: " ++ defaultText "platform_info" ++ ")"⟩,
     ⟨none, "int-size", "int_size", .number, none,
      "Target integer size in bytes (default: from platform.info or host)"⟩,
     ⟨none, "ptr-size", "pointer_size", .number, none,
      "Target pointer size in bytes (default: from platform.info or host)"⟩]

/-- The limits, by key, and what is said about them. -/
def limitHelp : List (String × String) :=
  [("max_funcs", "Limit the number of functions besides main"),
   ("max_params", "Limit the number of function parameters"),
   ("func1_max_params", "Number of parameters of func_1"),
   ("max_block_size", "Limit the number of statements per block"),
   ("max_block_depth", "Limit the depth of nested blocks"),
   ("max_expr_complexity", "Limit the expression complexity"),
   ("max_struct_fields", "Limit the number of struct fields"),
   ("max_union_fields", "Limit the number of union fields"),
   ("max_pointer_depth", "Limit the pointer indirection depth"),
   ("max_array_dim", "Limit the number of array dimensions"),
   ("max_array_len_per_dim", "Limit the array length per dimension"),
   ("max_globals", "Limit the number of initial globals"),
   ("max_exhaustive_depth", "Maximum depth of the dfs exhaustive mode"),
   ("inline_function_prob", "Probability of inline functions, in [0,100]"),
   ("builtin_function_prob", "Probability of builtin calls, in [0,100]"),
   ("stop_by_stmt", "Stop generating statements after n statements (-1: unlimited)")]

/-- The options that limit how much is generated. -/
def limitGroup : OptionGroup where
  title := "Limits"
  options := limitHelp.map fun (key, text) =>
    ⟨none, optionName key, key, .number, none, text ++ " (default: " ++ defaultText key ++ ")"⟩

/-- The option that changes a switch from its default. -/
def switchOption (key : String) (isOn : Bool) : OptionSpec :=
  let words := Text.replace "_" " " key
  if isOn then ⟨none, "no-" ++ optionName key, key, .switch false, none, s!"Disable {words}"⟩
  else ⟨none, optionName key, key, .switch true, none, s!"Enable {words}"⟩

/-- The options for the switches among the settings of a group. -/
def switchGroup (title : String) (group : Settings.Group) : OptionGroup where
  title := title
  options := Settings.table.filterMap fun setting =>
    match setting.get {} with
    | .flag isOn => if setting.group = group then some (switchOption setting.key isOn) else none
    | _ => none

/-- The options about what is written where. -/
def outputGroup : OptionGroup where
  title := "Output"
  options :=
    [⟨some 'o', "output", "output", .words, some "FILE", "Write the generated program into FILE (default: stdout)"⟩,
     ⟨none, "trace-rng", "trace_rng", .words, some "FILE", "Write every random decision into FILE"⟩,
     ⟨none, "trace-raw", "trace_raw", .switch true, none,
      "Include redraw counts and raw values in the trace"⟩]

/-- The options about the configuration file. -/
def configurationGroup : OptionGroup where
  title := "Configuration"
  options :=
    [⟨none, "config-file", "config_file", .words, some "FILE",
      "Configuration file (default: cfuzz.conf in $XDG_CONFIG_HOME or ~/.config)"⟩,
     ⟨none, "use-config", "use_config", .switch true, none, "Read options from the configuration file"⟩,
     ⟨none, "write-config", "write_config", .switch true, none,
      "Write the options into the configuration file and exit"⟩]

/-- The options about messages. -/
def loggingGroup : OptionGroup where
  title := "Logging"
  options :=
    [⟨some 'v', "verbose", "verbose", .switch true, none, "Enable verbose mode (set log level to INFO)"⟩,
     ⟨none, "quiet", "quiet", .switch true, none, "Be quiet (only log errors)"⟩,
     ⟨none, "debug", "debug", .switch true, none, "Enable debug mode (set log level to DEBUG)"⟩]

/-- All groups of options. -/
def groups : List OptionGroup :=
  [generalGroup, limitGroup, switchGroup "Features" .features, switchGroup "Mode" .mode, outputGroup,
   configurationGroup, loggingGroup]

/-- All options. -/
def options : List OptionSpec := generalOptions ++ groups.flatMap (·.options)

/-- Recorded values, by key. -/
abbrev Values := List (String × Value)

/-- The options that are off unless they are given; any other option has no value then. -/
def initialValues : Values :=
  ["trace_raw", "use_config", "write_config", "verbose", "quiet", "debug"].map (·, .flag false)

namespace Values

/-- Records a value. -/
def record (key : String) (value : Value) (values : Values) : Values :=
  (key, value) :: values.filter (·.1 != key)

/-- The recorded text, if there is one that is not empty. -/
def text? (values : Values) (key : String) : Option String :=
  match values.lookup key with
  | some (.words text) => if text.isEmpty then none else some text
  | _ => none

/-- The option is on. -/
def isOn (values : Values) (key : String) : Bool := values.lookup key == some (.flag true)

end Values

end RandomC.CommandLine
