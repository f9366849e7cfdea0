import RandomC.CommandLine.Console
import RandomC.CommandLine.Parser
import RandomC.Generation.Program
import RandomC.Random.Trace
import RandomC.Settings.Prepare
import RandomC.Settings.Store

/-!
# The application

A call of the program reads its command line, settles the settings, generates a program and writes it. A
problem ends the call with a report; the help, the version and the writing of a configuration file end it
without a program.
-/

namespace RandomC.CommandLine

/-- The machine that the program runs on. -/
structure Machine (m : Type → Type) where
  files : Files.FileSystem m
  directories : HomeDirectories
  /-- A number that differs from call to call. -/
  clock : m Int

/-- Why a call ends before its end. -/
inductive Stop where
  | exit (status : Nat)
  | problem (problem : Problem)

/-- How a call ended. -/
inductive Ending where
  /-- It ran to its end, with 0, or with 1 after a problem. -/
  | finished (code : Nat)
  /-- It was left at once, with a status. -/
  | exited (status : Nat)
  deriving DecidableEq, Repr

/-- A part of a call. -/
abbrev Session (m : Type → Type) := ExceptT Stop (StateT Console m)

section

variable {m : Type → Type} [Monad m] {α : Type}

/-- Changes the console. -/
def onConsole (change : Console → Console) : Session m Unit := modify change

/-- Does something on the machine. -/
def perform (action : m α) : Session m α := ExceptT.lift (StateT.lift action)

/-- The value, or the end of the call with a problem. -/
def orStop (result : Except Problem α) : Session m α :=
  match result with
  | .ok value => return value
  | .error problem => throw (.problem problem)

end

/-- The part of the program that a call's own reports come from. -/
def applicationOrigin : String := "cfuzz.application"

/-- What is shown about the version. -/
def versionText : String :=
  s!"{programName} version {programVersion}\nLicense: GNU GPL v2\nWebsite: https://github.com/cfuzz/cfuzz\n\n"

/-- Options with what follows from others: quiet takes precedence over debug and verbose, debug implies
verbose, and exhaustive generation is not random. -/
def settleOptions (values : Values) : Values :=
  let values :=
    if values.isOn "quiet" then (values.record "debug" (.flag false)).record "verbose" (.flag false)
    else values
  let values := if values.isOn "debug" then values.record "verbose" (.flag true) else values
  if values.isOn "dfs_exhaustive" then values.record "random_based" (.flag false) else values

/-- The seed is needed and not given. -/
def needsSeed (values : Values) : Bool :=
  (values.lookup "seed").isNone && ! values.isOn "use_config" && ! values.isOn "write_config"

/-- The values that options give to settings. -/
def givenSettings (values : Values) : List (String × Settings.Value) :=
  Settings.table.filterMap fun setting => (values.lookup setting.key).map (setting.key, ·)

/-- The configuration file that options name. -/
def configFile (values : Values) : ConfigFile where
  name := (values.text? "config_file").map Files.fileName
  directory := (values.text? "config_file").map Files.parentPath
  read := values.isOn "use_config"
  write := values.isOn "write_config"

/-- The least level of the reports that are shown. -/
def threshold (values : Values) : LogLevel :=
  if values.isOn "debug" then .debug
  else if values.isOn "verbose" then .info
  else if values.isOn "quiet" then .error
  else .warning

section

variable {m : Type → Type} [Monad m]

/-- Reads the command line. -/
def readOptions (arguments : List String) : Session m Values := do
  match parse arguments with
  | .error .help =>
    onConsole (·.write helpText)
    throw (.exit 0)
  | .error (.usage error) =>
    onConsole (·.writeError (usageText error))
    throw (.exit 2)
  | .ok parsed =>
    if parsed.values.isOn "version" then
      onConsole (·.write versionText)
      throw (.exit 0)
    if ! parsed.rest.isEmpty then
      onConsole (·.write helpText)
      throw (.exit 1)
    return parsed.values

variable (machine : Machine m)

/-- Settles the options and makes the settings. -/
def configureSession (arguments : List String) : Session m (Values × Settings) := do
  let read ← readOptions arguments
  let settled := settleOptions read
  let values ← if needsSeed read then
      (settled.record "seed" ∘ Settings.Value.number) <$> perform machine.clock
    else pure settled
  let (notice, result) ← perform
    (configure machine.files machine.directories (configFile values) (givenSettings values))
  onConsole (·.write notice)
  let configured ← orStop result
  if values.isOn "verbose" then
    onConsole (·.writeError "\nReceived options:\n")
    let document ← orStop values.toDocument
    onConsole (·.writeError (document.text ++ "\n"))
  if values.isOn "write_config" then
    throw (.exit 0)
  return (values, configured.settings)

/-- Reports something about the call. -/
def note (level : LogLevel) (message : String) : Session m Unit :=
  onConsole (·.report level applicationOrigin message)

/-- Writes a text into a file. -/
def writeFile (path text : String) : Session m Unit := do
  orStop ((← perform (machine.files.write path text)).mapError .file)

/-- Refuses a number that would have to be written and cannot be. -/
def requireWritable (value : Int) : Except Problem Unit :=
  if Text.hasDecimalText value then .ok () else .error .unwritableNumber

/-- Refuses a recorded decision that cannot be written. -/
def requireTraceable : Random.Decision → Except Problem Unit
  | .bounded bound .. => requireWritable bound
  | .coin .. => .ok ()

/-- Generates a program and shows what happens meanwhile. -/
def generateProgram (values : Values) (settings : Settings) : Session m (Program × Random.Source) := do
  let outcome := generate settings (.ofSeed settings.seed (values.text? "trace_rng").isSome)
  orStop (outcome.source.decisions.toList.forM requireTraceable)
  onConsole fun console =>
    outcome.log.foldl (fun console event => console.report event.level event.origin event.message) console
  let program ← orStop (outcome.result.mapError .generation)
  return (program, outcome.source)

/-- A call up to its end. -/
def session (arguments : List String) : Session m Unit := do
  let (values, configured) ← configureSession machine arguments
  onConsole fun console => { console with threshold := some (threshold values) }
  let settings ← orStop (← perform (configured.prepare machine.files))
  note .info s!"{programName} version {programVersion}, seed {settings.seed}"
  let (program, source) ← generateProgram values settings
  match values.text? "output" with
  | some path =>
    writeFile machine path program.text
    note .info s!"Program written into {path}"
  | none => onConsole (·.write program.text)
  if let some path := values.text? "trace_rng" then
    writeFile machine path (source.traceText (values.isOn "trace_raw"))
    note .info s!"{source.decisions.size} decisions written into {path}"

/-- The title of the report about a problem. -/
def problemTitle : Problem → String
  | .config _ => "Configuration error"
  | _ => "Generation error"

/-- The report about a problem. -/
def problemReport (problem : Problem) : String :=
  s!"{problemTitle problem}: [{problem.kind}] {problem.message}"

/-- A call of the program. -/
def call (arguments : List String) : m (Ending × Console) := do
  match ← (session machine arguments).run Console.empty with
  | (.ok (), console) => return (.finished 0, console)
  | (.error (.exit status), console) => return (.exited status, console)
  | (.error (.problem problem), console) =>
    return (.finished 1, console.report .error applicationOrigin (problemReport problem))

end

end RandomC.CommandLine
