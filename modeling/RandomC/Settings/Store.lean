import RandomC.Files.Path
import RandomC.Ini.Reader
import RandomC.Ini.Reference
import RandomC.Ini.Switch
import RandomC.Settings.Problem
import RandomC.Settings.Table

/-!
# Stored settings

Settings are kept in a document, each under its key in the group it belongs to. The stored value of a
setting takes the place of the default, and a value that is given on a call takes the place of both.
-/

namespace RandomC

/-- The directories, as far as the user has them, in which configuration files are looked for. -/
structure HomeDirectories where
  config : Option String
  home : Option String
  deriving DecidableEq, Repr

/-- The name of the configuration file. -/
def defaultConfigName : String := "cfuzz.conf"

/-- The directory of configuration files. A directory with an empty name counts as none. -/
def HomeDirectories.configDirectory (directories : HomeDirectories) : Except ConfigError String :=
  match directories.config.filter (! ·.isEmpty), directories.home.filter (! ·.isEmpty) with
  | some directory, _ => .ok directory
  | none, some home => .ok (Files.joinPath home ".config")
  | none, none => .error .noHomeDirectory

/-- The path of the configuration file, for a name and a directory that need not be given. -/
def configPath (directories : HomeDirectories) (name directory : Option String) : Except ConfigError String := do
  let directory ← match directory with
    | some directory => pure directory
    | none => directories.configDirectory
  return Files.joinPath directory (name.getD defaultConfigName)

namespace Ini.Document

/-- A stored value as it is, if there is one. -/
def find (document : Document) (group key : String) : Except Problem (Option String) :=
  match document.value group key with
  | .ok (.ok value) => .ok (some value)
  | .ok (.error _) => .ok none
  | .error error => .error (.ini error)

/-- Stored words, without the white space around them. -/
def words (document : Document) (group key : String) : Except Problem (Option String) := do
  return (← document.find group key).map Text.strip

/-- A stored number. -/
def number (document : Document) (group key : String) : Except Problem (Option Int) := do
  match ← document.find group key with
  | none => return none
  | some value =>
    match Text.readInteger 10 value with
    | .ok number => return some number
    | .error error =>
      throw (.config (.badValue key group "an integer" (error.message (Text.quoted value))))

/-- A stored switch. -/
def flag (document : Document) (group key : String) : Except Problem (Option Bool) := do
  match ← document.find group key with
  | none => return none
  | some value =>
    match Ini.readSwitch? value with
    | some flag => return some flag
    | none => throw (.config (.badValue key group "a boolean" s!"Not a boolean: {value}"))

end Ini.Document

namespace Settings

/-- The stored value of a setting, if there is one. -/
def Setting.stored (document : Ini.Document) (setting : Setting) : Except Problem (Option Value) := do
  let group := setting.group.name
  match setting.access with
  | .number .. => return (← document.number group setting.key).map .number
  | .flag .. => return (← document.flag group setting.key).map .flag
  | .words .. => return (← document.words group setting.key).map .words

/-- Settings with the stored value of one of them. -/
def Setting.load (document : Ini.Document) (settings : Settings) (setting : Setting) :
    Except Problem Settings := do
  match ← setting.stored document with
  | some value => return setting.set value settings
  | none => return settings

/-- The defaults, with all stored values in their places. -/
def load (document : Ini.Document) : Except Problem Settings := table.foldlM (Setting.load document) {}

/-- Stores a value under a key of a group. -/
def Value.store (group key : String) (value : Value) (document : Ini.Document) : Except Problem Ini.Document := do
  if let .number amount := value then
    if ! Text.hasDecimalText amount then
      throw .unwritableNumber
  (document.store group key value.text).mapError .ini

/-- The document in which settings are stored. -/
def toDocument (settings : Settings) : Except Problem Ini.Document :=
  table.foldlM (fun document setting => (setting.get settings).store setting.group.name setting.key document)
    Ini.Document.empty

/-- The text of a configuration file. -/
def fileText (settings : Settings) : Except Problem String := do
  return "# cfuzz configuration file\n\n" ++ (← settings.toDocument).text

end Settings

section

variable {m : Type → Type} [Monad m] (files : Files.FileSystem m)

/-- The document in the file at a path; a file that cannot be opened counts as empty. -/
def readDocument (path : String) : m (Except Problem Ini.Document) := do
  match ← files.read path with
  | .error _ => return .ok .empty
  | .ok content =>
    let lines := content.lineByLine
    match Ini.read path lines.text, lines.error with
    | .error error, _ => return .error (.ini error)
    | .ok _, some error => return .error (.encoding error)
    | .ok reading, none => return (reading.finish path).mapError .ini

/-- Writes settings into the file at a path. The file is emptied before the text is made up, and stays
empty when a value cannot be stored. -/
def writeSettings (path : String) (settings : Settings) : m (Except Problem Unit) := do
  let path := Files.plainPath path
  match ← files.write path "" with
  | .error error => return .error (.file error)
  | .ok () =>
    match settings.fileText with
    | .error problem => return .error problem
    | .ok text => return (← files.write path text).mapError .file

/-- Which configuration file is used, and what for. -/
structure ConfigFile where
  name : Option String
  directory : Option String
  read : Bool
  write : Bool
  deriving DecidableEq, Repr

/-- Settings with the document that they come from and the path of the configuration file. -/
structure Configured where
  settings : Settings
  document : Ini.Document
  path : Option String
  deriving DecidableEq, Repr

/-- What is announced before a configuration file is written. -/
def writingNotice (path : String) : String := s!"Writing configuration file {path}\n"

/-- Makes settings from the configuration file and the values given for some keys, and writes them into the
file if that is wanted. The text in the answer is to be shown. -/
def configure (directories : HomeDirectories) (file : ConfigFile) (given : List (String × Settings.Value)) :
    m (String × Except Problem Configured) := do
  let settle (document : Ini.Document) (path : Option String) : Except Problem Configured := do
    return ⟨(← Settings.load document).override given, document, path⟩
  if ! file.read && ! file.write then
    return ("", settle .empty file.name)
  match configPath directories file.name file.directory with
  | .error error => return ("", .error (.config error))
  | .ok path =>
    let document ← if file.read then readDocument files path else pure (.ok .empty)
    match document.bind (settle · (some path)) with
    | .error problem => return ("", .error problem)
    | .ok configured =>
      if ! file.write then
        return ("", .ok configured)
      let written ← writeSettings files path configured.settings
      return (writingNotice path, written.map fun () => configured)

end

end RandomC
