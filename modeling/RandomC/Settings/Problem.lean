import RandomC.Files.System
import RandomC.Generation.Step
import RandomC.Ini.Error
import RandomC.Settings.Descriptor

/-!
# Problems

Everything that can keep the program from producing its output, with the name and the text under which it
is reported.
-/

namespace RandomC

/-- What is wrong with the settings. -/
inductive ConfigError where
  /-- The descriptor at the path gives a size that is not an integer. -/
  | invalidSize (kind : SizeKind) (path : String)
  /-- The descriptor at the path does not give a size. -/
  | missingSize (kind : SizeKind) (path : String)
  | sizeNotPositive (kind : SizeKind)
  /-- A limit is less than one. -/
  | limitBelowOne (option : String)
  | tooManyEntryParams
  /-- A probability is not between 0 and 100. -/
  | notPercent (option : String)
  | standardWithoutCpp
  | noExhaustiveDepth
  | conflictingModes
  | noHomeDirectory
  /-- A stored value is not what the setting holds. -/
  | badValue (key group expected reason : String)
  deriving DecidableEq, Repr

/-- What is reported about wrong settings. -/
def ConfigError.message : ConfigError → String
  | invalidSize kind path => s!"invalid {kind.name} size in {path}"
  | missingSize kind path => s!"please specify {kind.name} size in {path}"
  | sizeNotPositive .integer => "int-size must be positive"
  | sizeNotPositive .pointer => "ptr-size must be positive"
  | limitBelowOne option => s!"{option} must be at least 1"
  | tooManyEntryParams => "func1_max_params cannot be larger than max_params"
  | notPercent option => s!"{option} value must between [0,100]"
  | standardWithoutCpp => "--cpp11 option makes sense only with --lang-cpp option enabled"
  | noExhaustiveDepth => "max-exhaustive-depth must be at least 1"
  | conflictingModes => "random-based and dfs-exhaustive modes cannot both be enabled"
  | noHomeDirectory => "Unable to retrieve user home directory: empty HOME environment variable"
  | badValue key group expected reason => s!"Value {key} of section {group} is not {expected}! {reason}"

/-- What can go wrong. -/
inductive Problem where
  | config (error : ConfigError)
  | ini (error : Ini.Error)
  | file (error : Files.FileError)
  | encoding (error : Text.Utf8Error)
  | generation (failure : Failure)
  /-- A number has too many digits to be written. -/
  | unwritableNumber

namespace Problem

/-- The name under which a problem is reported. -/
def kind : Problem → String
  | config _ => "ConfigError"
  | ini error => error.kind
  | file error => error.kind
  | encoding _ => "UnicodeDecodeError"
  | generation (.noneAccepted ..) => "RandomRetryLimitError"
  | generation .noSuchElement | generation .nothingToReplace => "IndexError"
  | generation (.level _) | generation .unwritable => "ValueError"
  | unwritableNumber => "ValueError"

/-- What is reported about a problem. -/
def message : Problem → String
  | config error => error.message
  | ini error => error.message
  | file error => error.message
  | encoding error => error.message
  | generation failure => failure.message
  | unwritableNumber => Text.unwritableMessage

end Problem

end RandomC
