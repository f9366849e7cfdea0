import RandomC.Files.Path
import RandomC.Settings.Basic
import RandomC.Settings.Problem

/-!
# Preparing settings

Settings are prepared in three steps before a program is generated from them. Sizes that are not given are
taken from the descriptor of the target or, without one, from the host; modes bring the settings they
imply; and combinations that make no sense are refused.
-/

namespace RandomC.Settings

/-- The size of a pointer and of an integer on the host, in bytes. -/
def hostSize : Int := 8

/-- The path of the descriptor of the target. -/
def descriptorPath (settings : Settings) : String :=
  let path := Text.strip settings.platformInfo
  if path.isEmpty then defaultPlatformInfo else path

/-- Settings with the given sizes where they have none. -/
def fillSizes (integer pointer : Int) (settings : Settings) : Settings :=
  { settings with
    intSize := if settings.intSize ≤ 0 then integer else settings.intSize
    pointerSize := if settings.pointerSize ≤ 0 then pointer else settings.pointerSize }

/-- Settings with the sizes that the text of the descriptor at a path gives. -/
def describe (path text : String) (settings : Settings) : Except ConfigError Settings :=
  match Descriptor.read text with
  | .error kind => .error (.invalidSize kind path)
  | .ok ⟨none, _⟩ => .error (.missingSize .integer path)
  | .ok ⟨_, none⟩ => .error (.missingSize .pointer path)
  | .ok ⟨some integer, some pointer⟩ => .ok (settings.fillSizes integer pointer)

/-- Settings whose sizes are known. -/
def resolve {m : Type → Type} [Monad m] (files : Files.FileSystem m) (settings : Settings) :
    m (Except Problem Settings) := do
  let path := settings.descriptorPath
  match ← files.find (Files.plainPath path) with
  | .error error =>
    return if error.meansAbsence then .ok (settings.fillSizes hostSize hostSize) else .error (.file error)
  | .ok () =>
    match ← files.read (Files.plainPath path) with
    | .error error => return .error (.file error)
    | .ok content =>
      match content.whole with
      | .error error => return .error (.encoding error)
      | .ok text => return (settings.describe path text).mapError .config

/-- Settings with what fast execution implies. -/
def applyFastExecution (settings : Settings) : Settings :=
  if settings.fastExecution then
    { settings with
      langCpp := true
      jumps := false
      maxArrayLenPerDim := min settings.maxArrayLenPerDim 5 }
  else settings

/-- Settings with what the language C++ implies. -/
def applyCpp (settings : Settings) : Settings :=
  if settings.langCpp then
    { settings with
      matchExactQualifiers := true
      volStructUnionFields := false
      constStructUnionFields := false }
  else settings

/-- Settings with what exhaustive generation implies. -/
def applyExhaustive (settings : Settings) : Settings :=
  if settings.dfsExhaustive then { settings with fixedStructFields := true } else settings

/-- Settings with what their modes imply. -/
def normalize (settings : Settings) : Settings :=
  settings.applyFastExecution.applyCpp.applyExhaustive

/-- The limits that have to be one at least, with their names. -/
def positiveLimits (settings : Settings) : List (String × Int) :=
  [("max-funcs", settings.maxFuncs), ("max-block-size", settings.maxBlockSize),
   ("max-block-depth", settings.maxBlockDepth), ("max-globals", settings.maxGlobals)]

/-- The probabilities, with their names. -/
def probabilities (settings : Settings) : List (String × Int) :=
  [("inline-function-prob", settings.inlineFunctionProb),
   ("builtin-function-prob", settings.builtinFunctionProb)]

/-- Refuses what makes no sense; the first of several problems is reported. -/
def validate (settings : Settings) : Except ConfigError Unit := do
  if settings.intSize ≤ 0 then
    throw (.sizeNotPositive .integer)
  if settings.pointerSize ≤ 0 then
    throw (.sizeNotPositive .pointer)
  if let some (option, _) := settings.positiveLimits.find? fun (_, limit) => limit < 1 then
    throw (.limitBelowOne option)
  if settings.maxParams < settings.func1MaxParams then
    throw .tooManyEntryParams
  if let some (option, _) := settings.probabilities.find? fun (_, value) => value < 0 || 100 < value then
    throw (.notPercent option)
  if settings.cpp11 && ! settings.langCpp then
    throw .standardWithoutCpp
  if settings.dfsExhaustive && settings.maxExhaustiveDepth ≤ 0 then
    throw .noExhaustiveDepth
  if settings.dfsExhaustive && settings.randomBased then
    throw .conflictingModes

/-- Settings that are ready for generation. -/
def prepare {m : Type → Type} [Monad m] (files : Files.FileSystem m) (settings : Settings) :
    m (Except Problem Settings) := do
  match ← settings.resolve files with
  | .error problem => return .error problem
  | .ok resolved =>
    let normal := resolved.normalize
    match normal.validate with
    | .error error => return .error (.config error)
    | .ok () => return .ok normal

end RandomC.Settings
