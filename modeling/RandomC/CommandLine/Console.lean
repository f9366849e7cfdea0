import RandomC.Generation.Event

/-!
# What the program shows

The program writes to two channels, one for its output and one for reports. A report has a level. Until
the least level that is shown has been set, reports from warnings up are shown without their origin.
-/

namespace RandomC.CommandLine

/-- What has been written, and which reports are shown. -/
structure Console where
  out : String
  err : String
  threshold : Option LogLevel
  deriving DecidableEq, Repr

namespace Console

/-- Nothing has been written. -/
def empty : Console := ⟨"", "", none⟩

/-- Adds to the output. -/
def write (text : String) (console : Console) : Console := { console with out := console.out ++ text }

/-- Adds to what is written beside the output. -/
def writeError (text : String) (console : Console) : Console := { console with err := console.err ++ text }

/-- Adds a report, if reports of its level are shown. -/
def report (level : LogLevel) (origin message : String) (console : Console) : Console :=
  match console.threshold with
  | none =>
    if LogLevel.warning.rank ≤ level.rank then console.writeError (message ++ "\n") else console
  | some least =>
    if least.rank ≤ level.rank then console.writeError s!"[{origin}] {level.name}: {message}\n" else console

end Console

end RandomC.CommandLine
