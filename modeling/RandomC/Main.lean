import RandomC.CommandLine.Application

/-!
# The program

The outer layer: the machine's files, environment and clock are handed to the application, and what it
has written goes to the standard channels.
-/

namespace RandomC.CommandLine

/-- The failure behind an error of the machine, for a path. -/
def fileError (path : String) : IO.Error → Files.FileError
  | .noFileOrDirectory .. => .notFound path
  | .inappropriateType _ code _ => if code = 21 then .isDirectory path else .notDirectory path
  | .permissionDenied .. => .denied path
  | error => .other 5 (toString error) path

/-- The result of an operation on the file at a path. -/
def attempt {α : Type} (path : String) (action : IO α) : IO (Except Files.FileError α) := do
  match ← action.toBaseIO with
  | .ok value => return .ok value
  | .error error => return .error (fileError path error)

/-- The files of the machine. -/
def machineFiles : Files.FileSystem IO where
  find path := do
    match ← attempt path (IO.FS.Handle.mk path .read) with
    | .ok _ | .error (.denied _) => return .ok ()
    | .error error => return .error error
  read path := attempt path do return Files.Content.bytes (← IO.FS.readBinFile path).toList
  write path text := attempt path (IO.FS.writeFile path text)

end RandomC.CommandLine

open RandomC.CommandLine in
/-- Runs the program. -/
def main (arguments : List String) : IO UInt32 := do
  let machine : Machine IO :=
    { files := machineFiles
      directories := ⟨← IO.getEnv "XDG_CONFIG_HOME", ← IO.getEnv "HOME"⟩
      clock := return Int.ofNat (← IO.monoNanosNow) }
  let (ending, console) ← call machine arguments
  let output ← IO.getStdout
  output.putStr console.out
  output.flush
  let errors ← IO.getStderr
  errors.putStr console.err
  errors.flush
  return match ending with
    | .finished code => code.toUInt32
    | .exited status => status.toUInt32
