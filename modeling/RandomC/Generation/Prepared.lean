import RandomC.Generation.Program
import RandomC.Settings.Prepare

/-!
# Generation from settings as they are given

Settings are prepared before a program is generated from them. The decisions come from a source or, without
one, from the seed that the settings hold.
-/

namespace RandomC

/-- Prepares settings and generates a program. -/
def prepareAndGenerate {m : Type → Type} [Monad m] (files : Files.FileSystem m) (settings : Settings)
    (source : Option Random.Source) : m (Except Problem Outcome) := do
  match ← settings.prepare files with
  | .error problem => return .error problem
  | .ok ready => return .ok (generate ready (source.getD (.ofSeed ready.seed false)))

end RandomC
