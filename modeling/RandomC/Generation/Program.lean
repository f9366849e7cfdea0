import RandomC.Composite.Generator
import RandomC.Environment.Builder
import RandomC.Generation.Definition
import RandomC.Text.Template

/-!
# Programs

A program is a header, the composite types, possibly the initial environment, the functions with the
globals they needed, and two functions that hash the globals and start the program.
-/

namespace RandomC

/-- The name of the generator that programs carry. -/
def generatorName : String := "csmith 2.3.0"

/-- The revision of the generator that programs carry. -/
def generatorRevision : String := "30dccd7"

/-- The comment and the first lines of every program. -/
def header : Text.Template := .ofIndented <| String.join <| [
  "/*",
  " * This is a RANDOMLY GENERATED PROGRAM.",
  " *",
  " * Generator: \x7bgenerator\x7d",
  " * Git version: \x7brevision\x7d",
  " * Options:   --seed \x7bseed\x7d",
  " * Seed:      \x7bseed\x7d",
  " */",
  "",
  "#include \"csmith.h\"",
  "",
  "static long __undefined;"].map (· ++ "\n")

/-- The header of a program with a seed. -/
def headerText (seed : Int) : String :=
  header.render [("generator", generatorName), ("revision", generatorRevision), ("seed", toString seed)]

/-- Writes an item for each element of a list. -/
def writeEach {α : Type} (item : α → Item) (list : List α) (sheet : Text.Sheet Item) : Text.Sheet Item :=
  list.foldl (fun sheet element => sheet.write 0 (item element)) sheet

namespace Flow

variable (flow : Flow) (sheet : Text.Sheet Item)

/-- Writes the globals that were created on demand. -/
def writeGlobals : Text.Sheet Item :=
  if flow.pending.isEmpty then sheet
  else (writeEach (fun pending => .declare pending.declaration) flow.pending sheet).blankLine

/-- Writes the prototypes. -/
def writePrototypes : Text.Sheet Item :=
  (writeEach .forward flow.functions (sheet.write 0 (.heading "FORWARD DECLARATIONS"))).blankLine

/-- Writes the definitions. -/
def writeDefinitions : Text.Sheet Item :=
  (flow.definitions.filterMap id).foldl (fun sheet definition => (sheet.write 0 (.define definition)).blankLine)
    ((sheet.write 0 (.heading "FUNCTIONS")).write 0 .rule)

/-- Writes the globals, the prototypes and the definitions. -/
def write : Text.Sheet Item := flow.writeDefinitions (flow.writePrototypes (flow.writeGlobals sheet))

end Flow

/-- A generated program. -/
structure Program where
  sheet : Text.Sheet Item
  functions : List Signature
  env : Environment

/-- A program as it is written. -/
def Program.text (program : Program) : String := program.sheet.text Item.layout

/-- How a generator run ended. The source, the readings that were taken from it, the last one first, and the
log tell what happened also when it failed. -/
structure Outcome where
  result : Except Failure Program
  source : Random.Source
  readings : List Random.Reading
  log : Array Event

/-- Writes the function that hashes the globals, if it is wanted. -/
def writeHash (settings : Settings) (globals : List GlobalVar) (arrays : List ArrayVar)
    (sheet : Text.Sheet Item) : Text.Sheet Item :=
  if settings.computeHash then (sheet.write 0 (.hash globals arrays)).blankLine else sheet

/-- Writes the function that calls the entry function, if it is wanted. -/
def writeMain (settings : Settings) (functions : List Signature) (sheet : Text.Sheet Item) :
    Text.Sheet Item :=
  match functions with
  | entry :: _ =>
    if settings.noMain then sheet
    else sheet.write 0 (.main
      { acceptArgc := settings.acceptArgc
        runtime := settings.safeMath || settings.computeHash
        hash := settings.computeHash
        hashPrintf := settings.hashValuePrintf } entry)
  | [] => sheet

/-- Writes the two functions that a program ends with, as far as they are wanted. -/
def writeEnd (settings : Settings) (globals : List GlobalVar) (arrays : List ArrayVar)
    (functions : List Signature) (sheet : Text.Sheet Item) : Text.Sheet Item :=
  writeMain settings functions (writeHash settings globals arrays sheet)

/-- The sheet on which the header stands. -/
def headedSheet (seed : Int) : Text.Sheet Item := (Text.Sheet.empty.writeRaw (headerText seed)).blankLine

/-- Builds the environment, if there is to be one. -/
def buildEnvironment (settings : Settings) (scalars : List CType) (layouts : Layouts) :
    Step Environment.Building Unit :=
  Environment.onlyIf settings.initialEnvironment (Environment.build settings scalars layouts)

/-- What is reported before the functions are made. -/
def firstEvents (settings : Settings) (layouts : Layouts) (env : Environment) : Array Event :=
  let log := #[Event.composites layouts.structs.length layouts.unions.length]
  if settings.initialEnvironment then
    log.push (.environment env.globals.length env.arrays.length env.pointers.length env.chains.length)
  else log

/-- The program that a run has led to, with everything before it on a sheet. -/
def finish (setup : Setup) (flow : Flow) (sheet : Text.Sheet Item) : Program :=
  ⟨writeEnd setup.settings (setup.env.globals ++ flow.created) setup.env.arrays flow.functions
    (flow.write sheet), flow.functions, setup.env⟩

/-- Generates a program whose header can be written from the draws of a source. -/
def generateWritable (settings : Settings) (source : Random.Source) : Outcome :=
  let scalars := CType.scalars settings.intSize settings.longLong
  let state : Composite.State := { Composite.State.initial source with sheet := headedSheet settings.seed }
  match Composite.generate settings scalars state with
  | (.error failure, composites) => ⟨.error failure, composites.source, composites.stream.readings, #[]⟩
  | (.ok layouts, composites) =>
    let readings := composites.stream.readings
    match buildEnvironment settings scalars layouts ⟨composites.source, composites.sheet, .empty⟩ with
    | (.error failure, building) =>
      ⟨.error failure, building.source, building.stream.readings ++ readings,
        #[.composites layouts.structs.length layouts.unions.length]⟩
    | (.ok (), building) =>
      let readings := building.stream.readings ++ readings
      let setup : Setup := ⟨settings, scalars, layouts, building.env⟩
      match run setup (.start setup building.source (firstEvents settings layouts building.env)) with
      | (.error failure, world) =>
        ⟨.error failure, world.source, world.readings ++ readings, world.log⟩
      | (.ok (), world) =>
        let functions := world.flow.functions.length
        let globals := setup.env.globals.length + world.flow.created.length
        ⟨.ok (finish setup world.flow building.sheet), world.source, world.readings ++ readings,
          world.log.push (.generated functions globals settings.seed world.source.drawn)⟩

/-- Generates a program from the draws of a source. The seed of the settings is only written, before
anything is drawn; it has to be one that can be written. -/
def generate (settings : Settings) (source : Random.Source) : Outcome :=
  if Text.hasDecimalText settings.seed then generateWritable settings source
  else ⟨.error .unwritable, source, [], #[]⟩

end RandomC
