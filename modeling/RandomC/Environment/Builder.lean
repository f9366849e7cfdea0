import RandomC.Composite.Layouts
import RandomC.Environment.Basic

/-!
# Building the initial environment

Scalars come first, then arrays of zeros, then pointers to the scalars, then chains of pointers to
pointers that start at unqualified pointers.
-/

namespace RandomC.Environment

/-- The state in which the environment is built. -/
structure Building where
  stream : Random.Stream
  sheet : Text.Sheet Item
  env : Environment

instance : Drawing Building where
  stream := Building.stream
  withStream stream state := { state with stream }

/-- The random source of the state. -/
def Building.source (state : Building) : Random.Source := state.stream.source

open Step

/-- Writes on the sheet. -/
def write (item : Item) : Step Building Unit :=
  modify fun state => { state with sheet := state.sheet.write 0 item }

/-- Changes the environment. -/
def change (f : Environment → Environment) : Step Building Unit :=
  modify fun state => { state with env := f state.env }

/-- Writes a declaration, and puts what is declared into the environment. -/
def declare (declaration : Declaration) (f : Environment → Environment) : Step Building Unit := do
  write (.declare declaration)
  change f

/-- Takes the next name. -/
def freshName : Step Building String := do
  let number := (← get).env.nextId
  change fun env => { env with nextId := env.nextId + 1 }
  return globalName number

/-- Does the same a number of times. -/
def times (action : Step Building Unit) : Nat → Step Building Unit
  | 0 => return
  | count + 1 => do
    action
    times action count

/-- Declares a scalar. -/
def addScalar (settings : Settings) (scalars : List CType) : Step Building Unit := do
  let (isConst, isVolatile) ← drawQualifiers settings
  let name ← freshName
  let v : GlobalVar := ⟨name, ← choose scalars, isConst, isVolatile⟩
  let initial ← draw Literal.drawInitial
  declare (.global v (.literal initial)) fun env => { env with globals := env.globals ++ [v] }

/-- Declares the scalars: some 26 to 43, but no more than the limit, and two at least. -/
def addScalars (settings : Settings) (scalars : List CType) : Step Building Unit := do
  let wanted := 26 + (← below 18)
  times (addScalar settings scalars) (min (max settings.maxGlobals 2) wanted).toNat

/-- Declares an array of at least two elements. -/
def addArray (settings : Settings) (scalars : List CType) : Step Building Unit := do
  let length := 2 + (← below (max 2 (min settings.maxArrayLenPerDim 10)))
  let name ← freshName
  let v : ArrayVar := ⟨name, ← choose scalars, length⟩
  declare (.array v) fun env => { env with arrays := env.arrays ++ [v] }

/-- Declares an array for each scalar, within 12 to 40. -/
def addArrays (settings : Settings) (scalars : List CType) : Step Building Unit := do
  times (addArray settings scalars) (min (max 12 (← get).env.globals.length) 40)

/-- Declares a pointer to one of the scalars; the first one is spared where constants are in use. -/
def addPointer (settings : Settings) (targets : List GlobalVar) : Step Building Unit := do
  let first : Nat := if settings.consts && targets.length > 1 then 1 else 0
  let target ← element targets (first + (← below (max 1 (targets.length - first))))
  let name ← freshName
  let isVolatile ← decideIf settings.volatilePointers (oneIn 3)
  let volatileTarget ← decideIf settings.volatilePointers (oneIn 4)
  let constTarget ← decideIf settings.constPointers (oneIn 3)
  let v : PointerVar := ⟨name, target.name, target.type, isVolatile, volatileTarget, constTarget⟩
  declare (.pointer v) fun env => { env with pointers := env.pointers ++ [v] }

/-- Declares a pointer for every fourth scalar, within 4 to 12. -/
def addPointers (settings : Settings) : Step Building Unit := do
  let targets := (← get).env.globals
  times (addPointer settings targets) (min (max 4 (targets.length / 4)) 12)

/-- Declares `count` links of a chain, the first of them with `stars` levels and pointing to `target`. -/
def addLinks (type : CType) : (count stars : Nat) → (target : String) → Step Building Unit
  | 0, _, _ => return
  | count + 1, stars, target => do
    let name ← freshName
    declare (.link type stars name target) fun env => { env with chains := env.chains ++ [name] }
    addLinks type count (stars + 1) name

/-- Declares a chain of at least one link, if there is an unqualified pointer for it to start from. -/
def addChain (settings : Settings) : Step Building Unit := do
  let bases := (← get).env.pointers.filter (! ·.qualified)
  if bases.isEmpty then
    return
  let base ← choose bases
  let extra ← below (max 1 (min settings.maxPointerDepth 4 - 1))
  addLinks base.targetType (1 + extra) 2 base.name

/-- Declares a chain for every second pointer, within 1 to 4. -/
def addChains (settings : Settings) : Step Building Unit := do
  times (addChain settings) (min (max ((← get).env.pointers.length / 2) 1) 4)

/-- Declares the variables of the composite types of one kind, numbered from `index` on. -/
def addComposites (kind : CompositeKind) : (count index : Nat) → Step Building Unit
  | 0, _ => return
  | count + 1, index => do
    write (.declare (.composite kind index))
    addComposites kind count (index + 1)

/-- Does something only if it is wanted. -/
def onlyIf (wanted : Bool) (action : Step Building Unit) : Step Building Unit :=
  if wanted then action else return

/-- Declares the variables that have numbers. -/
def addVariables (settings : Settings) (scalars : List CType) : Step Building Unit := do
  addScalars settings scalars
  onlyIf settings.arrays (addArrays settings scalars)
  onlyIf settings.pointers do
    addPointers settings
    addChains settings

/-- Builds the environment. -/
def build (settings : Settings) (scalars : List CType) (layouts : Layouts) : Step Building Unit := do
  write (.heading "GLOBAL VARIABLES")
  onlyIf settings.globalVariables (addVariables settings scalars)
  addComposites .struct layouts.structs.length 0
  addComposites .union layouts.unions.length 0
  modify fun state => { state with sheet := state.sheet.blankLine }

end RandomC.Environment
