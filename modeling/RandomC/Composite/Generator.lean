import RandomC.Composite.Layouts
import RandomC.Settings.Basic

/-!
# Generating composite types

Structs and unions are declared on a sheet while their layouts are recorded. A coin decides after each
type whether another one follows.
-/

namespace RandomC.Composite

/-- The state in which composite types are generated. -/
structure State where
  stream : Random.Stream
  sheet : Text.Sheet Item
  /-- The number of types so far, the simple ones counted in. -/
  typeCount : Int

instance : Drawing State where
  stream := State.stream
  withStream stream state := { state with stream }

/-- The random source of the state. -/
def State.source (state : State) : Random.Source := state.stream.source

/-- The number of simple types that precede every composite type. -/
def simpleTypeCount : Int := 13

/-- Below this number of types another type follows without a coin. -/
def unconditionalTypeCount : Int := 10

/-- There are at most so many structs, and so many unions. -/
def maxAggregates : Int := 32

/-- The state before the first composite type. -/
def State.initial (source : Random.Source) : State := ⟨source, .empty, simpleTypeCount⟩

open Step

/-- Writes on the sheet. -/
def write (item : Item) : Step State Unit :=
  modify fun state => { state with sheet := state.sheet.write 0 item }

/-- Writes an empty line. -/
def writeBlank : Step State Unit := modify fun state => { state with sheet := state.sheet.blankLine }

/-- Changes the level of the sheet, which may be refused. -/
def changeLevel {α : Type} (change : Text.Sheet Item → Except Text.LevelError α × Text.Sheet Item) :
    Step State α := do
  let (result, sheet) := change (← get).sheet
  modify fun state => { state with sheet }
  match result with
  | .ok value => return value
  | .error error => throw (.level error)

/-- Moves the level of the sheet and gives the level before. -/
def moveLevel (delta : Int) : Step State Int := changeLevel (Text.Sheet.shift delta)

/-- Sets the level of the sheet. -/
def restoreLevel (level : Int) : Step State Unit := changeLevel (Text.Sheet.restore level)

/-- Decides whether another type follows. -/
def moreTypes : Step State Bool := do
  if (← get).typeCount < unconditionalTypeCount then
    return true
  coin 50

/-- Draws the qualifiers of a field, const and volatile in this order; volatile is drawn first. -/
def qualifiers (settings : Settings) : Step State (Bool × Bool) := do
  let isVolatile ← decideIf settings.volStructUnionFields (coin 30)
  let isConst ← decideIf settings.constStructUnionFields (coin 20)
  return (isConst && (! isVolatile || settings.allowConstVolatile), isVolatile)

/-- A field of no bits may not come first or after another one. -/
def zeroWidthBarred (prior : Array Field) : Bool :=
  match prior.back? with
  | none => true
  | some field => match field.kind with
    | .bits _ 0 => true
    | _ => false

/-- Draws the width of a bit-field that follows the fields `prior`, below `bound`. -/
def bitWidth (bound : Int) (prior : Array Field) : Step State Nat := do
  let bound := max bound 1
  let width ← below bound
  if width = 0 && zeroWidthBarred prior then
    if bound ≤ 2 then
      return 1
    return (← below (bound - 1)) + 1
  return width

/-- Declares a scalar field behind the fields `prior`. -/
def scalarField (settings : Settings) (scalars : List CType) (name : String) (prior : Array Field) :
    Step State (Array Field) := do
  let type ← choose scalars
  let (isConst, isVolatile) ← qualifiers settings
  let field : Field := ⟨name, isConst, isVolatile, .scalar type⟩
  write (.field field)
  return prior.push field

/-- Declares a bit-field behind the fields `prior`. -/
def bitField (settings : Settings) (name : String) (prior : Array Field) : Step State (Array Field) := do
  let signed ← coin 50
  let (isConst, isVolatile) ← qualifiers settings
  let width ← bitWidth (settings.intSize * 8) prior
  let field : Field := ⟨name, isConst, isVolatile, .bits signed width⟩
  write (.field field)
  return prior.push field

/-- Declares `count` more fields, named by their positions. -/
def fields (declare : String → Array Field → Step State (Array Field)) :
    (count : Nat) → Array Field → Step State (Array Field)
  | 0, prior => return prior
  | count + 1, prior => do fields declare count (← declare s!"f{prior.size}" prior)

/-- Decides whether the next field of a struct is a bit-field. -/
def structBits (settings : Settings) (packed : Bool) : Step State Bool := do
  if packed then
    return ! (← coin 10)
  decideIf settings.bitfields (coin 10)

/-- Declares a struct. Half of the structs consist of bit-fields, more or less. -/
def structType (settings : Settings) (scalars : List CType) (index : Int) : Step State (Array Field) := do
  let count := 1 + (← below (max 1 settings.maxStructFields))
  write (.openComposite .struct index)
  let level ← moveLevel 1
  let packed ← decideIf settings.bitfields (coin 50)
  let members ← fields (fun name prior => do
    if ← structBits settings packed then bitField settings name prior
    else scalarField settings scalars name prior) count #[]
  restoreLevel level
  if settings.packedStruct then
    discard <| coin 50
  write .closeComposite
  writeBlank
  return members

/-- Declares a union. -/
def unionType (settings : Settings) (scalars : List CType) (index : Int) : Step State (Array Field) := do
  let count := 1 + (← below (max 1 settings.maxUnionFields))
  write (.openComposite .union index)
  let level ← moveLevel 1
  let members ← fields (fun name prior => do
    if ← decideIf settings.bitfields (coin 10) then bitField settings name prior
    else scalarField settings scalars name prior) count #[]
  restoreLevel level
  write .closeComposite
  writeBlank
  return members

/-- Declares types, numbered from `index` on, as long as more follow and `left` is not used up. -/
def types (declare : Int → Step State (Array Field)) : (left : Nat) → (index : Nat) →
    Step State (List (Array Field))
  | 0, _ => return []
  | left + 1, index => do
    if ← moreTypes then
      let members ← declare index
      modify fun state => { state with typeCount := state.typeCount + 1 }
      return members :: (← types declare left (index + 1))
    else
      return []

/-- The largest number of structs, or of unions, for a limit on their fields. -/
def maxTypes (fieldLimit : Int) : Nat := (min (max fieldLimit 1) maxAggregates).toNat

/-- Declares the types of one kind, if they are in use, for a limit on their fields. -/
def typesIf (inUse : Bool) (declare : Int → Step State (Array Field)) (fieldLimit : Int) :
    Step State (List (Array Field)) :=
  if inUse then types declare (maxTypes fieldLimit) 0 else return []

/-- Declares the structs and unions of a program. -/
def generate (settings : Settings) (scalars : List CType) : Step State Layouts := do
  write (.heading "Struct/Union Declarations")
  let structs ← typesIf settings.structs (structType settings scalars) settings.maxStructFields
  let unions ← typesIf settings.unions (unionType settings scalars) settings.maxUnionFields
  writeBlank
  return ⟨structs, unions⟩

end RandomC.Composite
