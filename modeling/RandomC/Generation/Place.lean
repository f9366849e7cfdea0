import RandomC.Generation.State

/-!
# Finding and making places

A draw decides in which scope an expression looks for a variable. Among the candidates there, one of the
same sign and width is preferred, then one of the same width, then any. Where a scope has nothing to
offer, a new global may be created.
-/

namespace RandomC

/-- Where a variable is looked for. -/
inductive Band where
  | globals
  | locals
  | params
  /-- Nowhere: a new variable is wanted. -/
  | fresh
  deriving DecidableEq, Repr

/-- The best candidates for a type: the first of three groups that is not empty, or nothing. -/
def bestCandidates (type : CType) (candidates : List Candidate) : List Candidate :=
  let exact := candidates.filter (·.type.sameBase type)
  let sameWidth := candidates.filter fun c => ! c.type.sameBase type && c.type.bits = type.bits
  if ! exact.isEmpty then exact else if ! sameWidth.isEmpty then sameWidth else candidates

/-- Draws one of the best candidates for a type, if there are any. -/
def selectPlace {σ : Type} [Drawing σ] (type : CType) (candidates : List Candidate) (forAssignment : Bool) :
    Step σ (Option Candidate) := do
  let best := bestCandidates type
    (if forAssignment then candidates.filter (·.assignable) else candidates)
  if best.isEmpty then
    return none
  return some (← Step.choose best)

/-- Draws where to look for a variable. -/
def drawBand (settings : Settings) : Gen Band := do
  let value ← Step.below 100
  if settings.globalVariables && value < 35 then
    return .globals
  if value < (if settings.globalVariables then 65 else 50) then
    return .locals
  return if value < 95 then .params else .fresh

section

variable (setup : Setup) (scope : Scope)

/-- The targets of the pointers, and a randomly drawn element of each array. -/
def indirectCandidates : Gen (List Candidate) := do
  let elements ← setup.env.arrays.mapM fun v => do
    return (⟨.element v.name (← Step.below v.length), v.type, true⟩ : Candidate)
  return setup.env.pointers.map PointerVar.candidate ++ elements

/-- The local variables on offer: all but the accumulator. -/
def localCandidates (context : Context) : List Candidate :=
  ((scope.locals ++ context.locals).filter (·.name != accumulator)).map Variable.candidate

/-- The candidates of one scope, and, except among the parameters, the indirect ones. -/
def scopedCandidates (band : Band) : Gen (List Candidate) := do
  let world ← get
  match band with
  | .globals => return world.flow.candidates ++ (← indirectCandidates setup)
  | .locals => return localCandidates scope world.context ++ (← indirectCandidates setup)
  | .params => return scope.params.map Variable.candidate
  | .fresh => indirectCandidates setup

/-- The candidates of all scopes. -/
def allCandidates : Gen (List Candidate) := do
  let world ← get
  return world.flow.candidates ++ scope.params.map Variable.candidate ++
    localCandidates scope world.context ++ (← indirectCandidates setup)

/-- The candidates of a scope, or those of all scopes where it has none. -/
def orAllCandidates (candidates : List Candidate) : Gen (List Candidate) :=
  if candidates.isEmpty then allCandidates setup scope else return candidates

/-- Draws a place to assign a value of a type to. -/
def drawAssignable (type : CType) : Gen (Option Candidate) := do
  let band ← drawBand setup.settings
  let candidates ← orAllCandidates setup scope (← scopedCandidates setup scope band)
  selectPlace type candidates true

/-- Draws a constant of a type. -/
def drawConstant (type : CType) : Gen Literal := Step.draw (Literal.draw type setup.settings.longLong)

/-- Creates a global with a random value. Its qualifiers are drawn in any case; a global that is created
to be assigned is not const. -/
def createGlobal (type : CType) (forAssignment : Bool) : Gen Candidate := do
  let name ← Gen.freshGlobal
  let (isConst, isVolatile) ← drawQualifiers setup.settings
  let v : GlobalVar := ⟨name, type, isConst && ! forAssignment, isVolatile⟩
  Gen.declareLater v (.literal (← drawConstant setup type))
  Gen.addGlobal v

end

/-- Creates an unqualified global that starts with zero. -/
def createZeroGlobal (type : CType) : Gen Candidate := do
  let v : GlobalVar := ⟨← Gen.freshGlobal, type, false, false⟩
  Gen.declareLater v .zero
  Gen.addGlobal v

end RandomC
